/-
Products of numbers of the 32-bit format, rounded to naturals.

* `Format.exists_encodeRatio`: the encoding of a ratio stands for a multiple of a power of two that
  is next to it; `Format.abs_value_encodeRatio_sub_le`: **so it is off by half a unit in the last
  place at most**;
* `Format.value_encodeRatio_of_lt`: naturals with few bits are encoded without an error;
* `Binary32.value`: the number for which a word stands; `Binary32.lt_iff`: the numeric order;
* `Rounds`: a natural is a number held within a bound, but for half a unit and the error of the
  format; `Binary32.rounds_mul`: **a product rounded to a natural is the product of the numbers in
  this sense**.
-/
import DiceHost.Proofs.Numeric.Rounding
import Mathlib.Algebra.Order.Floor.Semifield
import Mathlib.Data.Rat.Floor

namespace DiceHost.Numeric

/-- Naturals that differ lie one apart. -/
lemma le_of_cast_lt {m n : ℕ} (h : (m : ℚ) < n + 1) : m ≤ n :=
  Nat.lt_succ_iff.mp (by exact_mod_cast h)

/-! ### Rounded quotients -/

namespace Format

variable {f : Format} {num den : ℕ}

/-- A quotient is rounded by half a unit at most. -/
lemma abs_roundDiv_sub_le (hden : 0 < den) :
    |(roundDiv num den : ℚ) - num / den| ≤ 1 / 2 := by
  have hden' : (0 : ℚ) < den := Nat.cast_pos.mpr hden
  have hrem := Nat.mod_lt num hden
  have hquot : (num / den : ℚ) = (num / den : ℕ) + (num % den : ℕ) / den := by
    rw [eq_comm, ← mul_left_inj' hden'.ne', add_mul, div_mul_cancel₀ _ hden'.ne',
      div_mul_cancel₀ _ hden'.ne']
    exact_mod_cast Nat.div_add_mod' num den
  rw [hquot, roundDiv, abs_le]
  split_ifs with hbelow habove
  · have hhalf : ((num % den : ℕ) : ℚ) / den ≤ 1 / 2 := by
      rw [div_le_iff₀ hden']
      have : (2 * (num % den : ℕ) : ℚ) < den := by exact_mod_cast hbelow
      linarith
    have hpos : (0 : ℚ) ≤ ((num % den : ℕ) : ℚ) / den := by positivity
    constructor <;> linarith
  · have hhalf : 1 / 2 ≤ ((num % den : ℕ) : ℚ) / den := by
      rw [le_div_iff₀ hden']
      have : (den : ℚ) < 2 * (num % den : ℕ) := by exact_mod_cast habove
      linarith
    have hone : ((num % den : ℕ) : ℚ) / den ≤ 1 := by
      rw [div_le_one hden']
      exact_mod_cast hrem.le
    push_cast
    constructor <;> linarith
  · -- a tie
    have hhalf : ((num % den : ℕ) : ℚ) / den = 1 / 2 := by
      rw [div_eq_iff hden'.ne']
      have : (2 * (num % den : ℕ) : ℚ) = den := by exact_mod_cast (by omega : _ = den)
      linarith
    rw [hhalf]
    rcases Nat.mod_two_eq_zero_or_one (num / den) with h | h <;> rw [h] <;> push_cast <;>
      constructor <;> linarith

/-- A binade and a coefficient make up an encoding, also when the coefficient is carried into the
next binade. -/
lemma value_of_coefficient {k q : ℕ} (hlow : k = 0 ∨ 2 ^ f.fraction ≤ q)
    (hhigh : q ≤ 2 ^ (f.fraction + 1)) :
    f.value (k * 2 ^ f.fraction + q) = q * 2 ^ (f.minExponent + k) := by
  rcases Nat.lt_or_ge q (2 ^ f.fraction) with hsmall | hlarge
  · obtain rfl := hlow.resolve_right (Nat.not_le.mpr hsmall)
    rw [value, ulp, decode_fields hsmall, if_pos rfl]
    simp
  obtain ⟨r, rfl⟩ := Nat.exists_eq_add_of_le hlarge
  rw [pow_succ] at hhigh
  rcases Nat.lt_or_ge r (2 ^ f.fraction) with hlt | hge
  · rw [show k * 2 ^ f.fraction + (2 ^ f.fraction + r) = (k + 1) * 2 ^ f.fraction + r by ring,
      value, ulp, decode_fields hlt, if_neg k.succ_ne_zero, Nat.add_sub_cancel]
  · obtain rfl : r = 2 ^ f.fraction := by omega
    rw [show k * 2 ^ f.fraction + (2 ^ f.fraction + 2 ^ f.fraction)
        = (k + 2) * 2 ^ f.fraction + 0 by ring,
      value, ulp, decode_fields (Nat.two_pow_pos _), if_neg (k + 1).succ_ne_zero,
      show k + 2 - 1 = k + 1 from rfl]
    push_cast
    rw [← Int.add_assoc, zpow_add_one₀ (by norm_num)]
    ring

/-! ### Encodings of ratios -/

/-- The exponent of the last place of the encoding of a ratio. -/
def lastPlace (f : Format) (num den : ℕ) : ℤ :=
  max f.minExponent (floorLog2 num den - f.fraction)

/-- The ratio in units of the last place, rounded. -/
def coefficient (f : Format) (num den : ℕ) : ℕ :=
  roundDiv (num * 2 ^ (-f.lastPlace num den).toNat) (den * 2 ^ (f.lastPlace num den).toNat)

lemma encodeRatio_of_pos (hnum : 0 < num) : f.encodeRatio num den
    = min f.infinity
      ((f.lastPlace num den - f.minExponent).toNat * 2 ^ f.fraction + f.coefficient num den) := by
  rw [encodeRatio, if_neg hnum.ne']
  rfl

lemma abs_coefficient_sub_le (f : Format) (num : ℕ) (hden : 0 < den) :
    |(f.coefficient num den : ℚ) - num / den / 2 ^ f.lastPlace num den| ≤ 1 / 2 := by
  have hden' : (den : ℚ) ≠ 0 := Nat.cast_ne_zero.mpr hden.ne'
  have hratio (e : ℤ) : ((num * 2 ^ (-e).toNat : ℕ) : ℚ) / (den * 2 ^ e.toNat : ℕ)
      = num / den / 2 ^ e := by
    push_cast
    rw [pow_toNat (by norm_num) e]
    field_simp
  rw [← hratio]
  exact abs_roundDiv_sub_le (Nat.mul_pos hden (Nat.two_pow_pos _))

/-- A coefficient has the bits of the format, or one more by a carry. -/
lemma coefficient_le (hnum : 0 < num) (hden : 0 < den) :
    f.coefficient num den ≤ 2 ^ (f.fraction + 1) := by
  have hlt : (num / den / 2 ^ f.lastPlace num den : ℚ) < 2 ^ (f.fraction + 1) := by
    rw [div_lt_iff₀ (by positivity)]
    refine (floorLog2_spec hnum hden).2.trans_le ?_
    rw [← zpow_natCast, ← zpow_add₀ (by norm_num)]
    refine zpow_le_zpow_right₀ (by norm_num) ?_
    rw [lastPlace]
    push_cast
    omega
  have herror := (abs_le.mp (abs_coefficient_sub_le f num hden)).2
  refine le_of_cast_lt ?_
  push_cast
  linarith

/-- Beyond the first binade no bit of a coefficient is missing. -/
lemma le_coefficient (hnum : 0 < num) (hden : 0 < den) :
    (f.lastPlace num den - f.minExponent).toNat = 0 ∨ 2 ^ f.fraction ≤ f.coefficient num den := by
  rcases le_or_gt (floorLog2 num den - f.fraction) f.minExponent with hle | hgt
  · exact .inl (by rw [lastPlace]; omega)
  · have hge : (2 : ℚ) ^ f.fraction ≤ num / den / 2 ^ f.lastPlace num den := by
      rw [le_div_iff₀ (by positivity), ← zpow_natCast, ← zpow_add₀ (by norm_num)]
      refine le_trans (zpow_le_zpow_right₀ (by norm_num) ?_) (floorLog2_spec hnum hden).1
      rw [lastPlace]
      omega
    have herror := (abs_le.mp (abs_coefficient_sub_le f num hden)).1
    refine .inr (le_of_cast_lt ?_)
    push_cast
    linarith

/-- The encoding of a ratio stands for a multiple of its last place. -/
lemma value_encodeRatio (hnum : 0 < num) (hden : 0 < den)
    (hfinite : f.encodeRatio num den < f.infinity) : f.value (f.encodeRatio num den)
      = f.coefficient num den * 2 ^ f.lastPlace num den := by
  have hencode : f.encodeRatio num den
      = (f.lastPlace num den - f.minExponent).toNat * 2 ^ f.fraction + f.coefficient num den := by
    rw [encodeRatio_of_pos hnum] at hfinite ⊢
    omega
  have hexponent : f.minExponent + ((f.lastPlace num den - f.minExponent).toNat : ℤ)
      = f.lastPlace num den := by
    rw [Int.toNat_of_nonneg (by rw [lastPlace]; omega)]
    ring
  rw [hencode, value_of_coefficient (le_coefficient hnum hden) (coefficient_le hnum hden),
    hexponent]

/-- **The encoding of a ratio is off by half a unit in the last place at most.** -/
theorem abs_value_encodeRatio_sub_le (hden : 0 < den)
    (hfinite : f.encodeRatio num den < f.infinity) :
    |f.value (f.encodeRatio num den) - num / den|
      ≤ max ((num / den : ℚ) / 2 ^ (f.fraction + 1)) (2 ^ (f.minExponent - 1)) := by
  have htwo : (2 : ℚ) ≠ 0 := by norm_num
  rcases Nat.eq_zero_or_pos num with rfl | hnum
  · rw [encodeRatio, if_pos rfl, value_zero]
    simp only [Nat.cast_zero, zero_div, sub_zero, abs_zero]
    exact le_max_left _ _
  have hunit : (0 : ℚ) < 2 ^ f.lastPlace num den := by positivity
  have hhalf : |f.value (f.encodeRatio num den) - num / den| ≤ 2 ^ (f.lastPlace num den - 1) := by
    calc |f.value (f.encodeRatio num den) - num / den|
        = |(f.coefficient num den : ℚ) - num / den / 2 ^ f.lastPlace num den|
            * 2 ^ f.lastPlace num den := by
          rw [value_encodeRatio hnum hden hfinite, ← abs_of_pos hunit, ← abs_mul,
            abs_of_pos hunit, sub_mul, div_mul_cancel₀ _ hunit.ne']
      _ ≤ 1 / 2 * 2 ^ f.lastPlace num den :=
          mul_le_mul_of_nonneg_right (abs_coefficient_sub_le f num hden) hunit.le
      _ = 2 ^ (f.lastPlace num den - 1) := by
          rw [zpow_sub_one₀ htwo]
          ring
  refine hhalf.trans ?_
  rcases le_total (floorLog2 num den - f.fraction) f.minExponent with hle | hge
  · rw [lastPlace, max_eq_left hle]
    exact le_max_right _ _
  · refine le_max_of_le_left ?_
    rw [lastPlace, max_eq_right hge, le_div_iff₀ (by positivity), ← zpow_natCast,
      ← zpow_add₀ htwo]
    refine le_trans (le_of_eq ?_) (floorLog2_spec hnum hden).1
    congr 1
    push_cast
    ring

/-- A natural with no more bits than a coefficient is encoded without an error. -/
lemma value_encodeRatio_of_lt (hmin : f.minExponent ≤ 0) (hnum : num < 2 ^ (f.fraction + 1))
    (hfinite : f.encodeRatio num 1 < f.infinity) : f.value (f.encodeRatio num 1) = num := by
  rcases Nat.eq_zero_or_pos num with rfl | hpos
  · rw [encodeRatio, if_pos rfl, value_zero, Nat.cast_zero]
  have herror := abs_coefficient_sub_le f num Nat.one_pos
  rw [value_encodeRatio hpos Nat.one_pos hfinite]
  rw [Nat.cast_one, div_one] at herror
  have hexponent : f.lastPlace num 1 ≤ 0 := by
    have hlt : (2 : ℚ) ^ floorLog2 num 1 < 2 ^ ((f.fraction + 1 : ℕ) : ℤ) := by
      refine (floorLog2_spec hpos Nat.one_pos).1.trans_lt ?_
      rw [Nat.cast_one, div_one, zpow_natCast]
      exact_mod_cast hnum
    have hlog := (zpow_lt_zpow_iff_right₀ (by norm_num)).mp hlt
    rw [lastPlace]
    push_cast at hlog
    omega
  -- the natural is a multiple of the last place itself
  obtain ⟨n, hn⟩ := Int.eq_ofNat_of_zero_le (neg_nonneg.mpr hexponent)
  have hlast : f.lastPlace num 1 = -n := by omega
  have hscaled : (num : ℚ) / 2 ^ (-(n : ℤ)) = ((num * 2 ^ n : ℕ) : ℚ) := by
    rw [zpow_neg, div_inv_eq_mul, zpow_natCast]
    push_cast
    rfl
  rw [hlast, hscaled] at herror
  have hcoefficient : f.coefficient num 1 = num * 2 ^ n := by
    obtain ⟨hleast, hmost⟩ := abs_le.mp herror
    exact Nat.le_antisymm (le_of_cast_lt (by linarith)) (le_of_cast_lt (by linarith))
  rw [hcoefficient, hlast, zpow_neg, zpow_natCast]
  push_cast
  field_simp

/-- A ratio that is not too large is not encoded as infinity. -/
lemma encodeRatio_lt_infinity (hden : 0 < den) (h : (num / den : ℚ) < 2 ^ (127 : ℤ)) :
    single.encodeRatio num den < single.infinity := by
  rcases Nat.eq_zero_or_pos num with rfl | hnum
  · rw [encodeRatio, if_pos rfl]
    decide
  have hlog : floorLog2 num den < 127 :=
    (zpow_lt_zpow_iff_right₀ (by norm_num)).mp ((floorLog2_spec hnum hden).1.trans_lt h)
  have hcoefficient := coefficient_le (f := single) hnum hden
  have hbinade : (single.lastPlace num den - single.minExponent).toNat ≤ 252 := by
    rw [lastPlace, show single.minExponent = -149 from rfl, show single.fraction = 23 from rfl]
    omega
  have hinfinity : single.infinity = 255 * 2 ^ 23 := rfl
  rw [encodeRatio_of_pos hnum, hinfinity]
  rw [show single.fraction = 23 from rfl] at hcoefficient ⊢
  have hscaled := Nat.mul_le_mul_right (2 ^ 23) hbinade
  omega

end Format

/-- A natural is a number held between zero and a bound, but for half a unit and the error of the
format. -/
def Rounds (limit : ℕ) (v : ℚ) (n : ℕ) : Prop :=
  |(n : ℚ) - max 0 (min (limit : ℚ) v)| ≤ 1 / 2 + limit / 2 ^ 24

/-- A natural within the bound is rounded to itself. -/
lemma Rounds.eq_of_natCast {limit m n : ℕ} (h : Rounds limit m n) (hm : m ≤ limit)
    (hlimit : limit < 2 ^ 23) : n = m := by
  have hm' : (m : ℚ) ≤ limit := Nat.cast_le.mpr hm
  have hlimit' : (limit : ℚ) < 2 ^ 23 := by exact_mod_cast hlimit
  rw [Rounds, min_eq_right hm', max_eq_right (Nat.cast_nonneg m)] at h
  obtain ⟨hleast, hmost⟩ := abs_le.mp h
  exact Nat.le_antisymm (le_of_cast_lt (by linarith)) (le_of_cast_lt (by linarith))

/-! ### Values of words -/

namespace Binary32

open Format

variable {x y : Binary32} {m n limit : ℕ} {negative : Bool}

/-- The number for which a word stands. -/
def value (x : Binary32) : ℚ :=
  if x.isNegative then -single.value x.magnitude else single.value x.magnitude

lemma toNat_bits_ofParts (hm : m < 2 ^ 31) :
    (ofParts negative m).bits.toNat = (if negative then 2 ^ 31 else 0) + m := by
  refine UInt32.toNat_ofNat_of_lt' ?_
  change _ < 2 ^ 32
  split_ifs <;> omega

lemma magnitude_ofParts (hm : m < 2 ^ 31) : (ofParts negative m).magnitude = m := by
  rw [magnitude, toNat_bits_ofParts hm]
  split_ifs <;> omega

lemma isNegative_ofParts (hm : m < 2 ^ 31) : (ofParts negative m).isNegative = negative := by
  rw [isNegative, toNat_bits_ofParts hm]
  cases negative
  · simpa using hm
  · simp

lemma value_magnitude_nonneg (x : Binary32) : 0 ≤ single.value x.magnitude := by
  rw [← single.value_zero]
  exact single.value_strictMono.monotone (Nat.zero_le _)

lemma isNaN_of_finite (hx : x.isFinite = true) : x.isNaN = false := by
  rw [isFinite, decide_eq_true_eq] at hx
  simpa [isNaN] using hx.le

/-- The numeric order is that of the values. -/
lemma lt_iff (hx : x.isFinite = true) (hy : y.isFinite = true) :
    x.lt y = true ↔ x.value < y.value := by
  have hmono {v w : ℕ} : single.value v < single.value w ↔ v < w :=
    single.value_strictMono.lt_iff_lt
  have hx0 := x.value_magnitude_nonneg
  have hy0 := y.value_magnitude_nonneg
  rw [lt, isNaN_of_finite hx, isNaN_of_finite hy, Bool.not_false, Bool.true_and, Bool.true_and,
    decide_eq_true_iff, rank, rank, value, value]
  split_ifs with hnx hny hny
  · rw [neg_lt_neg_iff, neg_lt_neg_iff, hmono, Nat.cast_lt]
  · -- only zero is as great as a number below it
    rcases Nat.eq_zero_or_pos x.magnitude with hzero | hpos
    · rw [hzero, single.value_zero, neg_zero, ← single.value_zero, hmono]
      simp
    · have hlt := single.value_pos hpos
      exact iff_of_true (by omega) (by linarith)
  · exact iff_of_false (by omega) (by linarith)
  · rw [hmono, Nat.cast_lt]

/-- Naturals with few bits are encoded without an error. -/
lemma finite_ofInt (hn : n < 2 ^ 24) : (ofInt n).isFinite = true ∧ (ofInt n).value = n := by
  have hencode : single.encodeRatio n 1 < single.infinity := by
    refine encodeRatio_lt_infinity Nat.one_pos ?_
    have hlt : (n : ℚ) < 2 ^ 24 := by exact_mod_cast hn
    rw [Nat.cast_one, div_one]
    refine hlt.trans ?_
    norm_num
  have hbits : single.encodeRatio n 1 < 2 ^ 31 := hencode.trans (by decide)
  have hparts : ofInt n = ofParts false (single.encodeRatio n 1) := by
    rw [ofInt, Int.natAbs_natCast, decide_eq_false (by omega)]
  rw [hparts, isFinite, value, magnitude_ofParts hbits, isNegative_ofParts hbits]
  exact ⟨decide_eq_true hencode, value_encodeRatio_of_lt (by decide) hn hencode⟩

lemma finite_zero : zero.isFinite = true ∧ zero.value = 0 := by
  obtain ⟨hfinite, hvalue⟩ := finite_ofInt (n := 0) (by decide)
  exact ⟨hfinite, hvalue.trans Nat.cast_zero⟩

lemma finite_one : one.isFinite = true ∧ one.value = 1 := by
  obtain ⟨hfinite, hvalue⟩ := finite_ofInt (n := 1) (by decide)
  exact ⟨hfinite, hvalue.trans Nat.cast_one⟩

/-- A number held between zero and one. -/
lemma finite_clamp (hx : x.isFinite = true) :
    (if x.lt zero then zero else if one.lt x then one else x).isFinite = true
      ∧ (if x.lt zero then zero else if one.lt x then one else x).value
        = max 0 (min 1 x.value) := by
  obtain ⟨hzero, hzeroValue⟩ := finite_zero
  obtain ⟨hone, honeValue⟩ := finite_one
  simp only [lt_iff hx hzero, lt_iff hone hx, hzeroValue, honeValue]
  split_ifs with hbelow habove
  · exact ⟨hzero, by rw [hzeroValue, max_eq_left ((min_le_right _ _).trans hbelow.le)]⟩
  · exact ⟨hone, by rw [honeValue, min_eq_left habove.le, max_eq_right zero_le_one]⟩
  · exact ⟨hx, by rw [min_eq_right (not_lt.mp habove), max_eq_right (not_lt.mp hbelow)]⟩

/-! ### Rounded products -/

lemma roundHalfUp_eq (m : ℕ) (e : ℤ) : roundHalfUp m e = ⌊(m * 2 ^ e + 1 / 2 : ℚ)⌋₊ := by
  have hratio : ((2 * m * 2 ^ e.toNat + 2 ^ (-e).toNat : ℕ) : ℚ) / (2 * 2 ^ (-e).toNat : ℕ)
      = m * 2 ^ e + 1 / 2 := by
    push_cast
    rw [pow_toNat (by norm_num) e]
    field_simp
  rw [← hratio, Nat.floor_div_eq_div]
  rfl

/-- A number that is not below zero becomes the nearest natural, held within the bound. -/
lemma toNearestNat_ofParts (hm : m < single.infinity) :
    (ofParts false m).toNearestNat limit = min limit ⌊single.value m + 1 / 2⌋₊ := by
  have hbits : m < 2 ^ 31 := hm.trans (by decide)
  have hdefined : ¬ single.infinity < m := by omega
  rw [toNearestNat, isNaN, isFinite, magnitude_ofParts hbits, isNegative_ofParts hbits]
  simp only [hdefined, hm, decide_false, decide_true, Bool.or_self, Bool.false_eq_true, if_false,
    if_true, roundHalfUp_eq]
  rfl

lemma toNearestNat_of_negative (hm : m < 2 ^ 31) : (ofParts true m).toNearestNat limit = 0 := by
  rw [toNearestNat, isNegative_ofParts hm, Bool.or_true, if_pos rfl]

lemma toNearestNat_infinity : (ofParts false single.infinity).toNearestNat limit = limit := by
  rfl

lemma toNearestNat_le (limit : ℕ) (x : Binary32) : x.toNearestNat limit ≤ limit := by
  rw [toNearestNat]
  split_ifs
  · exact Nat.zero_le _
  · exact Nat.min_le_left _ _
  · exact le_rfl

/-- A product of finite numbers, by the ratio that is encoded. -/
lemma exists_mul (hx : x.isFinite = true) (hy : y.isFinite = true) : ∃ num den : ℕ, 0 < den
    ∧ (num / den : ℚ) = single.value x.magnitude * single.value y.magnitude
    ∧ x.mul y = ofParts (x.isNegative != y.isNegative) (single.encodeRatio num den) := by
  obtain ⟨e, he⟩ : ∃ e, e = (single.decode x.magnitude).2 + (single.decode y.magnitude).2 :=
    ⟨_, rfl⟩
  refine ⟨(single.decode x.magnitude).1 * (single.decode y.magnitude).1 * 2 ^ e.toNat,
    2 ^ (-e).toNat, Nat.two_pow_pos _, ?_, ?_⟩
  · push_cast
    rw [pow_toNat (by norm_num), ← mul_assoc, mul_div_cancel_right₀ _ (by positivity), he,
      zpow_add₀ (by norm_num), Format.value, Format.value, ulp, ulp]
    ring
  · rw [mul, isNaN_of_finite hx, isNaN_of_finite hy, hx, hy, he]
    rfl

/-- A number is rounded in the format first, and then to a natural. -/
lemma rounds_of_abs_sub_le {v p : ℚ} (hp : 0 ≤ p) (hlimit : 0 < limit)
    (hv : |v - p| ≤ max (p / 2 ^ 24) (2 ^ (-150 : ℤ))) :
    Rounds limit p (min limit ⌊v + 1 / 2⌋₊) := by
  have hone : (1 : ℚ) ≤ limit := by exact_mod_cast hlimit
  have hsmall : (2 : ℚ) ^ (-150 : ℤ) ≤ 1 / 2 ^ 24 := by norm_num
  rw [Rounds, max_eq_right (le_min (by positivity) hp), Nat.cast_min]
  rcases le_or_gt p limit with hle | hgt
  · have herror : |v - p| ≤ limit / 2 ^ 24 := by
      refine hv.trans (max_le (by gcongr) (hsmall.trans (by gcongr)))
    obtain ⟨hleast, hmost⟩ := abs_le.mp herror
    have hfloor := Nat.lt_floor_add_one (v + 1 / 2)
    have hfloor' : (⌊v + 1 / 2⌋₊ : ℚ) ≤ p + 1 / 2 + limit / 2 ^ 24 := by
      rcases le_or_gt 0 (v + 1 / 2) with hpos | hneg
      · exact (Nat.floor_le hpos).trans (by linarith)
      · rw [Nat.floor_of_nonpos hneg.le, Nat.cast_zero]
        positivity
    rw [min_eq_right hle, abs_le]
    constructor
    · rcases min_cases (limit : ℚ) ⌊v + 1 / 2⌋₊ with ⟨h, -⟩ | ⟨h, -⟩ <;> rw [h] <;> linarith
    · linarith [min_le_right (limit : ℚ) ⌊v + 1 / 2⌋₊]
  · have herror : |v - p| ≤ p / 2 ^ 24 := by
      refine hv.trans (max_le le_rfl (hsmall.trans ?_))
      gcongr
      linarith
    have hleast := (abs_le.mp herror).1
    have hfloor := Nat.lt_floor_add_one (v + 1 / 2)
    rw [min_eq_left hgt.le, abs_le]
    constructor
    · rcases min_cases (limit : ℚ) ⌊v + 1 / 2⌋₊ with ⟨h, -⟩ | ⟨h, -⟩ <;> rw [h] <;> linarith
    · linarith [min_le_left (limit : ℚ) ⌊v + 1 / 2⌋₊]

/-- **A product that is rounded to a natural is the product of the numbers**, held within the bound,
but for half a unit and the error of the format. -/
theorem rounds_mul (limit : ℕ) (hx : x.isFinite = true) (hy : y.isFinite = true)
    (hlimit : 0 < limit) (hlimit' : limit < 2 ^ 127) :
    Rounds limit (x.value * y.value) ((x.mul y).toNearestNat limit) := by
  obtain ⟨num, den, hden, hratio, hmul⟩ := exists_mul hx hy
  have hp : 0 ≤ single.value x.magnitude * single.value y.magnitude :=
    mul_nonneg x.value_magnitude_nonneg y.value_magnitude_nonneg
  have hle : single.encodeRatio num den ≤ single.infinity := by
    rw [encodeRatio]
    split_ifs
    · exact Nat.zero_le _
    · exact Nat.min_le_left _ _
  by_cases hsign : x.isNegative = y.isNegative
  · have hvalue : x.value * y.value = num / den := by
      rw [hratio, value, value, hsign]
      split_ifs <;> ring
    have hpos : (0 : ℚ) ≤ num / den := by positivity
    rw [hmul, hsign, bne_self_eq_false, hvalue]
    rcases hle.lt_or_eq with hlt | heq
    · rw [toNearestNat_ofParts hlt]
      exact rounds_of_abs_sub_le hpos hlimit (abs_value_encodeRatio_sub_le hden hlt)
    · -- the product is beyond the format, and so beyond the bound
      have hlarge : (2 : ℚ) ^ (127 : ℤ) ≤ num / den :=
        not_lt.mp fun h => (encodeRatio_lt_infinity hden h).ne heq
      have hbound : (limit : ℚ) ≤ num / den := by
        refine le_trans ?_ hlarge
        exact_mod_cast hlimit'.le
      rw [heq, toNearestNat_infinity, Rounds, min_eq_left hbound,
        max_eq_right (Nat.cast_nonneg limit), sub_self, abs_zero]
      positivity
  · have hvalue : x.value * y.value ≤ 0 := by
      rw [value, value]
      cases hnx : x.isNegative <;> cases hny : y.isNegative <;>
        simp_all [mul_nonneg, value_magnitude_nonneg]
    have hne : (x.isNegative != y.isNegative) = true := bne_iff_ne.mpr hsign
    rw [hmul, hne, toNearestNat_of_negative (hle.trans_lt (by decide)), Rounds,
      max_eq_left ((min_le_right _ _).trans hvalue), Nat.cast_zero, sub_self, abs_zero]
    positivity

/-- A whole number of times a finite number. -/
lemma rounds_mul_ofInt (limit : ℕ) (hx : x.isFinite = true) (hn : n < 2 ^ 24) (hlimit : 0 < limit)
    (hlimit' : limit < 2 ^ 127) :
    Rounds limit (n * x.value) ((x.mul (ofInt n)).toNearestNat limit) := by
  obtain ⟨hfinite, hvalue⟩ := finite_ofInt hn
  rw [← hvalue, mul_comm]
  exact rounds_mul limit hx hfinite hlimit hlimit'

end Binary32

end DiceHost.Numeric
