/-
Shortest numerals lie in the intervals of reals that round to their numbers.

* `Format.value`, `Decimal.value`: the numbers for which encodings and numerals stand;
* `Format.value_succ`: the next number is one unit in the last place away, so values grow with
  their encodings;
* `Interval.Holds`, `Format.eq_of_holds`: the interval of an encoding ends halfway to its
  neighbours, and no number is in two intervals;
* `Interval.holds_search`: a search that reaches a fine enough grid finds a numeral in the interval;
* `Format.floorLog2_spec`, `Format.floorLog10_le`: the search begins at a grid that is not too
  coarse;
* `Format.eq_of_shortest`: **a number of the 32-bit format is told by its shortest numeral**.
-/
import Mathlib.Tactic
import DiceHost.Numeric.Shortest

namespace DiceHost.Numeric

/-- A power with an exponent of either sign, as two powers with natural exponents. -/
lemma pow_toNat {b : ℚ} (hb : b ≠ 0) (e : ℤ) : b ^ e.toNat = b ^ e * b ^ (-e).toNat := by
  rcases le_total 0 e with h | h
  · obtain ⟨n, rfl⟩ := Int.eq_ofNat_of_zero_le h
    simp
  · obtain ⟨n, hn⟩ := Int.eq_ofNat_of_zero_le (neg_nonneg.mpr h)
    obtain rfl : e = -n := by omega
    simp [hb]

/-! ### Values -/

/-- The number for which a numeral stands. -/
def Decimal.value (d : Decimal) : ℚ :=
  d.coefficient * 10 ^ d.exponent

/-- Trailing zeros do not count. -/
lemma Decimal.value_strip (fuel : ℕ) (d : Decimal) : (d.strip fuel).value = d.value := by
  induction fuel generalizing d with
  | zero => rfl
  | succ fuel ih =>
      rw [strip]
      split_ifs with h
      · obtain ⟨c, hc⟩ := Nat.dvd_of_mod_eq_zero h.2
        rw [ih, value, value, hc, Nat.mul_div_cancel_left c (by decide),
          zpow_add_one₀ (by norm_num)]
        push_cast
        ring
      · rfl

namespace Format

variable {f : Format} {w w' : ℕ}

/-- The weight of the last place of an encoding. -/
def ulp (f : Format) (w : ℕ) : ℚ :=
  2 ^ (f.decode w).2

/-- The number for which an encoding stands. -/
def value (f : Format) (w : ℕ) : ℚ :=
  (f.decode w).1 * f.ulp w

lemma ulp_pos (f : Format) (w : ℕ) : 0 < f.ulp w :=
  zpow_pos (by norm_num) _

/-- An encoding, by its exponent field and its fraction. -/
lemma exists_fields (f : Format) (w : ℕ) : ∃ b r, r < 2 ^ f.fraction ∧ w = b * 2 ^ f.fraction + r :=
  ⟨w / 2 ^ f.fraction, w % 2 ^ f.fraction, Nat.mod_lt _ (Nat.two_pow_pos _),
    (Nat.div_add_mod' _ _).symm⟩

lemma decode_fields {b r : ℕ} (hr : r < 2 ^ f.fraction) :
    f.decode (b * 2 ^ f.fraction + r)
      = if b = 0 then (r, f.minExponent)
        else (2 ^ f.fraction + r, f.minExponent + (b - 1 : ℕ)) := by
  have hbiased : (b * 2 ^ f.fraction + r) / 2 ^ f.fraction = b := by
    rw [Nat.add_comm, Nat.add_mul_div_right _ _ (Nat.two_pow_pos _), Nat.div_eq_of_lt hr,
      Nat.zero_add]
  have hfrac : (b * 2 ^ f.fraction + r) % 2 ^ f.fraction = r := by
    rw [Nat.mul_add_mod', Nat.mod_eq_of_lt hr]
  simp only [decode, Nat.pow_eq, hbiased, hfrac]

/-- The next number is one unit in the last place away. -/
lemma value_succ (f : Format) (w : ℕ) : f.value (w + 1) = f.value w + f.ulp w := by
  obtain ⟨b, r, hr, rfl⟩ := f.exists_fields w
  rcases Nat.lt_or_ge (r + 1) (2 ^ f.fraction) with hlt | hge
  · rw [value, value, ulp, ulp, Nat.add_assoc, decode_fields hr, decode_fields hlt]
    split_ifs <;> push_cast <;> ring
  · -- a carry into the exponent field
    have hlast : r + 1 = 2 ^ f.fraction := by omega
    have hcarry : b * 2 ^ f.fraction + r + 1 = (b + 1) * 2 ^ f.fraction + 0 := by
      rw [Nat.add_assoc, hlast]
      ring
    have hcast : (2 : ℚ) ^ f.fraction = r + 1 := by exact_mod_cast hlast.symm
    rw [value, value, ulp, ulp, hcarry, decode_fields (Nat.two_pow_pos _), decode_fields hr,
      if_neg b.succ_ne_zero]
    cases b with
    | zero =>
        simp only [if_pos, Nat.add_zero, Nat.zero_add, Nat.sub_self, Nat.cast_zero, Int.add_zero]
        push_cast
        rw [hcast]
        ring
    | succ b =>
        simp only [if_neg b.succ_ne_zero, Nat.add_sub_cancel, Nat.add_zero]
        push_cast
        rw [← Int.add_assoc, zpow_add_one₀ (by norm_num), hcast]
        ring

lemma value_strictMono (f : Format) : StrictMono f.value :=
  strictMono_nat_of_lt_succ fun w => by
    rw [value_succ]
    exact lt_add_of_pos_right _ (f.ulp_pos w)

lemma value_zero (f : Format) : f.value 0 = 0 := by
  have hdecode := decode_fields (f := f) (b := 0) (Nat.two_pow_pos f.fraction)
  rw [Nat.zero_mul, if_pos rfl] at hdecode
  rw [value, hdecode]
  simp

lemma value_pos (h : 0 < w) : 0 < f.value w := by
  rw [← f.value_zero]
  exact f.value_strictMono h

end Format

/-! ### Intervals -/

namespace Format

variable {f : Format} {w w' : ℕ}

/-- Whether a number lies in an interval. -/
def Interval.Holds (i : Interval) (x : ℚ) : Prop :=
  if i.closed then (i.lower : ℚ) ≤ x * i.den ∧ x * i.den ≤ i.upper
  else (i.lower : ℚ) < x * i.den ∧ x * i.den < i.upper

lemma Interval.contains_iff (i : Interval) (c : ℕ) (g : ℤ) :
    i.contains c g = true ↔ i.Holds (c * 10 ^ g) := by
  have hscale : (0 : ℚ) < 10 ^ (-g).toNat := by positivity
  have hvalue : ((c * 10 ^ g.toNat * i.den : ℕ) : ℚ) = c * 10 ^ g * i.den * 10 ^ (-g).toNat := by
    push_cast
    rw [pow_toNat (by norm_num)]
    ring
  have hends (n : ℕ) : ((n * 10 ^ (-g).toNat : ℕ) : ℚ) = n * 10 ^ (-g).toNat := by push_cast; rfl
  simp only [contains, Nat.pow_eq, Holds]
  split_ifs
  · simp only [Bool.and_eq_true, decide_eq_true_eq]
    rw [← Nat.cast_le (α := ℚ), ← Nat.cast_le (α := ℚ), hvalue, hends, hends,
      mul_le_mul_iff_left₀ hscale, mul_le_mul_iff_left₀ hscale]
  · simp only [Bool.and_eq_true, decide_eq_true_eq]
    rw [← Nat.cast_lt (α := ℚ), ← Nat.cast_lt (α := ℚ), hvalue, hends, hends,
      mul_lt_mul_iff_left₀ hscale, mul_lt_mul_iff_left₀ hscale]

lemma den_pos (f : Format) (w : ℕ) : (0 : ℚ) < (f.interval w).den := by
  exact_mod_cast Nat.two_pow_pos _

/-- The value of an encoding, over the denominator of its interval. -/
lemma value_interval (f : Format) (w : ℕ) :
    ((f.interval w).value : ℚ) = f.value w * (f.interval w).den := by
  simp only [interval, Nat.pow_eq, value, ulp]
  push_cast
  rw [pow_toNat (by norm_num), zpow_sub₀ (by norm_num)]
  ring

/-- The upper end is halfway to the next number. -/
lemma upper_interval (f : Format) (w : ℕ) :
    ((f.interval w).upper : ℚ) = (f.value w + f.ulp w / 2) * (f.interval w).den := by
  simp only [interval, Nat.pow_eq, value, ulp]
  push_cast
  rw [pow_toNat (by norm_num), zpow_sub₀ (by norm_num)]
  ring

/-- Whether the previous number is nearer than the next. -/
def Narrow (f : Format) (w : ℕ) : Prop :=
  w % 2 ^ f.fraction = 0 ∧ 2 ^ f.fraction < w

instance : Decidable (f.Narrow w) :=
  inferInstanceAs (Decidable (_ ∧ _))

lemma ulp_succ (f : Format) (w : ℕ) :
    f.ulp (w + 1) = if f.Narrow (w + 1) then 2 * f.ulp w else f.ulp w := by
  obtain ⟨b, r, hr, rfl⟩ := f.exists_fields w
  rcases Nat.lt_or_ge (r + 1) (2 ^ f.fraction) with hlt | hge
  · have hwide : ¬ f.Narrow (b * 2 ^ f.fraction + r + 1) := by
      rintro ⟨hmod, -⟩
      rw [Nat.add_assoc, Nat.mul_add_mod', Nat.mod_eq_of_lt hlt] at hmod
      exact r.succ_ne_zero hmod
    rw [if_neg hwide, Nat.add_assoc, ulp, ulp, decode_fields hr, decode_fields hlt]
    split_ifs <;> rfl
  · have hlast : r + 1 = 2 ^ f.fraction := by omega
    have hcarry : b * 2 ^ f.fraction + r + 1 = (b + 1) * 2 ^ f.fraction + 0 := by
      rw [Nat.add_assoc, hlast]
      ring
    rw [hcarry, ulp, ulp, decode_fields (Nat.two_pow_pos _), decode_fields hr,
      if_neg b.succ_ne_zero]
    cases b with
    | zero => simp [Narrow]
    | succ b =>
        have hnarrow : f.Narrow ((b + 1 + 1) * 2 ^ f.fraction + 0) :=
          ⟨by simp, by nlinarith [Nat.two_pow_pos f.fraction]⟩
        rw [if_pos hnarrow, if_neg b.succ_ne_zero]
        push_cast
        rw [← Int.add_assoc, zpow_add_one₀ (by norm_num)]
        ring

/-- The coefficient of a number that is not zero is not zero. -/
lemma coefficient_pos (h : 0 < w) : 0 < (f.decode w).1 := by
  refine Nat.pos_of_ne_zero fun hzero => (value_pos (f := f) h).ne' ?_
  rw [value, hzero]
  simp

/-- The lower end is halfway to the previous number. -/
lemma lower_interval (f : Format) (w : ℕ) :
    ((f.interval (w + 1)).lower : ℚ)
      = (f.value w + f.ulp w / 2) * (f.interval (w + 1)).den := by
  have hpos : 0 < (f.decode (w + 1)).1 := coefficient_pos w.succ_pos
  have hvalue : ((f.decode (w + 1)).1 : ℚ) * f.ulp (w + 1) = f.value w + f.ulp w := value_succ f w
  have hscale : (2 : ℚ) ^ ((f.decode (w + 1)).2 - 2) = f.ulp (w + 1) / 4 := by
    rw [zpow_sub₀ (by norm_num)]
    norm_num [ulp]
  simp only [interval, Nat.pow_eq]
  split_ifs with hnarrow
  · have hulp : f.ulp (w + 1) = 2 * f.ulp w := (ulp_succ f w).trans (if_pos hnarrow)
    rw [Nat.cast_mul, Nat.cast_sub (by omega)]
    push_cast
    rw [pow_toNat (by norm_num), hscale, ← mul_assoc]
    congr 1
    linear_combination hvalue - hulp / 4
  · have hulp : f.ulp (w + 1) = f.ulp w := (ulp_succ f w).trans (if_neg hnarrow)
    rw [Nat.cast_mul, Nat.cast_sub (by omega)]
    push_cast
    rw [pow_toNat (by norm_num), hscale, ← mul_assoc]
    congr 1
    linear_combination hvalue - hulp / 2

/-- The ends belong to the interval of every other encoding. -/
lemma closed_interval (h : 0 < f.fraction) : (f.interval w).closed = decide (w % 2 = 0) := by
  obtain ⟨b, r, hr, rfl⟩ := f.exists_fields w
  obtain ⟨k, hk⟩ := Nat.exists_eq_succ_of_ne_zero h.ne'
  have heven (n : ℕ) : (n * 2 ^ f.fraction + r) % 2 = r % 2 := by
    rw [hk, pow_succ, ← Nat.mul_assoc, Nat.mul_add_mod']
  have hone := heven 1
  rw [Nat.one_mul] at hone
  simp only [interval, decode_fields hr, heven]
  split_ifs
  · rfl
  · rw [hone]

lemma value_add_half_lt (h : w < w') : f.value w + f.ulp w / 2 < f.value w' + f.ulp w' / 2 := by
  have hnext : f.value w + f.ulp w ≤ f.value w' := by
    rw [← value_succ]
    exact f.value_strictMono.monotone h
  linarith [f.ulp_pos w, f.ulp_pos w']

/-- The numbers of an interval lie between the points halfway to the neighbours. -/
lemma halfway_of_holds {x : ℚ} (h : (f.interval (w + 1)).Holds x) :
    f.value w + f.ulp w / 2 ≤ x ∧ x ≤ f.value (w + 1) + f.ulp (w + 1) / 2 := by
  have hden := f.den_pos (w + 1)
  rw [Interval.Holds, lower_interval, upper_interval, mul_le_mul_iff_left₀ hden,
    mul_le_mul_iff_left₀ hden, mul_lt_mul_iff_left₀ hden, mul_lt_mul_iff_left₀ hden] at h
  split_ifs at h
  · exact h
  · exact ⟨h.1.le, h.2.le⟩

/-- A point halfway between two numbers belongs to the interval of the even one. -/
lemma even_of_holds {x : ℚ} (hf : 0 < f.fraction) (h : (f.interval (w + 1)).Holds x)
    (hx : x = f.value w + f.ulp w / 2 ∨ x = f.value (w + 1) + f.ulp (w + 1) / 2) :
    (w + 1) % 2 = 0 := by
  by_contra hodd
  have hden := f.den_pos (w + 1)
  rw [Interval.Holds, closed_interval hf, decide_eq_false hodd, if_neg Bool.false_ne_true,
    lower_interval, upper_interval, mul_lt_mul_iff_left₀ hden, mul_lt_mul_iff_left₀ hden] at h
  rcases hx with rfl | rfl
  · exact lt_irrefl _ h.1
  · exact lt_irrefl _ h.2

lemma not_holds_of_lt {x : ℚ} (hf : 0 < f.fraction) (hlt : w < w')
    (h : (f.interval (w + 1)).Holds x) : ¬ (f.interval (w' + 1)).Holds x := by
  intro h'
  have hup := (halfway_of_holds h).2
  have hdown := (halfway_of_holds h').1
  rcases Nat.eq_or_lt_of_le (Nat.succ_le_of_lt hlt) with rfl | hfar
  · -- neighbours share one point only, and one of them is odd
    have hx := le_antisymm hup hdown
    have heven := even_of_holds hf h (.inr hx)
    have heven' := even_of_holds hf h' (.inl hx)
    omega
  · exact absurd (hdown.trans hup) (not_le.mpr (value_add_half_lt hfar))

/-- No number is in two intervals. -/
lemma eq_of_holds {x : ℚ} (hf : 0 < f.fraction) (hw : 0 < w) (hw' : 0 < w')
    (h : (f.interval w).Holds x) (h' : (f.interval w').Holds x) : w = w' := by
  obtain ⟨w, rfl⟩ := Nat.exists_eq_succ_of_ne_zero hw.ne'
  obtain ⟨w', rfl⟩ := Nat.exists_eq_succ_of_ne_zero hw'.ne'
  rcases Nat.lt_trichotomy w w' with hlt | rfl | hlt
  · exact absurd h' (not_holds_of_lt hf hlt h)
  · rfl
  · exact absurd h (not_holds_of_lt hf hlt h')

/-! ### The search -/

/-- A numeral that is found lies in the interval. -/
lemma Interval.holds_of_nearest? {i : Interval} {g : ℤ} {c : ℕ} (h : i.nearest? g = some c) :
    i.Holds (c * 10 ^ g) := by
  rw [← contains_iff]
  simp only [nearest?, Nat.pow_eq] at h
  split at h
  · rename_i hbelow habove
    rw [Bool.and_eq_true] at hbelow
    rw [← Option.some_inj.mp h]
    split_ifs
    · exact hbelow.1
    · exact habove
  · rename_i hbelow _
    rw [Bool.and_eq_true] at hbelow
    rw [← Option.some_inj.mp h]
    exact hbelow.1
  · rename_i _ habove
    rw [← Option.some_inj.mp h]
    exact habove
  · cases h

/-- The value lies between two points of a grid. -/
lemma Interval.value_between {i : Interval} {g : ℤ} {n : ℕ} (hden : 0 < i.den)
    (hn : n = i.value * 10 ^ (-g).toNat / (i.den * 10 ^ g.toNat)) :
    (n : ℚ) * (10 ^ g * i.den) ≤ i.value ∧ (i.value : ℚ) < (n + 1) * (10 ^ g * i.den) := by
  have hscale : (0 : ℚ) < 10 ^ (-g).toNat := by positivity
  have hgrid : (((i.den * 10 ^ g.toNat : ℕ)) : ℚ) = 10 ^ g * i.den * 10 ^ (-g).toNat := by
    push_cast
    rw [pow_toNat (by norm_num)]
    ring
  constructor
  · have hle : n * (i.den * 10 ^ g.toNat) ≤ i.value * 10 ^ (-g).toNat := by
      rw [hn]
      exact Nat.div_mul_le_self _ _
    rw [← Nat.cast_le (α := ℚ), Nat.cast_mul, hgrid, ← mul_assoc, Nat.cast_mul, Nat.cast_pow] at hle
    exact le_of_mul_le_mul_right hle hscale
  · have hlt : i.value * 10 ^ (-g).toNat < (n + 1) * (i.den * 10 ^ g.toNat) := by
      rw [hn, Nat.mul_comm (_ + 1)]
      exact Nat.lt_mul_div_succ _ (by positivity)
    rw [← Nat.cast_lt (α := ℚ), Nat.cast_mul (_ + 1), hgrid, ← mul_assoc, Nat.cast_mul,
      Nat.cast_pow] at hlt
    push_cast at hlt
    exact lt_of_mul_lt_mul_right hlt hscale.le

/-- On a grid finer than the upper half of the interval, the point above the value is found. -/
lemma Interval.isSome_nearest? {i : Interval} {g : ℤ} (hden : 0 < i.den) (hlow : i.lower ≤ i.value)
    (hfine : (i.value : ℚ) + 10 ^ g * i.den < i.upper) : (i.nearest? g).isSome = true := by
  obtain ⟨n, hn⟩ : ∃ n, n = i.value * 10 ^ (-g).toNat / (i.den * 10 ^ g.toNat) := ⟨_, rfl⟩
  obtain ⟨hbelow, habove⟩ := value_between hden hn
  have hcontains : i.contains (n + 1) g = true := by
    have hlow' : (i.lower : ℚ) ≤ i.value := Nat.cast_le.mpr hlow
    have hlower : (i.lower : ℚ) < (n + 1) * 10 ^ g * i.den := by
      rw [mul_assoc]
      exact hlow'.trans_lt habove
    have hupper : ((n : ℚ) + 1) * 10 ^ g * i.den < i.upper := by linarith
    rw [contains_iff, Holds, Nat.cast_add_one]
    split_ifs
    · exact ⟨hlower.le, hupper.le⟩
    · exact ⟨hlower, hupper⟩
  simp only [nearest?, Nat.pow_eq, ← hn, hcontains]
  split <;> simp_all

/-- A search that reaches a grid with a hit ends in the interval. -/
lemma Interval.holds_search {i : Interval} {fuel n : ℕ} {g : ℤ} (hn : n < fuel)
    (h : (i.nearest? (g - n)).isSome = true) : i.Holds (i.search fuel g).value := by
  induction fuel generalizing n g with
  | zero => exact absurd hn (Nat.not_lt_zero n)
  | succ fuel ih =>
      rw [search]
      cases hnearest : i.nearest? g with
      | some c => exact holds_of_nearest? hnearest
      | none =>
          cases n with
          | zero =>
              rw [Nat.cast_zero, Int.sub_zero, hnearest] at h
              cases h
          | succ n =>
              refine ih (Nat.lt_of_succ_lt_succ hn) ?_
              rwa [Int.sub_sub, Int.add_comm 1, ← Nat.cast_add_one]

/-! ### The first grid -/

/-- A natural lies between two powers of two. -/
lemma log2_spec {n : ℕ} (h : 0 < n) :
    (2 : ℚ) ^ (n.log2 : ℤ) ≤ n ∧ (n : ℚ) < 2 ^ (n.log2 + 1 : ℤ) := by
  have hlow : 2 ^ n.log2 ≤ n := Nat.log2_self_le h.ne'
  have hhigh : n < 2 ^ (n.log2 + 1) := Nat.lt_log2_self
  rw [zpow_natCast, ← Nat.cast_add_one, zpow_natCast]
  exact ⟨by exact_mod_cast hlow, by exact_mod_cast hhigh⟩

/-- A ratio lies between two powers of two. -/
lemma floorLog2_spec {num den : ℕ} (hnum : 0 < num) (hden : 0 < den) :
    (2 : ℚ) ^ floorLog2 num den ≤ num / den ∧ (num / den : ℚ) < 2 ^ (floorLog2 num den + 1) := by
  have htwo : (2 : ℚ) ≠ 0 := by norm_num
  have hden' : (0 : ℚ) < den := Nat.cast_pos.mpr hden
  obtain ⟨hn, hn'⟩ := log2_spec hnum
  obtain ⟨hd, hd'⟩ := log2_spec hden
  obtain ⟨k, hk⟩ : ∃ k : ℤ, k = (num.log2 : ℤ) - den.log2 := ⟨_, rfl⟩
  have hscale : (0 : ℚ) < 2 ^ (-k).toNat := by positivity
  have hguess : num * 2 ^ (-k).toNat < den * 2 ^ k.toNat ↔ (num / den : ℚ) < 2 ^ k := by
    rw [div_lt_iff₀ hden', ← Nat.cast_lt (α := ℚ), Nat.cast_mul, Nat.cast_mul, Nat.cast_pow,
      Nat.cast_pow, Nat.cast_ofNat, pow_toNat htwo k, ← mul_assoc, mul_lt_mul_iff_left₀ hscale,
      mul_comm (den : ℚ)]
  have hlow : (2 : ℚ) ^ (k - 1) ≤ num / den := by
    rw [le_div_iff₀ hden']
    calc (2 : ℚ) ^ (k - 1) * den ≤ 2 ^ (k - 1) * 2 ^ (den.log2 + 1 : ℤ) :=
          mul_le_mul_of_nonneg_left hd'.le (by positivity)
      _ = 2 ^ (num.log2 : ℤ) := by
          rw [← zpow_add₀ htwo, hk]
          congr 1
          ring
      _ ≤ num := hn
  have hhigh : (num / den : ℚ) < 2 ^ (k + 1) := by
    rw [div_lt_iff₀ hden']
    calc (num : ℚ) < 2 ^ (num.log2 + 1 : ℤ) := hn'
      _ = 2 ^ (k + 1) * 2 ^ (den.log2 : ℤ) := by
          rw [← zpow_add₀ htwo, hk]
          congr 1
          ring
      _ ≤ 2 ^ (k + 1) * den := mul_le_mul_of_nonneg_left hd (by positivity)
  simp only [floorLog2, Nat.pow_eq, ← hk]
  split_ifs with h
  · rw [hguess] at h
    exact ⟨hlow, by rwa [Int.sub_add_cancel]⟩
  · rw [hguess, not_lt] at h
    exact ⟨h, hhigh⟩

/-- The least guess of the search is not far above the power of two it is made from. -/
lemma pow_guess_le {l : ℤ} (hlow : -150 < l) (hhigh : l < 128) :
    (10 : ℚ) ^ (l * 30103 / 100000 - 1) ≤ 10 ^ 11 * 2 ^ l := by
  have hall : ∀ n : ℕ, n < 277 → 10 ^ (((n : ℤ) - 149) * 30103 / 100000 - 1).toNat * 2 ^ (149 - n)
      ≤ 10 ^ 11 * 2 ^ (n - 149) * 10 ^ (-(((n : ℤ) - 149) * 30103 / 100000 - 1)).toNat := by
    decide +kernel
  obtain ⟨n, hn⟩ := Int.eq_ofNat_of_zero_le (by omega : 0 ≤ l + 149)
  obtain rfl : l = n - 149 := by omega
  have h := hall n (by omega)
  rw [← Nat.cast_le (α := ℚ)] at h
  push_cast at h
  rw [show n - 149 = ((n : ℤ) - 149).toNat by omega,
    show 149 - n = (-((n : ℤ) - 149)).toNat by omega, pow_toNat (by norm_num),
    pow_toNat (by norm_num : (2 : ℚ) ≠ 0) ((n : ℤ) - 149)] at h
  have hten : (0 : ℚ) < 10 ^ (-(((n : ℤ) - 149) * 30103 / 100000 - 1)).toNat := by positivity
  have htwo : (0 : ℚ) < 2 ^ (-((n : ℤ) - 149)).toNat := by positivity
  refine le_of_mul_le_mul_right ?_ (mul_pos hten htwo)
  linarith

/-- The first grid of a search is not much coarser than the value is large. -/
lemma floorLog10_le {num den : ℕ} (hnum : 0 < num) (hden : 0 < den)
    (hlow : (2 : ℚ) ^ (-149 : ℤ) ≤ num / den) (hhigh : (num / den : ℚ) < 2 ^ (128 : ℤ)) :
    (10 : ℚ) ^ floorLog10 num den ≤ 10 ^ 11 * (num / den) := by
  have hden' : (0 : ℚ) < den := Nat.cast_pos.mpr hden
  have hratio : (0 : ℚ) < num / den := by positivity
  obtain ⟨hfloor, hceil⟩ := floorLog2_spec hnum hden
  have hl : -149 < floorLog2 num den + 1 :=
    (zpow_lt_zpow_iff_right₀ (by norm_num)).mp (hlow.trans_lt hceil)
  have hl' : floorLog2 num den < 128 :=
    (zpow_lt_zpow_iff_right₀ (by norm_num)).mp (hfloor.trans_lt hhigh)
  have hreaches (k : ℤ) (h : den * 10 ^ k.toNat ≤ num * 10 ^ (-k).toNat) :
      (10 : ℚ) ^ k ≤ 10 ^ 11 * (num / den) := by
    have hscale : (0 : ℚ) < 10 ^ (-k).toNat := by positivity
    rw [← Nat.cast_le (α := ℚ), Nat.cast_mul, Nat.cast_mul, Nat.cast_pow, Nat.cast_pow,
      Nat.cast_ofNat, pow_toNat (by norm_num), ← mul_assoc, mul_le_mul_iff_left₀ hscale,
      mul_comm (den : ℚ), ← le_div_iff₀ hden'] at h
    linarith
  simp only [floorLog10, Nat.pow_eq, decide_eq_true_eq]
  split_ifs with h h'
  · exact hreaches _ h
  · exact hreaches _ h'
  · refine (pow_guess_le (by omega) hl').trans ?_
    linarith

/-! ### Shortest numerals -/

/-- The coefficient of an encoding has one bit more than its fraction. -/
lemma coefficient_lt (f : Format) (w : ℕ) : (f.decode w).1 < 2 ^ (f.fraction + 1) := by
  obtain ⟨b, r, hr, rfl⟩ := f.exists_fields w
  rw [decode_fields hr, pow_succ]
  split_ifs <;> dsimp only <;> omega

lemma lower_le_value (f : Format) (w : ℕ) : (f.interval w).lower ≤ (f.interval w).value :=
  Nat.mul_le_mul_right _ (by split_ifs <;> exact Nat.sub_le _ _)

/-- The twentieth grid of a search is finer than half a unit in the last place. -/
lemma pow_lt_half_ulp (hpos : 0 < w) (hw : w < single.infinity) :
    (10 : ℚ) ^ (floorLog10 (single.interval w).value (single.interval w).den - 19)
      < single.ulp w / 2 := by
  have hden := single.den_pos w
  have hratio : ((single.interval w).value : ℚ) / (single.interval w).den = single.value w := by
    rw [value_interval, mul_div_cancel_right₀ _ hden.ne']
  have hvalue : 0 < (single.interval w).value := by
    rw [← Nat.cast_pos (α := ℚ), value_interval]
    exact mul_pos (value_pos hpos) hden
  have hlow : (2 : ℚ) ^ (-149 : ℤ) ≤ single.value w := by
    have hone : single.value 1 = 2 ^ (-149 : ℤ) := by
      norm_num [value, ulp, decode, single, minExponent]
    rw [← hone]
    exact single.value_strictMono.monotone hpos
  have hhigh : single.value w < 2 ^ (128 : ℤ) := by
    have hinfinity : single.value single.infinity = 2 ^ (128 : ℤ) := by
      norm_num [value, ulp, decode, single, minExponent, infinity]
    rw [← hinfinity]
    exact single.value_strictMono hw
  have hgrid := floorLog10_le hvalue (Nat.cast_pos.mp hden) (by rwa [hratio]) (by rwa [hratio])
  rw [hratio] at hgrid
  have hcoefficient : single.value w ≤ 2 ^ 24 * single.ulp w := by
    refine mul_le_mul_of_nonneg_right ?_ (single.ulp_pos w).le
    exact_mod_cast (single.coefficient_lt w).le
  rw [zpow_sub₀ (by norm_num), div_lt_iff₀ (by positivity)]
  have hulp := single.ulp_pos w
  norm_num at hgrid hcoefficient ⊢
  linarith

/-- The shortest numeral lies in the interval of its number. -/
lemma holds_shortest (hpos : 0 < w) (hw : w < single.infinity) :
    (single.interval w).Holds (single.shortest w).value := by
  rw [shortest, if_neg hpos.ne']
  dsimp only
  rw [Decimal.value_strip]
  refine Interval.holds_search (by decide : 19 < 20) ?_
  refine Interval.isSome_nearest? (Nat.cast_pos.mp (single.den_pos w)) (lower_le_value _ w) ?_
  rw [value_interval, upper_interval, ← add_mul]
  exact mul_lt_mul_of_pos_right (add_lt_add_right (pow_lt_half_ulp hpos hw) _) (single.den_pos w)

/-- The shortest numeral of a number that is not zero is not zero. -/
lemma value_shortest_pos (hpos : 0 < w) (hw : w < single.infinity) :
    0 < (single.shortest w).value := by
  obtain ⟨w, rfl⟩ := Nat.exists_eq_succ_of_ne_zero hpos.ne'
  have hlow := (halfway_of_holds (holds_shortest hpos hw)).1
  have hvalue : 0 ≤ single.value w := by
    rw [← single.value_zero]
    exact single.value_strictMono.monotone (Nat.zero_le w)
  linarith [single.ulp_pos w]

/-- **A number is told by its shortest numeral.** -/
theorem eq_of_shortest (hpos : 0 < w) (hw : w < single.infinity) (hpos' : 0 < w')
    (hw' : w' < single.infinity)
    (h : (single.shortest w).value = (single.shortest w').value) : w = w' := by
  refine eq_of_holds (by decide) hpos hpos' (holds_shortest hpos hw) ?_
  rw [h]
  exact holds_shortest hpos' hw'

end Format

end DiceHost.Numeric
