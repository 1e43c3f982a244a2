/-
Hexadecimal numerals are read as they are written.

* `Text.Hex.foldDigits_lower`: the digits of a natural, read one after the other;
* `Text.Hex.nat?_lower`: **a natural is read back from enough digits**;
* `Text.Hex.notMem_lower`: digits consist of digits;
* `Text.Hex.upper_lt_upper`: **numerals of one length are ordered as their naturals are**;
* `Text.Hex.Denotes`, `Text.Hex.readNat_eq_ok`: **which numerals are read, and as what**;
* `Text.Hex.upper_eq_iff`: **of the numerals that are read the printed ones are those of the right
  length in upper-case digits**.
-/
import Mathlib.Tactic
import DiceHost.Text.Hex

namespace DiceHost.Text.Hex

lemma digit?_lowerDigit : ∀ n < 16, digit? (lowerDigit n) = some n := by
  decide

/-- Digits after others are read after them. -/
lemma foldDigits_append (acc : ℕ) (cs ds : List Char) :
    foldDigits acc (cs ++ ds) = (foldDigits acc cs).bind (foldDigits · ds) := by
  induction cs generalizing acc with
  | nil => rfl
  | cons c cs ih =>
      rw [List.cons_append, foldDigits, foldDigits]
      cases digit? c with
      | none => rfl
      | some d => exact ih _

/-- The last digits of a natural tell its remainder. -/
lemma foldDigits_lower (width n acc : ℕ) :
    foldDigits acc (lower width n) = some (acc * 16 ^ width + n % 16 ^ width) := by
  induction width generalizing n acc with
  | zero => simp [lower, foldDigits, Nat.mod_one]
  | succ width ih =>
      rw [lower, foldDigits_append, ih, Option.bind_some, foldDigits,
        digit?_lowerDigit _ (Nat.mod_lt _ (by decide)), Option.bind_some, foldDigits,
        pow_succ', Nat.mod_mul]
      congr 1
      ring

lemma length_lower (width n : ℕ) : (lower width n).length = width := by
  induction width generalizing n with
  | zero => rfl
  | succ width ih => rw [lower, List.length_append, ih, List.length_singleton]

/-- A natural is read back from its digits if these are enough. -/
lemma nat?_lower {width n : ℕ} (hwidth : 0 < width) (hn : n < 16 ^ width) :
    nat? (lower width n) = some n := by
  have hfold := foldDigits_lower width n 0
  rw [Nat.zero_mul, Nat.zero_add, Nat.mod_eq_of_lt hn] at hfold
  cases hcs : lower width n with
  | nil =>
      have hlength := length_lower width n
      rw [hcs] at hlength
      exact absurd hlength.symm hwidth.ne'
  | cons c cs =>
      rw [nat?, ← hcs]
      · exact hfold
      · exact List.cons_ne_nil c cs

/-- Digits consist of digits. -/
lemma notMem_lower {c : Char} (hc : ∀ d < 16, c ≠ lowerDigit d) (width n : ℕ) :
    c ∉ lower width n := by
  induction width generalizing n with
  | zero => exact List.not_mem_nil
  | succ width ih =>
      rw [lower, List.mem_append, List.mem_singleton, not_or]
      exact ⟨ih _, hc _ (Nat.mod_lt _ (by decide))⟩

/-! ### The order of numerals -/

lemma upperDigit_lt_upperDigit : ∀ n < 16, ∀ m < n, upperDigit m < upperDigit n := by
  decide

lemma length_upper (width n : ℕ) : (upper width n).length = width := by
  induction width generalizing n with
  | zero => rfl
  | succ width ih => rw [upper, List.length_append, ih, List.length_singleton]

/-- Of two texts of one length, what follows does not change the order. -/
lemma append_lt_append {cs ds : List Char} (hlength : cs.length = ds.length) (h : cs < ds)
    (es fs : List Char) : cs ++ es < ds ++ fs := by
  induction h with
  | nil => cases hlength
  | rel hlt => exact .rel hlt
  | cons _ ih => exact .cons (ih (Nat.succ.inj hlength))

/-- Numerals of one length are ordered as their naturals are. -/
lemma upper_lt_upper {width m n : ℕ} (hn : n < 16 ^ width) (h : m < n) :
    upper width m < upper width n := by
  induction width generalizing m n with
  | zero =>
      rw [pow_zero, Nat.lt_one_iff] at hn
      exact absurd (hn ▸ h) (Nat.not_lt_zero m)
  | succ width ih =>
      rw [upper, upper]
      obtain hlt | heq := (Nat.div_le_div_right h.le : m / 16 ≤ n / 16).lt_or_eq
      · refine append_lt_append ?_ (ih ?_ hlt) _ _
        · rw [length_upper, length_upper]
        · rw [pow_succ] at hn
          exact Nat.div_lt_of_lt_mul (by omega)
      · rw [heq]
        exact List.append_left_lt (.rel (upperDigit_lt_upperDigit _ (Nat.mod_lt _ (by decide)) _
          (by omega)))

/-! ### Numerals that are read -/

/-- A numeral and what it says: digits of either case, after at most one plus sign. -/
def Denotes (cs : List Char) (n : ℕ) : Prop :=
  nat? cs = some n ∨ ∃ ds, cs = '+' :: ds ∧ nat? ds = some n

lemma le_of_foldDigits {acc n : ℕ} {cs : List Char} (h : foldDigits acc cs = some n) :
    acc ≤ n := by
  induction cs generalizing acc with
  | nil => exact (Option.some_inj.mp h).le
  | cons c cs ih =>
      obtain ⟨d, -, hd⟩ := Option.bind_eq_some_iff.mp h
      have hle := ih hd
      omega

/-- Digits below the limit are read: the value of the first ones is no more than that of all. -/
lemma readDigits_eq_ok {limit acc n : ℕ} {cs : List Char} (hacc : acc < limit) :
    readDigits limit acc cs = .ok n ↔ foldDigits acc cs = some n ∧ n < limit := by
  induction cs generalizing acc with
  | nil =>
      rw [readDigits, foldDigits, Option.some_inj, Except.ok.injEq, iff_self_and]
      exact fun h => h ▸ hacc
  | cons c cs ih =>
      rw [readDigits, foldDigits]
      cases digit? c with
      | none => exact ⟨nofun, fun h => nomatch h.1⟩
      | some d =>
          rw [Option.bind_some]
          dsimp only
          split_ifs with hlt
          · exact ih hlt
          · refine ⟨nofun, fun ⟨h, hn⟩ => ?_⟩
            exact absurd ((le_of_foldDigits h).trans_lt hn) hlt

lemma nat?_eq_some {cs : List Char} {n : ℕ} :
    nat? cs = some n ↔ cs ≠ [] ∧ foldDigits 0 cs = some n := by
  cases cs with
  | nil => exact ⟨nofun, fun h => absurd rfl h.1⟩
  | cons c cs => exact (and_iff_right (List.cons_ne_nil c cs)).symm

lemma nat?_plus (ds : List Char) : nat? ('+' :: ds) = none := rfl

/-- Just the numerals below the limit are read. -/
lemma readNat_eq_ok {limit n : ℕ} {cs : List Char} (hlimit : 0 < limit) :
    readNat limit cs = .ok n ↔ Denotes cs n ∧ n < limit := by
  rw [Denotes]
  fun_cases readNat limit cs with
  | case1 => simp [nat?]
  | case2 => simp [nat?, foldDigits, digit?]
  | case3 ds hds =>
      have hvalue : nat? ds = some n ↔ foldDigits 0 ds = some n :=
        nat?_eq_some.trans (and_iff_right hds)
      rw [readDigits_eq_ok hlimit, nat?_plus, or_iff_right nofun]
      simp [hvalue]
  | case4 cs hnil hplus hsign =>
      rw [readDigits_eq_ok hlimit, or_iff_left fun ⟨ds, hds, _⟩ => hsign ds hds, nat?_eq_some,
        and_iff_right hnil]

/-! ### Numerals that are printed -/

/-- A digit as it is printed in upper case. -/
def IsUpper (c : Char) : Prop :=
  ('0' ≤ c ∧ c ≤ '9') ∨ ('A' ≤ c ∧ c ≤ 'F')

instance : DecidablePred IsUpper := fun c =>
  inferInstanceAs (Decidable (('0' ≤ c ∧ c ≤ '9') ∨ ('A' ≤ c ∧ c ≤ 'F')))

lemma isUpper_upperDigit : ∀ d < 16, IsUpper (upperDigit d) := by
  decide

lemma digit?_upperDigit : ∀ d < 16, digit? (upperDigit d) = some d := by
  decide

lemma isUpper_of_mem_upper {c : Char} {width n : ℕ} (hc : c ∈ upper width n) : IsUpper c := by
  induction width generalizing n with
  | zero => cases hc
  | succ width ih =>
      rcases List.mem_append.mp hc with hc | hc
      · exact ih hc
      · exact List.mem_singleton.mp hc ▸ isUpper_upperDigit _ (Nat.mod_lt _ (by decide))

/-- Digits of either case are read alike. -/
lemma foldDigits_upper (width n acc : ℕ) :
    foldDigits acc (upper width n) = foldDigits acc (lower width n) := by
  induction width generalizing n acc with
  | zero => rfl
  | succ width ih =>
      have hlt : n % 16 < 16 := Nat.mod_lt _ (by decide)
      rw [upper, lower, foldDigits_append, foldDigits_append, ih]
      simp only [foldDigits, digit?_upperDigit _ hlt, digit?_lowerDigit _ hlt]

/-- A natural is read back from its digits if these are enough. -/
lemma nat?_upper {width n : ℕ} (hwidth : 0 < width) (hn : n < 16 ^ width) :
    nat? (upper width n) = some n := by
  rw [nat?_eq_some, foldDigits_upper]
  refine ⟨fun hnil => ?_, (nat?_eq_some.mp (nat?_lower hwidth hn)).2⟩
  exact hwidth.ne' ((length_upper width n).symm.trans (congrArg List.length hnil))

lemma exists_upperDigit :
    ∀ n < 71, IsUpper (Char.ofNat n) → ∃ d < 16, upperDigit d = Char.ofNat n := by
  decide

/-- An upper-case digit is the one printed for its value. -/
lemma upperDigit_of_digit? {c : Char} {d : ℕ} (hc : IsUpper c) (hd : digit? c = some d) :
    d < 16 ∧ upperDigit d = c := by
  have hlt : c.toNat < 71 := by
    obtain ⟨-, h⟩ | ⟨-, h⟩ := hc
    · exact (UInt32.le_iff_toNat_le.mp h).trans_lt (by decide)
    · exact (UInt32.le_iff_toNat_le.mp h).trans_lt (by decide)
  obtain ⟨m, hm, hmc⟩ := exists_upperDigit c.toNat hlt (by rwa [Char.ofNat_toNat])
  rw [Char.ofNat_toNat] at hmc
  rw [← hmc, digit?_upperDigit m hm] at hd
  exact Option.some_inj.mp hd ▸ ⟨hm, hmc⟩

/-- Upper-case digits are those printed for their value. -/
lemma upper_of_foldDigits {cs : List Char} {n : ℕ} (hcs : ∀ c ∈ cs, IsUpper c)
    (hn : foldDigits 0 cs = some n) : upper cs.length n = cs := by
  induction cs using List.reverseRecOn generalizing n with
  | nil => rfl
  | append_singleton cs c ih =>
      rw [foldDigits_append] at hn
      obtain ⟨m, hm, hn⟩ := Option.bind_eq_some_iff.mp hn
      obtain ⟨d, hd, hn⟩ := Option.bind_eq_some_iff.mp hn
      obtain ⟨hlt, hc⟩ := upperDigit_of_digit? (hcs c (by simp)) hd
      obtain rfl := Option.some_inj.mp hn
      have hdiv : (m * 16 + d) / 16 = m := by omega
      have hmod : (m * 16 + d) % 16 = d := by omega
      rw [List.length_append, List.length_singleton, upper, hdiv, hmod, hc,
        ih (fun c hmem => hcs c (List.mem_append_left _ hmem)) hm]

/-- The printed numeral among those that are read: of the right length, and in upper-case digits. -/
lemma upper_eq_iff {cs : List Char} {width n : ℕ} (hcs : Denotes cs n) :
    cs = upper width n ↔ cs.length = width ∧ ∀ c ∈ cs, IsUpper c := by
  constructor
  · rintro rfl
    exact ⟨length_upper width n, fun _ => isUpper_of_mem_upper⟩
  · rintro ⟨rfl, hupper⟩
    rcases hcs with hn | ⟨ds, rfl, -⟩
    · exact (upper_of_foldDigits hupper (nat?_eq_some.mp hn).2).symm
    · exact absurd (hupper '+' List.mem_cons_self) (by decide)

end DiceHost.Text.Hex
