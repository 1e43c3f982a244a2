/-
Numerals as sequences of characters.

* `isNumeric`: the characters of numerals;
* `digits_injective`, `integer_injective`: an integer is told by its numeral;
* `numeric_integer`: a numeral consists of such characters;
* `eq_of_numeric_append`: a numeral ends where another character follows.
-/
import Mathlib.Tactic
import DiceHost.Numeric.Notation

namespace DiceHost.Numeric

/-- The characters of numerals: digits, the sign, the point and the mark of an exponent. -/
def isNumeric (c : Char) : Bool :=
  c.isDigit || c = '-' || c = '.' || c = 'e'

lemma isNumeric_of_isDigit {c : Char} (h : c.isDigit = true) : isNumeric c = true := by
  rw [isNumeric, h]
  rfl

/-! ### Naturals -/

lemma digits_ne_nil (n : ℕ) : digits n ≠ [] :=
  Nat.toDigits_ne_nil

lemma isDigit_of_mem_digits {n : ℕ} {c : Char} (h : c ∈ digits n) : c.isDigit = true :=
  Nat.isDigit_of_mem_toDigits (by decide) (by decide) h

/-- A natural is read back from its digits. -/
lemma ofDigitChars_digits (n : ℕ) : Nat.ofDigitChars 10 (digits n) 0 = n :=
  Nat.ofDigitChars_toDigits (by decide) (by decide)

lemma digits_injective : Function.Injective digits := by
  intro m n h
  rw [← ofDigitChars_digits m, h, ofDigitChars_digits]

/-- Digits begin with a digit. -/
lemma head_digits (n : ℕ) : ∃ c cs, digits n = c :: cs ∧ c.isDigit = true := by
  cases h : digits n with
  | nil => exact absurd h (digits_ne_nil n)
  | cons c cs => exact ⟨c, cs, rfl, isDigit_of_mem_digits (h ▸ List.mem_cons_self)⟩

/-! ### Integers -/

/-- An integer is written with digits after a sign at most. -/
lemma mem_integer {n : ℤ} {c : Char} (h : c ∈ integer n) : c = '-' ∨ c.isDigit = true := by
  rw [integer] at h
  split_ifs at h
  · exact (List.mem_cons.mp h).imp_right isDigit_of_mem_digits
  · exact .inr (isDigit_of_mem_digits h)

lemma numeric_integer (n : ℤ) : ∀ c ∈ integer n, isNumeric c = true := by
  intro c hc
  rcases mem_integer hc with rfl | hd
  · rfl
  · exact isNumeric_of_isDigit hd

lemma head_integer (n : ℤ) : ∃ c cs, integer n = c :: cs ∧ (c = '-' ∨ c.isDigit = true) := by
  cases h : integer n with
  | nil =>
      rw [integer] at h
      split_ifs at h
      exact absurd h (digits_ne_nil _)
  | cons c cs => exact ⟨c, cs, rfl, mem_integer (h ▸ List.mem_cons_self)⟩

lemma sign_notMem_digits (n : ℕ) : '-' ∉ digits n := by
  intro h
  cases isDigit_of_mem_digits h

lemma integer_injective : Function.Injective integer := by
  intro m n h
  rw [integer, integer] at h
  split_ifs at h with hm hn hn
  · have habs := digits_injective (List.cons.inj h).2
    omega
  · exact absurd (h ▸ List.mem_cons_self) (sign_notMem_digits _)
  · exact absurd (h ▸ List.mem_cons_self) (sign_notMem_digits _)
  · have habs := digits_injective h
    omega

/-! ### The end of a numeral -/

/-- A text that does not go on with a character of a numeral. -/
def Stops (r : List Char) : Prop :=
  ∀ c ∈ r.head?, isNumeric c = false

lemma stops_nil : Stops [] := nofun

lemma stops_cons {c : Char} {r : List Char} (h : isNumeric c = false) : Stops (c :: r) := by
  intro d hd
  obtain rfl := Option.some_inj.mp hd
  exact h

/-- The numeral that a text begins with. -/
lemma takeWhile_numeric {cs r : List Char} (hcs : ∀ c ∈ cs, isNumeric c = true) (hr : Stops r) :
    (cs ++ r).takeWhile isNumeric = cs := by
  rw [List.takeWhile_append_of_pos hcs]
  cases r with
  | nil => simp
  | cons c r =>
      rw [List.takeWhile_cons_of_neg (by rw [hr c rfl]; decide), List.append_nil]

/-- Two texts that begin with numerals are the same only if both numerals and rests are. -/
lemma eq_of_numeric_append {cs cs' r r' : List Char} (hcs : ∀ c ∈ cs, isNumeric c = true)
    (hcs' : ∀ c ∈ cs', isNumeric c = true) (hr : Stops r) (hr' : Stops r')
    (h : cs ++ r = cs' ++ r') : cs = cs' ∧ r = r' := by
  have heq : cs = cs' := by
    rw [← takeWhile_numeric hcs hr, h, takeWhile_numeric hcs' hr']
  subst heq
  exact ⟨rfl, List.append_cancel_left h⟩

end DiceHost.Numeric
