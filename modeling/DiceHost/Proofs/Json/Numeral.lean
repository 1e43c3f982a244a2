/-
Numerals are read wherever they stand.

* `Json.Ends`: a text that goes on with a comma or a new line, as after each part of an indented
  document;
* `number?_append`: **what is read of a numeral does not depend on what follows it**;
* `number?_nat`: a natural of 64 bits is read back from its digits;
* `Binary32.read?`: the number that is read from a text.
-/
import Mathlib.Data.List.TakeWhile
import DiceHost.Proofs.Numeric.Digits
import DiceHost.Json.Record

namespace DiceHost.Json

open Numeric

/-- A text that ends, or goes on with a comma or a new line. -/
def Ends (r : List Char) : Prop := ∀ c ∈ r.head?, c = ',' ∨ c = '\n'

lemma ends_nil : Ends [] := nofun

lemma ends_comma (r : List Char) : Ends (',' :: r) := fun _ h => .inl (Option.some_inj.mp h).symm

lemma ends_newline (r : List Char) : Ends ('\n' :: r) := fun _ h => .inr (Option.some_inj.mp h).symm

variable {r : List Char}

lemma Ends.cases (hr : Ends r) : r = [] ∨ (∃ s, r = ',' :: s) ∨ ∃ s, r = '\n' :: s := by
  cases r with
  | nil => exact .inl rfl
  | cons c s =>
      obtain rfl | rfl := hr c rfl
      · exact .inr (.inl ⟨s, rfl⟩)
      · exact .inr (.inr ⟨s, rfl⟩)

namespace Node

/-! ### Parts of numerals -/

lemma spanDigits_append (hr : Ends r) (cs : List Char) :
    spanDigits (cs ++ r) = ((spanDigits cs).1, (spanDigits cs).2 ++ r) := by
  rw [spanDigits, spanDigits]
  induction cs with
  | nil =>
      rcases hr.cases with rfl | ⟨s, rfl⟩ | ⟨s, rfl⟩ <;> rfl
  | cons c cs ih =>
      rw [List.cons_append, List.takeWhile_cons, List.dropWhile_cons, List.takeWhile_cons,
        List.dropWhile_cons]
      split_ifs with hc
      · rw [Prod.mk.injEq] at ih ⊢
        exact ⟨congrArg _ ih.1, ih.2⟩
      · rfl

lemma whole?_append (hr : Ends r) (cs : List Char) :
    whole? (cs ++ r) = (whole? cs).map fun p => (p.1, p.2 ++ r) := by
  rw [whole?, whole?, spanDigits_append hr]
  obtain ⟨ds, rest⟩ := spanDigits cs
  dsimp only
  split <;> rfl

lemma fraction?_append (hr : Ends r) (cs : List Char) :
    fraction? (cs ++ r) = (fraction? cs).map fun p => (p.1, p.2 ++ r) := by
  cases cs with
  | nil =>
      rcases hr.cases with rfl | ⟨s, rfl⟩ | ⟨s, rfl⟩ <;> rfl
  | cons c cs =>
      rw [List.cons_append]
      by_cases hc : c = '.'
      · subst hc
        rw [fraction?, fraction?, spanDigits_append hr]
        dsimp only
        split_ifs <;> rfl
      · rw [fraction?, fraction?]
        · rfl
        · rintro cs' heq
          exact hc (List.cons.inj heq).1
        · rintro cs' heq
          exact hc (List.cons.inj heq).1

/-- The sign of an exponent, and the text after it. -/
def exponentSign : List Char → Bool × List Char
  | '-' :: cs => (true, cs)
  | '+' :: cs => (false, cs)
  | cs => (false, cs)

lemma exponentSign_append (hr : Ends r) (cs : List Char) :
    exponentSign (cs ++ r) = ((exponentSign cs).1, (exponentSign cs).2 ++ r) := by
  cases cs with
  | nil =>
      rcases hr.cases with rfl | ⟨s, rfl⟩ | ⟨s, rfl⟩ <;> rfl
  | cons c cs =>
      rw [List.cons_append, exponentSign.eq_def, exponentSign.eq_def]
      split
      · next heq =>
          cases heq
          rfl
      · next heq =>
          cases heq
          rfl
      · next hminus hplus =>
          split
          · next heq =>
              cases heq
              exact absurd rfl (hminus _)
          · next heq =>
              cases heq
              exact absurd rfl (hplus _)
          · rfl

/-- An exponent after its mark. -/
lemma exponent?_cons (c : Char) (cs : List Char) : exponent? (c :: cs)
    = if c = 'e' || c = 'E' then
        if (spanDigits (exponentSign cs).2).1.isEmpty then none
        else some (some (if (exponentSign cs).1 then
            -(digitsValue (spanDigits (exponentSign cs).2).1 : ℤ)
          else digitsValue (spanDigits (exponentSign cs).2).1), (spanDigits (exponentSign cs).2).2)
      else some (none, c :: cs) :=
  rfl

lemma exponent?_append (hr : Ends r) (cs : List Char) :
    exponent? (cs ++ r) = (exponent? cs).map fun p => (p.1, p.2 ++ r) := by
  cases cs with
  | nil =>
      rcases hr.cases with rfl | ⟨s, rfl⟩ | ⟨s, rfl⟩ <;> rfl
  | cons c cs =>
      rw [List.cons_append, exponent?_cons, exponent?_cons, exponentSign_append hr,
        spanDigits_append hr]
      dsimp only
      split_ifs <;> rfl

/-- The sign of a numeral, and the text after it. -/
def numeralSign : List Char → Bool × List Char
  | '-' :: cs => (true, cs)
  | cs => (false, cs)

lemma numeralSign_append (hr : Ends r) (cs : List Char) :
    numeralSign (cs ++ r) = ((numeralSign cs).1, (numeralSign cs).2 ++ r) := by
  cases cs with
  | nil =>
      rcases hr.cases with rfl | ⟨s, rfl⟩ | ⟨s, rfl⟩ <;> rfl
  | cons c cs =>
      rw [List.cons_append, numeralSign.eq_def, numeralSign.eq_def]
      split
      · next heq =>
          cases heq
          rfl
      · next hminus =>
          split
          · next heq =>
              cases heq
              exact absurd rfl (hminus _)
          · rfl

lemma number?_eq (cs : List Char) : number? cs
    = (whole? (numeralSign cs).2).bind fun w => (fraction? w.2).bind fun f =>
        (exponent? f.2).bind fun e => some (ofNumeral (numeralSign cs).1 w.1 f.1 e.1, e.2) :=
  rfl

/-- **What is read of a numeral does not depend on what follows it.** -/
theorem number?_append (hr : Ends r) (cs : List Char) :
    number? (cs ++ r) = (number? cs).map fun p => (p.1, p.2 ++ r) := by
  rw [number?_eq, number?_eq, numeralSign_append hr, whole?_append hr, Option.bind_map,
    Option.map_bind]
  refine Option.bind_congr fun w _ => ?_
  simp only [Function.comp_apply]
  rw [fraction?_append hr, Option.bind_map, Option.map_bind]
  refine Option.bind_congr fun f _ => ?_
  simp only [Function.comp_apply]
  rw [exponent?_append hr, Option.bind_map, Option.map_bind]
  rfl

/-! ### Naturals -/

/-- Digits are taken up while their value stays a word. -/
lemma absorb_digits (ds : List Char) (c : ℕ) (h : Nat.ofDigitChars 10 ds c < UInt64.size) :
    absorb c ds = (Nat.ofDigitChars 10 ds c, []) := by
  induction ds generalizing c with
  | nil => rfl
  | cons d ds ih =>
      rw [Nat.ofDigitChars_cons] at h ⊢
      have hnext : c * 10 + (d.toNat - '0'.toNat) = 10 * c + (d.toNat - '0'.toNat) := by
        rw [Nat.mul_comm]
      have hle : 10 * c + (d.toNat - '0'.toNat)
          ≤ Nat.ofDigitChars 10 ds (10 * c + (d.toNat - '0'.toNat)) := by
        rw [Nat.ofDigitChars_eq_ofDigitChars_zero]
        exact (Nat.le_mul_of_pos_left _ (by positivity)).trans (Nat.le_add_right _ _)
      rw [absorb, hnext, if_pos (hle.trans_lt h)]
      exact ih _ h

/-- The digits of a positive natural do not begin with a zero. -/
lemma digits_ne_zero_cons {n : ℕ} (hn : 0 < n) (ds : List Char) : digits n ≠ '0' :: ds := by
  induction n using Nat.strong_induction_on generalizing ds with
  | _ n ih =>
      intro h
      rw [digits] at h
      by_cases hten : n < 10
      · rw [Nat.toDigits_of_lt_base hten] at h
        exact hn.ne' (Nat.digitChar_eq_zero.mp (List.cons.inj h).1)
      · rw [Nat.toDigits_of_base_le (by decide) (not_lt.mp hten)] at h
        obtain ⟨c, cs, hcs, -⟩ := head_digits (n / 10)
        rw [digits] at hcs
        rw [hcs, List.cons_append, List.cons.injEq] at h
        exact ih (n / 10) (by omega) (by omega) cs (h.1 ▸ hcs)

lemma whole?_digits (n : ℕ) : whole? (digits n) = some (digits n, []) := by
  have hspan : spanDigits (digits n) = (digits n, []) := by
    have hall : ∀ c ∈ digits n, c.isDigit = true := fun _ => isDigit_of_mem_digits
    rw [spanDigits, List.takeWhile_eq_self_iff.mpr hall, List.dropWhile_eq_nil_iff.mpr hall]
  rw [whole?, hspan]
  obtain rfl | hn := Nat.eq_zero_or_pos n
  · rfl
  · obtain ⟨c, cs, hcs, -⟩ := head_digits n
    have hzero := digits_ne_zero_cons hn cs
    rw [hcs] at hzero ⊢
    dsimp only
    split
    · next heq => cases heq
    · next heq =>
        cases heq
        exact absurd rfl hzero
    · rfl

/-- **A natural of 64 bits is read back from its digits.** -/
theorem number?_nat {n : ℕ} (hn : n < UInt64.size) : number? (integer n) = some (.int n, []) := by
  have hinteger : integer n = digits n := if_neg (by omega)
  have hsign : numeralSign (digits n) = (false, digits n) := by
    obtain ⟨c, cs, hcs, hc⟩ := head_digits n
    rw [hcs, numeralSign]
    rintro cs' heq
    cases heq
    cases hc
  have habsorb : absorb 0 (digits n) = (n, []) := by
    rw [absorb_digits _ _ (by rwa [ofDigitChars_digits]), ofDigitChars_digits]
  rw [hinteger, number?_eq, hsign, whole?_digits, Option.bind_some]
  change some (ofNumeral false (digits n) none none, ([] : List Char)) = _
  rw [ofNumeral, habsorb]
  rfl

end Node

end DiceHost.Json

namespace DiceHost.Numeric.Binary32

open Json

/-! ### Numbers -/

/-- The number that is read from a text. -/
def read? (cs : List Char) : Option Binary32 :=
  (Node.number? cs).bind fun (n, rest) =>
    if rest.isEmpty then (Decoder.single n).toOption else none

lemma read?_eq_some {cs : List Char} {x : Binary32} :
    read? cs = some x ↔ ∃ n, Node.number? cs = some (n, []) ∧ Decoder.single n = .ok x := by
  rw [read?, Option.bind_eq_some_iff]
  constructor
  · rintro ⟨⟨n, rest⟩, hn, h⟩
    dsimp only at h
    split_ifs at h with hrest
    refine ⟨n, by rw [hn, List.isEmpty_iff.mp hrest], ?_⟩
    cases hd : Decoder.single n with
    | error e =>
        rw [hd] at h
        cases h
    | ok y =>
        rw [hd] at h
        cases h
        rfl
  · rintro ⟨n, hn, hd⟩
    refine ⟨(n, []), hn, ?_⟩
    dsimp only
    rw [hd]
    rfl

end DiceHost.Numeric.Binary32
