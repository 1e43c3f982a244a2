/-
Bytes looked up at their places.

* `slice?`, `word16At?`, `word32At?`: bytes and words from a place on, and nothing when one of
  their places holds no byte;
* `bytes16_word16`, `bytes32_word32`: the bytes of a word are those it was made of.

A reader that is built from these look-ups and gives a result has looked at no place outside its
bytes.
-/
import DiceHost.Proofs.DataSet.RoundTrip

namespace DiceHost.DataSet

/-! ### Look-ups -/

/-- A number of bytes from a place on. -/
def slice? (bytes : List UInt8) (place count : ℕ) : Option (List UInt8) :=
  if place + count ≤ bytes.length then some ((bytes.drop place).take count) else none

/-- The word of the two bytes from a place on. -/
def word16At? (bytes : List UInt8) (place : ℕ) : Option UInt16 := do
  return word16 (← bytes[place]?) (← bytes[place + 1]?)

/-- The word of the four bytes from a place on. -/
def word32At? (bytes : List UInt8) (place : ℕ) : Option UInt32 := do
  return word32 (← bytes[place]?) (← bytes[place + 1]?) (← bytes[place + 2]?)
    (← bytes[place + 3]?)

lemma slice?_eq_some {bytes : List UInt8} {place count : ℕ} (h : place + count ≤ bytes.length) :
    slice? bytes place count = some ((bytes.drop place).take count) :=
  if_pos h

/-! ### Words from bytes -/

lemma toUInt8_word16 (a b : UInt8) :
    (word16 a b).toUInt8 = a ∧ (word16 a b >>> 8).toUInt8 = b := by
  have ha := a.toNat_lt
  have hb := b.toNat_lt
  constructor <;> apply UInt8.toNat_inj.mp <;>
    simp only [UInt16.toNat_toUInt8, UInt16.toNat_shiftRight, Nat.shiftRight_eq_div_pow,
      UInt16.reduceToNat, Nat.reduceMod, toNat_word16] <;>
    omega

/-- The bytes of a word of two bytes are these bytes. -/
lemma bytes16_word16 (a b : UInt8) : bytes16 (word16 a b) = [a, b] := by
  obtain ⟨ha, hb⟩ := toUInt8_word16 a b
  rw [bytes16, ha, hb]

lemma toUInt8_word32 (a b c d : UInt8) :
    (word32 a b c d).toUInt8 = a ∧ (word32 a b c d >>> 8).toUInt8 = b
      ∧ (word32 a b c d >>> 16).toUInt8 = c ∧ (word32 a b c d >>> 24).toUInt8 = d := by
  have ha := a.toNat_lt
  have hb := b.toNat_lt
  have hc := c.toNat_lt
  have hd := d.toNat_lt
  refine ⟨?_, ?_, ?_, ?_⟩ <;> apply UInt8.toNat_inj.mp <;>
    simp only [UInt32.toNat_toUInt8, UInt32.toNat_shiftRight, Nat.shiftRight_eq_div_pow,
      UInt32.reduceToNat, Nat.reduceMod, toNat_word32] <;>
    omega

/-- The bytes of a word of four bytes are these bytes. -/
lemma bytes32_word32 (a b c d : UInt8) : bytes32 (word32 a b c d) = [a, b, c, d] := by
  obtain ⟨ha, hb, hc, hd⟩ := toUInt8_word32 a b c d
  rw [bytes32, ha, hb, hc, hd]

end DiceHost.DataSet
