/-
Binary interchange formats and the rounding of exact ratios into them.

* `Format`: a format, given by the widths of its fraction and exponent fields;
* `Format.encodeRatio`: the encoding nearest to a ratio of naturals, a tie going to
  the even neighbour, an overflow to infinity;
* `Format.decode`: the exact value of a finite encoding, as an integer times a power
  of two.

Signs are kept apart: an encoding here is the word without its sign bit.
-/
namespace DiceHost.Numeric

/-- A binary interchange format: the widths of its two magnitude fields. -/
structure Format where
  fraction : Nat
  exponent : Nat

namespace Format

/-- The 32-bit format. -/
def single : Format := ⟨23, 8⟩

/-- The 64-bit format. -/
def double : Format := ⟨52, 11⟩

/-- The encoding of infinity; every larger one is not a number. -/
def infinity (f : Format) : Nat :=
  (Nat.pow 2 f.exponent - 1) * Nat.pow 2 f.fraction

/-- The encoding that stands for what is not a number. -/
def quietNaN (f : Format) : Nat :=
  f.infinity + Nat.pow 2 (f.fraction - 1)

/-- The power of two that the last place of a subnormal number stands for. -/
def minExponent (f : Format) : Int :=
  2 - Nat.pow 2 (f.exponent - 1) - f.fraction

/-- The quotient rounded to the nearest natural, a tie going to the even one. -/
def roundDiv (num den : Nat) : Nat :=
  let q := num / den
  let r := num % den
  if 2 * r < den then q else if den < 2 * r then q + 1 else q + q % 2

/-- The greatest `k` with `2 ^ k ≤ num / den`, for positive operands. -/
def floorLog2 (num den : Nat) : Int :=
  let k : Int := (Nat.log2 num : Int) - (Nat.log2 den : Int)
  if num * Nat.pow 2 (-k).toNat < den * Nat.pow 2 k.toNat then k - 1 else k

/-- The encoding nearest to `num / den`. The last place of the result has the weight
`2 ^ e`; a carry out of the fraction field lands in the exponent field, which is the
next binade, and past the last binade in infinity. -/
def encodeRatio (f : Format) (num den : Nat) : Nat :=
  if num = 0 then 0
  else
    let e := max f.minExponent (floorLog2 num den - f.fraction)
    let q := roundDiv (num * Nat.pow 2 (-e).toNat) (den * Nat.pow 2 e.toNat)
    min f.infinity ((e - f.minExponent).toNat * Nat.pow 2 f.fraction + q)

/-- The encoding nearest to `m * 2 ^ e`. -/
def encodeScaled (f : Format) (m : Nat) (e : Int) : Nat :=
  f.encodeRatio (m * Nat.pow 2 e.toNat) (Nat.pow 2 (-e).toNat)

/-- The value `m * 2 ^ e` of a finite encoding, as the pair `(m, e)`. -/
def decode (f : Format) (w : Nat) : Nat × Int :=
  let biased := w / Nat.pow 2 f.fraction
  let frac := w % Nat.pow 2 f.fraction
  if biased = 0 then (frac, f.minExponent)
  else (Nat.pow 2 f.fraction + frac, f.minExponent + (biased - 1 : Nat))

end Format

end DiceHost.Numeric
