/-
Binary64 numbers as words, and the reading of decimal numerals into them.

* `Binary64`: a word of the 64-bit format;
* `Binary64.ofDecimal?`: a numeral `c · 10 ^ e`, read in two roundings: the coefficient
  first, then one product or quotient with a power of ten.
-/
import DiceHost.Numeric.Format

namespace DiceHost.Numeric

/-- A number of the 64-bit format, by its word. -/
structure Binary64 where
  bits : UInt64
deriving DecidableEq, Repr, Inhabited

namespace Binary64

/-- The number with the given sign and magnitude encoding. -/
def ofParts (negative : Bool) (magnitude : Nat) : Binary64 :=
  ⟨UInt64.ofNat ((if negative then 0x8000000000000000 else 0) + magnitude)⟩

/-- Whether the sign bit is set. -/
def isNegative (x : Binary64) : Bool :=
  0x8000000000000000 ≤ x.bits.toNat

/-- The word without its sign bit. -/
def magnitude (x : Binary64) : Nat :=
  x.bits.toNat % 0x8000000000000000

/-- Neither infinite nor undefined. -/
def isFinite (x : Binary64) : Bool :=
  x.magnitude < Format.double.infinity

/-- The number nearest to a natural. -/
def ofNat (n : Nat) : Binary64 :=
  ofParts false (Format.double.encodeRatio n 1)

/-- The product of a nonnegative finite number and the power of ten `10 ^ k`, the power
itself being rounded first. -/
def scaleUp (w k : Nat) : Nat :=
  let (m, e) := Format.double.decode w
  let (m', e') := Format.double.decode (Format.double.encodeRatio (Nat.pow 10 k) 1)
  Format.double.encodeScaled (m * m') (e + e')

/-- The quotient of a nonnegative finite number by the power of ten `10 ^ k`, the power
itself being rounded first. -/
def scaleDown (w k : Nat) : Nat :=
  let (m, e) := Format.double.decode w
  let (m', e') := Format.double.decode (Format.double.encodeRatio (Nat.pow 10 k) 1)
  let shift := e - e'
  Format.double.encodeRatio (m * Nat.pow 2 shift.toNat) (m' * Nat.pow 2 (-shift).toNat)

/-- The largest power of ten below the overflow threshold. -/
def maxPowerOfTen : Nat := 308

/-- Division by `10 ^ k`, in steps of at most `10 ^ 308` and stopping at zero. -/
def scaleDownBy (w k : Nat) : Nat :=
  if k ≤ maxPowerOfTen then scaleDown w k
  else if w = 0 then 0
  else scaleDownBy (scaleDown w maxPowerOfTen) (k - maxPowerOfTen)
termination_by k
decreasing_by simp only [maxPowerOfTen] at *; omega

/-- The numeral `c · 10 ^ e`; none when it is too large for the format. -/
def ofDecimal? (negative : Bool) (c : Nat) (e : Int) : Option Binary64 :=
  let w := Format.double.encodeRatio c 1
  if e < 0 then some (ofParts negative (scaleDownBy w (-e).toNat))
  else if c = 0 then some (ofParts negative 0)
  else if maxPowerOfTen < e.toNat then none
  else
    let scaled := scaleUp w e.toNat
    if scaled < Format.double.infinity then some (ofParts negative scaled) else none

end Binary64

end DiceHost.Numeric
