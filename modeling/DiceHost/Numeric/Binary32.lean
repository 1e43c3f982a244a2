/-
Binary32 numbers as words, with the arithmetic that colours, times and settings need.

* `Binary32`: a word of the 32-bit format;
* `ofInt`, `ofBinary64`: the nearest number;
* `toBinary64`: the same number in the wider format;
* `le`, `lt`: the numeric order, in which no undefined number takes part;
* `mul`: the rounded product;
* `toNearestNat`: the nearest natural, halves going up, held within a bound.
-/
import DiceHost.Numeric.Binary64

namespace DiceHost.Numeric

/-- A number of the 32-bit format, by its word. -/
structure Binary32 where
  bits : UInt32
deriving DecidableEq, Repr, Inhabited

namespace Binary32

/-- The number with the given sign and magnitude encoding. -/
def ofParts (negative : Bool) (magnitude : Nat) : Binary32 :=
  ⟨UInt32.ofNat ((if negative then 0x80000000 else 0) + magnitude)⟩

/-- Whether the sign bit is set. -/
def isNegative (x : Binary32) : Bool :=
  0x80000000 ≤ x.bits.toNat

/-- The word without its sign bit. -/
def magnitude (x : Binary32) : Nat :=
  x.bits.toNat % 0x80000000

/-- Not a number. -/
def isNaN (x : Binary32) : Bool :=
  Format.single.infinity < x.magnitude

/-- Neither infinite nor undefined. -/
def isFinite (x : Binary32) : Bool :=
  x.magnitude < Format.single.infinity

def nan : Binary32 := ofParts false Format.single.quietNaN
def infinity : Binary32 := ofParts false Format.single.infinity
def negInfinity : Binary32 := ofParts true Format.single.infinity

/-- The number nearest to an integer. -/
def ofInt (n : Int) : Binary32 :=
  ofParts (n < 0) (Format.single.encodeRatio n.natAbs 1)

/-- The number nearest to a binary64 number, overflow going to infinity. -/
def ofBinary64 (x : Binary64) : Binary32 :=
  if x.isFinite then
    let (m, e) := Format.double.decode x.magnitude
    ofParts x.isNegative (Format.single.encodeScaled m e)
  else if x.magnitude = Format.double.infinity then ofParts x.isNegative Format.single.infinity
  else nan

/-- The same number in the 64-bit format. -/
def toBinary64 (x : Binary32) : Binary64 :=
  .ofParts x.isNegative <|
    if x.isFinite then
      let (m, e) := Format.single.decode x.magnitude
      Format.double.encodeScaled m e
    else if x.isNaN then Format.double.quietNaN
    else Format.double.infinity

def zero : Binary32 := ofInt 0
def one : Binary32 := ofInt 1

/-- The place of a number in the numeric order; both zeros have the same. -/
def rank (x : Binary32) : Int :=
  if x.isNegative then -(x.magnitude : Int) else x.magnitude

/-- The numeric `≤`, false when either side is undefined. -/
def le (x y : Binary32) : Bool :=
  !x.isNaN && !y.isNaN && x.rank ≤ y.rank

/-- The numeric `<`, false when either side is undefined. -/
def lt (x y : Binary32) : Bool :=
  !x.isNaN && !y.isNaN && x.rank < y.rank

/-- The rounded product. Zero times infinity is undefined. -/
def mul (x y : Binary32) : Binary32 :=
  let negative := x.isNegative != y.isNegative
  if x.isNaN || y.isNaN then nan
  else if x.isFinite && y.isFinite then
    let (m, e) := Format.single.decode x.magnitude
    let (m', e') := Format.single.decode y.magnitude
    ofParts negative (Format.single.encodeScaled (m * m') (e + e'))
  else if x.magnitude = 0 || y.magnitude = 0 then nan
  else ofParts negative Format.single.infinity

/-- `m * 2 ^ e` rounded to the nearest natural, halves going up. -/
def roundHalfUp (m : Nat) (e : Int) : Nat :=
  (2 * m * Nat.pow 2 e.toNat + Nat.pow 2 (-e).toNat) / (2 * Nat.pow 2 (-e).toNat)

/-- The nearest natural, halves going up, held within `[0, limit]`; an undefined number
counts as zero. -/
def toNearestNat (limit : Nat) (x : Binary32) : Nat :=
  if x.isNaN || x.isNegative then 0
  else if x.isFinite then
    let (m, e) := Format.single.decode x.magnitude
    min limit (roundHalfUp m e)
  else limit

end Binary32

end DiceHost.Numeric
