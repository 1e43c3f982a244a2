/-
How numbers are written.

* `digits`: the decimal digits of a natural;
* `plain`: a numeral without an exponent and without a point where none is needed;
* `Notation`: where a format ends positional notation, and `Notation.write`, which
  marks every number as fractional (`1.0`) and uses an exponent outside that range;
* `Binary32.display`, `Binary32.text`, `Binary64.text`: the numbers of both formats.
-/
import DiceHost.Numeric.Shortest

namespace DiceHost.Numeric

/-- The decimal digits of a natural, the most significant first. -/
def digits (n : Nat) : List Char :=
  Nat.toDigits 10 n

/-- The digits of an integer after its sign. -/
def integer (n : Int) : List Char :=
  if n < 0 then '-' :: digits n.natAbs else digits n.natAbs

/-- A numeral in positional notation. The point stands after the integer digits, and
`always` tells whether it is written when no fraction follows. -/
def positional (always : Bool) (d : Decimal) : List Char :=
  let ds := digits d.coefficient
  let point := (ds.length : Int) + d.exponent
  if 0 ≤ d.exponent then
    ds ++ List.replicate d.exponent.toNat '0' ++ (if always then ['.', '0'] else [])
  else if 0 < point then
    ds.take point.toNat ++ '.' :: ds.drop point.toNat
  else
    '0' :: '.' :: (List.replicate (-point).toNat '0' ++ ds)

/-- A numeral with an exponent: one digit before the point. -/
def scientific (d : Decimal) : List Char :=
  let ds := digits d.coefficient
  let fraction := ds.drop 1
  ds.take 1 ++ (if fraction.isEmpty then [] else '.' :: fraction)
    ++ 'e' :: integer ((ds.length : Int) + d.exponent - 1)

/-- The places of the decimal point, counted from the first digit, at which a format
still writes numbers positionally: after `low` and up to `high`. -/
structure Notation where
  low : Int
  high : Int

/-- A nonzero numeral in the given notation. -/
def Notation.write (n : Notation) (d : Decimal) : List Char :=
  let point := ((digits d.coefficient).length : Int) + d.exponent
  if n.low < point ∧ point ≤ n.high then positional true d else scientific d

namespace Binary32

/-- Numbers of this format are written positionally up to thirteen integer digits and
five zeros after the point. -/
def notation32 : Notation := ⟨-6, 13⟩

/-- The shortest numeral of the magnitude. -/
def shortest (x : Binary32) : Decimal :=
  Format.single.shortest x.magnitude

/-- The text of a finite number in a document: `1.0`, `1e-10`, `-0.0`. -/
def text (x : Binary32) : List Char :=
  (if x.isNegative then ['-'] else [])
    ++ (if x.magnitude = 0 then ['0', '.', '0'] else notation32.write x.shortest)

/-- The text of a number in a message: never an exponent, no needless point. -/
def display (x : Binary32) : String :=
  if x.isNaN then "NaN"
  else
    let body :=
      if x.isFinite then
        if x.magnitude = 0 then ['0'] else positional false x.shortest
      else ['i', 'n', 'f']
    String.ofList (if x.isNegative then '-' :: body else body)

end Binary32

namespace Binary64

/-- Numbers of this format are written positionally up to sixteen integer digits and
four zeros after the point. -/
def notation64 : Notation := ⟨-5, 16⟩

/-- The text of a finite number in a document. -/
def text (x : Binary64) : List Char :=
  (if x.isNegative then ['-'] else [])
    ++ (if x.magnitude = 0 then ['0', '.', '0']
        else notation64.write (Format.double.shortest x.magnitude))

end Binary64

end DiceHost.Numeric
