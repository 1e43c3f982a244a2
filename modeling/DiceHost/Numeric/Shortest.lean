/-
The shortest decimal numeral that reads back as a given binary number.

* `Decimal`: a coefficient and a power of ten;
* `Format.shortest`: among the numerals that round to a finite encoding, one with the
  fewest digits, and of those the nearest.

A finite encoding stands for all reals that round to it: the interval between the two
midpoints to its neighbours, ends included exactly when its last bit is zero. The
numerals with `n` digits form a grid, and only the two points of the grid next to the
exact value have to be tried.
-/
import DiceHost.Numeric.Binary32

namespace DiceHost.Numeric

/-- The numeral `coefficient · 10 ^ exponent`. -/
structure Decimal where
  coefficient : Nat
  exponent : Int
deriving DecidableEq, Repr

namespace Decimal

/-- The same number without trailing zeros in the coefficient; `fuel` bounds their
number. -/
def strip : Nat → Decimal → Decimal
  | 0, d => d
  | fuel + 1, d =>
    if d.coefficient ≠ 0 ∧ d.coefficient % 10 = 0 then
      strip fuel ⟨d.coefficient / 10, d.exponent + 1⟩
    else d

end Decimal

namespace Format

/-- The greatest `k` with `10 ^ k ≤ num / den`, for positive operands. -/
def floorLog10 (num den : Nat) : Int :=
  let guess : Int := floorLog2 num den * 30103 / 100000
  let reaches (k : Int) : Bool := den * Nat.pow 10 k.toNat ≤ num * Nat.pow 10 (-k).toNat
  if reaches (guess + 1) then guess + 1 else if reaches guess then guess else guess - 1

/-- The interval of reals that round to an encoding, all three of lower end, value and
upper end over one denominator. The lower neighbour of a power of two is half as far
away, except below the first normal binade. -/
structure Interval where
  lower : Nat
  value : Nat
  upper : Nat
  den : Nat
  closed : Bool

/-- The interval of an encoding, in quarters of the last place. -/
def interval (f : Format) (w : Nat) : Interval :=
  let (m, e) := f.decode w
  let e := e - 2
  let scale := Nat.pow 2 e.toNat
  let narrow := w % Nat.pow 2 f.fraction = 0 ∧ Nat.pow 2 f.fraction < w
  { lower := (if narrow then 4 * m - 1 else 4 * m - 2) * scale
    value := 4 * m * scale
    upper := (4 * m + 2) * scale
    den := Nat.pow 2 (-e).toNat
    closed := m % 2 = 0 }

/-- Whether `c · 10 ^ g` lies in the interval. -/
def Interval.contains (i : Interval) (c : Nat) (g : Int) : Bool :=
  let x := c * Nat.pow 10 g.toNat * i.den
  let scale := Nat.pow 10 (-g).toNat
  if i.closed then i.lower * scale ≤ x && x ≤ i.upper * scale
  else i.lower * scale < x && x < i.upper * scale

/-- The grid point next to the value on the grid `10 ^ g` that lies in the interval; of
two the nearer, and of two equally near the even one. -/
def Interval.nearest? (i : Interval) (g : Int) : Option Nat :=
  let num := i.value * Nat.pow 10 (-g).toNat
  let den := i.den * Nat.pow 10 g.toNat
  let below := num / den
  let twice := 2 * (num % den)
  match i.contains below g && 0 < below, i.contains (below + 1) g with
  | true, true =>
    some (if twice < den || (twice = den && below % 2 = 0) then below else below + 1)
  | true, false => some below
  | false, true => some (below + 1)
  | false, false => none

/-- The first grid with a hit, from the coarsest on; `fuel` bounds the number of grids. -/
def Interval.search (i : Interval) : Nat → Int → Decimal
  | 0, g => ⟨i.value * Nat.pow 10 (-g).toNat / (i.den * Nat.pow 10 g.toNat), g⟩
  | fuel + 1, g =>
    match i.nearest? g with
    | some c => ⟨c, g⟩
    | none => search i fuel (g - 1)

/-- The shortest numeral of a finite encoding. Seventeen digits are enough for the
64-bit format, so a hit comes within twenty grids. -/
def shortest (f : Format) (w : Nat) : Decimal :=
  if w = 0 then ⟨0, 0⟩
  else
    let i := f.interval w
    Decimal.strip 20 (i.search 20 (floorLog10 i.value i.den))

end Format

end DiceHost.Numeric
