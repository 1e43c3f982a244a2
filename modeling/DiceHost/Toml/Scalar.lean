/-
The numbers, dates and times of a configuration file.

* `Scalar.token`: the text that such a value takes up: a day may be followed by a time
  after one blank;
* `integer?`, `float?`, `dateTime?`: the readings of that text;
* `Scalar.ofToken?`: its value. A date or time is told as an object with the only key
  `dateTimeKey`.
-/
import DiceHost.Json.Node
import DiceHost.Timestamp
import DiceHost.Toml.Text

namespace DiceHost.Toml

open Json Numeric

/-! ### Digits -/

/-- The digits of a numeral without the underscores between them: each underscore stands
between two digits. -/
def digits? (isDigit : Char → Bool) : List Char → Option (List Char)
  | [] => none
  | [c] => if isDigit c then some [c] else none
  | c :: '_' :: cs => if isDigit c then (digits? isDigit cs).map (c :: ·) else none
  | c :: cs => if isDigit c then (digits? isDigit cs).map (c :: ·) else none

/-- The digits of a decimal numeral that does not start with a spare zero. -/
def whole? (cs : List Char) : Option (List Char) :=
  (digits? Char.isDigit cs).filter fun ds => ds.length = 1 || ds.head? ≠ some '0'

/-- The sign of a numeral, and the rest of it. -/
def sign : List Char → Bool × List Char
  | '-' :: cs => (true, cs)
  | '+' :: cs => (false, cs)
  | cs => (false, cs)

/-- The value of digits of a base. -/
def valueOf (base : Nat) (ds : List Char) : Nat :=
  ds.foldl (fun n d => n * base + (Text.Hex.digit? d).getD 0) 0

/-! ### Integers -/

/-- A digit below a base. -/
def isDigitOf (base : Nat) (c : Char) : Bool :=
  (Text.Hex.digit? c).any (· < base)

/-- An integer without a sign, in a base that its beginning names. -/
def based? (base : Nat) (cs : List Char) : Option Int :=
  (digits? (isDigitOf base) cs).map fun ds => (valueOf base ds : Int)

/-- An integer of 64 bits. -/
def integer? (cs : List Char) : Option Int :=
  let n : Option Int := match cs with
    | '0' :: 'x' :: cs => based? 16 cs
    | '0' :: 'o' :: cs => based? 8 cs
    | '0' :: 'b' :: cs => based? 2 cs
    | cs =>
      let (negative, cs) := sign cs
      (whole? cs).map fun ds =>
        if negative then -(valueOf 10 ds : Int) else (valueOf 10 ds : Int)
  n.filter fun n => -0x8000000000000000 ≤ n ∧ n < 0x8000000000000000

/-! ### Fractional numbers -/

/-- The number nearest to `c · 10 ^ e`. One far outside the range of the format is known
by the number of its digits. -/
def nearest (negative : Bool) (c : Nat) (e : Int) : Binary64 :=
  let size := (Nat.toDigits 10 c).length + e
  .ofParts negative <|
    if c = 0 ∨ size < -330 then 0
    else if 310 < size then Format.double.infinity
    else Format.double.encodeRatio (c * Nat.pow 10 e.toNat) (Nat.pow 10 (-e).toNat)

/-- The exponent after its mark. -/
def exponent? (cs : List Char) : Option Int :=
  let (negative, cs) := sign cs
  (digits? Char.isDigit cs).map fun ds =>
    if negative then -(valueOf 10 ds : Int) else (valueOf 10 ds : Int)

/-- The parts of a text around the first of some marks. -/
def cut (isMark : Char → Bool) (cs : List Char) : List Char × Option (List Char) :=
  let (before, rest) := cs.span (!isMark ·)
  (before, rest.tail?)

/-- A decimal numeral with a fraction or an exponent. A positive one must not be too large
for the format. -/
def decimal? (cs : List Char) : Option Binary64 := do
  let (negative, cs) := sign cs
  let (mantissa, scale) := cut (fun c => c = 'e' || c = 'E') cs
  let (before, after) := cut (· = '.') mantissa
  if after.isNone && scale.isNone then none
  let ds ← whole? before
  let places ← after.elim (some []) (digits? Char.isDigit)
  let e ← scale.elim (some 0) exponent?
  let x := nearest negative (valueOf 10 (ds ++ places)) (e - places.length)
  if x.isFinite || negative then some x else none

/-- A number that is given by its name. -/
def named? (cs : List Char) : Option Binary64 :=
  let (negative, cs) := sign cs
  match cs with
  | ['i', 'n', 'f'] => some (.ofParts negative Format.double.infinity)
  | ['n', 'a', 'n'] => some (.ofParts negative (Format.double.quietNaN))
  | _ => none

/-- A fractional number. -/
def float? (cs : List Char) : Option Binary64 :=
  (decimal? cs).or (named? cs)

/-! ### Dates and times -/

/-- A number of exactly two digits within bounds, and the text after it. -/
def two? (low high : Nat) : List Char → Option (Nat × List Char)
  | a :: b :: cs =>
    let n := valueOf 10 [a, b]
    if a.isDigit && b.isDigit && low ≤ n && n ≤ high then some (n, cs) else none
  | _ => none

/-- The text after a mark. -/
def after? (isMark : Char → Bool) : List Char → Option (List Char)
  | c :: cs => if isMark c then some cs else none
  | [] => none

/-- The text after a day. -/
def date? : List Char → Option (List Char)
  | a :: b :: c :: d :: '-' :: cs => do
    if !([a, b, c, d].all Char.isDigit) then none
    let (month, cs) ← two? 1 12 cs
    let cs ← after? (· = '-') cs
    let (_, cs) ← two? 1 (Timestamp.daysInMonth (valueOf 10 [a, b, c, d]) month) cs
    return cs
  | _ => none

/-- The text after a time of day: hours, minutes, seconds and perhaps a fraction. -/
def time? (cs : List Char) : Option (List Char) := do
  let (_, cs) ← two? 0 23 cs
  let cs ← after? (· = ':') cs
  let (_, cs) ← two? 0 59 cs
  let cs ← after? (· = ':') cs
  let (_, cs) ← two? 0 60 cs
  match cs with
  | '.' :: cs =>
    let (ds, rest) := cs.span Char.isDigit
    if ds.isEmpty then none else some rest
  | cs => some cs

/-- Whether a text is an offset from UTC, or empty. -/
def isOffset : List Char → Bool
  | [] | ['Z'] | ['z'] => true
  | c :: cs =>
    (c = '+' || c = '-') && (do
      let (_, cs) ← two? 0 23 cs
      let cs ← after? (· = ':') cs
      let (_, cs) ← two? 0 59 cs
      return cs.isEmpty).getD false

/-- Whether a text is a day, a time, or a day with a time and perhaps an offset. -/
def isDateTime (cs : List Char) : Bool :=
  match date? cs with
  | some [] => true
  | some (_ :: rest) => ((time? rest).map isOffset).getD false
  | none => (time? cs).any List.isEmpty

/-- The key under which a date or time is told. -/
def dateTimeKey : String := "date-time"

/-! ### Values -/

namespace Scalar

/-- The characters of numbers, dates and names. -/
def isPart (c : Char) : Bool :=
  c.isAlphanum || c = '_' || c = '-' || c = '+' || c = '.' || c = ':'

/-- The text of a number, date or name, and the text after it. A day may be followed by a
blank and a time. -/
def token (cs : List Char) : List Char × List Char :=
  let (first, rest) := cs.span isPart
  match rest with
  | ' ' :: c :: cs =>
    if c.isDigit && date? first = some [] then
      let (second, rest) := (c :: cs).span isPart
      (first ++ ' ' :: second, rest)
    else (first, rest)
  | _ => (first, rest)

/-- Whether a day and a time are joined by one of the marks that may join them. -/
def isJoined (cs : List Char) : Bool :=
  match date? cs with
  | some (c :: _) => c = 'T' || c = 't' || c = ' '
  | _ => true

/-- The value of a number, date or name. -/
def ofToken? (cs : List Char) : Option Node :=
  match cs with
  | ['t', 'r', 'u', 'e'] => some (.bool true)
  | ['f', 'a', 'l', 's', 'e'] => some (.bool false)
  | cs =>
    if isDateTime cs && isJoined cs then
      some (.obj [(dateTimeKey, .str (String.ofList cs))])
    else ((float? cs).map Node.float).or ((integer? cs).map Node.int)

end Scalar

end DiceHost.Toml
