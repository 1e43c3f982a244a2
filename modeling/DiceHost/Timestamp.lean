/-
Points in time, to the nanosecond, and their RFC 3339 form.

* `Timestamp`: seconds since 1970 in UTC and nanoseconds; within a leap second the
  nanoseconds go on beyond a whole second;
* `Timestamp.text`: the UTC form with the fewest of 0, 3, 6 or 9 fraction digits;
* `Timestamp.parse?`: the reading of a date, a time and an offset.

Dates follow the proleptic Gregorian calendar. Day numbers are computed with years that
begin in March, so that the leap day is the last of its year.
-/
import DiceHost.Json.Record
import DiceHost.Text.Blank

namespace DiceHost

/-- A point in time. -/
structure Timestamp where
  seconds : Int
  nanos : Nat
deriving DecidableEq, Repr, Inhabited

namespace Timestamp

/-- Earlier than. -/
def before (s t : Timestamp) : Bool :=
  s.seconds < t.seconds || (s.seconds = t.seconds && s.nanos < t.nanos)

/-! ### The calendar -/

/-- Whether a year has a leap day. -/
def isLeap (year : Int) : Bool :=
  year % 4 = 0 && (year % 100 ≠ 0 || year % 400 = 0)

/-- The number of days of a month. -/
def daysInMonth (year : Int) (month : Nat) : Nat :=
  if month = 2 then (if isLeap year then 29 else 28)
  else if month = 4 ∨ month = 6 ∨ month = 9 ∨ month = 11 then 30 else 31

/-- The day number of a date, day zero being the first of 1970. -/
def dayNumber (year : Int) (month day : Nat) : Int :=
  let y := if month ≤ 2 then year - 1 else year
  let era := y / 400
  let yearOfEra := y % 400
  let fromMarch : Int := (month + 9) % 12
  let dayOfYear := (153 * fromMarch + 2) / 5 + day - 1
  era * 146097 + yearOfEra * 365 + yearOfEra / 4 - yearOfEra / 100 + dayOfYear - 719468

/-- The year, month and day of a day number. -/
def civil (days : Int) : Int × Nat × Nat :=
  let z := days + 719468
  let era := z / 146097
  let dayOfEra := z % 146097
  let yearOfEra :=
    (dayOfEra - dayOfEra / 1460 + dayOfEra / 36524 - dayOfEra / 146096) / 365
  let dayOfYear := dayOfEra - (365 * yearOfEra + yearOfEra / 4 - yearOfEra / 100)
  let fromMarch := (5 * dayOfYear + 2) / 153
  let day := dayOfYear - (153 * fromMarch + 2) / 5 + 1
  let month := if fromMarch < 10 then fromMarch + 3 else fromMarch - 9
  let year := yearOfEra + era * 400 + (if month ≤ 2 then 1 else 0)
  (year, month.toNat, day.toNat)

/-- The years that can be told. -/
def yearInRange (year : Int) : Bool :=
  -262143 ≤ year && year ≤ 262142

/-! ### Writing -/

/-- A natural with at least `width` decimal digits. -/
def padded (width n : Nat) : List Char :=
  let ds := Numeric.digits n
  List.replicate (width - ds.length) '0' ++ ds

/-- A year: four digits, or a sign and at least four digits. -/
def yearText (year : Int) : List Char :=
  if 0 ≤ year ∧ year ≤ 9999 then padded 4 year.toNat
  else (if year < 0 then '-' else '+') :: padded 4 year.natAbs

/-- The fraction of a second: the fewest groups of three digits that are exact. -/
def fractionText (nanos : Nat) : List Char :=
  if nanos = 0 then []
  else if nanos % 1000000 = 0 then '.' :: padded 3 (nanos / 1000000)
  else if nanos % 1000 = 0 then '.' :: padded 6 (nanos / 1000)
  else '.' :: padded 9 nanos

/-- The UTC form. -/
def text (t : Timestamp) : String :=
  let (year, month, day) := civil (t.seconds / 86400)
  let s := (t.seconds % 86400).toNat
  let leap := t.nanos / 1000000000
  String.ofList <|
    yearText year ++ '-' :: padded 2 month ++ '-' :: padded 2 day
      ++ 'T' :: padded 2 (s / 3600) ++ ':' :: padded 2 (s / 60 % 60)
      ++ ':' :: padded 2 (s % 60 + leap) ++ fractionText (t.nanos % 1000000000) ++ ['Z']

/-! ### Reading -/

/-- A number of one to `most` digits, and the text after it. -/
def number? (most : Nat) (cs : List Char) : Option (Nat × List Char) :=
  let ds := (cs.take most).takeWhile Char.isDigit
  if ds.isEmpty then none else some (Json.Node.digitsValue ds, cs.drop ds.length)

/-- A number after blanks. -/
def field? (most : Nat) (cs : List Char) : Option (Nat × List Char) :=
  number? most (Text.trimStart cs)

/-- A mark after blanks. -/
def mark? (c : Char) (cs : List Char) : Option (List Char) :=
  match Text.trimStart cs with
  | c' :: rest => if c' = c then some rest else none
  | [] => none

/-- A year: up to four digits, or a sign and any number of digits. -/
def year? (cs : List Char) : Option (Int × List Char) :=
  match Text.trimStart cs with
  | '-' :: rest => (number? rest.length rest).map fun (n, rest) => (-(n : Int), rest)
  | '+' :: rest => (number? rest.length rest).map fun (n, rest) => ((n : Int), rest)
  | cs => (number? 4 cs).map fun (n, rest) => ((n : Int), rest)

/-- The fraction of a second in nanoseconds; digits past the ninth are dropped. -/
def fraction? : List Char → Option (Nat × List Char)
  | '.' :: cs =>
    (number? 9 cs).map fun (n, rest) =>
      (n * Nat.pow 10 (9 - (cs.length - rest.length)), rest.dropWhile Char.isDigit)
  | cs => some (0, cs)

/-- Two digits, the first of them at most `top`. -/
def twoDigits? (top : Char) : List Char → Option (Nat × List Char)
  | a :: b :: rest =>
    if a.isDigit && a ≤ top && b.isDigit then
      some (Json.Node.digitsValue [a, b], rest)
    else none
  | _ => none

/-- An offset from UTC in seconds: `Z`, `UTC`, or a sign, hours and minutes. -/
def offset? (cs : List Char) : Option (Int × List Char) :=
  let isLetter (c : Char) (upper : Char) : Bool := c = upper || c = upper.toLower
  let numeric (sign : Int) (cs : List Char) : Option (Int × List Char) := do
    let (hours, cs) ← twoDigits? '9' cs
    let cs := cs.dropWhile fun c => c = ':' || Text.isBlank c
    let (minutes, cs) ← twoDigits? '5' cs
    if hours < 24 then some (sign * (hours * 3600 + minutes * 60 : Nat), cs) else none
  match cs with
  | 'Z' :: rest => some (0, rest)
  | 'z' :: rest => some (0, rest)
  | '+' :: rest => numeric 1 rest
  | '-' :: rest => numeric (-1) rest
  | '−' :: rest => numeric (-1) rest
  | u :: t :: c :: rest =>
    if isLetter u 'U' && isLetter t 'T' && isLetter c 'C' then some (0, rest) else none
  | _ => none

/-- A date, a time and an offset. Blanks may stand between the parts, and the second 60
is the leap second after 59. -/
def parse? (s : String) : Option Timestamp := do
  let (year, cs) ← year? s.toList
  let cs ← mark? '-' cs
  let (month, cs) ← field? 2 cs
  let cs ← mark? '-' cs
  let (day, cs) ← field? 2 cs
  let cs ← match cs with
    | c :: rest => if c = 'T' || c = 't' || c = ' ' then some rest else none
    | [] => none
  let (hour, cs) ← field? 2 cs
  let cs ← mark? ':' cs
  let (minute, cs) ← field? 2 cs
  let cs ← mark? ':' cs
  let (second, cs) ← field? 2 cs
  let (nanos, cs) ← fraction? cs
  let (offset, cs) ← offset? (Text.trimStart cs)
  let leap := if second = 60 then 1 else 0
  let seconds :=
    dayNumber year month day * 86400
      + (hour * 3600 + minute * 60 + (second - leap) : Nat) - offset
  if yearInRange year && 1 ≤ month && month ≤ 12 && 1 ≤ day && day ≤ daysInMonth year month
      && hour < 24 && minute < 60 && second ≤ 60
      && yearInRange (civil (seconds / 86400)).1 && (Text.trimStart cs).isEmpty then
    some ⟨seconds, nanos + leap * 1000000000⟩
  else none

/-- A point in time as a string. -/
def toJson (t : Timestamp) : Json := .str t.text

/-- A point in time from a string. -/
def decode : Json.Decoder Timestamp := Json.Decoder.text parse?

end Timestamp

end DiceHost
