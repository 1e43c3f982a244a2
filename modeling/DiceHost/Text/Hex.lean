/-
Hexadecimal text.

* `digit?`: the value of a digit of either case;
* `lower`, `upper`: a natural with a fixed number of digits;
* `readNat`: the value of a numeral, with the reason when there is none;
* `dropMarks`: a numeral without the marks before it;
* `bytes?`, `ofBytes`: byte strings, two digits a byte.
-/
namespace DiceHost.Text.Hex

/-- The value of a hexadecimal digit of either case. -/
def digit? (c : Char) : Option Nat :=
  if '0' ≤ c ∧ c ≤ '9' then some (c.toNat - '0'.toNat)
  else if 'a' ≤ c ∧ c ≤ 'f' then some (c.toNat - 'a'.toNat + 10)
  else if 'A' ≤ c ∧ c ≤ 'F' then some (c.toNat - 'A'.toNat + 10)
  else none

/-- The lower-case digit of a value below sixteen. -/
def lowerDigit (n : Nat) : Char :=
  if n < 10 then Char.ofNat ('0'.toNat + n) else Char.ofNat ('a'.toNat + (n - 10))

/-- The upper-case digit of a value below sixteen. -/
def upperDigit (n : Nat) : Char :=
  if n < 10 then Char.ofNat ('0'.toNat + n) else Char.ofNat ('A'.toNat + (n - 10))

/-- The last `width` lower-case digits of a natural. -/
def lower : Nat → Nat → List Char
  | 0, _ => []
  | width + 1, n => lower width (n / 16) ++ [lowerDigit (n % 16)]

/-- The last `width` upper-case digits of a natural. -/
def upper : Nat → Nat → List Char
  | 0, _ => []
  | width + 1, n => upper width (n / 16) ++ [upperDigit (n % 16)]

/-- The value of a digit sequence appended to the digits of `acc`. -/
def foldDigits : Nat → List Char → Option Nat
  | acc, [] => some acc
  | acc, c :: cs => (digit? c).bind fun d => foldDigits (acc * 16 + d) cs

/-- The value of a nonempty digit sequence. -/
def nat? : List Char → Option Nat
  | [] => none
  | cs => foldDigits 0 cs

/-- Why a numeral denotes no 32-bit word. -/
inductive NumeralError where
  | empty
  | invalidDigit
  | tooLarge
deriving DecidableEq, Repr

/-- The reason in words. -/
def NumeralError.message : NumeralError → String
  | .empty => "cannot parse integer from empty string"
  | .invalidDigit => "invalid digit found in string"
  | .tooLarge => "number too large to fit in target type"

/-- The digits are read from the left, and the first one that is wrong or that takes the
value to `limit` or above decides. -/
def readDigits (limit : Nat) : Nat → List Char → Except NumeralError Nat
  | acc, [] => .ok acc
  | acc, c :: cs =>
    match digit? c with
    | none => .error .invalidDigit
    | some d => if acc * 16 + d < limit then readDigits limit (acc * 16 + d) cs
      else .error .tooLarge

/-- The value of a numeral below `limit`: digits after at most one plus sign. A sign
alone is a wrong digit. -/
def readNat (limit : Nat) : List Char → Except NumeralError Nat
  | [] => .error .empty
  | ['+'] => .error .invalidDigit
  | '+' :: cs => readDigits limit 0 cs
  | cs => readDigits limit 0 cs

/-- A text without the marks `0x` that it starts with. -/
def dropMarks : List Char → List Char
  | '0' :: 'x' :: cs => dropMarks cs
  | cs => cs

/-- A byte string from two digits a byte. -/
def bytes? : List Char → Option (List UInt8)
  | [] => some []
  | [_] => none
  | a :: b :: cs =>
    (digit? a).bind fun h => (digit? b).bind fun l =>
      (bytes? cs).map (UInt8.ofNat (16 * h + l) :: ·)

/-- Two lower-case digits a byte. -/
def ofBytes (bs : List UInt8) : List Char :=
  bs.flatMap fun b => lower 2 b.toNat

end DiceHost.Text.Hex
