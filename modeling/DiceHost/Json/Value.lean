/-
JSON documents to be written, and their two written forms.

* `Json`: a value; objects keep the order of their entries, and a fractional number
  keeps the format whose shortest digits it is written with;
* `Json.compact`: without any white space;
* `Json.pretty`: one entry a line, two spaces a level, a blank after each colon.
-/
import DiceHost.Numeric.Notation
import DiceHost.Text.Hex

namespace DiceHost

open Numeric

/-- A value to be written as JSON. -/
inductive Json where
  | null
  | bool (b : Bool)
  | int (n : Int)
  | single (x : Binary32)
  | double (x : Binary64)
  | str (s : String)
  | arr (items : List Json)
  | obj (entries : List (String × Json))
deriving Inhabited

namespace Json

/-- A natural number as a value. -/
def nat (n : Nat) : Json := .int n

/-- An absent value is written as `null`. -/
def opt {α : Type} (f : α → Json) : Option α → Json
  | none => .null
  | some x => f x

/-- A list of values. -/
def list {α : Type} (f : α → Json) (xs : List α) : Json := .arr (xs.map f)

/-- A failure as an object: its kind, what else is known of it, and its words. -/
def failure (kind message : String) (details : List (String × Json) := []) : Json :=
  .obj ([("error", .str kind)] ++ details ++ [("message", .str message)])

/-- The entries of an object; any other value has none. -/
def entries : Json → List (String × Json)
  | .obj es => es
  | _ => []

mutual

/-- The value with every number of the 32-bit format in the 64-bit format. -/
def widen : Json → Json
  | .single x => .double x.toBinary64
  | .arr items => .arr (widenItems items)
  | .obj entries => .obj (widenEntries entries)
  | j => j

/-- The items with their numbers in the 64-bit format. -/
def widenItems : List Json → List Json
  | [] => []
  | j :: js => j.widen :: widenItems js

/-- The entries with their numbers in the 64-bit format. -/
def widenEntries : List (String × Json) → List (String × Json)
  | [] => []
  | (k, j) :: es => (k, j.widen) :: widenEntries es

end

/-! ### Text inside quotes -/

/-- A character of a string: quotes, backslashes and control characters are escaped, all
else stands for itself. -/
def escape (c : Char) : List Char :=
  if c = '"' then ['\\', '"']
  else if c = '\\' then ['\\', '\\']
  else if c = '\n' then ['\\', 'n']
  else if c = '\r' then ['\\', 'r']
  else if c = '\t' then ['\\', 't']
  else if c = '\x08' then ['\\', 'b']
  else if c = '\x0c' then ['\\', 'f']
  else if c.toNat < 0x20 then '\\' :: 'u' :: Text.Hex.lower 4 c.toNat
  else [c]

/-- A string between quotes. -/
def quote (s : String) : List Char :=
  '"' :: (s.toList.flatMap escape ++ ['"'])

/-- A value without parts. A number that is infinite or undefined is written as `null`. -/
def scalar : Json → List Char
  | .bool true => ['t', 'r', 'u', 'e']
  | .bool false => ['f', 'a', 'l', 's', 'e']
  | .int n => integer n
  | .single x => if x.isFinite then x.text else ['n', 'u', 'l', 'l']
  | .double x => if x.isFinite then x.text else ['n', 'u', 'l', 'l']
  | .str s => quote s
  | _ => ['n', 'u', 'l', 'l']

/-! ### The compact form -/

mutual

/-- A value without white space. -/
def compact : Json → List Char
  | .arr items => '[' :: (compactItems items ++ [']'])
  | .obj entries => '\x7b' :: (compactEntries entries ++ ['\x7d'])
  | j => scalar j

/-- Items parted by commas. -/
def compactItems : List Json → List Char
  | [] => []
  | [j] => compact j
  | j :: js => compact j ++ ',' :: compactItems js

/-- Entries parted by commas. -/
def compactEntries : List (String × Json) → List Char
  | [] => []
  | [(k, j)] => quote k ++ ':' :: compact j
  | (k, j) :: es => quote k ++ ':' :: (compact j ++ ',' :: compactEntries es)

end

/-! ### The indented form -/

/-- A new line at a level. -/
def newline (level : Nat) : List Char :=
  '\n' :: List.replicate (2 * level) ' '

mutual

/-- A value that starts at a level; an empty array or object stays on its line. -/
def prettyAt (level : Nat) : Json → List Char
  | .arr [] => ['[', ']']
  | .obj [] => ['\x7b', '\x7d']
  | .arr items => '[' :: (prettyItems (level + 1) items ++ (newline level ++ [']']))
  | .obj entries =>
    '\x7b' :: (prettyEntries (level + 1) entries ++ (newline level ++ ['\x7d']))
  | j => scalar j

/-- Items, each on a line of its own. -/
def prettyItems (level : Nat) : List Json → List Char
  | [] => []
  | [j] => newline level ++ prettyAt level j
  | j :: js => newline level ++ (prettyAt level j ++ ',' :: prettyItems level js)

/-- Entries, each on a line of its own. -/
def prettyEntries (level : Nat) : List (String × Json) → List Char
  | [] => []
  | [(k, j)] => newline level ++ (quote k ++ ':' :: ' ' :: prettyAt level j)
  | (k, j) :: es =>
    newline level
      ++ (quote k ++ ':' :: ' ' :: (prettyAt level j ++ ',' :: prettyEntries level es))

end

/-- The indented form. -/
def pretty (j : Json) : List Char :=
  prettyAt 0 j

end Json

end DiceHost
