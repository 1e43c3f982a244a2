/-
JSON documents as they were read.

* `Node`: a value as it stands in a text; an object keeps repeated keys, and a `fault`
  stands where the text holds no value that could be used;
* `Node.read`: the reading of a text, which always gives a node and the text after it;
* `Node.settle`: the same with repeated keys resolved, the last entry of a key winning.

A text that goes wrong is read up to that place: the fault is then the last part of
every array or object that is open there. So a reader of records meets the parts of a
text in their order, and the fault after all that came before it.
-/
import DiceHost.Json.Value

namespace DiceHost.Json

open Numeric

/-- Why a part of a text holds no value. -/
inductive Fault where
  /-- The text stops following the grammar, or ends. -/
  | malformed
  /-- The grammar is followed, but the number is too large, the string holds half of a
  surrogate pair, or the nesting is too deep. -/
  | unusable
deriving DecidableEq, Repr

/-- A value as it stands in a text. -/
inductive Node where
  | null
  | bool (b : Bool)
  | int (n : Int)
  | float (x : Binary64)
  | str (s : String)
  | arr (items : List Node)
  | obj (entries : List (String × Node))
  | fault (f : Fault)
deriving Inhabited

namespace Node

/-! ### Strings -/

/-- A part of a string: a character that stands for itself or has a short escape, or a
16-bit unit given by its digits. -/
inductive Piece where
  | char (c : Char)
  | unit (n : Nat)

/-- The character of a one-letter escape. -/
def escaped? : Char → Option Char
  | '"' => some '"'
  | '\\' => some '\\'
  | '/' => some '/'
  | 'b' => some '\x08'
  | 'f' => some '\x0c'
  | 'n' => some '\n'
  | 'r' => some '\r'
  | 't' => some '\t'
  | _ => none

/-- The pieces up to the closing quote, and the text after it. -/
def pieces? : List Char → Option (List Piece × List Char)
  | [] => none
  | '"' :: cs => some ([], cs)
  | '\\' :: 'u' :: a :: b :: c :: d :: cs =>
    (Text.Hex.nat? [a, b, c, d]).bind fun n =>
      (pieces? cs).map fun (ps, rest) => (.unit n :: ps, rest)
  | '\\' :: e :: cs =>
    (escaped? e).bind fun c =>
      (pieces? cs).map fun (ps, rest) => (.char c :: ps, rest)
  | c :: cs =>
    if c.toNat < 0x20 || c = '\\' then none
    else (pieces? cs).map fun (ps, rest) => (.char c :: ps, rest)

/-- The characters of a string; none when a surrogate stands alone. -/
def join? : List Piece → Option (List Char)
  | [] => some []
  | .char c :: ps => (join? ps).map (c :: ·)
  | .unit n :: ps =>
    if n < 0xd800 || 0xe000 ≤ n then (join? ps).map (Char.ofNat n :: ·)
    else
      match ps with
      | .unit m :: rest =>
        if n < 0xdc00 && 0xdc00 ≤ m && m < 0xe000 then
          (join? rest).map
            (Char.ofNat (0x10000 + (n - 0xd800) * 0x400 + (m - 0xdc00)) :: ·)
        else none
      | _ => none

/-! ### Numbers -/

/-- The digits that a coefficient takes up while it stays a 64-bit word, and the digits
that are left. -/
def absorb (c : Nat) : List Char → Nat × List Char
  | [] => (c, [])
  | d :: ds =>
    let next := c * 10 + (d.toNat - '0'.toNat)
    if next < UInt64.size then absorb next ds else (c, d :: ds)

/-- The value of a numeral. One without fraction and exponent is an integer if it fits
64 bits and is not a negative zero; all else is a binary64 number, if not too large. -/
def ofNumeral (negative : Bool) (whole : List Char) (fraction : Option (List Char))
    (exponent : Option Int) : Node :=
  let (c, left) := absorb 0 whole
  if fraction.isNone && exponent.isNone && left.isEmpty
      && (!negative || (0 < c && c ≤ 0x8000000000000000)) then
    .int (if negative then -(c : Int) else c)
  else
    let places := fraction.getD []
    let (c, dropped) := absorb c places
    let e := (left.length : Int) - (places.length - dropped.length : Nat) + exponent.getD 0
    match Binary64.ofDecimal? negative c e with
    | some x => .float x
    | none => .fault .unusable

/-- The digits that a text starts with, and the rest. -/
def spanDigits (cs : List Char) : List Char × List Char :=
  (cs.takeWhile Char.isDigit, cs.dropWhile Char.isDigit)

/-- The value of a digit sequence. -/
def digitsValue (ds : List Char) : Nat :=
  ds.foldl (fun n d => n * 10 + (d.toNat - '0'.toNat)) 0

/-- The exponent of a numeral, if it has one; none when the mark has no digits. -/
def exponent? : List Char → Option (Option Int × List Char)
  | c :: cs =>
    if c = 'e' || c = 'E' then
      let (negative, cs) := match cs with
        | '-' :: cs => (true, cs)
        | '+' :: cs => (false, cs)
        | cs => (false, cs)
      let (ds, rest) := spanDigits cs
      if ds.isEmpty then none
      else
        let n : Int := digitsValue ds
        some (some (if negative then -n else n), rest)
    else some (none, c :: cs)
  | [] => some (none, [])

/-- The fraction of a numeral, if it has one; none when the point has no digits. -/
def fraction? : List Char → Option (Option (List Char) × List Char)
  | '.' :: cs =>
    let (ds, rest) := spanDigits cs
    if ds.isEmpty then none else some (some ds, rest)
  | cs => some (none, cs)

/-- The digits before the point: a zero stands alone. -/
def whole? (cs : List Char) : Option (List Char × List Char) :=
  let (ds, rest) := spanDigits cs
  match ds with
  | [] => none
  | '0' :: _ :: _ => none
  | _ => some (ds, rest)

/-- A number and the text after it. -/
def number? (cs : List Char) : Option (Node × List Char) := do
  let (negative, cs) := match cs with
    | '-' :: cs => (true, cs)
    | cs => (false, cs)
  let (whole, cs) ← whole? cs
  let (fraction, cs) ← fraction? cs
  let (exponent, cs) ← exponent? cs
  return (ofNumeral negative whole fraction exponent, cs)

/-! ### Documents -/

/-- The white space of the grammar. -/
def isSpace (c : Char) : Bool :=
  c = ' ' || c = '\n' || c = '\t' || c = '\r'

/-- A text without the white space that it starts with. -/
def skip (cs : List Char) : List Char :=
  cs.dropWhile isSpace

/-- A part that was read, and the text after it unless reading stopped there. -/
abbrev Reading (α : Type) := α × Option (List Char)

/-- Reading stops here. -/
def stop : Reading Node := (.fault .malformed, none)

/-- A number, or the end of the reading. -/
def numberOrStop (cs : List Char) : Reading Node :=
  match number? cs with
  | some (n, rest) => (n, some rest)
  | none => stop

/-- A string after its opening quote, or the end of the reading. -/
def stringOrStop (cs : List Char) : Reading Node :=
  match pieces? cs with
  | some (ps, rest) =>
    match join? ps with
    | some s => (.str (String.ofList s), some rest)
    | none => (.fault .unusable, some rest)
  | none => stop

/-- An entry that stands for the end of the reading. -/
def stopEntry : String × Node := ("", .fault .malformed)

/-- A key with the colon after it. -/
def key? : List Char → Option (String × List Char)
  | '"' :: cs => do
    let (ps, rest) ← pieces? cs
    let s ← join? ps
    match skip rest with
    | ':' :: rest => some (String.ofList s, rest)
    | _ => none
  | _ => none

mutual

/-- A value, after white space; `fuel` bounds the characters left. -/
def value : Nat → List Char → Reading Node
  | 0, _ => stop
  | fuel + 1, cs =>
    match skip cs with
    | 'n' :: 'u' :: 'l' :: 'l' :: rest => (.null, some rest)
    | 't' :: 'r' :: 'u' :: 'e' :: rest => (.bool true, some rest)
    | 'f' :: 'a' :: 'l' :: 's' :: 'e' :: rest => (.bool false, some rest)
    | '"' :: rest => stringOrStop rest
    | '[' :: rest =>
      match skip rest with
      | ']' :: rest => (.arr [], some rest)
      | rest => let (items, left) := items fuel rest; (.arr items, left)
    | '\x7b' :: rest =>
      match skip rest with
      | '\x7d' :: rest => (.obj [], some rest)
      | rest => let (entries, left) := entries fuel rest; (.obj entries, left)
    | rest => numberOrStop rest

/-- The items up to the closing bracket. -/
def items : Nat → List Char → Reading (List Node)
  | 0, _ => ([.fault .malformed], none)
  | fuel + 1, cs =>
    match value fuel cs with
    | (n, none) => ([n], none)
    | (n, some rest) =>
      match skip rest with
      | ']' :: rest => ([n], some rest)
      | ',' :: rest => let (ns, left) := items fuel rest; (n :: ns, left)
      | _ => ([n, .fault .malformed], none)

/-- The entries up to the closing brace. -/
def entries : Nat → List Char → Reading (List (String × Node))
  | 0, _ => ([stopEntry], none)
  | fuel + 1, cs =>
    match key? (skip cs) with
    | none => ([stopEntry], none)
    | some (k, rest) =>
      match value fuel rest with
      | (n, none) => ([(k, n)], none)
      | (n, some rest) =>
        match skip rest with
        | '\x7d' :: rest => ([(k, n)], some rest)
        | ',' :: rest => let (es, left) := entries fuel rest; ((k, n) :: es, left)
        | _ => ([(k, n), stopEntry], none)

end

/-- Containers may be nested this deep. -/
def maxDepth : Nat := 127

mutual

/-- The same with every container below a depth made unusable. -/
def limitDepth : Nat → Node → Node
  | depth, .arr items =>
    match depth with
    | 0 => .fault .unusable
    | depth + 1 => .arr (limitItems depth items)
  | depth, .obj entries =>
    match depth with
    | 0 => .fault .unusable
    | depth + 1 => .obj (limitEntries depth entries)
  | _, n => n

/-- The items with every container below a depth made unusable. -/
def limitItems : Nat → List Node → List Node
  | _, [] => []
  | depth, n :: ns => limitDepth depth n :: limitItems depth ns

/-- The entries with every container below a depth made unusable. -/
def limitEntries : Nat → List (String × Node) → List (String × Node)
  | _, [] => []
  | depth, (k, n) :: es => (k, limitDepth depth n) :: limitEntries depth es

end

/-- A text that was read: its value, and whether nothing but white space follows it. -/
structure Document where
  root : Node
  closed : Bool

/-- The reading of a text. Every step of `value`, `items` and `entries` that recurses
twice takes a character, so twice the length is enough fuel. -/
def read (cs : List Char) : Document :=
  let (n, rest) := value (2 * cs.length + 2) cs
  { root := limitDepth maxDepth n
    closed := match rest with
      | none => true
      | some rest => (skip rest).isEmpty }

/-! ### Whole values -/

mutual

/-- Whether the text went wrong somewhere inside. -/
def isBroken : Node → Bool
  | .arr items => anyBroken items
  | .obj entries => anyEntryBroken entries
  | .fault .malformed => true
  | _ => false

/-- Whether the text went wrong inside one of the items. -/
def anyBroken : List Node → Bool
  | [] => false
  | n :: ns => isBroken n || anyBroken ns

/-- Whether the text went wrong inside one of the entries. -/
def anyEntryBroken : List (String × Node) → Bool
  | [] => false
  | (_, n) :: es => isBroken n || anyEntryBroken es

end

mutual

/-- Whether every part can be used. -/
def isUsable : Node → Bool
  | .arr items => allUsable items
  | .obj entries => allEntriesUsable entries
  | .fault _ => false
  | _ => true

/-- Whether every item can be used. -/
def allUsable : List Node → Bool
  | [] => true
  | n :: ns => isUsable n && allUsable ns

/-- Whether every entry can be used. -/
def allEntriesUsable : List (String × Node) → Bool
  | [] => true
  | (_, n) :: es => isUsable n && allEntriesUsable es

end

/-- An entry put in: it takes the place of an entry with the same key. -/
def put (k : String) (n : Node) : List (String × Node) → List (String × Node)
  | [] => [(k, n)]
  | (k', n') :: es => if k = k' then (k, n) :: es else (k', n') :: put k n es

mutual

/-- The value with the last entry of each key in place of all of that key. -/
def settle : Node → Node
  | .arr items => .arr (settleItems items)
  | .obj entries => .obj (settleEntries [] entries)
  | n => n

/-- The items, each settled. -/
def settleItems : List Node → List Node
  | [] => []
  | n :: ns => settle n :: settleItems ns

/-- The entries put in one after the other. -/
def settleEntries (done : List (String × Node)) :
    List (String × Node) → List (String × Node)
  | [] => done
  | (k, n) :: es => settleEntries (put k (settle n) done) es

end

mutual

/-- The value as it would be written. -/
def toJson : Node → Json
  | .null => .null
  | .bool b => .bool b
  | .int n => .int n
  | .float x => .double x
  | .str s => .str s
  | .arr items => .arr (toJsonItems items)
  | .obj entries => .obj (toJsonEntries entries)
  | .fault _ => .null

/-- The items as they would be written. -/
def toJsonItems : List Node → List Json
  | [] => []
  | n :: ns => toJson n :: toJsonItems ns

/-- The entries as they would be written. -/
def toJsonEntries : List (String × Node) → List (String × Json)
  | [] => []
  | (k, n) :: es => (k, toJson n) :: toJsonEntries es

end

/-- The entry of a key. -/
def get? (n : Node) (k : String) : Option Node :=
  match n with
  | .obj entries => (entries.find? (·.1 = k)).map (·.2)
  | _ => none

end Node

end DiceHost.Json
