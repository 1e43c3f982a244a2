/-
The reading of typed values from JSON documents.

* `Decoder`: a reader of one value; it fails because the text goes wrong (`malformed`)
  or because the value has another type (`mistyped`);
* `Record`: a reader of the entries of an object, built applicatively from `field`,
  `optional` and `defaulted`. A record may also be given as an array of its fields in
  order. Unknown entries are passed over, a repeated field is refused, and of several
  failures the one that stands first in the text is reported;
* `tagged`: a record whose shape is chosen by one of its entries;
* `word`: one of finitely many names.
-/
import DiceHost.Json.Node

namespace DiceHost.Json

open Numeric

/-- Why a value could not be read. -/
inductive DecodeError where
  | malformed
  | mistyped
deriving DecidableEq, Repr

/-- A reader of one value. -/
abbrev Decoder (α : Type) := Node → Except DecodeError α

namespace Decoder

/-- What a node of the wrong type is refused with. -/
def refuse {α : Type} : Node → Except DecodeError α
  | .fault _ => .error .malformed
  | _ => .error .mistyped

/-- A string. -/
def string : Decoder String
  | .str s => .ok s
  | n => refuse n

/-- A truth value. -/
def bool : Decoder Bool
  | .bool b => .ok b
  | n => refuse n

/-- An integer at least zero and below a limit. -/
def natBelow (limit : Nat) : Decoder Nat
  | .int n => if 0 ≤ n ∧ n < limit then .ok n.toNat else .error .mistyped
  | n => refuse n

def byte : Decoder UInt8 := fun n => (natBelow UInt8.size n).map UInt8.ofNat
def word16 : Decoder UInt16 := fun n => (natBelow UInt16.size n).map UInt16.ofNat
def word32 : Decoder UInt32 := fun n => (natBelow UInt32.size n).map UInt32.ofNat
def word64 : Decoder UInt64 := fun n => (natBelow UInt64.size n).map UInt64.ofNat

/-- A natural number of 64 bits. -/
def size : Decoder Nat := natBelow UInt64.size

/-- A number, rounded to the 32-bit format. -/
def single : Decoder Binary32
  | .int n => .ok (.ofInt n)
  | .float x => .ok (.ofBinary64 x)
  | n => refuse n

/-- A number, or the name of one that no text of a number reads as. -/
def singleOrName : Decoder Binary32
  | .str "NaN" => .ok .nan
  | .str "inf" => .ok .infinity
  | .str "-inf" => .ok .negInfinity
  | n => single n

/-- An array. -/
def list {α : Type} (d : Decoder α) : Decoder (List α)
  | .arr items => items.mapM d
  | n => refuse n

/-- A value or `null`. -/
def nullable {α : Type} (d : Decoder α) : Decoder (Option α)
  | .null => .ok none
  | n => (d n).map some

/-- A string that a function accepts. -/
def text {α : Type} (f : String → Option α) : Decoder α
  | .str s =>
    match f s with
    | some x => .ok x
    | none => .error .mistyped
  | n => refuse n

/-- One of finitely many names, as a string or as the only key of an object whose value
is `null`. Another kind of value does not fit the grammar of a name. -/
def word {α : Type} (f : String → Option α) : Decoder α
  | .str s =>
    match f s with
    | some x => .ok x
    | none => .error .mistyped
  | .obj [(k, n)] =>
    match f k, n with
    | some x, .null => .ok x
    | _, .fault _ => .error .malformed
    | _, _ => .error .mistyped
  | _ => .error .malformed

end Decoder

/-! ### Records -/

/-- How the fields of a record are given: by name or by position. -/
inductive Entries where
  | named (entries : List (String × Node))
  | positional (items : List Node)

/-- The number of entries. -/
def Entries.length : Entries → Nat
  | .named es => es.length
  | .positional ns => ns.length

/-- A reader of the fields of a record. `run` takes the position of its first field and
reports a failure with the number of the entry where it arises. -/
structure Record (α : Type) where
  names : List String
  run : Nat → Entries → Except (Nat × DecodeError) α

namespace Record

/-- The result of two readers: of two failures the earlier one. -/
def combine {α β : Type} (f : Except (Nat × DecodeError) (α → β))
    (x : Except (Nat × DecodeError) α) : Except (Nat × DecodeError) β :=
  match f, x with
  | .ok f, .ok x => .ok (f x)
  | .ok _, .error e => .error e
  | .error e, .ok _ => .error e
  | .error e, .error e' => .error (if e'.1 < e.1 then e' else e)

instance : Applicative Record where
  pure x := { names := [], run := fun _ _ => .ok x }
  seq f x :=
    { names := f.names ++ (x ()).names
      run := fun offset es =>
        combine (f.run offset es) ((x ()).run (offset + f.names.length) es) }

/-- What stands for a field, with the number of its entry. A second entry of the same
name is an error at that entry, unless the first one fails before it. -/
def lookup (name : String) : Entries → Nat → Except Nat (Option (Nat × Node))
  | .named es, _ =>
    match es.zipIdx.filter (·.1.1 = name) with
    | [] => .ok none
    | [((_, n), i)] => .ok (some (i, n))
    | _ :: (_, i) :: _ => .error i
  | .positional ns, offset => .ok ((ns[offset]?).map (offset, ·))

/-- A field whose absence from an object or an array has a meaning of its own. -/
def fieldOr {α : Type} (name : String) (d : Decoder α) (absent missing : Option α) :
    Record α where
  names := [name]
  run offset es :=
    match lookup name es offset with
    | .error i =>
      match es with
      | .named entries =>
        match entries.zipIdx.find? (·.1.1 = name) with
        | some ((_, n), first) =>
          match d n with
          | .error e => .error (first, e)
          | .ok _ => .error (i, .mistyped)
        | none => .error (i, .mistyped)
      | .positional _ => .error (i, .mistyped)
    | .ok (some (i, n)) => (d n).mapError (i, ·)
    | .ok none =>
      let fallback := match es with
        | .named _ => absent
        | .positional _ => missing
      match fallback with
      | some x => .ok x
      | none => .error (es.length, .mistyped)

/-- A field that has to be there. -/
def field {α : Type} (name : String) (d : Decoder α) : Record α :=
  fieldOr name d none none

/-- A field that may be `null`, and may be left out of an object. -/
def optional {α : Type} (name : String) (d : Decoder α) : Record (Option α) :=
  fieldOr name (Decoder.nullable d) (some none) none

/-- A field with a value for its absence. -/
def defaulted {α : Type} (name : String) (d : Decoder α) (x : α) : Record α :=
  fieldOr name d (some x) (some x)

/-- The number of the first entry that no field reads and where the text goes wrong. -/
def firstBroken (names : List String) (es : List (String × Node)) : Option Nat :=
  (es.zipIdx.find? fun ((k, n), _) => !names.contains k && n.isBroken).map (·.2)

/-- The record from its entries, all of them looked at. -/
def ofEntries {α : Type} (r : Record α) (es : Entries) : Except DecodeError α :=
  let extra : Option Nat := match es with
    | .named entries => firstBroken r.names entries
    | .positional items => if r.names.length < items.length then some r.names.length else none
  match r.run 0 es, extra with
  | .ok x, none => .ok x
  | .ok _, some _ => .error .malformed
  | .error (_, e), none => .error e
  | .error (i, e), some j => .error (if j < i then .malformed else e)

/-- The record from an object or an array. -/
def decode {α : Type} (r : Record α) : Decoder α
  | .obj entries => r.ofEntries (.named entries)
  | .arr items => r.ofEntries (.positional items)
  | n => Decoder.refuse n

end Record

/-! ### Shapes chosen by a tag -/

/-- The entries of one key, and all others. -/
def splitKey (key : String) (es : List (String × Node)) :
    List Node × List (String × Node) :=
  ((es.filter (·.1 = key)).map (·.2), es.filter (·.1 ≠ key))

/-- The shape that a tag names. -/
def variant? {α : Type} (variants : List (String × Record α)) : Node → Option (Record α)
  | .str s => (variants.find? (·.1 = s)).map (·.2)
  | _ => none

/-- The shape that a tag names or numbers. -/
def variantOrNumber? {α : Type} (variants : List (String × Record α)) :
    Node → Option (Record α)
  | .int n => if n < 0 then none else (variants[n.toNat]?).map (·.2)
  | n => variant? variants n

/-- The entries of an object with exactly one tag among them, read in the shape that the
tag chooses. -/
def taggedEntries {α : Type} (key : String) (choose : Node → Option (Record α))
    (es : List (String × Node)) : Except DecodeError α :=
  match splitKey key es with
  | ([tag], rest) =>
    match choose tag with
    | some r => r.ofEntries (.named rest)
    | none => .error .mistyped
  | _ => .error .mistyped

/-- A value whose shape is chosen by its entry `key`, or by the first item of an array.
The whole of it has to be usable. -/
def tagged {α : Type} (key : String) (variants : List (String × Record α)) : Decoder α :=
  fun n =>
    if n.isUsable then
      match n with
      | .obj es => taggedEntries key (variant? variants) es
      | .arr (tag :: items) =>
        match variant? variants tag with
        | some r => r.ofEntries (.positional items)
        | none => .error .mistyped
      | _ => .error .mistyped
    else .error .malformed

/-! ### Texts -/

/-- A value from a whole text: what follows the value is looked at last. -/
def decodeText {α : Type} (d : Decoder α) (text : List Char) : Except DecodeError α := do
  let doc := Node.read text
  let x ← d doc.root
  if doc.closed then .ok x else .error .malformed

end DiceHost.Json
