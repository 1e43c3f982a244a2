/-
Sets of named events, kept in a byte.

* `FlagKind`: the four kinds of sets, each with the names of its bits;
* `Flags`: a set; bits without a name are kept;
* `Flags.text`, `Flags.parse?`: the names joined by ` | ` in ascending bit order, the
  bits without a name last as a hexadecimal number, and the reading of such a list.
-/
import DiceHost.Json.Record
import DiceHost.Text.Blank

namespace DiceHost

/-- What a set of flags tells about. -/
inductive FlagKind where
  | battery
  | connection
  | helloGoodbye
  | faceCompare
deriving DecidableEq, Repr

/-- The names of the bits, from the lowest on. -/
def FlagKind.names : FlagKind → List String
  | battery => ["OK", "LOW", "CHARGING", "DONE", "BAD_CHARGING", "ERROR"]
  | connection => ["CONNECTED", "DISCONNECTED"]
  | helloGoodbye => ["HELLO", "GOODBYE"]
  | faceCompare => ["LESS", "EQUAL", "GREATER"]

/-- A set of flags of one kind. -/
structure Flags (kind : FlagKind) where
  bits : UInt8
deriving DecidableEq, Repr

namespace Flags

variable {kind : FlagKind}

/-- No flag at all. -/
def isEmpty (f : Flags kind) : Bool :=
  f.bits = 0

/-- The union of two sets. -/
def union (f g : Flags kind) : Flags kind :=
  ⟨f.bits ||| g.bits⟩

/-- The set of the flag with a number. -/
def ofIndex (i : Nat) : Flags kind :=
  ⟨1 <<< UInt8.ofNat i⟩

/-! ### Text -/

/-- The names of the flags in a set. -/
def setNames (f : Flags kind) : List String :=
  (kind.names.zipIdx.filter fun (_, i) => f.bits &&& (1 <<< UInt8.ofNat i) ≠ 0).map (·.1)

/-- The bits without a name. -/
def rest (f : Flags kind) : Nat :=
  f.bits.toNat / Nat.pow 2 kind.names.length * Nat.pow 2 kind.names.length

/-- The digits of a byte without leading zeros. -/
def shortHex (n : Nat) : List Char :=
  if n < 16 then [Text.Hex.lowerDigit n] else Text.Hex.lower 2 n

/-- The names and the rest, joined by ` | `. -/
def text (f : Flags kind) : String :=
  let rest := if f.rest = 0 then [] else ["0x" ++ String.ofList (shortHex f.rest)]
  " | ".intercalate (f.setNames ++ rest)

/-- The parts between bars. -/
def split : List Char → List (List Char)
  | [] => [[]]
  | c :: cs =>
    if c = '|' then [] :: split cs
    else
      match split cs with
      | [] => [[c]]
      | p :: ps => (c :: p) :: ps

/-- The flags of one part: a name, or a number marked `0x`. -/
def part? (cs : List Char) : Option (Flags kind) :=
  match cs with
  | '0' :: 'x' :: ds =>
    match Text.Hex.readNat 256 ds with
    | .ok n => some ⟨UInt8.ofNat n⟩
    | .error _ => none
  | cs => (kind.names.findIdx? (·.toList = cs)).map ofIndex

/-- The union of all parts; a blank text has none. -/
def parse? (s : String) : Option (Flags kind) :=
  let cs := s.toList
  if (Text.trim cs).isEmpty then some ⟨0⟩
  else
    (split cs).foldlM (fun (f : Flags kind) part => (part? (Text.trim part)).map f.union) ⟨0⟩

/-- A set as its text. -/
def toJson (f : Flags kind) : Json := .str f.text

/-- A set from its text. -/
def decode : Json.Decoder (Flags kind) := Json.Decoder.text parse?

end Flags

end DiceHost
