/-
The shapes of dice.

* `DieKind`: the shapes, with their names, numbers of faces and numbers of LEDs;
* `DieKind.ofLedCount`: the shape that a number of LEDs suggests;
* `DieKind.allFaces`: the mask of all faces of a shape.
-/
import DiceHost.Die.Faces
import DiceHost.Json.Record

namespace DiceHost

/-- The shape of a die. -/
inductive DieKind where
  | unknown
  | d4
  | d6
  | d6pipped
  | d6fudge
  | d8
  | d10
  | d00
  | d12
  | d20
deriving DecidableEq, Repr

namespace DieKind

/-- All shapes. -/
def all : List DieKind :=
  [unknown, d4, d6, d6pipped, d6fudge, d8, d10, d00, d12, d20]

/-- The name of a shape. -/
def name : DieKind → String
  | unknown => "unknown"
  | d4 => "d4"
  | d6 => "d6"
  | d6pipped => "d6pipped"
  | d6fudge => "d6fudge"
  | d8 => "d8"
  | d10 => "d10"
  | d00 => "d00"
  | d12 => "d12"
  | d20 => "d20"

/-- The shape of a name. -/
def ofName? (s : String) : Option DieKind :=
  all.find? (·.name = s)

/-- The number of faces. -/
def faceCount : DieKind → Nat
  | unknown => 0
  | d4 => 4
  | d6 | d6pipped | d6fudge => 6
  | d8 => 8
  | d10 | d00 => 10
  | d12 => 12
  | d20 => 20

/-- The number of LEDs. -/
def ledCount : DieKind → Nat
  | unknown => 0
  | d4 | d6 | d6fudge => 6
  | d6pipped => 21
  | d8 => 8
  | d10 | d00 => 10
  | d12 => 12
  | d20 => 20

/-- The shape that a number of LEDs suggests. -/
def ofLedCount : Nat → DieKind
  | 4 => d4
  | 6 => d6
  | 8 => d8
  | 10 => d10
  | 12 => d12
  | 20 => d20
  | 21 => d6pipped
  | _ => unknown

/-- The mask with one bit a face. -/
def allFaces (k : DieKind) : UInt32 :=
  UInt32.ofNat (Nat.pow 2 k.faceCount - 1)

/-- A shape as its name. -/
def toJson (k : DieKind) : Json := .str k.name

/-- A shape from its name. -/
def decode : Json.Decoder DieKind := Json.Decoder.word ofName?

end DieKind

end DiceHost
