/-
Colours of three 8-bit channels.

* `Color.scaled`: every channel multiplied by a factor, rounded, and held within a byte;
* `Color.display`, `Color.ofText?`: the form `#rrggbb` and its reading.
-/
import DiceHost.Json.Record
import DiceHost.Text.Blank

namespace DiceHost

open Numeric

/-- A colour. -/
structure Color where
  r : UInt8
  g : UInt8
  b : UInt8
deriving DecidableEq, Repr, Inhabited

namespace Color

def red : Color := ⟨255, 0, 0⟩

/-- The product of a channel and a factor, to the nearest value of a byte. -/
def scaleChannel (factor : Binary32) (c : UInt8) : UInt8 :=
  UInt8.ofNat (((Binary32.ofInt c.toNat).mul factor).toNearestNat 255)

/-- The colour with every channel multiplied by a factor. -/
def scaled (c : Color) (factor : Binary32) : Color :=
  ⟨scaleChannel factor c.r, scaleChannel factor c.g, scaleChannel factor c.b⟩

/-- A channel from two characters: two digits, or a plus sign and one digit. -/
def channel? (a b : Char) : Option UInt8 :=
  match Text.Hex.readNat 256 [a, b] with
  | .ok n => some (UInt8.ofNat n)
  | .error _ => none

/-- A colour from three channels after any number of `#`, blanks around it ignored. -/
def ofText? (s : String) : Option Color :=
  match (Text.trim s.toList).dropWhile (· = '#') with
  | [r₁, r₂, g₁, g₂, b₁, b₂] => do
    return ⟨← channel? r₁ r₂, ← channel? g₁ g₂, ← channel? b₁ b₂⟩
  | _ => none

/-- The form `#rrggbb`. -/
def display (c : Color) : String :=
  String.ofList ('#' :: Text.Hex.ofBytes [c.r, c.g, c.b])

/-- A colour as an object. -/
def toJson (c : Color) : Json :=
  .obj [("r", .nat c.r.toNat), ("g", .nat c.g.toNat), ("b", .nat c.b.toNat)]

/-- A colour from an object. -/
def record : Json.Record Color :=
  Color.mk <$> .field "r" Json.Decoder.byte <*> .field "g" Json.Decoder.byte
    <*> .field "b" Json.Decoder.byte

end Color

end DiceHost
