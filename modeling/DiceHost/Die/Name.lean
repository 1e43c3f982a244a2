/-
Identifiers of dice, the names that dice advertise, and the identifiers of the radio
service that they offer.

* `PixelId`: the number burned into a die;
* `PixelId.display`: eight upper-case digits;
* `PixelId.ofHex?`, `PixelId.parse`: readings of a bare numeral and of one that may be
  marked `0x`;
* `parseAdvertisedName`: the die and its mode, from the name that it advertises until it
  is renamed;
* `expandShortUuid?`: a short radio identifier in full.
-/
import DiceHost.Text.Blank
import DiceHost.Uuid

namespace DiceHost

/-- The number burned into a die. -/
structure PixelId where
  id : UInt32
deriving DecidableEq, Repr, Hashable, Inhabited

namespace PixelId

/-- Eight upper-case digits. -/
def digits (p : PixelId) : List Char :=
  Text.Hex.upper 8 p.id.toNat

/-- The digits as a text. -/
def display (p : PixelId) : String :=
  String.ofList p.digits

/-- The name that a die advertises while it runs its bootloader. -/
def bootloaderName (p : PixelId) : String :=
  "PXL" ++ p.display

/-- The name that a die advertises until it is renamed. -/
def defaultName (p : PixelId) : String :=
  "Pixel" ++ p.display

/-- The die of a numeral of at most eight bytes. -/
def ofHex? (cs : List Char) : Option PixelId :=
  if cs.length ≤ 8 then
    match Text.Hex.readNat UInt32.size cs with
    | .ok n => some ⟨UInt32.ofNat n⟩
    | .error _ => none
  else none

/-- The die of a numeral after any number of marks `0x`. -/
def parse (s : String) : Except Text.Hex.NumeralError PixelId :=
  (Text.Hex.readNat UInt32.size (Text.Hex.dropMarks s.toList)).map fun n => ⟨UInt32.ofNat n⟩

/-- A die as its number. -/
def toJson (p : PixelId) : Json := .nat p.id.toNat

/-- A die from its number. -/
def decode : Json.Decoder PixelId := fun n => (Json.Decoder.word32 n).map PixelId.mk

end PixelId

/-- What a die was running when it advertised. -/
inductive AdvertisedMode where
  | bootloader
  | application
deriving DecidableEq, Repr

/-- The name of a mode. -/
def AdvertisedMode.name : AdvertisedMode → String
  | bootloader => "bootloader"
  | application => "application"

/-- The die and the mode of an advertised name; a renamed die has none. -/
def parseAdvertisedName (name : String) : Option (PixelId × AdvertisedMode) :=
  match Text.stripPrefix? "Pixel".toList name.toList with
  | some rest => (PixelId.ofHex? rest).map (·, .application)
  | none =>
    match Text.stripPrefix? "PXL".toList name.toList with
    | some rest => (PixelId.ofHex? rest).map (·, .bootloader)
    | none => none

namespace Radio

/-- The service that dice offer. -/
def service : Uuid := .ofNat 0xa6b900017a5a43f2a962350c8edc9b5b

/-- The characteristic that a die notifies on. -/
def notifyCharacteristic : Uuid := .ofNat 0xa6b900027a5a43f2a962350c8edc9b5b

/-- The characteristic that the host writes to. -/
def writeCharacteristic : Uuid := .ofNat 0xa6b900037a5a43f2a962350c8edc9b5b

/-- The identifier whose first 32 bits a short identifier fills. -/
def baseTail : Nat := 0x0000000000001000800000805f9b34fb

/-- A short identifier of four or eight digits in full. -/
def expandShortUuid? (s : String) : Option Uuid :=
  let ds := Text.Hex.dropMarks (Text.trim s.toList)
  if ds.length = 4 ∨ ds.length = 8 then
    (Text.Hex.nat? ds).map fun n => .ofNat (n * 0x1000000000000000000000000 + baseTail)
  else none

end Radio

end DiceHost
