/-
Firmware of dice: whether an update is due, and how far one has come.

* `Availability`: how the firmware of a die compares with the bundled one;
* `FirmwareFiles`: the images that the host has;
* `UpdateState`: the progress of an update.
-/
import DiceHost.Timestamp

namespace DiceHost

/-- How the firmware of a die compares with the bundled one. -/
inductive Availability where
  /-- One of the two times of build is not known. -/
  | unknown
  | outdated
  | upToDate
  | newer
deriving DecidableEq, Repr

namespace Availability

/-- The name of a comparison. -/
def name : Availability → String
  | unknown => "unknown"
  | outdated => "outdated"
  | upToDate => "up_to_date"
  | newer => "newer"

/-- The comparison of two times of build. -/
def compare : Option Timestamp → Option Timestamp → Availability
  | some die, some files =>
    if die.before files then outdated else if files.before die then newer else upToDate
  | _, _ => unknown

/-- A comparison as its name. -/
def toJson (a : Availability) : Json := .str a.name

end Availability

/-- The images of an update. -/
structure FirmwareFiles where
  firmware : String
  /-- An image that is flashed before the firmware. -/
  bootloader : Option String
  timestamp : Timestamp

namespace FirmwareFiles

/-- The number of images that an update writes. -/
def imageCount (f : FirmwareFiles) : Nat :=
  if f.bootloader.isSome then 2 else 1

/-- The images as an object. -/
def toJson (f : FirmwareFiles) : Json :=
  .obj [("firmware_path", .str f.firmware), ("bootloader_path", .opt .str f.bootloader),
    ("timestamp", f.timestamp.toJson)]

/-- The images from an object. -/
def record : Json.Record FirmwareFiles :=
  FirmwareFiles.mk <$> .field "firmware_path" Json.Decoder.string
    <*> .defaulted "bootloader_path" (Json.Decoder.nullable Json.Decoder.string) none
    <*> .field "timestamp" Timestamp.decode

end FirmwareFiles

/-- The progress of an update. -/
inductive UpdateState where
  | pending
  | initializing
  | uploading (progress : UInt8)
  | completed
  | aborted
  | errored (error : String)
deriving DecidableEq, Repr

namespace UpdateState

/-- Whether an update has come to its end. -/
def isTerminal : UpdateState → Bool
  | completed | aborted | errored _ => true
  | _ => false

/-- The progress as an object. -/
def toJson : UpdateState → Json
  | pending => .obj [("state", .str "pending")]
  | initializing => .obj [("state", .str "initializing")]
  | uploading progress =>
    .obj [("state", .str "uploading"), ("progress", .nat progress.toNat)]
  | completed => .obj [("state", .str "completed")]
  | aborted => .obj [("state", .str "aborted")]
  | errored error => .obj [("state", .str "errored"), ("error", .str error)]

/-- The shapes of progress. -/
def variants : List (String × Json.Record UpdateState) :=
  [("pending", pure pending), ("initializing", pure initializing),
    ("uploading", uploading <$> .field "progress" Json.Decoder.byte),
    ("completed", pure completed), ("aborted", pure aborted),
    ("errored", errored <$> .field "error" Json.Decoder.string)]

/-- The progress from an object. -/
def decode : Json.Decoder UpdateState := Json.tagged "state" variants

end UpdateState

end DiceHost
