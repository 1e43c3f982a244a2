/-
Records of paired dice, and the store that keeps them.

* `Peripheral`: what the host knows of a paired die;
* `PairingStore`: the records in the order of their dice;
* `PairingStore.save`, `PairingStore.load`: its text and the reading of it.
-/
import DiceHost.Die.Kind
import DiceHost.Die.Name
import DiceHost.Timestamp

namespace DiceHost

/-- What the host knows of a paired die. -/
structure Peripheral where
  /-- The name under which the radio of the host knows the die. -/
  systemId : String
  pixel : PixelId
  name : String
  dieKind : DieKind
  /-- The profile programmed last. -/
  profile : Option Uuid
  /-- The hash of the data set that the die acknowledged last. -/
  profileHash : Option UInt32
  /-- When the firmware of the die was built. -/
  firmware : Option Timestamp
  pairedAt : Timestamp
deriving DecidableEq, Repr

namespace Peripheral

/-- A die just paired, under its default name. -/
def new (systemId : String) (pixel : PixelId) (dieKind : DieKind) (now : Timestamp) :
    Peripheral :=
  ⟨systemId, pixel, pixel.defaultName, dieKind, none, none, none, now⟩

/-- Whether the die holds the data set with a hash. -/
def isUpToDate (p : Peripheral) (hash : UInt32) : Bool :=
  p.profileHash = some hash

/-- A record as an object. -/
def toJson (p : Peripheral) : Json :=
  .obj [("system_id", .str p.systemId), ("pixel_id", p.pixel.toJson), ("name", .str p.name),
    ("die_type", p.dieKind.toJson), ("profile_uuid", .opt Uuid.toJson p.profile),
    ("profile_hash", .opt (fun h => .nat h.toNat) p.profileHash),
    ("firmware_timestamp", .opt Timestamp.toJson p.firmware),
    ("paired_at", p.pairedAt.toJson)]

/-- A record from an object. -/
def record : Json.Record Peripheral :=
  Peripheral.mk <$> .field "system_id" Json.Decoder.string <*> .field "pixel_id" PixelId.decode
    <*> .field "name" Json.Decoder.string <*> .field "die_type" DieKind.decode
    <*> .optional "profile_uuid" Uuid.decode
    <*> .optional "profile_hash" Json.Decoder.word32
    <*> .optional "firmware_timestamp" Timestamp.decode
    <*> .field "paired_at" Timestamp.decode

end Peripheral

/-! ### The store -/

/-- Records by the digits of their dice, in ascending order. -/
structure PairingStore where
  version : String := "1.0"
  entries : List (String × Peripheral) := []

namespace PairingStore

/-- A record put in at its place in the order of keys. -/
def insertAt (k : String) (p : Peripheral) :
    List (String × Peripheral) → List (String × Peripheral)
  | [] => [(k, p)]
  | (k', p') :: es =>
    if k = k' then (k, p) :: es
    else if k < k' then (k, p) :: (k', p') :: es
    else (k', p') :: insertAt k p es

/-- The record of a die. -/
def get? (s : PairingStore) (pixel : PixelId) : Option Peripheral :=
  (s.entries.find? (·.1 = pixel.display)).map (·.2)

/-- A record takes the place of the one for its die, or a new place. -/
def upsert (s : PairingStore) (p : Peripheral) : PairingStore :=
  { s with entries := insertAt p.pixel.display p s.entries }

/-- The record of a die leaves the store. -/
def remove (s : PairingStore) (pixel : PixelId) : PairingStore :=
  { s with entries := s.entries.filter (·.1 ≠ pixel.display) }

/-- All records. -/
def toList (s : PairingStore) : List Peripheral :=
  s.entries.map (·.2)

/-- How many records there are. -/
def size (s : PairingStore) : Nat :=
  s.entries.length

/-- A store as a document. -/
def toJson (s : PairingStore) : Json :=
  .obj [("version", .str s.version),
    ("peripherals", .obj (s.entries.map fun (k, p) => (k, p.toJson)))]

/-- Records by key; of several records under one key the last is kept. -/
def decodeEntries : Json.Decoder (List (String × Peripheral))
  | .obj es =>
    es.foldlM (fun done (k, n) => (Peripheral.record.decode n).map (insertAt k · done)) []
  | n => Json.Decoder.refuse n

/-- A store from a document. -/
def record : Json.Record PairingStore :=
  PairingStore.mk <$> .defaulted "version" Json.Decoder.string "1.0"
    <*> .defaulted "peripherals" decodeEntries []

/-- The text of a store. -/
def save (s : PairingStore) : String :=
  String.ofList s.toJson.pretty

/-- The store of a text. -/
def load (text : String) : Except Json.DecodeError PairingStore :=
  Json.decodeText record.decode text.toList

end PairingStore

end DiceHost
