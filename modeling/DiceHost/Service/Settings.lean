/-
The settings of the host service.

* `Settings`: where the service listens, its files, its limits and its simulated dice;
* `SimulatedDie`: a die to be put in range, by the text of its identifier;
* `Settings.load`: the settings of a configuration file, or the defaults without one.

Every setting has a default, so that an empty file gives the default settings.
-/
import DiceHost.DataSet.Document
import DiceHost.Die.Firmware
import DiceHost.Link.Document
import DiceHost.Scheduler.Config
import DiceHost.Text.Quoted
import DiceHost.Toml.Document

namespace DiceHost.Service

open Json

/-! ### Simulated dice -/

/-- A die to be put in range. -/
structure SimulatedDie where
  /-- The identifier in hexadecimal digits. -/
  pixelId : String
  memory : Option Nat
  maxMessage : Option Nat
  /-- The attempts to connect that fail at first. -/
  failing : UInt32
  /-- The milliseconds that a block takes. -/
  chunkDelay : Nat
deriving DecidableEq, Repr

/-- A text that is no identifier of a die, and why. -/
structure BadPixelId where
  text : String
  reason : Text.Hex.NumeralError
deriving DecidableEq, Repr

/-- The error in words. -/
def BadPixelId.message (e : BadPixelId) : String :=
  "invalid simulated pixel id " ++ Text.quoted e.text

namespace SimulatedDie

/-- The identifier of the die. -/
def pixel (d : SimulatedDie) : Except BadPixelId PixelId :=
  (PixelId.parse d.pixelId).mapError (⟨d.pixelId, ·⟩)

/-- The behaviour of the die. -/
def options (d : SimulatedDie) : Link.DieOptions :=
  let defaults : Link.DieOptions := {}
  { memory := d.memory.getD defaults.memory
    maxMessage := d.maxMessage.getD defaults.maxMessage
    chunkDelay := d.chunkDelay }

/-- A die as an object. -/
def toJson (d : SimulatedDie) : Json :=
  .obj [("pixel_id", .str d.pixelId), ("memory", .opt .nat d.memory),
    ("max_message_size", .opt .nat d.maxMessage),
    ("failing_connects", .nat d.failing.toNat), ("chunk_delay_ms", .nat d.chunkDelay)]

/-- A die from an object. -/
def record : Json.Record SimulatedDie :=
  SimulatedDie.mk <$> .field "pixel_id" Decoder.string
    <*> .optional "memory" Decoder.size
    <*> .optional "max_message_size" Decoder.size
    <*> .defaulted "failing_connects" Decoder.word32 0
    <*> .defaulted "chunk_delay_ms" Decoder.size 0

/-- What is shown of a die: its identifier, or why it has none, and its behaviour. -/
def summary (d : SimulatedDie) : Json :=
  let pixel := match d.pixel with
    | .ok p => p.toJson
    | .error e => .failure "PixelId" e.message
  let o := d.options
  .obj [("pixel", pixel), ("memory", .nat o.memory), ("max_message_size", .nat o.maxMessage),
    ("drop_after_chunks", .opt .nat o.dropAfter), ("chunk_delay_ms", .nat o.chunkDelay)]

end SimulatedDie

/-! ### Settings -/

/-- The radio that the service simulates. -/
structure Simulation where
  /-- The milliseconds that a connection takes. -/
  connectDelay : Nat := 250
  /-- Whether every paired die is put in range. -/
  includesPaired : Bool := true
  dice : List SimulatedDie := []
deriving DecidableEq, Repr

/-- The settings of the service. -/
structure Settings where
  /-- The address where the service listens. -/
  bind : String := "127.0.0.1:8180"
  scheduler : Scheduler.Config := {}
  compiler : DataSet.CompileOptions := {}
  libraryPath : String := "./pixels-library.json"
  pairingPath : String := "./pixels-pairings.json"
  simulation : Simulation := {}
  /-- The images for dice with outdated firmware. -/
  firmware : Option FirmwareFiles := none

/-- The simulation as an object. -/
def Simulation.toJson (s : Simulation) : Json :=
  .obj [("connect_delay_ms", .nat s.connectDelay),
    ("include_pairings", .bool s.includesPaired), ("die", .list SimulatedDie.toJson s.dice)]

/-- The simulation from an object. -/
def Simulation.record : Json.Record Simulation :=
  Simulation.mk <$> .defaulted "connect_delay_ms" Decoder.size 250
    <*> .defaulted "include_pairings" Decoder.bool true
    <*> .defaulted "die" (Decoder.list SimulatedDie.record.decode) []

namespace Settings

/-- The settings as an object of sections. -/
def toJson (s : Settings) : Json :=
  .obj [("daemon", .obj [("bind", .str s.bind)]), ("scheduler", s.scheduler.toJson),
    ("compiler", s.compiler.toJson), ("library", .obj [("path", .str s.libraryPath)]),
    ("pairing", .obj [("path", .str s.pairingPath)]), ("simulation", s.simulation.toJson),
    ("firmware", .opt FirmwareFiles.toJson s.firmware)]

/-- A section that holds one text. -/
def oneText (name key default : String) : Json.Record String :=
  .defaulted name (Record.decode (.defaulted key Decoder.string default)) default

/-- The settings from an object of sections. -/
def record : Json.Record Settings :=
  let d : Settings := {}
  Settings.mk <$> oneText "daemon" "bind" d.bind
    <*> .defaulted "scheduler" Scheduler.Config.record.decode d.scheduler
    <*> .defaulted "compiler" DataSet.CompileOptions.record.decode d.compiler
    <*> oneText "library" "path" d.libraryPath
    <*> oneText "pairing" "path" d.pairingPath
    <*> .defaulted "simulation" Simulation.record.decode d.simulation
    <*> .defaulted "firmware" (Decoder.nullable FirmwareFiles.record.decode) none

/-- The settings of a configuration file; without a file all have their defaults. -/
def load : Option String → Option Settings
  | none => some {}
  | some text => (Toml.read? text.toList).bind fun n => (record.decode n).toOption

end Settings

end DiceHost.Service
