/-
The host service: the library with its cache, the scheduler, and those who follow them.

* `Service`: the library, the cache of compiled data sets, the scheduler, the file of the
  pairings, and the clients of the event stream;
* `Service.start`: the service of some settings and files;
* `Service.update`, `Service.ask`: a change of the library and a request to the scheduler,
  which give events to those who follow;
* `Service.invalidate`, `Service.persist`: the cache and the file of the pairings follow the
  events;
* `Service.settle`: everything that happens in some time.
-/
import DiceHost.DataSet.Cache
import DiceHost.Library.File
import DiceHost.Scheduler.Clock
import DiceHost.Service.Client
import DiceHost.Service.Settings

namespace DiceHost.Service

/-- Why a service cannot be started. -/
inductive StartError where
  | library (e : Library.LoadError)
  | pairings
  | pixel (e : BadPixelId)
  /-- An image of the firmware is missing. -/
  | missingImage

namespace StartError

/-- The error in words. -/
def message : StartError → String
  | library e => e.message
  | pairings => "JSON error"
  | pixel e => e.message
  | missingImage => "No such file or directory (os error 2)"

/-- What lies behind the error, in words. -/
def cause? : StartError → Option String
  | library (.entity e) => some e.message
  | pixel e => some e.reason.message
  | _ => none

/-- The error as an object. -/
def toJson (e : StartError) : Json :=
  match e with
  | library .json | pairings => .obj [("error", .str "JsonError")]
  | missingImage => .obj [("error", .str "IoError")]
  | library (.entity _) | pixel _ => .failure "StateError" e.message

end StartError

/-- What the files hold that a service is started from. A file may be missing. -/
structure Sources where
  library : Option String := none
  pairings : Option String := none
  firmware : Option (List UInt8) := none
  bootloader : Option (List UInt8) := none

end Service

/-- The host service. -/
structure Service where
  settings : Service.Settings
  library : Library
  cache : DataSet.Cache := {}
  /-- The images for dice with outdated firmware. -/
  firmware : Option Link.FirmwareImage
  world : Scheduler.World
  /-- The text of the file of the pairings, if there is one. -/
  pairingsFile : Option String
  /-- The changes of the library that the cache has still to follow. -/
  changes : Service.Inbox LibraryEvent := {}
  /-- The events that the file of the pairings has still to follow. -/
  records : Service.Inbox Scheduler.Event := {}
  clients : List Service.Client := []

namespace Service

open Scheduler

/-! ### Start -/

/-- The dice in range at the start: those that are paired, then those of the settings. -/
def diceInRange (s : Simulation) (pairings : PairingStore) : Except BadPixelId Link.Radio := do
  let paired := if s.includesPaired then pairings.toList else []
  let radio := paired.foldl (fun r p => r.addDie p.pixel {}) ({} : Link.Radio)
  s.dice.foldlM (fun r d => do
    let p ← d.pixel
    return (r.addDie p d.options).adjust (.failNext p d.failing.toNat)) radio

/-- The images that the settings name; the firmware itself has to be there, and the other
one if it is named. -/
def images (s : Settings) (sources : Sources) :
    Except StartError (Option Link.FirmwareImage) :=
  match s.firmware with
  | none => .ok none
  | some files =>
    match sources.firmware, files.bootloader, sources.bootloader with
    | some firmware, none, _ => .ok (some ⟨firmware, none, files.timestamp⟩)
    | some firmware, some _, some bootloader =>
      .ok (some ⟨firmware, some bootloader, files.timestamp⟩)
    | _, _, _ => .error .missingImage

/-- The service of some settings and files. -/
def start (settings : Settings) (sources : Sources) : Except StartError Service := do
  let library ← sources.library.elim (.ok {}) fun text =>
    (Library.load text).mapError .library
  let pairings ← sources.pairings.elim (.ok {}) fun text =>
    (PairingStore.load text).mapError fun _ => .pairings
  let radio ← (diceInRange settings.simulation pairings).mapError .pixel
  let firmware ← images settings sources
  return {
    settings, library, firmware
    world := .start settings.scheduler settings.simulation.connectDelay radio pairings.toList
    pairingsFile := sources.pairings }

/-! ### Events -/

/-- Events of the scheduler are on their way. -/
def tell (s : Service) (events : List Event) : Service :=
  { s with
    records := s.records.pushAll events
    clients := s.clients.map fun c => events.foldl Client.tell c }

/-- The scheduler after a step, with the events that it told. -/
def advance (s : Service) : World × List Event → Service
  | (world, events) => { s with world }.tell events

/-- A request to the scheduler. -/
def ask (s : Service) (r : Scheduler.Request) : Except RequestError Reply × Service :=
  let (reply, x) := s.world.request r
  (reply, s.advance x)

/-- The library has changed. -/
def changed (s : Service) (library : Library) (e : LibraryEvent) : Service :=
  { s with library, changes := s.changes.push e }

/-- The library after an update. -/
def update (s : Service) (u : Library.Update) : Service :=
  s.changed u.library u.event

/-- The data set of a profile, from the cache if it is still good. -/
def compile (s : Service) (u : Uuid) : Except DataSet.CompileError DataSet.Compiled × Service :=
  let (c, cache) := s.cache.getOrCompile u s.library s.settings.compiler
  (c, { s with cache })

/-! ### Following -/

/-- The cache after a notice: entries are dropped that depend on what has changed, and all
if changes were missed. -/
def follow (c : DataSet.Cache) : Notice LibraryEvent → DataSet.Cache
  | .event e => c.applyEvent e
  | .missed _ => c.clear

/-- The cache follows the next change. -/
def invalidate (s : Service) : Service :=
  match s.changes.take? with
  | none => s
  | some (n, changes) => { s with changes, cache := follow s.cache n }

/-- The records that the scheduler keeps, as they are saved. -/
def pairings (s : Service) : PairingStore :=
  s.world.state.pairings.foldl PairingStore.upsert {}

/-- The records are saved. -/
def savePairings (s : Service) : Service :=
  { s with pairingsFile := some s.pairings.save }

/-- Whether a notice makes the records be saved: they have changed, or may have. -/
def callsForSave : Notice Event → Bool
  | .event e => e.changesPairings
  | .missed _ => true

/-- The file of the pairings follows the next event. -/
def persist (s : Service) : Service :=
  match s.records.take? with
  | none => s
  | some (n, records) =>
    let s := { s with records }
    if callsForSave n then s.savePairings else s

/-- Everything on its way arrives. The records are saved once for all events, which is the
same as after each. -/
def deliver (s : Service) : Service :=
  let saves := s.records.notices.any callsForSave
  let s := { s with
    cache := s.changes.notices.foldl follow s.cache
    changes := {}
    records := {}
    clients := s.clients.map Client.hear }
  if saves then s.savePairings else s

/-- Everything that happens in some milliseconds. What was on its way arrives first, and
each event of the scheduler arrives before the next. -/
def settle (s : Service) (ms : Nat) : Service :=
  let s := s.deliver
  let (world, events) := s.world.run ms
  events.foldl (fun s e => (s.tell [e]).deliver) { s with world }

end Service

end DiceHost
