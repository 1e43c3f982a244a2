/-
What the scheduler tells of its dice.

* `DieState`: where a die stands;
* `Failure`: what makes a session fail;
* `Event`: what has happened, to a die or to the adapter;
* `RequestError`: why a request is refused.
-/
import DiceHost.Die.Firmware
import DiceHost.Die.Peripheral
import DiceHost.Link.Queue
import DiceHost.Link.Document

namespace DiceHost.Scheduler

open Link

/-- Where a die stands. -/
inductive DieState where
  | idle
  | queued (priority : Priority)
  | connecting
  | connected
  | transferring (kind : PayloadKind)
  /-- The die waits for its next attempt, or has been given up. -/
  | failed (attempts : UInt32) (gaveUp : Bool)
deriving DecidableEq, Repr

namespace DieState

/-- Whether a die has been given up. -/
def isGivenUp : DieState → Bool
  | failed _ true => true
  | _ => false

/-- Whether a die waits for its next attempt. -/
def isBackingOff : DieState → Bool
  | failed _ false => true
  | _ => false

/-- Whether a die waits for a session, in the queue or for its next attempt. -/
def isWaiting : DieState → Bool
  | queued _ => true
  | s => s.isBackingOff

/-- The entries of a state in an object. -/
def fields : DieState → List (String × Json)
  | idle => [("state", .str "idle")]
  | queued p => [("state", .str "queued"), ("priority", p.toJson)]
  | connecting => [("state", .str "connecting")]
  | connected => [("state", .str "connected")]
  | transferring k => [("state", .str "transferring"), ("kind", k.toJson)]
  | failed n gaveUp =>
    [("state", .str "failed"), ("attempts", .nat n.toNat), ("gave_up", .bool gaveUp)]

/-- A state as an object. -/
def toJson (s : DieState) : Json := .obj s.fields

end DieState

/-- What makes a session fail: its connection, or a transfer that broke off. -/
inductive Failure where
  | link (e : LinkError)
  | transfer (e : TransferError)
deriving DecidableEq, Repr

/-- The failure in words. -/
def Failure.message : Failure → String
  | link e => e.message
  | transfer e => e.message

/-- What has happened. -/
inductive Event where
  | stateChanged (pixel : PixelId) (state : DieState)
  | adapterChanged (state : AdapterState)
  | connected (pixel : PixelId)
  | disconnected (pixel : PixelId)
  /-- A connection failed, and the next attempt follows after some milliseconds. -/
  | connectFailed (pixel : PixelId) (attempts : UInt32) (retryIn : Nat) (error : LinkError)
  /-- A die is given up. -/
  | gaveUp (pixel : PixelId) (attempts : UInt32) (error : Failure)
  | progress (pixel : PixelId) (kind : PayloadKind) (percent : Nat)
  | transferIncomplete (pixel : PixelId) (kind : PayloadKind) (attempts : UInt32)
      (error : TransferError)
  | transferFailed (pixel : PixelId) (kind : PayloadKind) (error : TransferError)
  | profileUpToDate (pixel : PixelId) (profile : Uuid) (hash : UInt32)
  | profileProgrammed (pixel : PixelId) (profile : Uuid) (hash : UInt32)
  | firmwareSkipped (pixel : PixelId) (availability : Availability)
  | firmwareUpdated (pixel : PixelId) (timestamp : Timestamp)
  /-- A record has changed. -/
  | peripheralUpdated (peripheral : Peripheral)
  | registered (peripheral : Peripheral)
  | unregistered (pixel : PixelId)
deriving DecidableEq, Repr

namespace Event

/-- The die that an event is about; none if it is about the adapter. -/
def pixel? : Event → Option PixelId
  | adapterChanged _ => none
  | stateChanged p _ | connected p | disconnected p | connectFailed p .. | gaveUp p ..
  | progress p .. | transferIncomplete p .. | transferFailed p ..
  | profileUpToDate p .. | profileProgrammed p .. | firmwareSkipped p _ | firmwareUpdated p _
  | unregistered p => some p
  | peripheralUpdated r | registered r => some r.pixel

/-- Whether the records of dice have changed. -/
def changesPairings : Event → Bool
  | peripheralUpdated _ | registered _ | unregistered _ => true
  | _ => false

/-- An event as an object: its name, the die, and what is told of it. -/
def tell (name : String) (p : PixelId) (fields : List (String × Json)) : Json :=
  .obj (("event", .str name) :: ("pixel", p.toJson) :: fields)

/-- An event as an object. -/
def toJson : Event → Json
  | stateChanged p s => tell "state_changed" p [("state", s.toJson)]
  | adapterChanged s => .obj [("event", .str "adapter_changed"), ("state", s.toJson)]
  | connected p => tell "connected" p []
  | disconnected p => tell "disconnected" p []
  | connectFailed p n retryIn e =>
    tell "connect_failed" p [("attempts", .nat n.toNat), ("retry_in_ms", .nat retryIn),
      ("error", .str e.message)]
  | gaveUp p n e =>
    tell "persistent_failure" p [("attempts", .nat n.toNat), ("error", .str e.message)]
  | progress p k percent =>
    tell "transfer_progress" p [("kind", k.toJson), ("progress", .nat percent)]
  | transferIncomplete p k n e =>
    tell "transfer_incomplete" p [("kind", k.toJson), ("attempts", .nat n.toNat),
      ("error", .str e.message)]
  | transferFailed p k e =>
    tell "transfer_failed" p [("kind", k.toJson), ("error", .str e.message)]
  | profileUpToDate p u h =>
    tell "profile_up_to_date" p [("profile", u.toJson), ("hash", .nat h.toNat)]
  | profileProgrammed p u h =>
    tell "profile_programmed" p [("profile", u.toJson), ("hash", .nat h.toNat)]
  | firmwareSkipped p a => tell "firmware_skipped" p [("availability", a.toJson)]
  | firmwareUpdated p t => tell "firmware_updated" p [("timestamp", t.toJson)]
  | peripheralUpdated r =>
    .obj [("event", .str "peripheral_updated"), ("peripheral", r.toJson)]
  | registered r => .obj [("event", .str "registered"), ("peripheral", r.toJson)]
  | unregistered p => tell "unregistered" p []

/-- Events by die and those of the adapter, each in their order. -/
def grouped (events : List Event) : Json :=
  let key (e : Event) : String := e.pixel?.elim "adapter" PixelId.display
  .obj ((events.map key).eraseDups.map fun k =>
    (k, .list toJson (events.filter fun e => key e = k)))

end Event

/-- Why a request is refused. -/
inductive RequestError where
  | notRegistered (pixel : PixelId)
  | inSession (pixel : PixelId)
  | givenUp (pixel : PixelId)
deriving DecidableEq, Repr

/-- The error in words. -/
def RequestError.message : RequestError → String
  | notRegistered p => "peripheral " ++ p.display ++ " is not registered"
  | inSession p => "peripheral " ++ p.display ++ " is in a session"
  | givenUp p =>
    "peripheral " ++ p.display ++ " gave up after repeated failures; retry it first"

/-- The error as an object. -/
def RequestError.toJson (e : RequestError) : Json :=
  .failure (match e with
    | notRegistered _ => "NotRegistered"
    | inSession _ => "InFlight"
    | givenUp _ => "PersistentFailure") e.message

end DiceHost.Scheduler
