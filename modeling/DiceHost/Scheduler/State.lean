/-
The state that the parts of the scheduler share.

* `State`: the members, the queue, the recorded state of the adapter, and whether a session
  may write firmware;
* `Change`: what a part of the scheduler does to the state in one go: the state after it,
  the events told, and whether the dispatcher is woken;
* `State.enqueue`, `State.schedule`: a member is made to wait for a session;
* `State.takeNext`: the session that the dispatcher starts.
-/
import DiceHost.Scheduler.Member

namespace DiceHost.Scheduler

open Link

/-- The more urgent of two priorities that may be missing. -/
def strongest : Option Priority → Option Priority → Option Priority
  | none, q => q
  | p, none => p
  | some p, some q => some (p.max q)

/-- What the parts of the scheduler share. -/
structure State where
  members : PixelMap Member := {}
  queue : Queue := {}
  /-- The state of the adapter as seen last. -/
  adapter : AdapterState := .poweredOn
  /-- Whether a session holds the right to write firmware. -/
  dfuActive : Bool := false
  /-- The number of requests for jobs so far. -/
  lastSeq : Nat := 0
deriving DecidableEq, Repr

/-- What a part of the scheduler does in one go. -/
structure Change where
  state : State
  events : List Event := []
  /-- Whether the dispatcher is woken. -/
  wakes : Bool := false

namespace State

/-- The state with nothing queued. -/
def start (adapter : AdapterState) (pairings : List Peripheral) : State where
  members := .ofList (·.peripheral.pixel) (pairings.map fun peripheral => { peripheral })
  adapter := adapter

/-- A member. -/
def member? (s : State) (p : PixelId) : Option Member :=
  s.members.get? p

/-- The state with a member changed. -/
def modify (s : State) (p : PixelId) (f : Member → Member) : State :=
  { s with members := s.members.modify p f }

/-- The records of the dice that are not to be forgotten. -/
def pairings (s : State) : List Peripheral :=
  (s.members.values.filter (!·.removed)).map (·.peripheral)

/-- What is shown of the whole state. -/
def toJson (s : State) : Json :=
  .obj [("adapter", s.adapter.toJson), ("dfu_active", .bool s.dfuActive),
    ("queue", s.queue.toJson), ("peripherals", .list Member.toJson s.members.values)]

/-! ### Queueing -/

/-- A member waits in the queue; in a session the priority is kept for its end. -/
def enqueue (s : State) (p : PixelId) (priority : Priority) : State × List Event :=
  match s.member? p with
  | none => (s, [])
  | some m =>
    if m.inFlight then
      (s.modify p fun m =>
        { m with requeueAfter := strongest m.requeueAfter (some priority) }, [])
    else
      let queue := (s.queue.enqueue p priority).1
      let state := DieState.queued ((queue.priority? p).getD priority)
      if m.state = state then ({ s with queue }, [])
      else ({ s with queue }.modify p fun m => { m with state }, [.stateChanged p state])

/-- A member is to have a session. One that waits for its next attempt is queued at once
only by an urgent request; otherwise its timer queues it. -/
def schedule (s : State) (p : PixelId) (priority : Priority) : State × List Event :=
  match s.member? p with
  | none => (s, [])
  | some m =>
    if m.state.isBackingOff && priority = .low && !m.inFlight then (s, [])
    else s.enqueue p priority

/-- Whether a member may have a session now: firmware alone waits for a running update. -/
def isEligible (s : State) (p : PixelId) : Bool :=
  (s.member? p).any fun m => !(s.dfuActive && m.hasFirmwareOnly)

/-- The next session, if the adapter is ready and an eligible member waits. The session
may write firmware if there is some and no other session may. -/
def takeNext (s : State) : Option ((PixelId × Priority) × Change) :=
  if s.adapter.isReady then
    match s.queue.popWhere s.isEligible with
    | none => none
    | some ((p, priority), queue) =>
      let reserves := (s.member? p).any (·.firmwareJob.isSome) && !s.dfuActive
      let s := { s with queue, dfuActive := s.dfuActive || reserves }
      let s := s.modify p fun m =>
        { m with
          dfuReserved := m.dfuReserved || reserves
          inFlight := true
          requeueAfter := none
          state := .connecting }
      some ((p, priority), { state := s, events := [.stateChanged p .connecting] })
  else none

/-- The right to write firmware is given back, if the session of a member holds it. -/
def releaseDfu (s : State) (p : PixelId) : State :=
  if (s.member? p).any (·.dfuReserved) then
    { s with dfuActive := false }.modify p fun m => { m with dfuReserved := false }
  else s

/-- A member is forgotten at the end of its session. -/
def forget (s : State) (p : PixelId) : State × List Event :=
  ({ s with members := s.members.erase p }, [.unregistered p])

end State

end DiceHost.Scheduler
