/-
What sessions, timers and the watcher of the adapter do to the state.

* `State.adapterSeen`: a change of the adapter;
* `State.interrupted`, `State.connectFailed`, `State.connected`: the end of a connection
  attempt;
* `State.backoffOver`: the end of the wait for the next attempt;
* `State.jobs`, `State.transferring`, `State.sessionEnded`: the course of a session.
-/
import DiceHost.Scheduler.State

namespace DiceHost.Scheduler

open Link

namespace State

/-- A change of the adapter is recorded. -/
def adapterSeen (s : State) (a : AdapterState) : Change where
  state := { s with adapter := a }
  events := if s.adapter = a then [] else [.adapterChanged a]
  wakes := a.isReady

/-- The adapter was lost before the link was up: the attempt does not count. -/
def interrupted (s : State) (p : PixelId) (priority : Priority) : Change :=
  let s := s.releaseDfu p
  match s.member? p with
  | none => { state := s }
  | some m =>
    if m.removed then
      let (state, events) := s.forget p
      { state, events }
    else
      let s := s.modify p fun m =>
        { m with inFlight := false, requeueAfter := none, state := .idle }
      let (state, events) := s.enqueue p (m.requeueAfter.elim priority (·.max priority))
      { state, events }

/-- A connection failed: the member waits for its next attempt or is given up. The result
holds the delay and the number of the wait, if there is one. -/
def connectFailed (s : State) (c : Config) (p : PixelId) (e : LinkError) :
    Change × Option (Nat × Nat) :=
  let s := s.releaseDfu p
  match s.member? p with
  | none => ({ state := s }, none)
  | some m =>
    if m.removed then
      let (state, events) := s.forget p
      ({ state, events, wakes := true }, none)
    else
      let attempts := m.attempts + 1
      let gaveUp := c.maxRetries < attempts
      let state := DieState.failed attempts gaveUp
      let epoch := if gaveUp then m.backoffEpoch else m.backoffEpoch + 1
      let s := s.modify p fun m =>
        { m with
          inFlight := false
          requeueAfter := none
          attempts := attempts
          state := state
          backoffEpoch := epoch }
      let told := if gaveUp then Event.gaveUp p attempts (.link e)
        else .connectFailed p attempts (c.backoff attempts) e
      ({ state := s, events := [told, .stateChanged p state], wakes := true },
        if gaveUp then none else some (c.backoff attempts, epoch))

/-- The wait of a number is over: a member that is still in it is queued. -/
def backoffOver (s : State) (p : PixelId) (epoch : Nat) : Change :=
  match s.member? p with
  | none => { state := s }
  | some m =>
    if m.state.isBackingOff && !m.inFlight && m.backoffEpoch = epoch then
      let (state, events) := s.enqueue p .low
      { state, events, wakes := true }
    else { state := s }

/-- The link is up. -/
def connected (s : State) (p : PixelId) : Change where
  state := s.modify p fun m => { m with state := .connected }
  events := [.connected p, .stateChanged p .connected]

/-- A transfer begins. -/
def transferring (s : State) (p : PixelId) (kind : PayloadKind) : Change where
  state := s.modify p fun m => { m with state := .transferring kind }
  events := [.stateChanged p (.transferring kind)]

/-- The jobs that the session of a member works on: firmware only if it may write some. -/
def jobs (s : State) (p : PixelId) : Option ProfileJob × Option FirmwareJob :=
  match s.member? p with
  | none => (none, none)
  | some m => (m.profileJob, if m.dfuReserved then m.firmwareJob else none)

/-- A session has ended. What it achieved is recorded, and the member is forgotten, given
up, queued again or idle. -/
def sessionEnded (s : State) (c : Config) (p : PixelId) (r : Report) : Change :=
  let s := s.releaseDfu p
  match s.member? p with
  | none => { state := s, events := [.disconnected p], wakes := true }
  | some m =>
    let m := { m with inFlight := false }.confirm r
    let (m, failed, next) := m.settle c p r.error
    let updated := if r.profile.isSome || r.firmware.isSome
      then [Event.peripheralUpdated m.peripheral] else []
    let told := r.events p ++ failed ++ updated
    let s := s.modify p fun _ => m
    let (state, events) :=
      if m.removed then s.forget p
      else if m.state.isGivenUp then (s, [.stateChanged p m.state])
      else
        let requested := if m.hasJobs then some (m.requeueAfter.getD .low) else m.requeueAfter
        let s := s.modify p fun m => { m with requeueAfter := none, state := .idle }
        match strongest next requested with
        | some priority => s.schedule p priority
        | none => (s, [.stateChanged p .idle])
    { state, events := told ++ events ++ [.disconnected p], wakes := true }

end State

end DiceHost.Scheduler
