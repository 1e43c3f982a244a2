/-
What users ask of the scheduler.

* `Request`, `Reply`: the requests and what they are answered with;
* `State.handle`: the answer to a request and what it changes, or why it is refused.
-/
import DiceHost.Scheduler.State

namespace DiceHost.Scheduler

open Link

/-- What users ask for. -/
inductive Request where
  | register (peripheral : Peripheral)
  | unregister (pixel : PixelId)
  | connect (pixel : PixelId) (priority : Priority)
  | program (pixel : PixelId) (program : Program) (priority : Priority)
  | updateFirmware (pixel : PixelId) (image : FirmwareImage) (force : Bool)
      (priority : Priority)
  | cancel (pixel : PixelId)
  | retry (pixel : PixelId)
deriving DecidableEq, Repr

/-- What a request is answered with. -/
inductive Reply where
  | done
  | forgotten (peripheral : Peripheral)
  | standing (state : DieState)
  /-- The job is accepted. -/
  | queued
  /-- The die holds the data set already. -/
  | upToDate
  /-- The firmware of the die is not outdated. -/
  | skipped (availability : Availability)
deriving DecidableEq, Repr

/-- A reply as a value. -/
def Reply.toJson : Reply → Json
  | done => .str "ok"
  | forgotten r => r.toJson
  | standing s => s.toJson
  | queued => .obj [("result", .str "queued")]
  | upToDate => .obj [("result", .str "up_to_date")]
  | skipped a => .obj [("result", .str "skipped"), ("availability", a.toJson)]

namespace State

/-- A record is registered; for a member it replaces the old one. -/
def register (s : State) (r : Peripheral) : Change :=
  let member := match s.member? r.pixel with
    | some m => { m with peripheral := r, removed := false }
    | none => { peripheral := r }
  { state := { s with members := s.members.insert r.pixel member }, events := [.registered r] }

/-- A member is forgotten, now or at the end of its session. Its jobs are dropped. -/
def unregister (s : State) (p : PixelId) (m : Member) : Change :=
  if m.inFlight then
    { state := s.modify p fun m =>
        { m with removed := true, profileJob := none, firmwareJob := none } }
  else
    let (state, events) := { s with queue := s.queue.remove p }.forget p
    { state, events }

/-- A session without jobs is asked for. -/
def connect (s : State) (p : PixelId) (m : Member) (priority : Priority) : Reply × Change :=
  let (state, events) := if m.inFlight then (s, []) else s.schedule p priority
  (.standing ((state.member? p).elim m.state (·.state)), { state, events, wakes := true })

/-- A data set is to be written, unless the die holds it already. -/
def program (s : State) (p : PixelId) (m : Member) (d : Program) (priority : Priority) :
    Reply × Change :=
  if !m.inFlight && m.peripheral.isUpToDate d.hash then
    let peripheral := { m.peripheral with profile := some d.profile }
    let updated := if m.peripheral.profile = some d.profile then []
      else [Event.peripheralUpdated peripheral]
    (.upToDate,
      { state := s.modify p fun m => { m with peripheral, profileJob := none }
        events := updated ++ [.profileUpToDate p d.profile d.hash]
        wakes := true })
  else
    let seq := s.lastSeq + 1
    let s := { s with lastSeq := seq }.modify p fun m => { m with profileJob := some ⟨d, seq⟩ }
    let (state, events) := s.schedule p priority
    (.queued, { state, events, wakes := true })

/-- Firmware is to be written, if that of the die is outdated or if it is forced. -/
def updateFirmware (s : State) (p : PixelId) (m : Member) (image : FirmwareImage)
    (force : Bool) (priority : Priority) : Reply × Change :=
  let availability := Availability.compare m.peripheral.firmware (some image.timestamp)
  if !force && availability ≠ .outdated then
    (.skipped availability,
      { state := s, events := [.firmwareSkipped p availability], wakes := true })
  else
    let seq := s.lastSeq + 1
    let s := { s with lastSeq := seq }.modify p fun m =>
      { m with firmwareJob := some ⟨image, seq⟩ }
    let (state, events) := s.schedule p priority
    (.queued, { state, events, wakes := true })

/-- The jobs of a member are dropped, and it waits no longer. -/
def cancel (s : State) (p : PixelId) (m : Member) : Change :=
  let s := s.modify p fun m => { m with profileJob := none, firmwareJob := none }
  if m.state.isWaiting then
    { state := { s with queue := s.queue.remove p }.modify p fun m =>
        { m with backoffEpoch := m.backoffEpoch + 1, state := .idle }
      events := [.stateChanged p .idle] }
  else { state := s }

/-- The failures of a member are forgotten, and it is queued at high priority. -/
def retry (s : State) (p : PixelId) : Change :=
  let s := s.modify p fun m =>
    { m with attempts := 0, backoffEpoch := m.backoffEpoch + 1, state := .idle }
  let (state, events) := s.schedule p .high
  { state, events, wakes := true }

/-- A member that must be registered. -/
def withMember {α : Type} (s : State) (p : PixelId) (f : Member → Except RequestError α) :
    Except RequestError α :=
  match s.member? p with
  | none => .error (.notRegistered p)
  | some m => f m

/-- A job or a session is asked for; a die that was given up has to be retried first. -/
def withHope {α : Type} (s : State) (p : PixelId) (f : Member → α) : Except RequestError α :=
  s.withMember p fun m => if m.state.isGivenUp then .error (.givenUp p) else .ok (f m)

/-- What changes a waiting member; one in a session cannot be changed so. -/
def withResting {α : Type} (s : State) (p : PixelId) (f : Member → α) :
    Except RequestError α :=
  s.withMember p fun m => if m.inFlight then .error (.inSession p) else .ok (f m)

/-- The answer to a request, and what it changes. -/
def handle (s : State) : Request → Except RequestError (Reply × Change)
  | .register r => .ok (.done, s.register r)
  | .unregister p => s.withMember p fun m => .ok (.forgotten m.peripheral, s.unregister p m)
  | .connect p priority => s.withHope p fun m => s.connect p m priority
  | .program p d priority => s.withHope p fun m => s.program p m d priority
  | .updateFirmware p image force priority =>
    s.withHope p fun m => s.updateFirmware p m image force priority
  | .cancel p => s.withResting p fun m => (.done, s.cancel p m)
  | .retry p => s.withResting p fun _ => (.done, s.retry p)

end State

end DiceHost.Scheduler
