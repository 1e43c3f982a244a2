/-
The scheduler at work: its parts, the radio that it uses, and a clock.

* `World`: the shared state, the dispatcher with its free slots and stored wake-up, the
  watcher of the adapter, the sessions, the timers, the radio and the time;
* `Move`: one step of one part, a request of a user, or a change around the scheduler;
* `World.step`: the world after a move, and the events told. A part that cannot move
  stays as it is, so every order of moves is a run.

A session connects, writes the jobs that it finds, disconnects and reports. Each of its
steps touches either the radio or the shared state.
-/
import DiceHost.Scheduler.Request
import DiceHost.Scheduler.Turn

namespace DiceHost.Scheduler

open Link

/-! ### Sessions -/

/-- One payload that a session writes. -/
inductive Task where
  | profile (job : ProfileJob)
  /-- An image of a firmware update. -/
  | image (payload : Payload) (job : FirmwareJob)
deriving DecidableEq, Repr

namespace Task

/-- The payload of a task. -/
def payload : Task → Payload
  | profile job => ⟨.dataSet, job.program.bytes, job.program.hash⟩
  | image payload _ => payload

/-- The tasks of some jobs: the data set, then the images in their order. -/
def ofJobs : Option ProfileJob × Option FirmwareJob → List Task
  | (p, f) =>
    (p.map profile).toList ++ f.toList.flatMap fun job => job.image.payloads.map (image · job)

/-- The report after a task has succeeded. The firmware itself is the last image. -/
def record (r : Report) (outcome : Outcome) : Task → Report
  | profile job => { r with profile := some (job, outcome) }
  | image payload job => if payload.kind = .firmware then { r with firmware := some job } else r

end Task

/-- How far a session has come. -/
inductive Stage where
  /-- The session has a slot and has done nothing yet. -/
  | starting
  | connecting (due : Nat)
  /-- The adapter was lost before the link was up. -/
  | interrupted
  | refused (e : LinkError)
  /-- The link is up, which is not yet recorded. -/
  | linked (link : Connection)
  | connected (link : Connection)
  /-- Some tasks are left. -/
  | working (link : Connection) (tasks : List Task) (report : Report)
  /-- A request of a transfer is answered when it is due. -/
  | sending (link : Connection) (transfer : Transfer) (due : Nat) (task : Task)
      (tasks : List Task) (report : Report)
  | closing (link : Connection) (report : Report)
  | reporting (report : Report)
  /-- The session has ended and still holds its slot. -/
  | over

/-- A session with a die. -/
structure Session where
  id : Nat
  pixel : PixelId
  /-- The priority with which the die left the queue. -/
  priority : Priority
  stage : Stage := .starting

/-! ### The world -/

/-- What the dispatcher is about to do. -/
inductive Dispatcher where
  /-- It waits for a free slot. -/
  | acquiring
  /-- It holds a slot and looks into the queue. -/
  | looking
  /-- It holds a slot and waits to be woken. -/
  | parked
deriving DecidableEq, Repr

/-- The wait of a die for its next attempt. -/
structure Timer where
  due : Nat
  pixel : PixelId
  epoch : Nat
deriving DecidableEq, Repr

/-- The scheduler with everything around it. -/
structure World where
  config : Config
  /-- The milliseconds that a connection takes. -/
  connectDelay : Nat
  radio : Radio
  state : State
  now : Nat := 0
  /-- Whether the watcher has still to see a change of the adapter. -/
  changePending : Bool := false
  dispatcher : Dispatcher := .acquiring
  freeSlots : Nat
  /-- Whether a wake-up is stored for the dispatcher. -/
  wake : Bool := false
  sessions : List Session := []
  timers : List Timer := []
  /-- The number of sessions so far. -/
  started : Nat := 0

/-- One step of one part, or of something around the scheduler. -/
inductive Move where
  | request (r : Request)
  | adjust (a : Radio.Adjustment)
  /-- The adapter changes. -/
  | adapter (a : AdapterState)
  /-- The watcher sees the change. -/
  | watch
  | dispatch
  /-- A session takes its next step. -/
  | session (id : Nat)
  /-- A session notices the loss of the adapter while it connects. -/
  | interrupt (id : Nat)
  /-- A timer goes off. -/
  | timer (t : Timer)
  /-- Time passes. -/
  | advance (ms : Nat)

namespace World

/-- A scheduler that has just been started. -/
def start (config : Config) (connectDelay : Nat) (radio : Radio) (pairings : List Peripheral) :
    World where
  config := config
  connectDelay := connectDelay
  radio := radio
  state := .start radio.adapter pairings
  freeSlots := config.slots

/-- The world after a change of the shared state. -/
def apply (w : World) (c : Change) : World × List Event :=
  ({ w with state := c.state, wake := w.wake || c.wakes }, c.events)

/-- A request of a user: the answer, the world after it and the events told. -/
def request (w : World) (r : Request) : Except RequestError Reply × World × List Event :=
  match w.state.handle r with
  | .ok (reply, change) => (.ok reply, w.apply change)
  | .error e => (.error e, w, [])

/-- The world with a session at another stage. -/
def setStage (w : World) (id : Nat) (stage : Stage) : World :=
  { w with sessions := w.sessions.map fun s => if s.id = id then { s with stage } else s }

/-- The watcher records the change that it has not seen. -/
def watch (w : World) : World × List Event :=
  if w.changePending then
    apply { w with changePending := false } (w.state.adapterSeen w.radio.adapter)
  else (w, [])

/-- The dispatcher takes a slot, starts a session, waits or wakes. -/
def dispatch (w : World) : World × List Event :=
  match w.dispatcher with
  | .acquiring =>
    if 0 < w.freeSlots then
      ({ w with freeSlots := w.freeSlots - 1, dispatcher := .looking }, [])
    else (w, [])
  | .looking =>
    match w.state.takeNext with
    | none => ({ w with dispatcher := .parked }, [])
    | some ((pixel, priority), change) =>
      let session : Session := { id := w.started, pixel, priority }
      apply
        { w with
          dispatcher := .acquiring
          started := w.started + 1
          sessions := w.sessions ++ [session] }
        change
  | .parked => if w.wake then ({ w with wake := false, dispatcher := .looking }, []) else (w, [])

/-- The time at which the next request of a transfer is answered. -/
def answerDue (w : World) (link : Connection) (t : Transfer) : Nat :=
  w.now + t.request?.elim 0 fun m => Radio.requestDelay link m.encode

/-- The attempt to connect is completed. -/
def completeConnection (w : World) (s : Session) : World :=
  let (outcome, radio) := w.radio.accept s.pixel
  setStage { w with radio } s.id <|
    match outcome with
    | .ok link => .linked link
    | .error e => .refused e

/-- A connection failed; if the die is tried again, a timer is set. -/
def failConnection (w : World) (s : Session) (e : LinkError) : World × List Event :=
  let (change, wait) := w.state.connectFailed w.config s.pixel e
  let timers := (wait.map fun (delay, epoch) => ⟨w.now + delay, s.pixel, epoch⟩).toList
  (setStage { w with timers := w.timers ++ timers } s.id .over).apply change

/-- The next task of a session is begun. -/
def beginTask (w : World) (s : Session) (link : Connection) (task : Task) (tasks : List Task)
    (report : Report) : World × List Event :=
  let t := Transfer.start task.payload w.config.chunkSize link.maxMessage
  (w.setStage s.id (.sending link t (w.answerDue link t) task tasks report)).apply
    (w.state.transferring s.pixel task.payload.kind)

/-- A request of a transfer is answered. -/
def exchange (w : World) (s : Session) (link : Connection) (t : Transfer) (m : Message)
    (task : Task) (tasks : List Task) (report : Report) : World × List Event :=
  let (reply, link, radio) := w.radio.request link m.encode
  let (t, percent) := t.answer reply
  (setStage { w with radio } s.id (.sending link t (w.answerDue link t) task tasks report),
    (percent.map (Event.progress s.pixel task.payload.kind)).toList)

/-- The stage after a transfer has ended: the next task, or after a failure none. -/
def afterTransfer (link : Connection) (task : Task) (tasks : List Task) (report : Report) :
    Except TransferError Outcome → Stage
  | .ok outcome => .working link tasks (task.record report outcome)
  | .error e => .closing link { report with error := some (task.payload.kind, e) }

/-- A session takes its next step, if it is due. -/
def advanceSession (w : World) (s : Session) : World × List Event :=
  match s.stage with
  | .starting =>
    (w.setStage s.id
      (if w.radio.adapter.isReady then .connecting (w.now + w.connectDelay) else .interrupted),
      [])
  | .connecting due => (if due ≤ w.now then w.completeConnection s else w, [])
  | .interrupted => (w.setStage s.id .over).apply (w.state.interrupted s.pixel s.priority)
  | .refused e => w.failConnection s e
  | .linked link => (w.setStage s.id (.connected link)).apply (w.state.connected s.pixel)
  | .connected link =>
    (w.setStage s.id (.working link (Task.ofJobs (w.state.jobs s.pixel)) {}), [])
  | .working link [] report => (w.setStage s.id (.closing link report), [])
  | .working link (task :: tasks) report => w.beginTask s link task tasks report
  | .sending link t due task tasks report =>
    if w.now < due then (w, [])
    else
      match t.request? with
      | some m => w.exchange s link t m task tasks report
      | none =>
        (t.result?.elim w fun r => w.setStage s.id (afterTransfer link task tasks report r), [])
  | .closing link report =>
    (setStage { w with radio := (w.radio.close link).2 } s.id (.reporting report), [])
  | .reporting report =>
    (w.setStage s.id .over).apply (w.state.sessionEnded w.config s.pixel report)
  | .over =>
    ({ w with
        sessions := w.sessions.filter (·.id ≠ s.id)
        freeSlots := w.freeSlots + 1 }, [])

/-- A session that connects notices that the adapter is lost. -/
def interruptSession (w : World) (s : Session) : World :=
  match s.stage with
  | .connecting _ => if w.radio.adapter.isReady then w else w.setStage s.id .interrupted
  | _ => w

/-- The session of a number. -/
def session? (w : World) (id : Nat) : Option Session :=
  w.sessions.find? (·.id = id)

/-- The world after a move, and the events told. -/
def step (w : World) : Move → World × List Event
  | .request r => (w.request r).2
  | .adjust a => ({ w with radio := w.radio.adjust a }, [])
  | .adapter a => ({ w with radio := { w.radio with adapter := a }, changePending := true }, [])
  | .watch => w.watch
  | .dispatch => w.dispatch
  | .session id => (w.session? id).elim (w, []) w.advanceSession
  | .interrupt id => ((w.session? id).elim w w.interruptSession, [])
  | .timer t =>
    if t ∈ w.timers ∧ t.due ≤ w.now then
      apply { w with timers := w.timers.erase t } (w.state.backoffOver t.pixel t.epoch)
    else (w, [])
  | .advance ms => ({ w with now := w.now + ms }, [])

end World

end DiceHost.Scheduler
