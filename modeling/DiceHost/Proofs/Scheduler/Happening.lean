/-
The scheduler over any central.

* `Happening`: a move of the world, or anything that a central may do: the dice in range
  change in any way, an attempt to connect ends with any outcome, a request of a transfer is
  answered with any bytes or error;
* `World.happen`, `World.after`: the world after a happening, and after some of them;
* `World.deed`, `World.deeds`: what happenings bring about for users: a request that is accepted,
  or the end of a session;
* `Advance`: what a session does in one step, and what that does to the shared state;
* `Turn`: what one happening does to the shared state and to the sessions;
* `turn_happen`: **every happening is a turn**, and so what turns keep holds in every run.
-/
import DiceHost.Proofs.Scheduler.Effects
import DiceHost.Scheduler.World

namespace DiceHost.Scheduler

open Link

/-! ### Happenings -/

/-- What can happen to a scheduler and around it. -/
inductive Happening where
  | move (m : Move)
  /-- The dice in range, their links and the adapter change in any way. -/
  | radio (r : Radio)
  /-- The attempt of a session to connect ends with any outcome. -/
  | connection (id : ℕ) (outcome : Except LinkError Connection)
  /-- The request of a transfer is answered in any way. -/
  | answer (id : ℕ) (reply : Except LinkError (List UInt8))

namespace World

/-- The end of the attempt of a session to connect: for want of the adapter it is interrupted. -/
def connection (w : World) (s : Session) (outcome : Except LinkError Connection) : World :=
  match s.stage with
  | .connecting _ =>
    w.setStage s.id <|
      match outcome with
      | .ok link => .linked link
      | .error .adapterUnavailable => .interrupted
      | .error e => .refused e
  | _ => w

/-- The answer to the request of a transfer. -/
def answer (w : World) (s : Session) (reply : Except LinkError (List UInt8)) : World :=
  match s.stage with
  | .sending link t _ task tasks report =>
    if t.request?.isSome then
      let t := (t.answer reply).1
      w.setStage s.id (.sending link t (w.answerDue link t) task tasks report)
    else w
  | _ => w

/-- The world after something has happened. -/
def happen (w : World) : Happening → World
  | .move m => (w.step m).1
  | .radio r => { w with radio := r }
  | .connection id outcome => (w.session? id).elim w (w.connection · outcome)
  | .answer id reply => (w.session? id).elim w (w.answer · reply)

/-- The world after some things have happened, one after the other. -/
def after (w : World) (hs : List Happening) : World :=
  hs.foldl happen w

@[simp] lemma after_nil (w : World) : w.after [] = w := rfl

@[simp] lemma after_cons (w : World) (h : Happening) (hs : List Happening) :
    w.after (h :: hs) = (w.happen h).after hs := rfl

lemma after_concat (w : World) (hs : List Happening) (x : Happening) :
    w.after (hs ++ [x]) = (w.after hs).happen x :=
  List.foldl_concat happen w x hs

end World

/-! ### Deeds -/

/-- What a happening brings about for users. -/
inductive Deed where
  /-- A request is accepted. -/
  | request (r : Request) (reply : Reply)
  /-- A session with a die ends with a report. -/
  | ended (pixel : PixelId) (report : Report)
  | other

/-- What something that happens brings about. -/
def World.deed (w : World) : Happening → Deed
  | .move (.request r) =>
    match w.state.handle r with
    | .ok (reply, _) => .request r reply
    | .error _ => .other
  | .move (.session id) =>
    match w.session? id with
    | none => .other
    | some s =>
      match s.stage with
      | .reporting report => .ended s.pixel report
      | _ => .other
  | _ => .other

/-- What is brought about in a run, in this order. -/
def World.deeds (w : World) : List Happening → List Deed
  | [] => []
  | h :: hs => w.deed h :: (w.happen h).deeds hs

/-! ### Turns -/

/-- What a session does in one step but its last one: its next stage, and the shared state
after it. -/
inductive Advance (w : World) (s : Session) : Stage → State → Prop
  | connect (due : ℕ) (h : s.stage = .starting) : Advance w s (.connecting due) w.state
  | interrupt (h : s.stage = .starting ∨ ∃ due, s.stage = .connecting due) :
      Advance w s .interrupted w.state
  | refuse {due : ℕ} (e : LinkError) (h : s.stage = .connecting due) :
      Advance w s (.refused e) w.state
  | link {due : ℕ} (link : Connection) (h : s.stage = .connecting due) :
      Advance w s (.linked link) w.state
  | interrupted (h : s.stage = .interrupted) :
      Advance w s .over (w.state.interrupted s.pixel s.priority).state
  | failed {e : LinkError} (h : s.stage = .refused e) :
      Advance w s .over (w.state.connectFailed w.config s.pixel e).1.state
  | connected {link : Connection} (h : s.stage = .linked link) :
      Advance w s (.connected link) (w.state.connected s.pixel).state
  | work {link : Connection} (h : s.stage = .connected link) :
      Advance w s (.working link (Task.ofJobs (w.state.jobs s.pixel)) {}) w.state
  | send {link : Connection} {task : Task} {tasks : List Task} {report : Report} (due : ℕ)
      (h : s.stage = .working link (task :: tasks) report) :
      Advance w s
        (.sending link (Transfer.start task.payload w.config.chunkSize link.maxMessage) due task
          tasks report)
        (w.state.transferring s.pixel task.payload.kind).state
  | answer {link : Connection} {t : Transfer} {due : ℕ} {task : Task} {tasks : List Task}
      {report : Report} (reply : Except LinkError (List UInt8)) (link' : Connection) (due' : ℕ)
      (h : s.stage = .sending link t due task tasks report) (ht : t.request?.isSome) :
      Advance w s (.sending link' (t.answer reply).1 due' task tasks report) w.state
  | finish {link : Connection} {t : Transfer} {due : ℕ} {task : Task} {tasks : List Task}
      {report : Report} {r : Except TransferError Outcome}
      (h : s.stage = .sending link t due task tasks report) (ht : t.result? = some r) :
      Advance w s (World.afterTransfer link task tasks report r) w.state
  | close {link : Connection} {report : Report} (h : s.stage = .working link [] report) :
      Advance w s (.closing link report) w.state
  | report {link : Connection} {report : Report} (h : s.stage = .closing link report) :
      Advance w s (.reporting report) w.state

/-- What one happening brings about, and what it does to the shared state, to the sessions and
to their number. -/
inductive Turn (w : World) : Deed → State → List Session → ℕ → Prop
  | rest : Turn w .other w.state w.sessions w.started
  | request {r : Request} {reply : Reply} {change : Change}
      (h : w.state.Handled r reply change) :
      Turn w (.request r reply) change.state w.sessions w.started
  | seen (a : AdapterState) :
      Turn w .other (w.state.adapterSeen a).state w.sessions w.started
  | woken (p : PixelId) (epoch : ℕ) :
      Turn w .other (w.state.backoffOver p epoch).state w.sessions w.started
  | begun {p : PixelId} {pr : Priority} {change : Change}
      (h : w.state.takeNext = some ((p, pr), change)) :
      Turn w .other change.state
        (w.sessions ++ [{ id := w.started, pixel := p, priority := pr }]) (w.started + 1)
  | advance {s : Session} {stage : Stage} {t : State} (hs : s ∈ w.sessions)
      (h : Advance w s stage t) :
      Turn w .other t (w.setStage s.id stage).sessions w.started
  | ended {s : Session} {report : Report} (hs : s ∈ w.sessions)
      (h : s.stage = .reporting report) :
      Turn w (.ended s.pixel report) (w.state.sessionEnded w.config s.pixel report).state
        (w.setStage s.id .over).sessions w.started
  | left {s : Session} (hs : s ∈ w.sessions) (h : s.stage = .over) :
      Turn w .other w.state (w.sessions.filter (·.id ≠ s.id)) w.started

namespace World

variable {w : World}

lemma mem_of_session? {id : ℕ} {s : Session} (h : w.session? id = some s) :
    s ∈ w.sessions ∧ s.id = id :=
  ⟨List.mem_of_find?_eq_some h, by simpa using List.find?_some h⟩

lemma session?_of_mem {s : Session} (hids : (w.sessions.map (·.id)).Nodup) (hs : s ∈ w.sessions) :
    w.session? s.id = some s := by
  cases hfind : w.session? s.id with
  | none => exact (List.find?_eq_none.mp hfind s hs (decide_eq_true rfl)).elim
  | some y =>
      obtain ⟨hy, hid⟩ := mem_of_session? hfind
      rw [List.inj_on_of_nodup_map hids hy hs hid]

/-- A world after a turn. -/
def IsTurn (w : World) (deed : Deed) (w' : World) : Prop :=
  Turn w deed w'.state w'.sessions w'.started

lemma turn_dispatch (w : World) : w.IsTurn .other w.dispatch.1 := by
  rw [dispatch]
  cases w.dispatcher with
  | acquiring =>
      dsimp only
      split_ifs
      · exact .rest
      · exact .rest
  | looking =>
      dsimp only
      cases hnext : w.state.takeNext with
      | none => exact .rest
      | some r => exact .begun hnext
  | parked =>
      dsimp only
      split_ifs
      · exact .rest
      · exact .rest

lemma turn_request (w : World) (r : Request) :
    w.IsTurn (w.deed (.move (.request r))) (w.request r).2.1 := by
  rw [request, deed]
  cases hr : w.state.handle r with
  | error e => exact .rest
  | ok c => exact .request (State.handled hr)

lemma turn_watch (w : World) : w.IsTurn .other w.watch.1 := by
  rw [watch]
  split_ifs
  · exact .seen _
  · exact .rest

lemma turn_timer (w : World) (t : Timer) : w.IsTurn .other (w.step (.timer t)).1 := by
  rw [step]
  split_ifs
  · exact .woken _ _
  · exact .rest

lemma turn_interruptSession {s : Session} (hs : s ∈ w.sessions) :
    w.IsTurn .other (w.interruptSession s) := by
  rw [interruptSession.eq_def]
  cases hst : s.stage with
  | connecting due =>
      dsimp only
      split_ifs
      · exact .rest
      · exact .advance hs (.interrupt (.inr ⟨due, hst⟩))
  | starting | interrupted | refused | linked | connected | working | sending | closing
  | reporting | «over» => exact .rest

lemma turn_connection {s : Session} (hs : s ∈ w.sessions)
    (outcome : Except LinkError Connection) : w.IsTurn .other (w.connection s outcome) := by
  rw [connection.eq_def]
  cases hst : s.stage with
  | connecting due =>
      cases outcome with
      | ok link => exact .advance hs (.link link hst)
      | error e =>
          cases e with
          | adapterUnavailable => exact .advance hs (.interrupt (.inr ⟨due, hst⟩))
          | connectionFailed | disconnected => exact .advance hs (.refuse _ hst)
  | starting | interrupted | refused | linked | connected | working | sending | closing
  | reporting | «over» => exact .rest

lemma turn_answer {s : Session} (hs : s ∈ w.sessions)
    (reply : Except LinkError (List UInt8)) : w.IsTurn .other (w.answer s reply) := by
  rw [answer.eq_def]
  cases hst : s.stage with
  | sending link t due task tasks report =>
      dsimp only
      split_ifs with ht
      · exact .advance hs (.answer reply link _ hst ht)
      · exact .rest
  | starting | interrupted | refused | linked | connected | working | connecting | closing
  | reporting | «over» => exact .rest

/-- A step of a session is a turn. -/
lemma turn_advanceSession {id : ℕ} {s : Session} (hs : w.session? id = some s) :
    w.IsTurn (w.deed (.move (.session id))) (w.advanceSession s).1 := by
  obtain ⟨hmem, -⟩ := mem_of_session? hs
  rw [advanceSession.eq_def, deed, hs]
  dsimp only
  cases hst : s.stage with
  | starting =>
      dsimp only
      split_ifs
      · exact .advance hmem (.connect _ hst)
      · exact .advance hmem (.interrupt (.inl hst))
  | connecting due =>
      dsimp only
      split_ifs
      · rw [completeConnection]
        cases w.radio.accept s.pixel with
        | mk outcome radio =>
            cases outcome with
            | ok link => exact .advance hmem (.link link hst)
            | error e => exact .advance hmem (.refuse e hst)
      · exact .rest
  | interrupted => exact .advance hmem (.interrupted hst)
  | refused e => exact .advance hmem (.failed hst)
  | linked link => exact .advance hmem (.connected hst)
  | connected link => exact .advance hmem (.work hst)
  | working link tasks report =>
      cases tasks with
      | nil => exact .advance hmem (.close hst)
      | cons task tasks => exact .advance hmem (.send _ hst)
  | sending link t due task tasks report =>
      dsimp only
      split_ifs
      · exact .rest
      · cases hreq : t.request? with
        | some m => exact .advance hmem (.answer _ _ _ hst (Option.isSome_of_eq_some hreq))
        | none =>
            cases hres : t.result? with
            | none => exact .rest
            | some r => exact .advance hmem (.finish hst hres)
  | closing link report => exact .advance hmem (.report hst)
  | reporting report => exact .ended hmem hst
  | «over» => exact .left hmem hst

/-- **Whatever happens is a turn.** -/
lemma turn_happen (w : World) (h : Happening) : w.IsTurn (w.deed h) (w.happen h) := by
  cases h with
  | radio r => exact .rest
  | connection id outcome =>
      rw [happen]
      cases hs : w.session? id with
      | none => exact .rest
      | some s => exact turn_connection (mem_of_session? hs).1 outcome
  | answer id reply =>
      rw [happen]
      cases hs : w.session? id with
      | none => exact .rest
      | some s => exact turn_answer (mem_of_session? hs).1 reply
  | move m =>
      rw [happen]
      cases m with
      | request r => exact w.turn_request r
      | watch => exact w.turn_watch
      | dispatch => exact w.turn_dispatch
      | timer t => exact w.turn_timer t
      | adjust | adapter | advance => exact .rest
      | session id =>
          rw [step]
          cases hs : w.session? id with
          | none =>
              rw [deed, hs]
              exact .rest
          | some s => exact turn_advanceSession hs
      | interrupt id =>
          rw [step]
          cases hs : w.session? id with
          | none => exact .rest
          | some s => exact turn_interruptSession (mem_of_session? hs).1

end World

end DiceHost.Scheduler
