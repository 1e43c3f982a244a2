/-
The changes of the shared state, one by one.

* `World.told`: the events told as something happens;
* `Act`: a happening with the change of the shared state that it makes;
* `Act.carries`: the change is what becomes of the state, what is told, and what wakes the
  dispatcher;
* `Act.live`: the session that acts has not ended;
* `act_or_unmoved`: **whatever is no act leaves the shared state as it is**, and tells at most the
  progress of a transfer.
-/
import DiceHost.Proofs.Scheduler.Runs

namespace DiceHost.Scheduler

open Link

/-- The progress of a transfer. -/
def Event.isProgress : Event → Bool
  | progress .. => true
  | _ => false

/-- What a session tells as its request is answered. -/
def Session.told (s : Session) (reply : Except LinkError (List UInt8)) : List Event :=
  match s.stage with
  | .sending _ t _ task _ _ =>
    if t.request?.isSome then
      ((t.answer reply).2.map (Event.progress s.pixel task.payload.kind)).toList
    else []
  | _ => []

/-- The events told as something happens. -/
def World.told (w : World) : Happening → List Event
  | .move m => (w.step m).2
  | .answer id reply => (w.session? id).elim [] (·.told reply)
  | .radio _ | .connection .. => []

/-- What changes the shared state, and the change. -/
inductive Act (w : World) : Happening → Change → Prop
  | request {r : Request} {reply : Reply} {c : Change} (h : w.state.handle r = .ok (reply, c)) :
      Act w (.move (.request r)) c
  | seen (h : w.changePending = true) :
      Act w (.move .watch) (w.state.adapterSeen w.radio.adapter)
  | begun {p : PixelId} {pr : Priority} {c : Change} (hd : w.dispatcher = .looking)
      (h : w.state.takeNext = some ((p, pr), c)) : Act w (.move .dispatch) c
  | woken {t : Timer} (h : t ∈ w.timers ∧ t.due ≤ w.now) :
      Act w (.move (.timer t)) (w.state.backoffOver t.pixel t.epoch)
  | interrupted {id : ℕ} {s : Session} (hs : w.session? id = some s) (h : s.stage = .interrupted) :
      Act w (.move (.session id)) (w.state.interrupted s.pixel s.priority)
  | failed {id : ℕ} {s : Session} {e : LinkError} (hs : w.session? id = some s)
      (h : s.stage = .refused e) :
      Act w (.move (.session id)) (w.state.connectFailed w.config s.pixel e).1
  | connected {id : ℕ} {s : Session} {link : Connection} (hs : w.session? id = some s)
      (h : s.stage = .linked link) :
      Act w (.move (.session id)) (w.state.connected s.pixel)
  | transferring {id : ℕ} {s : Session} {link : Connection} {task : Task} {tasks : List Task}
      {report : Report} (hs : w.session? id = some s)
      (h : s.stage = .working link (task :: tasks) report) :
      Act w (.move (.session id)) (w.state.transferring s.pixel task.payload.kind)
  | ended {id : ℕ} {s : Session} {report : Report} (hs : w.session? id = some s)
      (h : s.stage = .reporting report) :
      Act w (.move (.session id)) (w.state.sessionEnded w.config s.pixel report)

namespace World

variable {w : World} {x : Happening} {c : Change}

/-- A change is what becomes of the state, what is told, and what wakes the dispatcher. -/
structure Carries (w : World) (x : Happening) (c : Change) : Prop where
  state : (w.happen x).state = c.state
  told : w.told x = c.events
  wake : (w.happen x).wake = (w.wake || c.wakes)

/-- The shared state stays, and nothing is told but progress. -/
structure Unmoved (w : World) (x : Happening) : Prop where
  state : (w.happen x).state = w.state
  told : ∀ e ∈ w.told x, e.isProgress = true

/-- A part makes a change, and has not touched the stored wake-up before. -/
lemma Carries.of_apply {m : Move} (v : World) (hwake : v.wake = w.wake)
    (h : w.step m = v.apply c) : w.Carries (.move m) c where
  state := by
    rw [happen, h]
    rfl
  told := by
    rw [World.told, h]
    rfl
  wake := by
    rw [happen, h, ← hwake]
    rfl

/-- A session makes a change. -/
lemma Carries.of_session {id : ℕ} {s : Session} (hs : w.session? id = some s) (v : World)
    (hwake : v.wake = w.wake) (h : w.advanceSession s = v.apply c) :
    w.Carries (.move (.session id)) c := by
  refine .of_apply v hwake ?_
  rw [step, hs]
  exact h

end World

variable {w : World} {x : Happening} {c : Change}

/-- An act makes its change. -/
lemma Act.carries (h : Act w x c) : w.Carries x c := by
  cases h with
  | request h =>
      refine .of_apply w rfl ?_
      rw [World.step, World.request, h]
  | seen h =>
      refine .of_apply { w with changePending := false } rfl ?_
      rw [World.step, World.watch, if_pos h]
  | @begun p pr c hd h =>
      refine .of_apply
        { w with
          dispatcher := .acquiring
          started := w.started + 1
          sessions := w.sessions ++ [{ id := w.started, pixel := p, priority := pr }] } rfl ?_
      rw [World.step, World.dispatch, hd]
      dsimp only
      rw [h]
  | @woken t h =>
      refine .of_apply { w with timers := w.timers.erase t } rfl ?_
      rw [World.step, if_pos h]
  | @interrupted id s hs h =>
      refine .of_session hs (w.setStage s.id .over) rfl ?_
      rw [World.advanceSession.eq_def, h]
  | @failed id s e hs h =>
      let next := (w.state.connectFailed w.config s.pixel e).2
      refine .of_session hs
        (World.setStage
          { w with
            timers := w.timers ++ (next.map fun wait =>
              (⟨w.now + wait.1, s.pixel, wait.2⟩ : Timer)).toList }
          s.id .over) rfl ?_
      rw [World.advanceSession.eq_def, h]
      rfl
  | @connected id s link hs h =>
      refine .of_session hs (w.setStage s.id (.connected link)) rfl ?_
      rw [World.advanceSession.eq_def, h]
  | @transferring id s link task tasks report hs h =>
      let t := Transfer.start task.payload w.config.chunkSize link.maxMessage
      refine .of_session hs
        (w.setStage s.id (.sending link t (w.answerDue link t) task tasks report)) rfl ?_
      rw [World.advanceSession.eq_def, h]
      rfl
  | @ended id s report hs h =>
      refine .of_session hs (w.setStage s.id .over) rfl ?_
      rw [World.advanceSession.eq_def, h]

/-- A session that acts has not ended. -/
lemma Act.live {id : ℕ} {s : Session} (h : Act w (.move (.session id)) c)
    (hs : w.session? id = some s) : s.Live := by
  intro hover
  cases h with
  | interrupted hs' hst | failed hs' hst | connected hs' hst | transferring hs' hst
  | ended hs' hst =>
      obtain rfl := Option.some.inj (hs.symm.trans hs')
      rw [hover] at hst
      cases hst

namespace World

/-- Only the progress of a transfer is told. -/
lemma isProgress_of_mem_toList {percent : Option ℕ} {p : PixelId} {kind : PayloadKind} {e : Event}
    (h : e ∈ (percent.map (Event.progress p kind)).toList) : e.isProgress = true := by
  rw [Option.mem_toList, Option.map_eq_some_iff] at h
  obtain ⟨n, -, rfl⟩ := h
  rfl

/-- A step of a session changes the shared state by an act, or not at all. -/
lemma act_or_unmoved_session {id : ℕ} {s : Session} (hs : w.session? id = some s) :
    (∃ c, Act w (.move (.session id)) c) ∨ w.Unmoved (.move (.session id)) := by
  have hrest {v : World} {es : List Event} (h : w.advanceSession s = (v, es))
      (hstate : v.state = w.state) (htold : ∀ e ∈ es, e.isProgress = true) :
      w.Unmoved (.move (.session id)) := by
    constructor
    · rw [happen, step, hs, Option.elim_some, h]
      exact hstate
    · rw [told, step, hs, Option.elim_some, h]
      exact htold
  have hnil : ∀ e ∈ ([] : List Event), e.isProgress = true := List.forall_mem_nil _
  rw [advanceSession.eq_def] at hrest
  cases hst : s.stage with
  | interrupted => exact .inl ⟨_, .interrupted hs hst⟩
  | refused e => exact .inl ⟨_, .failed hs hst⟩
  | linked link => exact .inl ⟨_, .connected hs hst⟩
  | reporting report => exact .inl ⟨_, .ended hs hst⟩
  | working link tasks report =>
      cases tasks with
      | cons task tasks => exact .inl ⟨_, .transferring hs hst⟩
      | nil =>
          rw [hst] at hrest
          exact .inr (hrest rfl rfl hnil)
  | starting | connected | closing | «over» =>
      rw [hst] at hrest
      exact .inr (hrest rfl rfl hnil)
  | connecting due =>
      rw [hst] at hrest
      refine .inr (hrest rfl ?_ hnil)
      split_ifs <;> rfl
  | sending link t due task tasks report =>
      rw [hst] at hrest
      dsimp only at hrest
      by_cases hdue : w.now < due
      · rw [if_pos hdue] at hrest
        exact .inr (hrest rfl rfl hnil)
      · rw [if_neg hdue] at hrest
        cases hreq : t.request? with
        | some m =>
            rw [hreq] at hrest
            exact .inr (hrest rfl rfl fun e he => isProgress_of_mem_toList he)
        | none =>
            rw [hreq] at hrest
            refine .inr (hrest rfl ?_ hnil)
            cases t.result? <;> rfl

/-- **Whatever is no act leaves the shared state as it is.** -/
lemma act_or_unmoved (w : World) (x : Happening) : (∃ c, Act w x c) ∨ w.Unmoved x := by
  cases x with
  | radio r => exact .inr ⟨rfl, List.forall_mem_nil _⟩
  | connection id outcome =>
      refine .inr ⟨?_, List.forall_mem_nil _⟩
      rw [happen]
      cases w.session? id with
      | none => rfl
      | some s =>
          rw [Option.elim_some, connection.eq_def]
          cases s.stage <;> rfl
  | answer id reply =>
      refine .inr ⟨?_, ?_⟩
      · rw [happen]
        cases w.session? id with
        | none => rfl
        | some s =>
            rw [Option.elim_some, answer.eq_def]
            cases s.stage with
            | sending =>
                dsimp only
                split_ifs <;> rfl
            | starting | interrupted | refused | linked | connected | working | connecting
            | closing | reporting | «over» => rfl
      · rw [told]
        cases w.session? id with
        | none => exact List.forall_mem_nil _
        | some s =>
            rw [Option.elim_some, Session.told.eq_def]
            cases s.stage with
            | sending =>
                dsimp only
                split_ifs
                · exact fun e he => isProgress_of_mem_toList he
                · exact List.forall_mem_nil _
            | starting | interrupted | refused | linked | connected | working | connecting
            | closing | reporting | «over» => exact List.forall_mem_nil _
  | move m =>
      cases m with
      | adjust | adapter | advance => exact .inr ⟨rfl, List.forall_mem_nil _⟩
      | request r =>
          cases hr : w.state.handle r with
          | ok c => exact .inl ⟨_, .request hr⟩
          | error e =>
              refine .inr ⟨?_, ?_⟩
              · rw [happen, step, request, hr]
              · rw [told, step, request, hr]
                exact List.forall_mem_nil _
      | watch =>
          by_cases h : w.changePending = true
          · exact .inl ⟨_, .seen h⟩
          · refine .inr ⟨?_, ?_⟩
            · rw [happen, step, watch, if_neg h]
            · rw [told, step, watch, if_neg h]
              exact List.forall_mem_nil _
      | timer t =>
          by_cases h : t ∈ w.timers ∧ t.due ≤ w.now
          · exact .inl ⟨_, .woken h⟩
          · refine .inr ⟨?_, ?_⟩
            · rw [happen, step, if_neg h]
            · rw [told, step, if_neg h]
              exact List.forall_mem_nil _
      | dispatch =>
          cases hd : w.dispatcher with
          | looking =>
              cases hnext : w.state.takeNext with
              | some r => exact .inl ⟨_, .begun hd hnext⟩
              | none =>
                  refine .inr ⟨?_, ?_⟩
                  · rw [happen, step, dispatch, hd]
                    dsimp only
                    rw [hnext]
                  · rw [told, step, dispatch, hd]
                    dsimp only
                    rw [hnext]
                    exact List.forall_mem_nil _
          | acquiring | parked =>
              refine .inr ⟨?_, ?_⟩
              · rw [happen, step, dispatch, hd]
                dsimp only
                split_ifs <;> rfl
              · rw [told, step, dispatch, hd]
                dsimp only
                split_ifs <;> exact List.forall_mem_nil _
      | session id =>
          cases hs : w.session? id with
          | some s => exact act_or_unmoved_session hs
          | none =>
              refine .inr ⟨?_, ?_⟩
              · rw [happen, step, hs]
                rfl
              · rw [told, step, hs]
                exact List.forall_mem_nil _
      | interrupt id =>
          refine .inr ⟨?_, List.forall_mem_nil _⟩
          rw [happen, step]
          cases w.session? id with
          | none => rfl
          | some s =>
              dsimp only
              rw [Option.elim_some, interruptSession.eq_def]
              cases s.stage with
              | connecting =>
                  dsimp only
                  split_ifs <;> rfl
              | starting | interrupted | refused | linked | connected | working | sending
              | closing | reporting | «over» => rfl

end World

end DiceHost.Scheduler
