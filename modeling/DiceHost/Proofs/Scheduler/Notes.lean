/-
What sessions do over their links.

* `Note`: a request with what came back, or the end of a transfer with its result;
* `World.note?`, `World.notes`: the note of a session as something happens, and all its notes in a
  run;
* `Transfer.Answered`: a transfer after some of its requests have been answered;
* `Stage.isBusy`, `Stage.isOpening`: a session works on the jobs of its die, or not yet;
* `Proceeds`: what a session does in one step, with the note of it;
* `Orderly.proceeds`: **as something happens, a session stays without a note, or proceeds with the
  note of its step, or begins**;
* `Sends`: the notes of a session with some payloads to write, in the middle or at its end;
* `Sends.nil_after_failure`, `Sends.exists_announced`: **after a transfer that failed nothing is
  noted**, and what is announced is one of the payloads.
-/
import DiceHost.Proofs.Link.Conversation
import DiceHost.Proofs.Scheduler.Failures

namespace DiceHost

/-! ### Transfers in progress -/

namespace Link

/-- A transfer after some of its requests, one after the other, have been answered in any way. -/
inductive Transfer.Answered (t₀ : Transfer) : List Exchange → Transfer → Prop
  | start : Answered t₀ [] t₀
  | answer {talk : List Exchange} {t : Transfer} {m : Message}
      (reply : Except LinkError (List UInt8)) (h : Answered t₀ talk t) (hm : t.request? = some m) :
      Answered t₀ (talk ++ [⟨m, reply⟩]) (t.answer reply).1

namespace Transfer

variable {t t₀ : Transfer} {talk : List Exchange} {e : Exchange}

lemma Answered.payload (h : t₀.Answered talk t) : t.payload = t₀.payload := by
  induction h with
  | start => rfl
  | answer reply _ _ ih => exact (payload_answer _ reply).trans ih

/-- A transfer announces its payload. -/
lemma announced_of_request? {kind : PayloadKind} {size hash : UInt32}
    (h : t.request? = some (.transferPayload kind size hash)) :
    kind = t.payload.kind ∧ hash = t.payload.hash := by
  rw [request?] at h
  cases hp : t.phase <;> rw [hp] at h <;> cases h
  exact ⟨rfl, rfl⟩

/-- What a transfer has announced is its payload. -/
lemma Answered.announced (h : t₀.Answered talk t) (he : e ∈ talk) {kind : PayloadKind}
    {size hash : UInt32} (hm : e.message = .transferPayload kind size hash) :
    kind = t₀.payload.kind ∧ hash = t₀.payload.hash := by
  induction h with
  | start => cases he
  | answer reply h hreq ih =>
      rcases List.mem_append.mp he with he | he
      · exact ih he
      · obtain rfl := List.mem_singleton.mp he
        rw [← h.payload]
        exact announced_of_request? (hreq.trans (congrArg some hm))

end Transfer

end Link

namespace Scheduler

open Link

/-! ### Notes -/

/-- What a session does over its link. -/
inductive Note where
  | exchange (e : Exchange)
  /-- The transfer of a payload has ended. -/
  | ended (p : Payload) (result : Except TransferError Outcome)

/-- The note of a step of a session. -/
def World.stepNote? (w : World) (s : Session) : Option Note :=
  match s.stage with
  | .sending link t due task _ _ =>
    if w.now < due then none
    else
      match t.request? with
      | some m => some (.exchange ⟨m, (w.radio.request link m.encode).1⟩)
      | none => t.result?.map (.ended task.payload)
  | _ => none

/-- The note of an answer to the request of a session. -/
def Session.answerNote? (s : Session) (reply : Except LinkError (List UInt8)) : Option Note :=
  match s.stage with
  | .sending _ t _ _ _ _ => t.request?.map fun m => .exchange ⟨m, reply⟩
  | _ => none

namespace World

/-- The note of a session as something happens. -/
def note? (w : World) (id : ℕ) : Happening → Option Note
  | .move (.session i) => if i = id then (w.session? id).bind w.stepNote? else none
  | .answer i reply => if i = id then (w.session? id).bind (·.answerNote? reply) else none
  | _ => none

/-- The notes of a session in a run. -/
def notes (w : World) (id : ℕ) : List Happening → List Note
  | [] => []
  | x :: hs => (w.note? id x).toList ++ (w.happen x).notes id hs

lemma notes_concat (w : World) (id : ℕ) (hs : List Happening) (x : Happening) :
    w.notes id (hs ++ [x]) = w.notes id hs ++ ((w.after hs).note? id x).toList := by
  induction hs generalizing w with
  | nil => exact List.append_nil _
  | cons y hs ih => exact (congrArg (_ ++ ·) (ih (w.happen y))).trans (List.append_assoc ..).symm

end World

/-! ### Steps -/

/-- A session works on the jobs of its die. -/
def Stage.isBusy : Stage → Bool
  | .working .. | .sending .. | .closing .. | .reporting _ => true
  | _ => false

/-- A session has no link yet, or has not recorded it. -/
def Stage.isOpening : Stage → Bool
  | .starting | .connecting _ | .interrupted | .refused _ | .linked _ => true
  | _ => false

/-- What a session does in one step: its next stage, and its note. -/
inductive Proceeds (w : World) (s : Session) : Happening → Stage → Option Note → Prop
  | idle {x : Happening} {stage : Stage} (h : s.stage.isOpening = true)
      (hstage : stage.isBusy = false) : Proceeds w s x stage none
  | work {link : Connection} (h : s.stage = .connected link) :
      Proceeds w s (.move (.session s.id))
        (.working link (Task.ofJobs (w.state.jobs s.pixel)) {}) none
  | send {x : Happening} {link : Connection} {task : Task} {tasks : List Task} {report : Report}
      (due : ℕ) (h : s.stage = .working link (task :: tasks) report) :
      Proceeds w s x
        (.sending link (Transfer.start task.payload w.config.chunkSize link.maxMessage) due task
          tasks report) none
  | answer {x : Happening} {link : Connection} {t : Transfer} {due : ℕ} {task : Task}
      {tasks : List Task} {report : Report} {m : Message} (reply : Except LinkError (List UInt8))
      (link' : Connection) (due' : ℕ) (h : s.stage = .sending link t due task tasks report)
      (hm : t.request? = some m) :
      Proceeds w s x (.sending link' (t.answer reply).1 due' task tasks report)
        (some (.exchange ⟨m, reply⟩))
  | finish {x : Happening} {link : Connection} {t : Transfer} {due : ℕ} {task : Task}
      {tasks : List Task} {report : Report} {r : Except TransferError Outcome}
      (h : s.stage = .sending link t due task tasks report) (hr : t.result? = some r) :
      Proceeds w s x (World.afterTransfer link task tasks report r) (some (.ended task.payload r))
  | close {x : Happening} {link : Connection} {report : Report}
      (h : s.stage = .working link [] report) : Proceeds w s x (.closing link report) none
  | report {x : Happening} {link : Connection} {report : Report}
      (h : s.stage = .closing link report) : Proceeds w s x (.reporting report) none
  | ended {x : Happening} {report : Report} (h : s.stage = .reporting report) :
      Proceeds w s x .over none

/-- What becomes of the sessions as something happens, and what they note. -/
def World.Proceed (w : World) (x : Happening) (w' : World) : Prop :=
  ∀ y ∈ w'.sessions, (y ∈ w.sessions ∧ w.note? y.id x = none)
    ∨ (∃ s ∈ w.sessions, y = { s with stage := y.stage }
        ∧ Proceeds w s x y.stage (w.note? s.id x))
    ∨ (y.stage = .starting ∧ y.id = w.started ∧ w.note? y.id x = none)

namespace World

variable {w w' : World} {x : Happening} {s : Session} {stage : Stage}

/-- No session takes a step. -/
lemma Proceed.rest (hsessions : w'.sessions = w.sessions)
    (hnote : ∀ y ∈ w.sessions, w.note? y.id x = none) : w.Proceed x w' := by
  intro y hy
  rw [hsessions] at hy
  exact .inl ⟨hy, hnote y hy⟩

/-- No session takes a step, and the one that might have notes nothing. -/
lemma Proceed.silent (hsessions : w'.sessions = w.sessions)
    (hother : ∀ id ≠ s.id, w.note? id x = none) (h : w.note? s.id x = none) :
    w.Proceed x w' := by
  refine .rest hsessions fun y _ => ?_
  by_cases hid : y.id = s.id
  · rw [hid, h]
  · exact hother y.id hid

/-- One session takes a step. -/
lemma Proceed.step (hids : (w.sessions.map (·.id)).Nodup) (hs : s ∈ w.sessions)
    (hsessions : w'.sessions = (w.setStage s.id stage).sessions)
    (hnote : ∀ id ≠ s.id, w.note? id x = none) (h : Proceeds w s x stage (w.note? s.id x)) :
    w.Proceed x w' := by
  intro y hy
  rw [hsessions] at hy
  rcases mem_setStage hids hs hy with rfl | ⟨hy, hid⟩
  · exact .inr (.inl ⟨s, hs, rfl, h⟩)
  · exact .inl ⟨hy, hnote y.id hid⟩

lemma note?_session_of_ne {id i : ℕ} (h : id ≠ i) :
    w.note? id (.move (.session i)) = none := by
  rw [note?, if_neg h.symm]

lemma note?_session (hs : w.session? s.id = some s) :
    w.note? s.id (.move (.session s.id)) = w.stepNote? s := by
  rw [note?, if_pos rfl, hs, Option.bind_some]

lemma note?_answer_of_ne {id i : ℕ} {reply : Except LinkError (List UInt8)} (h : id ≠ i) :
    w.note? id (.answer i reply) = none := by
  rw [note?, if_neg h.symm]

lemma note?_answer (hs : w.session? s.id = some s) (reply : Except LinkError (List UInt8)) :
    w.note? s.id (.answer s.id reply) = s.answerNote? reply := by
  rw [note?, if_pos rfl, hs, Option.bind_some]

/-! #### The parts, one by one -/

lemma proceed_connection (hids : (w.sessions.map (·.id)).Nodup) (hs : s ∈ w.sessions)
    (outcome : Except LinkError Connection) :
    w.Proceed (.connection s.id outcome) (w.connection s outcome) := by
  rw [connection.eq_def]
  cases hst : s.stage with
  | connecting due =>
      refine .step hids hs rfl (fun _ _ => rfl) (.idle (by rw [hst]; rfl) ?_)
      cases outcome with
      | ok link => rfl
      | error e => cases e <;> rfl
  | starting | interrupted | refused | linked | connected | working | sending | closing
  | reporting | «over» => exact .rest rfl fun _ _ => rfl

lemma proceed_interruptSession (hids : (w.sessions.map (·.id)).Nodup) (hs : s ∈ w.sessions) :
    w.Proceed (.move (.interrupt s.id)) (w.interruptSession s) := by
  rw [interruptSession.eq_def]
  cases hst : s.stage with
  | connecting due =>
      dsimp only
      split_ifs
      · exact .rest rfl fun _ _ => rfl
      · exact .step hids hs rfl (fun _ _ => rfl) (.idle (by rw [hst]; rfl) rfl)
  | starting | interrupted | refused | linked | connected | working | sending | closing
  | reporting | «over» => exact .rest rfl fun _ _ => rfl

lemma proceed_answer (hids : (w.sessions.map (·.id)).Nodup) (hs : s ∈ w.sessions)
    (reply : Except LinkError (List UInt8)) :
    w.Proceed (.answer s.id reply) (w.answer s reply) := by
  have hnote := note?_answer (session?_of_mem hids hs) reply
  rw [Session.answerNote?.eq_def] at hnote
  rw [answer.eq_def]
  have hrest : w.note? s.id (.answer s.id reply) = none → w.Proceed (.answer s.id reply) w :=
    .silent rfl fun _ => note?_answer_of_ne
  cases hst : s.stage with
  | sending link t due task tasks report =>
      rw [hst] at hnote
      cases hm : t.request? with
      | none =>
          dsimp only at hnote ⊢
          rw [hm] at hnote ⊢
          exact hrest hnote
      | some m =>
          dsimp only at hnote ⊢
          rw [hm] at hnote ⊢
          refine .step hids hs rfl (fun _ => note?_answer_of_ne) ?_
          rw [hnote]
          exact .answer reply link _ hst hm
  | starting | interrupted | refused | linked | connected | working | connecting | closing
  | reporting | «over» =>
      rw [hst] at hnote
      exact hrest hnote

/-- The dispatcher begins a session at most. -/
lemma proceed_dispatch (w : World) : w.Proceed (.move .dispatch) w.dispatch.1 := by
  rw [dispatch]
  cases w.dispatcher with
  | acquiring | parked =>
      dsimp only
      split_ifs <;> exact .rest rfl fun _ _ => rfl
  | looking =>
      dsimp only
      cases w.state.takeNext with
      | none => exact .rest rfl fun _ _ => rfl
      | some r =>
          intro y hy
          rcases List.mem_append.mp hy with hy | hy
          · exact .inl ⟨hy, rfl⟩
          · obtain rfl := List.mem_singleton.mp hy
            exact .inr (.inr ⟨rfl, rfl, rfl⟩)

/-- A step of a session, with its note. -/
lemma proceed_advanceSession (hids : (w.sessions.map (·.id)).Nodup) (hs : s ∈ w.sessions) :
    w.Proceed (.move (.session s.id)) (w.advanceSession s).1 := by
  have hnote := note?_session (session?_of_mem hids hs)
  rw [stepNote?.eq_def] at hnote
  have hrest {w' : World} (hsessions : w'.sessions = w.sessions)
      (h : w.note? s.id (.move (.session s.id)) = none) :
      w.Proceed (.move (.session s.id)) w' :=
    .silent hsessions (fun _ => note?_session_of_ne) h
  have hstep {w' : World} {stage : Stage} {note : Option Note}
      (hsessions : w'.sessions = (w.setStage s.id stage).sessions)
      (h : w.note? s.id (.move (.session s.id)) = note)
      (hproceeds : Proceeds w s (.move (.session s.id)) stage note) :
      w.Proceed (.move (.session s.id)) w' :=
    .step hids hs hsessions (fun _ => note?_session_of_ne) (h ▸ hproceeds)
  have hidle {w' : World} {stage : Stage} (hst : s.stage.isOpening = true)
      (hsessions : w'.sessions = (w.setStage s.id stage).sessions) (hstage : stage.isBusy = false)
      (h : w.note? s.id (.move (.session s.id)) = none) :
      w.Proceed (.move (.session s.id)) w' :=
    hstep hsessions h (.idle hst hstage)
  rw [advanceSession.eq_def]
  cases hst : s.stage with
  | starting =>
      rw [hst] at hnote
      refine hidle (by rw [hst]; rfl) rfl ?_ hnote
      split_ifs <;> rfl
  | connecting due =>
      rw [hst] at hnote
      dsimp only
      split_ifs
      · rw [completeConnection]
        have hconnecting : s.stage.isOpening = true := by rw [hst]; rfl
        cases w.radio.accept s.pixel with
        | mk outcome radio => cases outcome with
          | ok link => exact hidle hconnecting rfl rfl hnote
          | error e => exact hidle hconnecting rfl rfl hnote
      · exact hrest rfl hnote
  | interrupted | refused | linked =>
      rw [hst] at hnote
      exact hidle (by rw [hst]; rfl) rfl rfl hnote
  | connected link =>
      rw [hst] at hnote
      exact hstep rfl hnote (.work hst)
  | working link tasks report =>
      rw [hst] at hnote
      cases tasks with
      | nil => exact hstep rfl hnote (.close hst)
      | cons task tasks => exact hstep rfl hnote (.send _ hst)
  | sending link t due task tasks report =>
      rw [hst] at hnote
      dsimp only at hnote ⊢
      by_cases hdue : w.now < due
      · rw [if_pos hdue] at hnote ⊢
        exact hrest rfl hnote
      · rw [if_neg hdue] at hnote ⊢
        cases hm : t.request? with
        | some m =>
            rw [hm] at hnote
            exact hstep rfl hnote (.answer _ _ _ hst hm)
        | none =>
            rw [hm] at hnote
            cases hr : t.result? with
            | none =>
                rw [hr] at hnote
                exact hrest rfl hnote
            | some r =>
                rw [hr] at hnote
                exact hstep rfl hnote (.finish hst hr)
  | closing link report =>
      rw [hst] at hnote
      exact hstep rfl hnote (.report hst)
  | reporting report =>
      rw [hst] at hnote
      exact hstep rfl hnote (.ended hst)
  | «over» =>
      intro y hy
      obtain ⟨hy, hid⟩ := List.mem_filter.mp hy
      exact .inl ⟨hy, note?_session_of_ne (of_decide_eq_true hid)⟩

end World

/-- **As something happens, a session stays without a note, or it proceeds with the note of its
step, or it begins.** -/
lemma Orderly.proceeds {w : World} (ho : Orderly w.state w.sessions w.started) (x : Happening) :
    w.Proceed x (w.happen x) := by
  have hnone (id : ℕ) (h : w.session? id = none) : ∀ y ∈ w.sessions, y.id ≠ id := by
    rintro y hy rfl
    rw [World.session?_of_mem ho.ids hy] at h
    cases h
  cases x with
  | radio r => exact .rest rfl fun _ _ => rfl
  | connection id outcome =>
      rw [World.happen]
      cases hs : w.session? id with
      | none => exact .rest rfl fun _ _ => rfl
      | some s =>
          obtain ⟨hmem, rfl⟩ := World.mem_of_session? hs
          exact World.proceed_connection ho.ids hmem outcome
  | answer id reply =>
      rw [World.happen]
      cases hs : w.session? id with
      | none => exact .rest rfl fun y hy => World.note?_answer_of_ne (hnone id hs y hy)
      | some s =>
          obtain ⟨hmem, rfl⟩ := World.mem_of_session? hs
          exact World.proceed_answer ho.ids hmem reply
  | move m =>
      rw [World.happen]
      cases m with
      | adjust | adapter | advance => exact .rest rfl fun _ _ => rfl
      | request r =>
          refine .rest ?_ fun _ _ => rfl
          rw [World.step, World.request]
          cases w.state.handle r <;> rfl
      | watch =>
          refine .rest ?_ fun _ _ => rfl
          rw [World.step, World.watch]
          split_ifs <;> rfl
      | timer t =>
          refine .rest ?_ fun _ _ => rfl
          rw [World.step]
          split_ifs <;> rfl
      | dispatch => exact w.proceed_dispatch
      | session id =>
          rw [World.step]
          cases hs : w.session? id with
          | none => exact .rest rfl fun y hy => World.note?_session_of_ne (hnone id hs y hy)
          | some s =>
              obtain ⟨hmem, rfl⟩ := World.mem_of_session? hs
              exact World.proceed_advanceSession ho.ids hmem
      | interrupt id =>
          rw [World.step]
          cases hs : w.session? id with
          | none => exact .rest rfl fun _ _ => rfl
          | some s =>
              obtain ⟨hmem, rfl⟩ := World.mem_of_session? hs
              exact World.proceed_interruptSession ho.ids hmem

/-! ### Logs -/

/-- The notes of a session that has some payloads to write, in the middle or at its end. One payload
after the other is written, in their order, until its transfer has ended; a transfer that fails is
the last one. The messages of a transfer are bounded by the link. -/
inductive Sends (chunk : ℕ) : List Payload → List Note → Prop
  | rest (ps : List Payload) : Sends chunk ps []
  | busy {p : Payload} {talk : List Exchange} {t : Transfer} (ps : List Payload) (maxMessage : ℕ)
      (h : (Transfer.start p chunk maxMessage).Answered talk t) :
      Sends chunk (p :: ps) (talk.map .exchange)
  | failed {p : Payload} {talk : List Exchange} {t : Transfer} {e : TransferError}
      (ps : List Payload) (maxMessage : ℕ)
      (h : (Transfer.start p chunk maxMessage).Answered talk t)
      (he : t.result? = some (.error e)) :
      Sends chunk (p :: ps) (talk.map .exchange ++ [.ended p (.error e)])
  | confirmed {p : Payload} {talk : List Exchange} {t : Transfer} {o : Outcome}
      {ps : List Payload} {notes : List Note} (maxMessage : ℕ)
      (h : (Transfer.start p chunk maxMessage).Answered talk t)
      (ho : t.result? = some (.ok o)) (hs : Sends chunk ps notes) :
      Sends chunk (p :: ps) (talk.map .exchange ++ .ended p (.ok o) :: notes)

namespace Sends

variable {chunk : ℕ} {ps : List Payload} {notes pre post : List Note} {e : Exchange}

/-- An end of a transfer is noted behind its exchanges. -/
lemma split_talk {talk : List Exchange} {p : Payload} {x : Except TransferError Outcome}
    (h : talk.map .exchange ++ notes = pre ++ .ended p x :: post) :
    ∃ pre', notes = pre' ++ .ended p x :: post := by
  induction talk generalizing pre with
  | nil => exact ⟨pre, h⟩
  | cons e talk ih =>
      cases pre with
      | nil => cases (List.cons.inj h).1
      | cons note pre => exact ih (List.cons.inj h).2

/-- **After a transfer that failed nothing is noted.** -/
lemma nil_after_failure (h : Sends chunk ps notes) {p : Payload} {x : TransferError}
    (hnotes : notes = pre ++ .ended p (.error x) :: post) : post = [] := by
  induction h generalizing pre with
  | rest => simp at hnotes
  | busy =>
      rw [← List.append_nil (List.map _ _)] at hnotes
      obtain ⟨pre', hnil⟩ := split_talk hnotes
      simp at hnil
  | failed =>
      obtain ⟨pre', hlast⟩ := split_talk hnotes
      cases pre' with
      | nil => exact (List.cons.inj hlast).2.symm
      | cons note pre' => simp at hlast
  | confirmed _ _ _ _ ih =>
      obtain ⟨pre', hrest⟩ := split_talk hnotes
      cases pre' with
      | nil => cases (List.cons.inj hrest).1
      | cons note pre' => exact ih (List.cons.inj hrest).2

/-- What is announced is one of the payloads. -/
lemma exists_announced (h : Sends chunk ps notes) (he : .exchange e ∈ notes) {kind : PayloadKind}
    {size hash : UInt32} (hm : e.message = .transferPayload kind size hash) :
    ∃ p ∈ ps, kind = p.kind ∧ hash = p.hash := by
  have htalk {talk : List Exchange} (he : .exchange e ∈ talk.map Note.exchange) : e ∈ talk := by
    simpa using he
  induction h with
  | rest => cases he
  | busy _ _ h => exact ⟨_, List.mem_cons_self, h.announced (htalk he) hm⟩
  | failed _ _ h =>
      rcases List.mem_append.mp he with he | he
      · exact ⟨_, List.mem_cons_self, h.announced (htalk he) hm⟩
      · cases List.mem_singleton.mp he
  | confirmed _ h _ _ ih =>
      rcases List.mem_append.mp he with he | he
      · exact ⟨_, List.mem_cons_self, h.announced (htalk he) hm⟩
      · obtain ⟨p, hp, hannounced⟩ := ih ((List.mem_cons.mp he).resolve_left nofun)
        exact ⟨p, List.mem_cons_of_mem _ hp, hannounced⟩

end Sends

end Scheduler

end DiceHost
