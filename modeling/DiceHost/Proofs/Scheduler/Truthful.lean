/-
Records that tell the truth about their dice.

* `Stage.hash?`: the data set that a session will record at its end;
* `Truthful`: whatever the record of a die tells, the die stores, unless a session of the die is
  about to record another data set; and what sessions are about to record, their dice store;
* `World.Admits`: the scheduler alone talks to the dice, no die is put in the place of another,
  and records are registered as they should be;
* `Truthful.advanceSession`, `Truthful.step`: **a move keeps the records truthful**;
* `upToDate_truthful`: in every run, what the record of a die without a session tells is stored
  by the die, and a program is answered as up to date only when the die holds it.

A die replaces its data set before the host hears of it, and the host records it only at the
end of the session. In between the session is the witness for what the record does not tell.
-/
import DiceHost.Proofs.Link.Exchange
import DiceHost.Proofs.Scheduler.Records
import DiceHost.Proofs.Scheduler.Acceptance

namespace DiceHost.Scheduler

open Link

/-! ### Sessions and their dice -/

/-- No image of firmware is a data set. -/
def Task.Sane : Task → Prop
  | .profile _ => True
  | .image payload _ => payload.kind ≠ .dataSet

/-- The tasks of all jobs are sane. -/
lemma Task.sane_ofJobs (jobs : Option ProfileJob × Option FirmwareJob) :
    ∀ task ∈ Task.ofJobs jobs, task.Sane := by
  intro task htask
  rcases List.mem_append.mp htask with htask | htask
  · obtain ⟨job, -, rfl⟩ := Option.map_eq_some_iff.mp (Option.mem_toList.mp htask)
    trivial
  · obtain ⟨job, -, htask⟩ := List.mem_flatMap.mp htask
    obtain ⟨payload, hpayload, rfl⟩ := List.mem_map.mp htask
    rcases List.mem_append.mp hpayload with hpayload | hpayload
    · obtain ⟨bytes, -, rfl⟩ := Option.map_eq_some_iff.mp (Option.mem_toList.mp hpayload)
      exact nofun
    · obtain rfl := List.mem_singleton.mp hpayload
      exact nofun

/-- The success of a task confirms its data set, if it has one. -/
lemma Task.hash?_record {task : Task} (h : task.Sane) (r : Report) (outcome : Outcome) :
    (task.record r outcome).hash?
      = if task.payload.kind = .dataSet then some task.payload.hash else r.hash? := by
  cases task with
  | profile job => rfl
  | image payload job =>
      rw [if_neg (show (Task.image payload job).payload.kind ≠ .dataSet from h), record]
      split_ifs <;> rfl

/-- The data set that a session will record at its end. -/
def Stage.hash? : Stage → Option UInt32
  | .working _ _ report | .closing _ report | .reporting report => report.hash?
  | .sending _ t _ task _ report =>
    match t.phase with
    | .finished (.ok outcome) => (task.record report outcome).hash?
    | _ => report.hash?
  | _ => none

/-- A session is linked to its own die and sends what it is to send. -/
def Stage.Linked (r : Radio) (p : PixelId) : Stage → Prop
  | .linked link | .connected link => link.pixel = p
  | .working link tasks _ => link.pixel = p ∧ ∀ task ∈ tasks, task.Sane
  | .sending link t _ task tasks _ =>
    link.pixel = p ∧ (∀ x ∈ task :: tasks, x.Sane) ∧ t.payload = task.payload
      ∧ t.chunk < 2 ^ 16 ∧ t.Matches (r.incoming? p)
  | _ => True

/-- A session is linked to its die, and the die stores what the session will record. -/
structure Stage.Truthful (r : Radio) (p : PixelId) (stage : Stage) : Prop where
  told : ∀ h, stage.hash? = some h → r.dataSetHash? p = some h
  linked : stage.Linked r p

section Stages

variable {r r' : Radio} {p : PixelId} {stage : Stage} {t : Transfer} {link : Connection}
  {due : ℕ} {task : Task} {tasks : List Task} {report : Report}

/-- A transfer without success adds nothing to the report. -/
lemma Stage.hash?_sending (h : ¬ t.Succeeded) :
    (Stage.sending link t due task tasks report).hash? = report.hash? := by
  rw [Stage.hash?]
  split
  · exact absurd ⟨_, ‹_›⟩ h
  · rfl

lemma Stage.hash?_sending_of_succeeded (hsane : task.Sane) (h : t.Succeeded) :
    (Stage.sending link t due task tasks report).hash?
      = if task.payload.kind = .dataSet then some task.payload.hash else report.hash? := by
  obtain ⟨outcome, hp⟩ := h
  rw [Stage.hash?]
  simp only [hp]
  exact Task.hash?_record hsane report outcome

/-- The end of a transfer moves what it confirms to the report. -/
lemma Stage.hash?_afterTransfer {result : Except TransferError Outcome}
    (h : t.result? = some result) :
    (World.afterTransfer link task tasks report result).hash?
      = (Stage.sending link t due task tasks report).hash? := by
  have hp : t.phase = .finished result := by
    cases hp : t.phase with
    | finished x =>
        rw [Transfer.result?, hp, Option.some_inj] at h
        rw [h]
    | announcing | settingUp | sending | committing =>
        rw [Transfer.result?, hp] at h
        cases h
  rw [Stage.hash?.eq_def (Stage.sending link t due task tasks report)]
  simp only [hp]
  cases result <;> rfl

/-- A session that will record something has not ended. -/
lemma Session.live_of_hash? {x : Session} (h : x.stage.hash?.isSome) : x.Live := by
  intro hover
  rw [hover] at h
  cases h

lemma Stage.truthful_over (r : Radio) (p : PixelId) : Stage.Truthful r p .over :=
  ⟨nofun, trivial⟩

/-- A die that keeps what it stores keeps its sessions truthful. -/
lemma Stage.Truthful.keeps (h : stage.Truthful r p) (hk : r.Keeps r' p) :
    stage.Truthful r' p where
  told := fun x hx => hk.stored x (h.told x hx)
  linked := by
    have hlinked := h.linked
    cases stage with
    | sending link t due task tasks report =>
        obtain ⟨hlink, hsane, hpayload, hchunk, hmatch⟩ := hlinked
        refine ⟨hlink, hsane, hpayload, hchunk, ?_⟩
        rw [Transfer.Matches] at hmatch ⊢
        split
        case h_1 | h_2 | h_3 =>
          rename_i hp
          rw [hp] at hmatch
          exact fun i hi => hmatch i (hk.incoming i hi)
        case h_4 | h_5 => trivial
    | linked | connected | working => exact hlinked
    | starting | connecting | interrupted | refused | closing | reporting | «over» => trivial

end Stages

/-! ### Truthful records -/

/-- Sessions are truthful, and what the record of a die tells is stored by the die, unless a
session of the die will record something else. -/
structure Truthful (r : Radio) (t : State) (ss : List Session) : Prop where
  sessions : ∀ x ∈ ss, x.stage.Truthful r x.pixel
  records : ∀ p h, t.recordedHash? p = some h →
    r.dataSetHash? p = some h ∨ ∃ x ∈ ss, x.pixel = p ∧ x.stage.hash?.isSome

namespace Truthful

section Parts

variable {r r' : Radio} {s t : State} {ss : List Session}

/-- Dice that keep what they store keep everything truthful. -/
lemma keeps (h : Truthful r t ss) (hk : ∀ q, r.Keeps r' q) : Truthful r' t ss where
  sessions := fun x hx => (h.sessions x hx).keeps (hk x.pixel)
  records := fun p x hx => (h.records p x hx).imp_left ((hk p).stored x)

/-- So do members that follow what they were. -/
lemma follows (h : Truthful r s ss) (hn : ∀ q, s.Follows t q) : Truthful r t ss where
  sessions := h.sessions
  records := fun p x hx => h.records p x ((hn p).recordedHash? hx)

end Parts

variable {w : World} {s : Session} {stage : Stage} {t : State} {r : Radio}

/-- The record of a die in a session is truthful, or the session will record something. -/
lemma own (h : Truthful w.radio w.state w.sessions)
    (ho : Orderly w.state w.sessions w.started) (hs : s ∈ w.sessions) (hlive : s.Live) {x : UInt32}
    (hx : w.state.recordedHash? s.pixel = some x) :
    w.radio.dataSetHash? s.pixel = some x ∨ s.stage.hash?.isSome := by
  rcases h.records s.pixel x hx with hstored | ⟨y, hy, hp, hsome⟩
  · exact .inl hstored
  · have hid := ho.apart y hy s hs (Session.live_of_hash? hsome) hlive hp
    obtain rfl := List.inj_on_of_nodup_map ho.ids hy hs hid
    exact .inr hsome

/-- A live session moves to another stage, while the other dice and their records keep what they
have. -/
lemma setStage (h : Truthful w.radio w.state w.sessions)
    (ho : Orderly w.state w.sessions w.started) (hs : s ∈ w.sessions) (hlive : s.Live)
    (hk : ∀ q, q ≠ s.pixel → w.radio.Keeps r q) (hn : ∀ q, q ≠ s.pixel → w.state.Follows t q)
    (hstage : stage.Truthful r s.pixel)
    (hself : ∀ x, t.recordedHash? s.pixel = some x →
      r.dataSetHash? s.pixel = some x ∨ stage.hash?.isSome) :
    Truthful r t (w.setStage s.id stage).sessions where
  sessions := by
    intro x hx
    rcases mem_setStage ho.ids hs hx with rfl | ⟨hx, hid⟩
    · exact hstage
    · by_cases hxl : x.Live
      · have hp : x.pixel ≠ s.pixel := fun hp => hid (ho.apart x hx s hs hxl hlive hp)
        exact (h.sessions x hx).keeps (hk x.pixel hp)
      · rw [not_not.mp hxl]
        exact Stage.truthful_over r x.pixel
  records := by
    intro p x hx
    have hmem (y : Session) (hy : y ∈ w.sessions) :
        (if y.id = s.id then { y with stage } else y) ∈ (w.setStage s.id stage).sessions :=
      List.mem_map_of_mem hy
    by_cases hp : p = s.pixel
    · subst hp
      refine (hself x hx).imp_right fun hsome => ⟨{ s with stage }, ?_, rfl, hsome⟩
      have hnew := hmem s hs
      rw [if_pos rfl] at hnew
      exact hnew
    · rcases h.records p x ((hn p hp).recordedHash? hx) with hstored | ⟨y, hy, hyp, hsome⟩
      · exact .inl ((hk p hp).stored x hstored)
      · have hid : y.id ≠ s.id := by
          intro hid
          obtain rfl := List.inj_on_of_nodup_map ho.ids hy hs hid
          exact hp hyp.symm
        have hold := hmem y hy
        rw [if_neg hid] at hold
        exact .inr ⟨y, hold, hyp, hsome⟩

/-- A live session moves on, and will record what it would have recorded. -/
lemma goesOn (h : Truthful w.radio w.state w.sessions)
    (ho : Orderly w.state w.sessions w.started) (hs : s ∈ w.sessions) (hlive : s.Live)
    (hk : ∀ q, w.radio.Keeps r q) (hn : ∀ q, w.state.Follows t q)
    (hhash : stage.hash? = s.stage.hash?) (hlinked : stage.Linked r s.pixel) :
    Truthful r t (w.setStage s.id stage).sessions := by
  refine h.setStage ho hs hlive (fun q _ => hk q) (fun q _ => hn q) ⟨?_, hlinked⟩ ?_
  · intro x hx
    exact (hk s.pixel).stored x ((h.sessions s hs).told x (hhash ▸ hx))
  · intro x hx
    rw [hhash]
    exact (h.own ho hs hlive ((hn s.pixel).recordedHash? hx)).imp_left ((hk s.pixel).stored x)

/-! #### Steps of sessions -/

/-- A request of a transfer is answered: the die may have replaced its data set by now, and then
the session is about to record it. -/
lemma exchange (h : Truthful w.radio w.state w.sessions)
    (ho : Orderly w.state w.sessions w.started) (hs : s ∈ w.sessions)
    {link link' : Connection} {tr tr' : Transfer} {due due' : ℕ} {task : Task}
    {tasks : List Task} {report : Report}
    (hst : s.stage = .sending link tr due task tasks report) (hunfinished : ¬ tr.Succeeded)
    (hlink : link'.pixel = s.pixel) (hex : w.radio.Exchanged s.pixel tr tr' r) :
    Truthful r w.state (w.setStage s.id (.sending link' tr' due' task tasks report)).sessions := by
  have hlive : s.Live := by
    intro hover
    rw [hover] at hst
    cases hst
  have htold := (h.sessions s hs).told
  have hlinked := (h.sessions s hs).linked
  rw [hst] at htold hlinked
  rw [Stage.hash?_sending hunfinished] at htold
  obtain ⟨-, hsane, hpayload, hchunk, -⟩ := hlinked
  have hsane' := hsane task List.mem_cons_self
  have hown : ∀ x, w.state.recordedHash? s.pixel = some x →
      w.radio.dataSetHash? s.pixel = some x ∨ report.hash?.isSome := by
    intro x hx
    have hx' := h.own ho hs hlive hx
    rw [hst, Stage.hash?_sending hunfinished] at hx'
    exact hx'
  refine h.setStage ho hs hlive hex.others (fun q _ => .refl _ q) ⟨?_, ?_⟩ ?_
  · -- what the session will record is stored
    intro x hx
    by_cases hsucc : tr'.Succeeded
    · rw [Stage.hash?_sending_of_succeeded hsane' hsucc, ← hpayload] at hx
      by_cases hkind : tr.payload.kind = .dataSet
      · rw [if_pos hkind] at hx
        rw [hex.delivered hsucc hkind]
        exact hx
      · rw [if_neg hkind] at hx
        rw [hex.stored.resolve_right fun hset => hkind hset.1]
        exact htold x hx
    · rw [Stage.hash?_sending hsucc] at hx
      rw [hex.stored.resolve_right fun hset => hsucc hset.2]
      exact htold x hx
  · exact ⟨hlink, hsane, hex.payload.trans hpayload, hex.chunk ▸ hchunk, hex.matching⟩
  · -- where the record is out of date, the session will record something
    intro x hx
    by_cases hset : tr.payload.kind = .dataSet ∧ tr'.Succeeded
    · right
      rw [Stage.hash?_sending_of_succeeded hsane' hset.2, ← hpayload, if_pos hset.1]
      rfl
    · rw [hex.stored.resolve_right hset]
      refine (hown x hx).imp_right fun hsome => ?_
      by_cases hsucc : tr'.Succeeded
      · rw [Stage.hash?_sending_of_succeeded hsane' hsucc]
        split_ifs
        · rfl
        · exact hsome
      · rw [Stage.hash?_sending hsucc]
        exact hsome

/-- The end of a session: its report tells what the die stores, and the record follows it. -/
lemma ended (h : Truthful w.radio w.state w.sessions)
    (ho : Orderly w.state w.sessions w.started) (hs : s ∈ w.sessions) {report : Report}
    (hst : s.stage = .reporting report) :
    Truthful w.radio (w.state.sessionEnded w.config s.pixel report).state
      (w.setStage s.id .over).sessions := by
  have hlive := Session.live_of_reporting hst
  obtain ⟨m, hm, hf⟩ := ho.manned s hs hlive
  obtain ⟨hold, -⟩ := ho.coherent.holds_inFlight hm hf
  have htouch := State.touches_sessionEnded w.state w.config s.pixel report
  refine h.setStage ho hs hlive (fun q _ => .refl _ q) (fun q hq => htouch.follows hq)
    (Stage.truthful_over _ _) ?_
  intro x hx
  left
  rcases State.recordedHash?_sessionEnded hold w.config report x hx with hnew | ⟨hnone, hsame⟩
  · refine (h.sessions s hs).told x ?_
    rw [hst]
    exact hnew
  · refine (h.own ho hs hlive hsame).resolve_right ?_
    rw [hst, Stage.hash?, hnone]
    exact nofun

/-- A session that has ended leaves; it has nothing more to record. -/
lemma left (h : Truthful w.radio w.state w.sessions)
    (ho : Orderly w.state w.sessions w.started) (hs : s ∈ w.sessions) (hst : s.stage = .over) :
    Truthful w.radio w.state (w.sessions.filter (·.id ≠ s.id)) where
  sessions := fun x hx => h.sessions x (List.mem_of_mem_filter hx)
  records := by
    intro p x hx
    refine (h.records p x hx).imp_right ?_
    rintro ⟨y, hy, hp, hsome⟩
    refine ⟨y, List.mem_filter.mpr ⟨hy, decide_eq_true ?_⟩, hp, hsome⟩
    intro hid
    obtain rfl := List.inj_on_of_nodup_map ho.ids hy hs hid
    exact Session.live_of_hash? hsome hst

/-- A step of a session keeps the records truthful. -/
lemma advanceSession (h : Truthful w.radio w.state w.sessions)
    (ho : Orderly w.state w.sessions w.started) (hs : s ∈ w.sessions) :
    Truthful (w.advanceSession s).1.radio (w.advanceSession s).1.state
      (w.advanceSession s).1.sessions := by
  have hstays (q : PixelId) : w.radio.Keeps w.radio q := .refl _ q
  have hquiet (q : PixelId) : w.state.Follows w.state q := .refl _ q
  have hlinked := (h.sessions s hs).linked
  have hlive {stage : Stage} (hst : s.stage = stage) (hne : stage ≠ .over) : s.Live := by
    rwa [Session.Live, hst]
  rw [World.advanceSession.eq_def]
  cases hst : s.stage with
  | starting =>
      refine h.goesOn ho hs (hlive hst (by simp)) hstays hquiet ?_ ?_
      · rw [hst]
        split_ifs <;> rfl
      · split_ifs <;> trivial
  | connecting due =>
      dsimp only
      split_ifs
      · have hlive' := hlive hst (by simp)
        have hkeeps := w.radio.keeps_accept s.pixel
        rw [World.completeConnection]
        dsimp only
        cases hout : (w.radio.accept s.pixel).1 with
        | error e => exact h.goesOn ho hs hlive' hkeeps hquiet (by rw [hst]; rfl) trivial
        | ok link =>
            exact h.goesOn ho hs hlive' hkeeps hquiet (by rw [hst]; rfl)
              (Radio.pixel_of_accept hout)
      · exact h
  | interrupted =>
      exact h.goesOn ho hs (hlive hst (by simp)) hstays
        (State.follows_interrupted _ _ _) (by rw [hst]; rfl) trivial
  | refused e =>
      exact h.goesOn ho hs (hlive hst (by simp)) hstays
        (State.follows_connectFailed _ _ _ _) (by rw [hst]; rfl) trivial
  | linked link =>
      rw [hst] at hlinked
      exact h.goesOn ho hs (hlive hst (by simp)) hstays
        (State.follows_connected _ _) (by rw [hst]; rfl) hlinked
  | connected link =>
      rw [hst] at hlinked
      exact h.goesOn ho hs (hlive hst (by simp)) hstays hquiet (by rw [hst]; rfl)
        ⟨hlinked, Task.sane_ofJobs _⟩
  | working link tasks report =>
      rw [hst] at hlinked
      have hlive' := hlive hst (by simp)
      cases tasks with
      | nil => exact h.goesOn ho hs hlive' hstays hquiet (by rw [hst]; rfl) trivial
      | cons task tasks =>
          have hphase : ¬ (Transfer.start task.payload w.config.chunkSize
              link.maxMessage).Succeeded := by
            rintro ⟨outcome, hp⟩
            rw [Transfer.start] at hp
            dsimp only at hp
            split_ifs at hp
            cases hp
          have hmatch : (Transfer.start task.payload w.config.chunkSize link.maxMessage).Matches
              (w.radio.incoming? s.pixel) := by
            rw [Transfer.Matches, Transfer.start]
            dsimp only
            split_ifs <;> trivial
          refine h.goesOn ho hs hlive' hstays (State.follows_transferring _ _ _) ?_ ?_
          · rw [hst]
            exact Stage.hash?_sending hphase
          · exact ⟨hlinked.1, hlinked.2, rfl, Transfer.blockSize_lt _ _, hmatch⟩
  | sending link t due task tasks report =>
      dsimp only
      split_ifs
      · exact h
      · cases hreq : t.request? with
        | some m =>
            rw [hst] at hlinked
            obtain ⟨hlink, -, -, hchunk, hmatch⟩ := hlinked
            have hunfinished : ¬ t.Succeeded := by
              rintro ⟨outcome, hp⟩
              rw [Transfer.request?, hp] at hreq
              cases hreq
            rw [← hlink] at hmatch
            obtain ⟨hpixel, hex⟩ := Radio.exchanged hreq hchunk hmatch
            rw [hlink] at hpixel hex
            exact h.exchange ho hs hst hunfinished hpixel hex
        | none =>
            cases hres : t.result? with
            | none => exact h
            | some result =>
                rw [hst] at hlinked
                refine h.goesOn ho hs (hlive hst (by simp)) hstays hquiet ?_ ?_
                · rw [hst]
                  exact Stage.hash?_afterTransfer hres
                · cases result with
                  | error e => trivial
                  | ok outcome =>
                      exact ⟨hlinked.1, fun x hx => hlinked.2.1 x (List.mem_cons_of_mem task hx)⟩
  | closing link report =>
      exact h.goesOn ho hs (hlive hst (by simp)) (w.radio.keeps_close link) hquiet
        (by rw [hst]; rfl) trivial
  | reporting report => exact h.ended ho hs hst
  | «over» => exact h.left ho hs hst

end Truthful

/-! ### Runs -/

namespace World

/-- A move that is admitted: records are registered that are backed by their dice, and no die is
put in the place of another. Everything else is up to users, dice and the adapter. -/
def Admits (w : World) : Move → Prop
  | .request (.register r) => w.radio.Backs r
  | .adjust (.addDie p _) => w.radio.die? p = none
  | _ => True

/-- Moves that are admitted one after the other. -/
def AdmitsAll (w : World) : List Move → Prop
  | [] => True
  | m :: ms => w.Admits m ∧ (w.step m).1.AdmitsAll ms

end World

namespace Truthful

variable {w : World}

/-- A request keeps the records truthful. -/
lemma request (h : Truthful w.radio w.state w.sessions) {r : Request}
    (hallowed : w.Admits (.request r)) :
    Truthful (w.request r).2.1.radio (w.request r).2.1.state (w.request r).2.1.sessions := by
  rw [World.request]
  cases hr : w.state.handle r with
  | error e => exact h
  | ok result =>
      refine ⟨h.sessions, fun p x hx => ?_⟩
      rcases State.follows_handled (State.handled hr) p with hn | ⟨record, rfl, rfl, hstate⟩
      · exact h.records p x (hn.recordedHash? hx)
      · obtain ⟨m, hm, hrecord, -⟩ := w.state.member?_register record
        have htold : result.2.state.recordedHash? record.pixel = some x := hx
        rw [hstate, State.recordedHash?, hm, Option.bind_some, hrecord] at htold
        have hx' : record.profileHash = some x := htold
        rcases hallowed with hnone | hsome
        · rw [hnone] at hx'
          cases hx'
        · exact .inl (hsome.symm.trans hx')

/-- The dispatcher keeps the records truthful: a new session has nothing to record. -/
lemma dispatch (h : Truthful w.radio w.state w.sessions) :
    Truthful w.dispatch.1.radio w.dispatch.1.state w.dispatch.1.sessions := by
  rw [World.dispatch]
  cases w.dispatcher with
  | acquiring =>
      dsimp only
      split_ifs <;> exact h
  | parked =>
      dsimp only
      split_ifs <;> exact h
  | looking =>
      dsimp only
      cases hnext : w.state.takeNext with
      | none => exact h
      | some next =>
          obtain ⟨⟨p, pr⟩, change⟩ := next
          constructor
          · intro x hx
            rcases List.mem_append.mp hx with hx | hx
            · exact h.sessions x hx
            · obtain rfl := List.mem_singleton.mp hx
              exact ⟨fun _ h => (by cases h), trivial⟩
          · intro q x hx
            refine (h.records q x ((State.follows_takeNext hnext q).recordedHash? hx)).imp_right ?_
            rintro ⟨y, hy, hyq⟩
            exact ⟨y, List.mem_append_left _ hy, hyq⟩

/-- **A move keeps the records truthful.** -/
lemma step (h : Truthful w.radio w.state w.sessions)
    (ho : Orderly w.state w.sessions w.started) {m : Move} (hallowed : w.Admits m) :
    Truthful (w.step m).1.radio (w.step m).1.state (w.step m).1.sessions := by
  cases m with
  | request r => exact h.request hallowed
  | adjust a =>
      refine h.keeps fun q => w.radio.keeps_adjust a q ?_
      rintro p options rfl
      exact hallowed
  | adapter a => exact h.keeps fun q => .of_die?_eq rfl
  | watch =>
      rw [World.step, World.watch]
      split_ifs
      · exact h.follows fun q => .of_member?_eq rfl
      · exact h
  | dispatch => exact h.dispatch
  | session id =>
      rw [World.step]
      cases hs : w.session? id with
      | none => exact h
      | some s => exact h.advanceSession ho (World.mem_of_session? hs).1
  | interrupt id =>
      rw [World.step]
      cases hs : w.session? id with
      | none => exact h
      | some s =>
          rw [Option.elim_some, World.interruptSession.eq_def]
          cases hst : s.stage with
          | connecting due =>
              dsimp only
              split_ifs
              · exact h
              · have hlive : s.Live := by simp [Session.Live, hst]
                exact h.goesOn ho (World.mem_of_session? hs).1 hlive (fun q => .refl _ q)
                  (fun q => .refl _ q) (by rw [hst]; rfl) trivial
          | starting | interrupted | refused | linked | connected | working | sending | closing
          | reporting | «over» => exact h
  | timer t =>
      rw [World.step]
      split_ifs
      · exact h.follows (State.follows_backoffOver _ _ _)
      · exact h
  | advance ms => exact h

/-- Moves that are admitted keep the records truthful. -/
lemma after (h : Truthful w.radio w.state w.sessions)
    (ho : Orderly w.state w.sessions w.started) {ms : List Move} (hallowed : w.AdmitsAll ms) :
    Truthful (w.after (ms.map .move)).radio (w.after (ms.map .move)).state
      (w.after (ms.map .move)).sessions := by
  induction ms generalizing w with
  | nil => exact h
  | cons m ms ih => exact ih (h.step ho hallowed.1) (ho.happen (.move m)) hallowed.2

/-- A scheduler that starts with records backed by their dice is truthful. -/
lemma start (config : Config) (delay : ℕ) {radio : Radio} {pairings : List Peripheral}
    (hbacked : ∀ r ∈ pairings, radio.Backs r) :
    Truthful radio (World.start config delay radio pairings).state [] where
  sessions := by simp
  records := by
    intro p x hx
    rw [State.recordedHash?] at hx
    cases hm : (World.start config delay radio pairings).state.member? p with
    | none =>
        rw [hm] at hx
        cases hx
    | some m =>
        rw [hm, Option.bind_some] at hx
        have hkey := PixelMap.key_of_get?_ofList hm
        obtain ⟨r, hr, rfl⟩ := List.mem_map.mp (PixelMap.mem_of_get?_ofList hm)
        rcases hbacked r hr with hnone | hsome
        · rw [show _ = none from hnone] at hx
          cases hx
        · left
          rw [← hkey]
          exact hsome.symm.trans hx

end Truthful

/-- **'Up to date' is truthful.** The scheduler alone talks to its dice, no die is put in the
place of another, and every record tells the data set that its die stores when it is registered,
or none. Then in every run, whatever users, dice, the adapter and timers do, the record of a die
that is not in a session tells a data set only if the die stores it; and a program is answered as
up to date only when the die stores the data set already. -/
theorem upToDate_truthful (config : Config) (delay : ℕ) (radio : Radio)
    (pairings : List Peripheral) (ms : List Move)
    (hbacked : ∀ r ∈ pairings, radio.Backs r)
    (hallowed : (World.start config delay radio pairings).AdmitsAll ms) :
    let w := (World.start config delay radio pairings).after (ms.map .move)
    (∀ p m h, w.state.member? p = some m → m.inFlight = false →
        m.peripheral.profileHash = some h →
        ∃ die stored, w.radio.die? p = some die ∧ die.stored.dataSet = some stored
          ∧ stored.hash = h)
      ∧ ∀ p d pr, (w.request (.program p d pr)).1 = .ok .upToDate →
        ∃ die stored, w.radio.die? p = some die ∧ die.stored.dataSet = some stored
          ∧ stored.hash = d.hash := by
  intro w
  have hstart := Orderly.start config delay radio pairings
  have ho : Orderly w.state w.sessions w.started :=
    Orderly.after (w := World.start config delay radio pairings) hstart (ms.map .move)
  have htrue : Truthful w.radio w.state w.sessions :=
    Truthful.after (w := World.start config delay radio pairings)
      (Truthful.start config delay hbacked) hstart hallowed
  have hrecord : ∀ p m h, w.state.member? p = some m → m.inFlight = false →
      m.peripheral.profileHash = some h →
      ∃ die stored, w.radio.die? p = some die ∧ die.stored.dataSet = some stored
        ∧ stored.hash = h := by
    intro p m h hm hf hh
    have htold : w.state.recordedHash? p = some h := by
      rw [State.recordedHash?, hm, Option.bind_some]
      exact hh
    -- a session that has something to record would keep the die in a session
    have hstored : w.radio.dataSetHash? p = some h := by
      refine (htrue.records p h htold).resolve_right ?_
      rintro ⟨x, hx, rfl, hsome⟩
      obtain ⟨m', hm', hf'⟩ := ho.manned x hx (Session.live_of_hash? hsome)
      cases hm.symm.trans hm'
      rw [hf] at hf'
      cases hf'
    exact Radio.dataSetHash?_eq_some.mp hstored
  refine ⟨hrecord, ?_⟩
  intro p d pr hreply
  obtain ⟨m, hm, hf, hcurrent⟩ := State.current_of_upToDate hreply
  exact hrecord p m d.hash hm hf hcurrent

namespace Sample

/-- A data set is written to the die, and the record of the die is registered anew. -/
def visit : List Move :=
  [.request (.program ring blank .low), .dispatch, .dispatch] ++ List.replicate 14 (.session 0)
    ++ [.request (.register
      { Peripheral.new "ring again" ring .d20 default with profileHash := some blank.hash })]

end Sample

open Sample

/-- The data set that has been written is up to date, and the die stores it. -/
theorem upToDate_visit :
    let w := Sample.world.after (visit.map .move)
    (w.request (.program ring blank .low)).1 = .ok .upToDate
      ∧ (∃ m, w.state.member? ring = some m ∧ m.inFlight = false
        ∧ m.peripheral.profileHash = some blank.hash)
      ∧ ∃ die stored, w.radio.die? ring = some die ∧ die.stored.dataSet = some stored
        ∧ stored.hash = blank.hash := by
  intro w
  have hreply : (w.request (.program ring blank .low)).1 = .ok .upToDate := by decide +kernel
  have hrecord : (w.state.member? ring).map (fun m => (m.inFlight, m.peripheral.profileHash))
      = some (false, some blank.hash) := by decide +kernel
  have hregistered : (Sample.world.after ((visit.take 17).map .move)).radio.dataSetHash? ring
      = some blank.hash := by decide +kernel
  have hallowed : Sample.world.AdmitsAll visit :=
    ⟨trivial, trivial, trivial, trivial, trivial, trivial, trivial, trivial, trivial, trivial,
      trivial, trivial, trivial, trivial, trivial, trivial, trivial, .inr hregistered.symm,
      trivial⟩
  have hbacked : ∀ r ∈ [Peripheral.new "ring" ring .d20 default],
      Sample.world.radio.Backs r := by
    intro r hr
    obtain rfl := List.mem_singleton.mp hr
    exact .inl rfl
  obtain ⟨m, hm, hfields⟩ := Option.map_eq_some_iff.mp hrecord
  obtain ⟨hf, hh⟩ := Prod.mk.inj hfields
  exact ⟨hreply, ⟨m, hm, hf, hh⟩,
    (upToDate_truthful {} 0 _ _ visit hbacked hallowed).2 ring blank .low hreply⟩

end DiceHost.Scheduler
