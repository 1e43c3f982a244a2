/-
What sessions record.

* `updates`: the changed records among some events;
* `State.updates_sessionEnded`, `World.updates_told`: **a changed record is told at the end of a
  session that has something confirmed**, or as users ask for something;
* `World.Finds`: a session has found the member of its die as it took up its work;
* `Account`, `Orderly.account`: in every run a session gives account of its notes;
* `World.Records`, `Finished.records`: the end of a session records what its notes confirm;
* `Account.isReserved_of_announced`: firmware is announced under the right to write it only;
* `confirmed_after`: **a session records just what the die has confirmed**.
-/
import DiceHost.Proofs.Scheduler.Course
import DiceHost.Proofs.Scheduler.Reservation
import DiceHost.Proofs.Scheduler.Roster

namespace DiceHost.Scheduler

open Link

/-! ### Changed records -/

/-- The records that are told to have changed. -/
def updates (es : List Event) : List Peripheral :=
  es.filterMap fun
    | .peripheralUpdated r => some r
    | _ => none

lemma updates_append (es es' : List Event) : updates (es ++ es') = updates es ++ updates es' :=
  List.filterMap_append

lemma updates_of_isProgress {es : List Event} (h : ∀ e ∈ es, e.isProgress = true) :
    updates es = [] := by
  refine List.filterMap_eq_nil_iff.mpr fun e he => ?_
  have hprogress := h e he
  cases e with
  | progress => rfl
  | stateChanged | adapterChanged | connected | disconnected | connectFailed | gaveUp
  | transferIncomplete | transferFailed | profileUpToDate | profileProgrammed | firmwareSkipped
  | firmwareUpdated | peripheralUpdated | registered | unregistered => cases hprogress

lemma updates_events (r : Report) (p : PixelId) : updates (r.events p) = [] := by
  rw [Report.events, updates_append]
  rcases r.profile with _ | ⟨job, _ | _⟩ <;> cases r.firmware <;> rfl

lemma Member.updates_settle (m : Member) (c : Config) (p : PixelId)
    (e : Option (PayloadKind × TransferError)) : updates (m.settle c p e).2.1 = [] := by
  rw [settle.eq_def]
  cases e with
  | none => rfl
  | some e =>
      dsimp only
      split_ifs <;> rfl

namespace State

variable {s : State} {p : PixelId} {m : Member} {l : Option Priority}

lemma updates_enqueue (s : State) (p : PixelId) (pr : Priority) :
    updates (s.enqueue p pr).2 = [] := by
  rw [enqueue]
  cases s.member? p with
  | none => rfl
  | some m =>
      dsimp only
      split_ifs <;> rfl

lemma updates_schedule (s : State) (p : PixelId) (pr : Priority) :
    updates (s.schedule p pr).2 = [] := by
  rw [schedule]
  cases s.member? p with
  | none => rfl
  | some m =>
      dsimp only
      split_ifs
      · rfl
      · exact updates_enqueue s p pr

lemma updates_interrupted (s : State) (p : PixelId) (pr : Priority) :
    updates (s.interrupted p pr).events = [] := by
  rw [interrupted]
  cases (s.releaseDfu p).member? p with
  | none => rfl
  | some m =>
      dsimp only
      split_ifs
      · rfl
      · exact updates_enqueue _ _ _

lemma updates_connectFailed (s : State) (c : Config) (p : PixelId) (e : LinkError) :
    updates (s.connectFailed c p e).1.events = [] := by
  rw [connectFailed]
  cases (s.releaseDfu p).member? p with
  | none => rfl
  | some m =>
      dsimp only
      split_ifs <;> rfl

lemma updates_backoffOver (s : State) (p : PixelId) (epoch : ℕ) :
    updates (s.backoffOver p epoch).events = [] := by
  rw [backoffOver]
  cases s.member? p with
  | none => rfl
  | some m =>
      dsimp only
      split_ifs
      · exact updates_enqueue s p .low
      · rfl

/-- **A changed record is told at the end of a session that has something confirmed.** -/
lemma updates_sessionEnded (hold : s.Holds p m l) (c : Config) (r : Report) :
    updates (s.sessionEnded c p r).events
      = if r.profile.isSome || r.firmware.isSome then [(m.released.confirm r).peripheral]
        else [] := by
  have hperipheral : (m.settled c p r).peripheral = (m.released.confirm r).peripheral :=
    congrArg Card.record (m.card_settled c p r)
  have hfailed := (m.released.confirm r).updates_settle c p r.error
  rw [Member.settled, Member.released] at hperipheral
  rw [Member.released] at hfailed
  rw [sessionEnded, hold.releaseDfu.member]
  dsimp only
  generalize (({ m with dfuReserved := false, inFlight := false } : Member).confirm r).settle
    c p r.error = settled at hperipheral hfailed ⊢
  obtain ⟨n, failed, next⟩ := settled
  dsimp only at hperipheral hfailed ⊢
  have htold {es : List Event} (hes : updates es = []) :
      updates (r.events p ++ failed
        ++ (if (r.profile.isSome || r.firmware.isSome) = true
          then [.peripheralUpdated n.peripheral] else []) ++ es ++ [.disconnected p])
      = if r.profile.isSome || r.firmware.isSome then [(m.released.confirm r).peripheral]
        else [] := by
    rw [updates_append, updates_append, updates_append, updates_append, updates_events, hfailed,
      hes, hperipheral]
    split_ifs <;> rfl
  refine htold ?_
  by_cases hr : n.removed = true
  · rw [if_pos hr]
    rfl
  · rw [if_neg hr]
    by_cases hg : n.state.isGivenUp = true
    · rw [if_pos hg]
      rfl
    · rw [if_neg hg]
      split
      · exact updates_schedule _ _ _
      · rfl

end State

/-- **A changed record is told at the end of a session, or as users ask for something.** -/
lemma World.updates_told {w : World} {x : Happening} (h : updates (w.told x) ≠ []) :
    (∃ r, x = .move (.request r))
      ∨ ∃ id s report, x = .move (.session id) ∧ w.session? id = some s
        ∧ s.stage = .reporting report := by
  obtain ⟨c, hact⟩ | hunmoved := w.act_or_unmoved x
  · rw [hact.carries.told] at h
    cases hact with
    | request => exact .inl ⟨_, rfl⟩
    | ended hs hst => exact .inr ⟨_, _, _, rfl, hs, hst⟩
    | seen =>
        refine (h ?_).elim
        rw [State.adapterSeen]
        split_ifs <;> rfl
    | begun _ hnext =>
        rw [(State.takeNext_eq_some hnext).2.2.2] at h
        exact (h rfl).elim
    | woken => exact (h (State.updates_backoffOver _ _ _)).elim
    | interrupted => exact (h (State.updates_interrupted _ _ _)).elim
    | failed => exact (h (State.updates_connectFailed _ _ _ _)).elim
    | connected | transferring => exact (h rfl).elim
  · exact (h (updates_of_isProgress hunmoved.told)).elim

/-! ### Accounts -/

/-- A session has found the member of its die as it took up its work, in a run. -/
def World.Finds (start : World) (hs : List Happening) (s : Session) (m : Member) : Prop :=
  ∃ pre post link, hs = pre ++ .move (.session s.id) :: post
    ∧ (start.after pre).session? s.id = some { s with stage := .connected link }
    ∧ (start.after pre).state.member? s.pixel = some m

/-- What a session has noted in a run: nothing before it takes up its work, and then what belongs
to its stage and to the jobs that it has found. -/
inductive Account (start : World) (hs : List Happening) (s : Session) : Prop
  | idle (h : s.stage.isBusy = false) (hnotes : start.notes s.id hs = [])
  | busy {m : Member} (hfinds : start.Finds hs s m)
      (h : Course start.config.chunkSize (Task.ofJobs m.jobs) s.stage (start.notes s.id hs))

section Account

variable {start w : World} {hs : List Happening} {x : Happening} {s : Session} {m : Member}

/-- What a session has found stays so, whatever comes of it. -/
lemma World.Finds.concat (h : start.Finds hs s m) (stage : Stage) (x : Happening) :
    start.Finds (hs ++ [x]) { s with stage } m := by
  obtain ⟨pre, post, link, rfl, hs, hm⟩ := h
  exact ⟨pre, post ++ [x], link, by rw [List.append_assoc]; rfl, hs, hm⟩

/-- Only a session that there is notes something. -/
lemma World.note?_eq_none {id : ℕ} (h : w.session? id = none) (x : Happening) :
    w.note? id x = none := by
  cases x with
  | radio | connection => rfl
  | answer i reply =>
      rw [note?, h]
      split_ifs <;> rfl
  | move m =>
      cases m with
      | session i =>
          rw [note?, h]
          split_ifs <;> rfl
      | request | adjust | adapter | watch | dispatch | interrupt | timer | advance => rfl

lemma Account.stays (h : Account start hs s) (hnote : (start.after hs).note? s.id x = none) :
    Account start (hs ++ [x]) s := by
  have hnotes : start.notes s.id (hs ++ [x]) = start.notes s.id hs := by
    rw [World.notes_concat, hnote]
    exact List.append_nil _
  cases h with
  | idle h hnone => exact .idle h (hnotes.trans hnone)
  | busy hfinds h => exact .busy (hfinds.concat s.stage x) (hnotes ▸ h)

/-- A session that takes a step gives account again. -/
lemma Account.proceeds {stage : Stage}
    (ho : Orderly (start.after hs).state (start.after hs).sessions (start.after hs).started)
    (hs' : s ∈ (start.after hs).sessions) (h : Account start hs s)
    (hstep : Proceeds (start.after hs) s x stage ((start.after hs).note? s.id x)) :
    Account start (hs ++ [x]) { s with stage } := by
  generalize hnote : (start.after hs).note? s.id x = note at hstep
  have hnotes : start.notes s.id (hs ++ [x]) = start.notes s.id hs ++ note.toList := by
    rw [World.notes_concat, hnote]
  cases h with
  | busy hfinds h =>
      have hcourse := h.proceeds (congrArg _ (start.config_after hs)) hstep
      rw [← hnotes] at hcourse
      exact .busy (hfinds.concat stage x) hcourse
  | idle hidle hnone =>
      rw [hnone, List.nil_append] at hnotes
      cases hstep with
      | idle _ hstage => exact .idle hstage hnotes
      | @work link h =>
          obtain ⟨m, hm, -⟩ := ho.manned s hs' (by simp [Session.Live, h])
          have hfound : (start.after hs).session? s.id
              = some { s with stage := .connected link } := by
            rw [World.session?_of_mem ho.ids hs', ← h]
          refine .busy ⟨hs, [], link, rfl, hfound, hm⟩ ?_
          rw [hnotes, State.jobs_eq hm]
          exact .working link rfl .nil
      | send _ h | answer _ _ _ h | finish h | close h | report h | ended h =>
          rw [h] at hidle
          cases hidle

/-- The sessions are numbered one after the other. -/
lemma Turn.started_le {deed : Deed} {t : State} {ss : List Session} {n : ℕ}
    (h : Turn w deed t ss n) : w.started ≤ n := by
  cases h with
  | begun => exact Nat.le_succ _
  | rest | request | seen | woken | advance | ended | left => exact le_rfl

/-- **In a run every session gives account of its notes**, and none was noted before it began. -/
lemma Orderly.account (ho : Orderly start.state start.sessions start.started)
    (hnone : start.sessions = []) (hs : List Happening) :
    (∀ s ∈ (start.after hs).sessions, Account start hs s)
      ∧ ∀ id, (start.after hs).started ≤ id → start.notes id hs = [] := by
  induction hs using List.reverseRecOn with
  | nil =>
      rw [World.after_nil, hnone]
      exact ⟨List.forall_mem_nil _, fun _ _ => rfl⟩
  | append_singleton hs x ih =>
      have ho' := ho.after hs
      rw [World.after_concat]
      refine ⟨fun y hy => ?_, fun id hid => ?_⟩
      · obtain ⟨hy, hnote⟩ | ⟨s, hs', hsame, hstep⟩ | ⟨hst, hid, hnote⟩ := ho'.proceeds x y hy
        · exact (ih.1 y hy).stays hnote
        · rw [hsame]
          exact (ih.1 s hs').proceeds ho' hs' hstep
        · refine .idle (by rw [hst]; rfl) ?_
          rw [World.notes_concat, hnote, ih.2 y.id hid.ge]
          rfl
      · have hle : (start.after hs).started ≤ id :=
          (Turn.started_le ((start.after hs).turn_happen x)).trans hid
        have habsent : (start.after hs).session? id = none :=
          List.find?_eq_none.mpr fun y hy => by
            simpa using ((ho'.fresh y hy).trans_le hle).ne
        rw [World.notes_concat, World.note?_eq_none habsent, ih.2 id hle]
        rfl

end Account

/-! ### What is recorded -/

section Records

variable {w : World} {x : Happening} {s : Session} {report : Report}

/-- The record of a die, if it is a member. -/
def State.record? (t : State) (p : PixelId) : Option Peripheral :=
  (t.member? p).map (·.peripheral)

/-- The end of a session changes the record as the die has confirmed, and tells so, or the die is
forgotten. -/
lemma Orderly.records_ended (ho : Orderly w.state w.sessions w.started) (hs : s ∈ w.sessions)
    (hst : s.stage = .reporting report) :
    ∃ m, w.state.member? s.pixel = some m
      ∧ (w.happen (.move (.session s.id))).state.record? s.pixel
        = (if m.removed then none else some (m.released.confirm report).peripheral)
      ∧ updates (w.told (.move (.session s.id)))
        = if report.profile.isSome || report.firmware.isSome
          then [(m.released.confirm report).peripheral] else [] := by
  have hact : Act w (.move (.session s.id)) (w.state.sessionEnded w.config s.pixel report) :=
    .ended (World.session?_of_mem ho.ids hs) hst
  obtain ⟨m, hold, -⟩ := ho.holds_manned hs (Session.live_of_reporting hst)
  refine ⟨m, hold.member, ?_, ?_⟩
  · rw [hact.carries.state, State.record?]
    cases hr : m.removed with
    | true =>
        rw [(hold.lacks_sessionEnded _ _ hr).member]
        rfl
    | false =>
        have hcard := (m.card_afterSession w.config s.pixel report none).trans
          (m.card_settled w.config s.pixel report)
        rw [(hold.sessionEnded w.config report hr).member]
        exact congrArg some (congrArg Card.record hcard)
  · rw [hact.carries.told]
    exact State.updates_sessionEnded hold _ _

/-- The next step of a session records what some notes confirm of the jobs of a member, on the
record that the die has by then, and tells so; if the die is to be forgotten, it is. -/
def World.Records (w : World) (s : Session) (m₀ : Member) (notes : List Note) : Prop :=
  let x := Happening.move (.session s.id)
  ∃ m, w.state.member? s.pixel = some m
    ∧ let record := recordWith m.peripheral (m₀.programmed notes) (m₀.updated notes)
      (w.happen x).state.record? s.pixel = (if m.removed then none else some record)
        ∧ updates (w.told x)
          = if (m₀.programmed notes).isSome || (m₀.updated notes).isSome then [record] else []

/-- A session that reports records what its notes confirm. -/
lemma Finished.records {chunk : ℕ} {m₀ : Member} {notes : List Note}
    (h : Finished chunk (Task.ofJobs m₀.jobs) notes report)
    (ho : Orderly w.state w.sessions w.started) (hs : s ∈ w.sessions)
    (hst : s.stage = .reporting report) : w.Records s m₀ notes := by
  obtain ⟨m, hm, hrecord, htold⟩ := ho.records_ended hs hst
  rw [h.peripheral_confirm] at hrecord htold
  rw [h.isSome_eq] at htold
  exact ⟨m, hm, hrecord, htold⟩

/-- A session is in a transfer that waits for the answer to a message. -/
def Session.Awaits (s : Session) (m : Message) : Prop :=
  ∃ link t due task tasks report, s.stage = .sending link t due task tasks report
    ∧ t.request? = some m

lemma Session.awaits_of_answerNote? {reply : Except LinkError (List UInt8)} {e : Exchange}
    (h : s.answerNote? reply = some (.exchange e)) : s.Awaits e.message := by
  rw [answerNote?.eq_def] at h
  cases hst : s.stage with
  | sending link t due task tasks report =>
      rw [hst] at h
      obtain ⟨m, hm, hsame⟩ := Option.map_eq_some_iff.mp h
      cases hsame
      exact ⟨link, t, due, task, tasks, report, hst, hm⟩
  | starting | connecting | interrupted | refused | linked | connected | working | closing
  | reporting | «over» =>
      rw [hst] at h
      cases h

lemma World.awaits_of_stepNote? {e : Exchange} (h : w.stepNote? s = some (.exchange e)) :
    s.Awaits e.message := by
  rw [stepNote?.eq_def] at h
  cases hst : s.stage with
  | sending link t due task tasks report =>
      rw [hst] at h
      dsimp only at h
      split_ifs at h
      cases hm : t.request? with
      | some m =>
          rw [hm] at h
          cases h
          exact ⟨link, t, due, task, tasks, report, hst, hm⟩
      | none =>
          rw [hm] at h
          obtain ⟨r, -, hended⟩ := Option.map_eq_some_iff.mp h
          cases hended
  | starting | connecting | interrupted | refused | linked | connected | working | closing
  | reporting | «over» =>
      rw [hst] at h
      cases h

/-- A session that notes an exchange was waiting for it. -/
lemma World.awaits_of_note? {e : Exchange} (hs : w.session? s.id = some s)
    (hnote : w.note? s.id x = some (.exchange e)) : s.Awaits e.message := by
  cases x with
  | radio | connection => cases hnote
  | answer i reply =>
      rw [note?, hs, Option.bind_some] at hnote
      split_ifs at hnote
      exact Session.awaits_of_answerNote? hnote
  | move m =>
      cases m with
      | session i =>
          rw [note?, hs, Option.bind_some] at hnote
          split_ifs at hnote
          exact awaits_of_stepNote? hnote
      | request | adjust | adapter | watch | dispatch | interrupt | timer | advance => cases hnote

/-- **Firmware is announced under the right to write it only.** -/
lemma Account.isReserved_of_announced {start : World} {hs : List Happening} {e : Exchange}
    {kind : PayloadKind} {size hash : UInt32} (h : Account start hs s)
    (hl : Licensed w.state w.sessions) (hs' : s ∈ w.sessions) (hfind : w.session? s.id = some s)
    (hnote : w.note? s.id x = some (.exchange e))
    (he : e.message = .transferPayload kind size hash) (hk : kind ≠ .dataSet) :
    w.state.isReserved s.pixel = true := by
  obtain ⟨link, t, due, task, tasks, report, hst, hreq⟩ := World.awaits_of_note? hfind hnote
  rw [he] at hreq
  have hkind : kind = task.payload.kind := by
    rw [(Transfer.announced_of_request? hreq).1]
    cases h with
    | idle h =>
        rw [hst] at h
        cases h
    | busy _ h =>
        rw [hst] at h
        generalize start.notes s.id hs = notes at h
        cases h with
        | sending _ _ _ _ ht => exact congrArg Payload.kind ht.payload
  exact hl.tasks s hs' task (hst ▸ List.mem_cons_self) (hkind ▸ hk)

end Records

/-- **A session records just what the die has confirmed.** In every run, whatever the links answer
and whatever users ask for meanwhile, a session has noted nothing until it takes up its work. Then
it sends the payloads of the jobs that its die has at that moment, in their order: the data set, and
under the right to write firmware the bootloader and the firmware. A transfer that failed is the
last one, and nothing but these payloads is announced. When the session reports, all payloads are
confirmed or the last transfer has failed, and the record of the die, as it is by then, gets the
data set if the die has confirmed it, the update if the die has confirmed every image, and nothing
else; the changed record is told exactly if one of these was confirmed. Otherwise a changed record
is told only as users ask for something. Firmware is announced under the right to write it only. -/
theorem confirmed_after (config : Config) (delay : ℕ) (radio : Radio)
    (pairings : List Peripheral) (hs : List Happening) :
    let start := World.start config delay radio pairings
    let w := start.after hs
    (∀ s ∈ w.sessions,
      let notes := start.notes s.id hs
      s.stage.isBusy = false ∧ notes = []
        ∨ ∃ m₀, start.Finds hs s m₀
          ∧ Sends config.chunkSize m₀.payloads notes
          ∧ (∀ pre p e post, notes = pre ++ .ended p (.error e) :: post → post = [])
          ∧ (∀ e kind size hash, .exchange e ∈ notes → e.message = .transferPayload kind size hash →
              ∃ p ∈ m₀.payloads, kind = p.kind ∧ hash = p.hash)
          ∧ ∀ report, s.stage = .reporting report →
            ((∀ p ∈ m₀.payloads, confirms notes p = true)
                ∨ ∃ notes' p e, notes = notes' ++ [.ended p (.error e)])
              ∧ w.Records s m₀ notes)
      ∧ (∀ x, updates (w.told x) ≠ [] →
          (∃ r, x = .move (.request r))
            ∨ ∃ id s report, x = .move (.session id) ∧ w.session? id = some s
              ∧ s.stage = .reporting report)
      ∧ ∀ s ∈ w.sessions, ∀ x e kind size hash, w.note? s.id x = some (.exchange e) →
          e.message = .transferPayload kind size hash → kind ≠ .dataSet →
          w.state.isReserved s.pixel = true := by
  intro start w
  have hstart : Orderly start.state start.sessions start.started :=
    Orderly.start config delay radio pairings
  have ho : Orderly w.state w.sessions w.started := hstart.after hs
  have haccount := (hstart.account rfl hs).1
  obtain ⟨-, hl⟩ : Attended w.state w.sessions ∧ Licensed w.state w.sessions :=
    hstart.run (P := fun t ss => Attended t ss ∧ Licensed t ss) (Q := fun _ => True)
      (fun ho hturn _ h => ⟨h.1.turn ho hturn, h.2.turn ho h.1 hturn⟩) hs (fun _ _ => trivial)
      ⟨.start radio.adapter pairings, .start radio.adapter pairings⟩
  refine ⟨fun s hs' => ?_, fun x => World.updates_told, ?_⟩
  · intro notes
    obtain ⟨hidle, hnone⟩ | @⟨m₀, hfinds, hcourse⟩ := haccount s hs'
    · exact .inl ⟨hidle, hnone⟩
    · have hsends : Sends config.chunkSize m₀.payloads notes :=
        m₀.map_payload_ofJobs ▸ hcourse.sends
      refine .inr ⟨m₀, hfinds, hsends, fun pre p e post => hsends.nil_after_failure,
        fun e kind size hash he => hsends.exists_announced he, fun report hst => ?_⟩
      have hfinished : Finished config.chunkSize (Task.ofJobs m₀.jobs) notes report := by
        rw [hst] at hcourse
        cases hcourse with
        | reporting h => exact h
      exact ⟨hfinished.complete, hfinished.records ho hs' hst⟩
  · intro s hs' x e kind size hash hnote
    exact (haccount s hs').isReserved_of_announced hl hs' (World.session?_of_mem ho.ids hs') hnote

namespace Sample

/-- A firmware update with a bootloader. -/
def update : FirmwareImage := ⟨[1], some [2], ⟨5, 0⟩⟩

/-- A session with the die has found a data set and a firmware update to be written. The die holds
the data set already, and the link is lost as the bootloader is announced. -/
def broken : List Happening :=
  [ask blank, .move (.request (.updateFirmware ring update true .low)), .move .dispatch,
    .move .dispatch] ++ steps 5
    ++ .answer 0 (.ok (Message.transferAck .upToDate).encode) :: steps 2
    ++ .answer 0 (.error .disconnected) :: steps 2

end Sample

open Sample

/-- A data set that the die has confirmed is recorded and told though the bootloader fails behind
it, and the firmware is not. -/
theorem confirmed_before_failure :
    let w := world.after broken
    let x := Happening.move (.session 0)
    (∃ s ∈ w.sessions, s.id = 0 ∧ ∃ m₀, world.Finds broken s m₀
        ∧ w.Records s m₀ (world.notes s.id broken))
      ∧ confirms (world.notes 0 broken) blank.payload = true
      ∧ update.payloads.map (confirms (world.notes 0 broken)) = [false, false]
      ∧ ((w.happen x).state.record? ring).map (fun r => (r.profileHash, r.profile, r.firmware))
        = some (some blank.hash, some blank.profile, none)
      ∧ (updates (w.told x)).length = 1 := by
  intro w x
  have hfailed :
      (w.session? 0).any (fun s => s.stage.isBusy && s.stage.mark = .failure) = true := by
    decide +kernel
  obtain ⟨s, hs, hfailed⟩ := (Option.any_eq_true _ _).mp hfailed
  obtain ⟨hmem, hid⟩ := World.mem_of_session? hs
  have hreporting : ∃ report, s.stage = .reporting report := by
    cases hst : s.stage with
    | reporting report => exact ⟨report, rfl⟩
    | starting | connecting | interrupted | refused | linked | connected | working | sending
    | closing | «over» =>
        rw [hst] at hfailed
        cases hfailed
  obtain ⟨report, hst⟩ := hreporting
  have hrecords : ∃ m₀, world.Finds broken s m₀ ∧ w.Records s m₀ (world.notes s.id broken) := by
    obtain ⟨hidle, -⟩ | ⟨m₀, hfinds, -, -, -, hreport⟩ :=
      (confirmed_after {} 0 _ _ broken).1 s hmem
    · rw [hst] at hidle
      cases hidle
    · exact ⟨m₀, hfinds, (hreport report hst).2⟩
  exact ⟨⟨s, hmem, hid, hrecords⟩, by decide +kernel, by decide +kernel, by decide +kernel,
    by decide +kernel⟩

end DiceHost.Scheduler
