/-
The course of a session.

* `confirms`: the notes of a session have a transfer of a payload that ended well;
* `Member.payloads`: what a session with a member is to write: the data set, and under the right to
  write firmware the images of the update;
* `Member.programmed`, `Member.updated`, `recordWith`: the data set that was confirmed, the update
  of which every image was, and a record with them;
* `Confirmed`, `Finished`, `Course`: the notes of a session that has come to some stage, and the
  report so far;
* `Course.proceeds`: **a step of a session keeps its notes in agreement with its stage**;
* `Finished.programmed`, `Finished.updated`: **the report says what the notes confirm**;
* `Finished.complete`: every payload is confirmed, or one has failed.
-/
import DiceHost.Proofs.Scheduler.Notes
import DiceHost.Proofs.Scheduler.Truthful

namespace DiceHost.Scheduler

open Link

/-! ### Confirmations -/

/-- The data set of a profile as a payload. -/
def Program.payload (d : Program) : Payload := ⟨.dataSet, d.bytes, d.hash⟩

/-- A transfer of a payload has ended well. -/
def confirms (notes : List Note) (p : Payload) : Bool :=
  notes.any fun
    | .ended q (.ok _) => q = p
    | _ => false

/-- A record with a data set and an update, if there are any. -/
def recordWith (r : Peripheral) (d : Option Program) (f : Option FirmwareImage) : Peripheral :=
  { r with
    profileHash := d.elim r.profileHash (some ·.hash)
    profile := d.elim r.profile (some ·.profile)
    firmware := f.elim r.firmware (some ·.timestamp) }

namespace Member

/-- What a session with a member is to write: the data set, and then the images of an update under
the right to write firmware. -/
def payloads (m : Member) : List Payload :=
  m.profileJob.toList.map (·.program.payload)
    ++ if m.dfuReserved then m.firmwareJob.toList.flatMap (·.image.payloads) else []

/-- The data set of a member that the die has confirmed. -/
def programmed (m : Member) (notes : List Note) : Option Program :=
  (m.profileJob.map (·.program)).filter fun d => confirms notes d.payload

/-- The update of a member of which the die has confirmed every image. -/
def updated (m : Member) (notes : List Note) : Option FirmwareImage :=
  (m.firmwareJob.map (·.image)).filter fun f => f.payloads.all (confirms notes)

/-- The jobs that a session with a member finds. -/
def jobs (m : Member) : Option ProfileJob × Option FirmwareJob :=
  (m.profileJob, if m.dfuReserved then m.firmwareJob else none)

lemma map_payload_ofJobs (m : Member) : (Task.ofJobs m.jobs).map Task.payload = m.payloads := by
  rw [jobs, Task.ofJobs, payloads, List.map_append]
  congr 1
  · cases m.profileJob <;> rfl
  · split_ifs
    · cases m.firmwareJob with
      | none => rfl
      | some job => simp [Function.comp_def, Task.payload]
    · rfl

end Member

lemma State.jobs_eq {t : State} {p : PixelId} {m : Member} (h : t.member? p = some m) :
    t.jobs p = m.jobs := by
  rw [jobs, h]
  rfl

section Confirms

variable {notes notes' : List Note} {talk : List Exchange} {p q : Payload}

lemma confirms_append :
    confirms (notes ++ notes') p = (confirms notes p || confirms notes' p) :=
  List.any_append

lemma confirms_talk : confirms (talk.map .exchange) p = false := by
  rw [confirms, List.any_map, List.any_eq_false]
  exact fun _ _ => Bool.false_ne_true

/-- A transfer that fails confirms nothing. -/
lemma confirms_failed (e : TransferError) :
    confirms (notes ++ (talk.map .exchange ++ [.ended q (.error e)])) = confirms notes := by
  funext p
  rw [confirms_append, confirms_append, confirms_talk, Bool.false_or]
  exact Bool.or_false _

lemma confirms_ok (o : Outcome) :
    confirms (notes ++ (talk.map .exchange ++ [.ended q (.ok o)])) p = true
      ↔ confirms notes p = true ∨ q = p := by
  rw [confirms_append, confirms_append, confirms_talk, Bool.false_or, Bool.or_eq_true]
  simp [confirms]

end Confirms

/-! ### The course of a session -/

/-- The notes and the report of a session that has had some tasks confirmed, one after the
other. -/
inductive Confirmed (chunk : ℕ) : List Task → List Note → Report → Prop
  | nil : Confirmed chunk [] [] {}
  | concat {done : List Task} {notes : List Note} {report : Report} {task : Task}
      {talk : List Exchange} {t : Transfer} {o : Outcome} {maxMessage : ℕ}
      (h : Confirmed chunk done notes report)
      (ht : (Transfer.start task.payload chunk maxMessage).Answered talk t)
      (ho : t.result? = some (.ok o)) :
      Confirmed chunk (done ++ [task])
        (notes ++ (talk.map .exchange ++ [.ended task.payload (.ok o)])) (task.record report o)

/-- The notes and the report of a session that is through with its tasks: all are confirmed, or one
has failed. -/
inductive Finished (chunk : ℕ) (all : List Task) : List Note → Report → Prop
  | all {notes : List Note} {report : Report} (h : Confirmed chunk all notes report) :
      Finished chunk all notes report
  | failed {done tasks : List Task} {notes : List Note} {report : Report} {task : Task}
      {talk : List Exchange} {t : Transfer} {e : TransferError} {maxMessage : ℕ}
      (hall : all = done ++ task :: tasks) (h : Confirmed chunk done notes report)
      (ht : (Transfer.start task.payload chunk maxMessage).Answered talk t)
      (he : t.result? = some (.error e)) :
      Finished chunk all (notes ++ (talk.map .exchange ++ [.ended task.payload (.error e)]))
        { report with error := some (task.payload.kind, e) }

/-- The notes of a session with some tasks that has come to a stage. -/
inductive Course (chunk : ℕ) (all : List Task) : Stage → List Note → Prop
  | working {done tasks : List Task} {notes : List Note} {report : Report} (link : Connection)
      (hall : all = done ++ tasks) (h : Confirmed chunk done notes report) :
      Course chunk all (.working link tasks report) notes
  | sending {done tasks : List Task} {notes : List Note} {report : Report} {task : Task}
      {talk : List Exchange} {t : Transfer} {maxMessage : ℕ} (link : Connection) (due : ℕ)
      (hall : all = done ++ task :: tasks) (h : Confirmed chunk done notes report)
      (ht : (Transfer.start task.payload chunk maxMessage).Answered talk t) :
      Course chunk all (.sending link t due task tasks report) (notes ++ talk.map .exchange)
  | closing {notes : List Note} {report : Report} (link : Connection)
      (h : Finished chunk all notes report) : Course chunk all (.closing link report) notes
  | reporting {notes : List Note} {report : Report} (h : Finished chunk all notes report) :
      Course chunk all (.reporting report) notes
  | over {notes : List Note} {report : Report} (h : Finished chunk all notes report) :
      Course chunk all .over notes

section Course

variable {chunk : ℕ} {all done : List Task} {notes notes' : List Note} {report : Report}
  {ps : List Payload} {stage : Stage} {w : World} {s : Session} {x : Happening}
  {note : Option Note}

/-- What is confirmed are the payloads of the tasks that are done. -/
lemma Confirmed.confirms_iff (h : Confirmed chunk done notes report) {p : Payload} :
    confirms notes p = true ↔ ∃ task ∈ done, task.payload = p := by
  induction h with
  | nil => exact ⟨nofun, fun ⟨_, h, _⟩ => nomatch h⟩
  | concat _ _ _ ih =>
      rw [confirms_ok, ih]
      simp [or_and_right, exists_or]

/-- The tasks that are done were sent before anything else. -/
lemma Confirmed.sends (h : Confirmed chunk done notes report) (hs : Sends chunk ps notes') :
    Sends chunk (done.map Task.payload ++ ps) (notes ++ notes') := by
  induction h generalizing ps notes' with
  | nil => exact hs
  | concat _ ht ho ih =>
      rw [List.map_append, List.append_assoc, List.append_assoc, List.append_assoc]
      exact ih (.confirmed _ ht ho hs)

lemma Finished.sends (h : Finished chunk all notes report) :
    Sends chunk (all.map Task.payload) notes := by
  cases h with
  | all h =>
      have hs := h.sends (.rest [])
      rwa [List.append_nil, List.append_nil] at hs
  | failed hall h ht he =>
      rw [hall, List.map_append]
      exact h.sends (.failed _ _ ht he)

/-- A session sends its payloads one after the other. -/
lemma Course.sends (h : Course chunk all stage notes) :
    Sends chunk (all.map Task.payload) notes := by
  cases h with
  | @working done tasks _ _ _ hall h =>
      have hs := h.sends (.rest (tasks.map Task.payload))
      rwa [List.append_nil, ← List.map_append, ← hall] at hs
  | sending _ _ hall h ht =>
      rw [hall, List.map_append]
      exact h.sends (.busy _ _ ht)
  | closing _ h | reporting h | «over» h => exact h.sends

/-- **A step of a session keeps its notes in agreement with its stage.** -/
lemma Course.proceeds (hchunk : w.config.chunkSize = chunk) (h : Course chunk all s.stage notes)
    (hstep : Proceeds w s x stage note) : Course chunk all stage (notes ++ note.toList) := by
  subst hchunk
  generalize hst : s.stage = before at h
  cases hstep with
  | idle hidle =>
      rw [hst] at hidle
      cases h with
      | working | sending | closing | reporting | «over» => cases hidle
  | work h' =>
      rw [hst] at h'
      subst h'
      cases h
  | send due h' =>
      rw [hst] at h'
      subst h'
      cases h with
      | working _ hall h =>
          exact sending _ due hall h .start
  | answer reply link' due' h' hm =>
      rw [hst] at h'
      subst h'
      cases h with
      | sending _ _ hall h ht =>
          have hsending := sending link' due' hall h (ht.answer reply hm)
          rwa [List.map_append, ← List.append_assoc] at hsending
  | @finish _ _ _ _ _ _ _ r h' hr =>
      rw [hst] at h'
      subst h'
      cases h with
      | @sending done tasks notes _ task talk _ _ _ _ hall h ht =>
          rw [List.append_assoc]
          cases r with
          | ok o =>
              refine working _ ?_ (h.concat ht hr)
              rw [hall, List.append_assoc, List.singleton_append]
          | error e => exact closing _ (.failed hall h ht hr)
  | close h' =>
      rw [hst] at h'
      subst h'
      rw [Option.toList_none, List.append_nil]
      cases h with
      | working _ hall h =>
          rw [List.append_nil] at hall
          exact closing _ (.all (hall ▸ h))
  | report h' =>
      rw [hst] at h'
      subst h'
      rw [Option.toList_none, List.append_nil]
      cases h with
      | closing _ h => exact reporting h
  | ended h' =>
      rw [hst] at h'
      subst h'
      rw [Option.toList_none, List.append_nil]
      cases h with
      | reporting h => exact «over» h

end Course

/-! ### What the report says -/

namespace Task

variable {m : Member} {task : Task} {done rest : List Task}

lemma mem_ofJobs_iff : task ∈ ofJobs m.jobs
    ↔ (∃ job, m.profileJob = some job ∧ task = profile job)
      ∨ ∃ job, m.firmwareJob = some job ∧ m.dfuReserved = true
        ∧ ∃ p ∈ job.image.payloads, task = image p job := by
  rw [Member.jobs, ofJobs, List.mem_append, Option.mem_toList, Option.map_eq_some_iff]
  refine or_congr ?_ ?_
  · exact exists_congr fun job => and_congr_right fun _ => eq_comm
  · cases m.dfuReserved <;> cases m.firmwareJob <;> simp [eq_comm]

/-- A data set among the tasks is that of the job of the member. -/
lemma eq_profile (h : task ∈ ofJobs m.jobs) (hk : task.payload.kind = .dataSet) :
    ∃ job, m.profileJob = some job ∧ task = profile job := by
  obtain hprofile | ⟨job, -, -, p, -, rfl⟩ := mem_ofJobs_iff.mp h
  · exact hprofile
  · exact absurd hk (sane_ofJobs _ _ h)

/-- Firmware among the tasks is that of the update of the member. -/
lemma eq_image (h : task ∈ ofJobs m.jobs) (hk : task.payload.kind ≠ .dataSet) :
    ∃ p job, m.firmwareJob = some job ∧ task = image p job := by
  obtain ⟨job, -, rfl⟩ | ⟨job, hjob, -, p, -, rfl⟩ := mem_ofJobs_iff.mp h
  · exact absurd rfl hk
  · exact ⟨p, job, hjob, rfl⟩

/-- The firmware itself is the last task. -/
lemma kind_of_mem_dropLast (h : task ∈ (ofJobs m.jobs).dropLast) :
    task.payload.kind ≠ .firmware := by
  have hprofile (h : task ∈ (m.profileJob.map profile).toList) :
      task.payload.kind ≠ .firmware := by
    obtain ⟨job, -, rfl⟩ := Option.map_eq_some_iff.mp (Option.mem_toList.mp h)
    exact nofun
  rw [Member.jobs, ofJobs] at h
  split_ifs at h
  · cases hjob : m.firmwareJob with
    | none =>
        rw [hjob, Option.toList_none, List.flatMap_nil, List.append_nil] at h
        exact hprofile (List.mem_of_mem_dropLast h)
    | some job =>
        rw [hjob, Option.toList_some, List.flatMap_singleton, FirmwareImage.payloads,
          List.map_append, List.map_singleton, ← List.append_assoc, List.dropLast_concat] at h
        rcases List.mem_append.mp h with h | h
        · exact hprofile h
        · obtain ⟨p, hp, rfl⟩ := List.mem_map.mp h
          obtain ⟨bytes, -, rfl⟩ := Option.map_eq_some_iff.mp (Option.mem_toList.mp hp)
          exact nofun
  · rw [Option.toList_none, List.flatMap_nil, List.append_nil] at h
    exact hprofile (List.mem_of_mem_dropLast h)

/-- Nothing is left once the firmware itself is done. -/
lemma eq_nil_of_firmware (hall : ofJobs m.jobs = done ++ rest) (h : task ∈ done)
    (hk : task.payload.kind = .firmware) : rest = [] := by
  by_contra hrest
  have hlast : task ∈ (ofJobs m.jobs).dropLast := by
    rw [hall, List.dropLast_append_of_ne_nil hrest]
    exact List.mem_append_left _ h
  exact kind_of_mem_dropLast hlast hk

end Task

section Report

variable {chunk : ℕ} {done rest : List Task} {notes : List Note} {report : Report} {m : Member}

namespace Confirmed

/-- The data set of a report has been confirmed. -/
lemma profile_mem (h : Confirmed chunk done notes report) {r : ProfileJob × Outcome}
    (hr : report.profile = some r) : .profile r.1 ∈ done := by
  induction h with
  | nil => cases hr
  | @concat done _ _ task _ _ o _ _ _ _ ih =>
      cases task with
      | profile job =>
          obtain rfl := Option.some_inj.mp hr
          exact List.mem_append_right _ (List.mem_singleton_self _)
      | image p job =>
          refine List.mem_append_left _ (ih ?_)
          rw [Task.record] at hr
          split_ifs at hr <;> exact hr

/-- A data set that has been confirmed is in the report. -/
lemma isSome_profile (h : Confirmed chunk done notes report) {job : ProfileJob}
    (hjob : .profile job ∈ done) : report.profile.isSome = true := by
  induction h with
  | nil => cases hjob
  | @concat done _ _ task _ _ o _ _ _ _ ih =>
      cases task with
      | profile job => rfl
      | image p job =>
          have hdone := ih ((List.mem_append.mp hjob).resolve_right (by simp))
          rw [Task.record]
          split_ifs <;> exact hdone

/-- The firmware of a report has been confirmed. -/
lemma firmware_mem (h : Confirmed chunk done notes report) {job : FirmwareJob}
    (hr : report.firmware = some job) : ∃ p, p.kind = .firmware ∧ .image p job ∈ done := by
  induction h with
  | nil => cases hr
  | @concat done _ report task _ _ o _ _ _ _ ih =>
      have hleft (hr : report.firmware = some job) :
          ∃ p, p.kind = .firmware ∧ .image p job ∈ done ++ [task] :=
        (ih hr).imp fun p h => ⟨h.1, List.mem_append_left _ h.2⟩
      cases task with
      | profile job => exact hleft hr
      | image p job =>
          rw [Task.record] at hr
          split_ifs at hr with hk
          · obtain rfl := Option.some_inj.mp hr
            exact ⟨p, hk, List.mem_append_right _ (List.mem_singleton_self _)⟩
          · exact hleft hr

/-- Firmware that has been confirmed is in the report. -/
lemma isSome_firmware (h : Confirmed chunk done notes report) {p : Payload} {job : FirmwareJob}
    (hjob : .image p job ∈ done) (hk : p.kind = .firmware) : report.firmware.isSome = true := by
  induction h with
  | nil => cases hjob
  | @concat done _ report task _ _ o _ _ _ _ ih =>
      have hleft (h : .image p job ≠ task) : report.firmware.isSome = true :=
        ih ((List.mem_append.mp hjob).resolve_right fun hmem => h (List.mem_singleton.mp hmem))
      cases task with
      | profile job => exact hleft nofun
      | image q job =>
          rw [Task.record]
          split_ifs with hq
          · rfl
          · refine hleft fun himage => hq ?_
            cases himage
            exact hk

/-- The report has the data set of the member exactly if it has been confirmed. -/
lemma programmed (h : Confirmed chunk done notes report)
    (hall : Task.ofJobs m.jobs = done ++ rest) :
    report.profile.map (·.1.program) = m.programmed notes := by
  have hmem {task : Task} (htask : task ∈ done) : task ∈ Task.ofJobs m.jobs :=
    hall ▸ List.mem_append_left _ htask
  have hown {r : ProfileJob × Outcome} (hr : report.profile = some r) :
      m.profileJob = some r.1 := by
    obtain ⟨job, hjob, htask⟩ := Task.eq_profile (hmem (h.profile_mem hr)) rfl
    cases htask
    exact hjob
  cases hr : report.profile with
  | some r =>
      have hconfirms := h.confirms_iff.mpr ⟨_, h.profile_mem hr, rfl⟩
      rw [Member.programmed, hown hr, eq_comm, Option.map_some, Option.map_some,
        Option.filter_eq_some_iff]
      exact ⟨rfl, hconfirms⟩
  | none =>
      rw [Member.programmed, eq_comm, Option.map_none, Option.filter_eq_none_iff]
      intro d hd hconfirms
      obtain ⟨task, htask, hpayload⟩ := h.confirms_iff.mp hconfirms
      obtain ⟨job, -, rfl⟩ := Task.eq_profile (hmem htask) (congrArg Payload.kind hpayload)
      have hsome := h.isSome_profile htask
      rw [hr] at hsome
      cases hsome

/-- The report has the update of the member exactly if all its images have been confirmed. -/
lemma updated (h : Confirmed chunk done notes report)
    (hall : Task.ofJobs m.jobs = done ++ rest) :
    report.firmware.map (·.image) = m.updated notes := by
  have hmem {task : Task} (htask : task ∈ done) : task ∈ Task.ofJobs m.jobs :=
    hall ▸ List.mem_append_left _ htask
  cases hr : report.firmware with
  | some job =>
      obtain ⟨p, hp, htask⟩ := h.firmware_mem hr
      obtain ⟨job', hjob, hreserved, p', -, heq⟩ :=
        (Task.mem_ofJobs_iff.mp (hmem htask)).resolve_left (by simp)
      cases heq
      -- the firmware itself is the last task, so all images are done
      obtain rfl := Task.eq_nil_of_firmware hall htask hp
      rw [List.append_nil] at hall
      rw [Member.updated, hjob, eq_comm, Option.map_some, Option.filter_eq_some_iff]
      refine ⟨rfl, List.all_eq_true.mpr fun q hq => ?_⟩
      refine h.confirms_iff.mpr ⟨.image q job, ?_, rfl⟩
      rw [← hall]
      exact Task.mem_ofJobs_iff.mpr (.inr ⟨job, hjob, hreserved, q, hq, rfl⟩)
  | none =>
      rw [Member.updated, eq_comm, Option.map_none, Option.filter_eq_none_iff]
      intro f hf hall'
      have hfirmware : Payload.ofBytes .firmware f.firmware ∈ f.payloads :=
        List.mem_append_right _ (List.mem_singleton_self _)
      obtain ⟨task, htask, hpayload⟩ :=
        h.confirms_iff.mp (List.all_eq_true.mp hall' _ hfirmware)
      have hk : task.payload.kind = .firmware := congrArg Payload.kind hpayload
      obtain ⟨p, job, -, rfl⟩ := Task.eq_image (hmem htask) (hk ▸ nofun)
      have hsome := h.isSome_firmware htask hk
      rw [hr] at hsome
      cases hsome

end Confirmed

namespace Finished

variable (h : Finished chunk (Task.ofJobs m.jobs) notes report)

include h

/-- **The data set of the report is the one that the notes confirm.** -/
lemma programmed : report.profile.map (·.1.program) = m.programmed notes := by
  cases h with
  | all h => exact h.programmed (List.append_nil _).symm
  | failed hall h =>
      rw [Member.programmed, confirms_failed]
      exact h.programmed hall

/-- **The update of the report is the one of which the notes confirm every image.** -/
lemma updated : report.firmware.map (·.image) = m.updated notes := by
  cases h with
  | all h => exact h.updated (List.append_nil _).symm
  | failed hall h =>
      rw [Member.updated, confirms_failed]
      exact h.updated hall

/-- The report has something exactly if the notes confirm something. -/
lemma isSome_eq : (report.profile.isSome || report.firmware.isSome)
    = ((m.programmed notes).isSome || (m.updated notes).isSome) := by
  rw [← h.programmed, ← h.updated, Option.isSome_map, Option.isSome_map]

/-- Every payload has been confirmed, or the last transfer has failed. -/
lemma complete : (∀ p ∈ m.payloads, confirms notes p = true)
    ∨ ∃ notes' p e, notes = notes' ++ [.ended p (.error e)] := by
  cases h with
  | all h =>
      refine .inl fun p hp => h.confirms_iff.mpr ?_
      rw [← m.map_payload_ofJobs] at hp
      exact List.mem_map.mp hp
  | failed =>
      refine .inr ⟨_, _, _, (List.append_assoc ..).symm⟩

/-- The record of a member at the end of a session has what the notes confirm. -/
lemma peripheral_confirm (n : Member) :
    (n.confirm report).peripheral = recordWith n.peripheral (m.programmed notes) (m.updated notes)
    := by
  rw [← h.programmed, ← h.updated, Member.confirm]
  cases report.profile <;> cases report.firmware <;> rfl

end Finished

end Report

end DiceHost.Scheduler
