/-
What is to be brought to a die, and where it stands.

* `Errand`, `Job`: a data set or a firmware image, and the numbered request for it;
* `Member.pending`, `Stage.carries`, `inHand`: the job that waits in a lane, and the jobs that
  sessions have in hand;
* `Errand.IsRecorded`: the record of a die tells that it holds what was brought;
* `Report.discards`: the end of a session drops the job that waits;
* `Member.Keeps`: a member is left as it is as far as a lane goes;
* `Member.pending_settled`, `Member.recorded_settled`: what the end of a session does to the job
  that waits and to the record;
* `Advance.mem_carries`: a step of a session gives it at most the jobs that wait at its die.
-/
import DiceHost.Proofs.Scheduler.Happening

namespace DiceHost.Scheduler

open Link

/-! ### Errands -/

/-- The kinds of errands. For each of them one job at most waits at a die. -/
inductive Lane where
  | dataSet
  | firmware
deriving DecidableEq

/-- What is to be brought to a die. -/
inductive Errand where
  | dataSet (d : Program)
  | firmware (image : FirmwareImage)
deriving DecidableEq

namespace Errand

def lane : Errand → Lane
  | dataSet _ => .dataSet
  | firmware _ => .firmware

/-- The record of a die tells that it holds what is to be brought. -/
def IsRecorded : Errand → Peripheral → Prop
  | dataSet d, r => r.profileHash = some d.hash ∧ r.profile = some d.profile
  | firmware image, r => r.firmware = some image.timestamp

instance (e : Errand) (r : Peripheral) : Decidable (e.IsRecorded r) :=
  match e with
  | dataSet d =>
    inferInstanceAs (Decidable (r.profileHash = some d.hash ∧ r.profile = some d.profile))
  | firmware image => inferInstanceAs (Decidable (r.firmware = some image.timestamp))

end Errand

/-! ### Jobs -/

/-- An errand with the number of the request for it. -/
structure Job where
  errand : Errand
  seq : ℕ
deriving DecidableEq

def ProfileJob.job (j : ProfileJob) : Job := ⟨.dataSet j.program, j.seq⟩

def FirmwareJob.job (j : FirmwareJob) : Job := ⟨.firmware j.image, j.seq⟩

@[simp] lemma ProfileJob.seq_job (j : ProfileJob) : j.job.seq = j.seq := rfl

@[simp] lemma FirmwareJob.seq_job (j : FirmwareJob) : j.job.seq = j.seq := rfl

/-- The job that waits in a lane. -/
def Member.pending (m : Member) : Lane → Option Job
  | .dataSet => m.profileJob.map (·.job)
  | .firmware => m.firmwareJob.map (·.job)

/-- The job that a session has done in a lane. -/
def Report.done (r : Report) : Lane → Option Job
  | .dataSet => r.profile.map (·.1.job)
  | .firmware => r.firmware.map (·.job)

/-- The jobs that a session has done. -/
def Report.jobs (r : Report) : List Job :=
  (r.done .dataSet).toList ++ (r.done .firmware).toList

/-- The job that a task is a part of. -/
def Task.job : Task → Job
  | profile job => job.job
  | image _ job => job.job

/-- The jobs that a session has in hand, and those that it has done. -/
def Stage.carries : Stage → List Job
  | .working _ tasks report => tasks.map (·.job) ++ report.jobs
  | .sending _ _ _ task tasks report => task.job :: tasks.map (·.job) ++ report.jobs
  | .closing _ report | .reporting report => report.jobs
  | _ => []

lemma Report.mem_jobs {r : Report} {j : Job} : j ∈ r.jobs ↔ ∃ lane, r.done lane = some j := by
  rw [jobs, List.mem_append, Option.mem_toList, Option.mem_toList]
  constructor
  · rintro (h | h)
    · exact ⟨_, h⟩
    · exact ⟨_, h⟩
  · rintro ⟨lane, h⟩
    cases lane with
    | dataSet => exact .inl h
    | firmware => exact .inr h

lemma Report.lane_of_done {r : Report} {lane : Lane} {j : Job} (h : r.done lane = some j) :
    j.errand.lane = lane := by
  cases lane with
  | dataSet =>
      obtain ⟨a, -, rfl⟩ := Option.map_eq_some_iff.mp h
      rfl
  | firmware =>
      obtain ⟨a, -, rfl⟩ := Option.map_eq_some_iff.mp h
      rfl

/-- A member with a job that waits has something to be written. -/
lemma Member.hasJobs_of_pending {m : Member} {lane : Lane} {j : Job}
    (h : m.pending lane = some j) : m.hasJobs = true := by
  rw [hasJobs, Bool.or_eq_true]
  cases lane with
  | dataSet =>
      obtain ⟨a, ha, -⟩ := Option.map_eq_some_iff.mp h
      exact .inl (Option.isSome_of_eq_some ha)
  | firmware =>
      obtain ⟨a, ha, -⟩ := Option.map_eq_some_iff.mp h
      exact .inr (Option.isSome_of_eq_some ha)

/-! ### Members left as they are -/

/-- A member is left as it is as far as a lane goes: it is to be forgotten or not as before,
the same job waits, and what was recorded still is. -/
structure Member.Keeps (lane : Lane) (m m' : Member) : Prop where
  removed : m'.removed = m.removed
  pending : m'.pending lane = m.pending lane
  recorded : ∀ e : Errand, e.lane = lane → e.IsRecorded m.peripheral → e.IsRecorded m'.peripheral

namespace Member

variable {lane : Lane} {m m' n : Member}

namespace Keeps

lemma refl (lane : Lane) (m : Member) : m.Keeps lane m :=
  ⟨rfl, rfl, fun _ _ h => h⟩

lemma trans (h : m.Keeps lane m') (h' : m'.Keeps lane n) : m.Keeps lane n where
  removed := h'.removed.trans h.removed
  pending := h'.pending.trans h.pending
  recorded := fun e he hr => h'.recorded e he (h.recorded e he hr)

/-- Jobs, record and mark are the same. -/
lemma of_eq (hr : m'.removed = m.removed) (hprofile : m'.profileJob = m.profileJob)
    (hfirmware : m'.firmwareJob = m.firmwareJob) (hp : m'.peripheral = m.peripheral) :
    m.Keeps lane m' where
  removed := hr
  pending := by
    cases lane with
    | dataSet => exact congrArg (Option.map _) hprofile
    | firmware => exact congrArg (Option.map _) hfirmware
  recorded := fun e _ h => hp ▸ h

end Keeps

lemma keeps_afterEnqueue (m : Member) (l : Option Priority) (pr : Priority) :
    m.Keeps lane (m.afterEnqueue l pr).1 := by
  rw [afterEnqueue]
  split_ifs
  · exact .of_eq rfl rfl rfl rfl
  · exact .of_eq rfl rfl rfl rfl

lemma keeps_afterSchedule (m : Member) (l : Option Priority) (pr : Priority) :
    m.Keeps lane (m.afterSchedule l pr).1 := by
  rw [afterSchedule]
  split_ifs
  · exact .refl lane m
  · exact m.keeps_afterEnqueue l pr

/-- After the end of its session is recorded, nothing else happens to jobs and record. -/
lemma keeps_afterSession (m : Member) (l : Option Priority) (c : Config) (p : PixelId)
    (r : Report) : (m.settled c p r).Keeps lane (m.afterSession l c p r).1 := by
  rw [afterSession]
  have hidle : (m.settled c p r).Keeps lane
      { m.settled c p r with requeueAfter := none, state := .idle } := .of_eq rfl rfl rfl rfl
  by_cases hg : (m.settled c p r).state.isGivenUp = true
  · rw [if_pos hg]
    exact .refl lane _
  · rw [if_neg hg]
    cases m.nextPriority c p r with
    | none => exact hidle
    | some pr => exact hidle.trans (keeps_afterSchedule _ l pr)

end Member

/-! ### The end of a session -/

/-- A transfer of a kind is about an errand of a lane. -/
def Lane.covers : Lane → PayloadKind → Bool
  | .dataSet, .dataSet | .firmware, .firmware | .firmware, .bootloader => true
  | _, _ => false

/-- The end of a session drops the job that waits in a lane: a transfer has failed there for
good. -/
def Report.discards (r : Report) (lane : Lane) : Bool :=
  r.error.any fun e => lane.covers e.1 && !e.2.isRetryable

namespace Member

variable (m : Member) (c : Config) (p : PixelId) (r : Report) (lane : Lane)

lemma profileJob_confirm :
    (m.confirm r).profileJob
      = r.profile.elim m.profileJob fun d => m.profileJob.filter (·.seq ≠ d.1.seq) := by
  rw [confirm]
  cases r.profile <;> cases r.firmware <;> rfl

lemma firmwareJob_confirm :
    (m.confirm r).firmwareJob
      = r.firmware.elim m.firmwareJob fun job => m.firmwareJob.filter (·.seq ≠ job.seq) := by
  rw [confirm]
  cases r.profile <;> cases r.firmware <;> rfl

/-- What the die has confirmed waits no longer, unless it has been asked for again. -/
lemma pending_confirm :
    (m.confirm r).pending lane
      = (r.done lane).elim (m.pending lane) fun j => (m.pending lane).filter (·.seq ≠ j.seq) := by
  cases lane with
  | dataSet =>
      rw [pending, profileJob_confirm, Report.done]
      cases r.profile with
      | none => rfl
      | some d =>
          rw [Option.map_some, Option.elim_some, Option.elim_some, pending, Option.filter_map]
          rfl
  | firmware =>
      rw [pending, firmwareJob_confirm, Report.done]
      cases r.firmware with
      | none => rfl
      | some job =>
          rw [Option.map_some, Option.elim_some, Option.elim_some, pending, Option.filter_map]
          rfl

/-- A failure for good drops the job that waits. -/
lemma pending_settle :
    (m.settle c p r.error).1.pending lane = if r.discards lane then none else m.pending lane := by
  rw [settle.eq_def, Report.discards]
  cases r.error with
  | none => cases lane <;> rfl
  | some e =>
      obtain ⟨kind, e⟩ := e
      dsimp only
      by_cases he : e.isRetryable = true
      · rw [if_pos he]
        have hno : (Option.any (fun e => lane.covers e.1 && !e.2.isRetryable) (some (kind, e)))
            = false := by simp [he]
        rw [hno, if_neg Bool.false_ne_true]
        by_cases hg : c.maxRetries < m.attempts + 1
        · rw [if_pos hg]
          cases lane <;> rfl
        · rw [if_neg hg]
          cases lane <;> rfl
      · rw [if_neg he]
        cases kind <;> cases lane <;> simp [pending, Lane.covers, he]

/-- The end of a session drops what waits after a failure for good; otherwise what was done
waits no longer, unless it has been asked for again. -/
lemma pending_settled :
    (m.settled c p r).pending lane = if r.discards lane then none else
      (r.done lane).elim (m.pending lane) fun j => (m.pending lane).filter (·.seq ≠ j.seq) := by
  rw [settled, pending_settle, pending_confirm]
  cases lane <;> rfl

/-- The job that waits after the end of a session has waited before. -/
lemma pending_of_settled {j : Job} (h : (m.settled c p r).pending lane = some j) :
    m.pending lane = some j := by
  rw [pending_settled] at h
  split_ifs at h
  cases hd : r.done lane with
  | none =>
      rw [hd] at h
      exact h
  | some d =>
      rw [hd] at h
      exact (Option.filter_eq_some_iff.mp h).1

variable {m r} in
/-- A session that has done nothing in a lane leaves its record. -/
lemma recorded_settled_of_none {e : Errand} (hd : r.done e.lane = none)
    (h : e.IsRecorded m.peripheral) : e.IsRecorded (m.settled c p r).peripheral := by
  rw [settled, settle_eq]
  change e.IsRecorded (m.released.confirm r).peripheral
  rw [confirm]
  cases e with
  | dataSet d =>
      have hp : r.profile = none := Option.map_eq_none_iff.mp hd
      rw [hp]
      cases r.firmware <;> exact h
  | firmware image =>
      have hf : r.firmware = none := Option.map_eq_none_iff.mp hd
      rw [hf]
      cases r.profile <;> exact h

variable {r} in
/-- What a session has done is recorded. -/
lemma recorded_settled {j : Job} (hd : r.done lane = some j) :
    j.errand.IsRecorded (m.settled c p r).peripheral := by
  rw [settled, settle_eq]
  change j.errand.IsRecorded (m.released.confirm r).peripheral
  rw [confirm]
  cases lane with
  | dataSet =>
      obtain ⟨d, hp, rfl⟩ := Option.map_eq_some_iff.mp hd
      rw [hp]
      cases r.firmware <;> exact ⟨rfl, rfl⟩
  | firmware =>
      obtain ⟨job, hf, rfl⟩ := Option.map_eq_some_iff.mp hd
      rw [hf]
      cases r.profile <;> exact rfl

end Member

/-! ### Jobs in hand -/

/-- The jobs that the sessions of a die have in hand. -/
def inHand (ss : List Session) (p : PixelId) : List Job :=
  (ss.filter (·.pixel = p)).flatMap (·.stage.carries)

lemma mem_inHand {ss : List Session} {p : PixelId} {j : Job} :
    j ∈ inHand ss p ↔ ∃ x ∈ ss, x.pixel = p ∧ j ∈ x.stage.carries := by
  simp only [inHand, List.mem_flatMap, List.mem_filter, decide_eq_true_eq, and_assoc]

/-- After a task has succeeded the report tells its job at most as a new one. -/
lemma Task.mem_jobs_record {task : Task} {r : Report} {outcome : Outcome} {j : Job}
    (h : j ∈ (task.record r outcome).jobs) : j = task.job ∨ j ∈ r.jobs := by
  obtain ⟨lane, hj⟩ := Report.mem_jobs.mp h
  cases task with
  | profile job =>
      cases lane with
      | dataSet => exact .inl (Option.some_inj.mp hj).symm
      | firmware => exact .inr (Report.mem_jobs.mpr ⟨.firmware, hj⟩)
  | image payload job =>
      rw [Task.record] at hj
      split_ifs at hj
      · cases lane with
        | dataSet => exact .inr (Report.mem_jobs.mpr ⟨.dataSet, hj⟩)
        | firmware => exact .inl (Option.some_inj.mp hj).symm
      · exact .inr (Report.mem_jobs.mpr ⟨lane, hj⟩)

/-- The tasks of a session are those of the jobs that wait. -/
lemma State.pending_of_mem_ofJobs {s : State} {p : PixelId} {task : Task}
    (h : task ∈ Task.ofJobs (s.jobs p)) :
    ∃ m, s.member? p = some m ∧ m.pending task.job.errand.lane = some task.job := by
  rw [State.jobs] at h
  cases hm : s.member? p with
  | none =>
      rw [hm] at h
      cases h
  | some m =>
      rw [hm] at h
      refine ⟨m, rfl, ?_⟩
      rcases List.mem_append.mp h with h | h
      · obtain ⟨job, hjob, rfl⟩ := Option.map_eq_some_iff.mp (Option.mem_toList.mp h)
        exact congrArg (Option.map _) hjob
      · obtain ⟨job, hjob, h⟩ := List.mem_flatMap.mp h
        obtain ⟨payload, -, rfl⟩ := List.mem_map.mp h
        rw [Option.mem_toList] at hjob
        split_ifs at hjob
        exact congrArg (Option.map _) hjob

/-- A step of a session gives it at most the jobs that wait at its die. -/
lemma Advance.mem_carries {w : World} {s : Session} {stage : Stage} {t : State} {j : Job}
    (h : Advance w s stage t) (hj : j ∈ stage.carries) :
    j ∈ s.stage.carries
      ∨ ∃ m, w.state.member? s.pixel = some m ∧ m.pending j.errand.lane = some j := by
  cases h with
  | connect | interrupt | refuse | link | interrupted | failed | connected => cases hj
  | work h =>
      rcases List.mem_append.mp hj with hj | hj
      · obtain ⟨task, htask, rfl⟩ := List.mem_map.mp hj
        exact .inr (State.pending_of_mem_ofJobs htask)
      · cases hj
  | send due h =>
      rw [h]
      exact .inl hj
  | answer _ _ _ h =>
      rw [h]
      exact .inl hj
  | @finish _ _ _ _ _ _ r h hr =>
      rw [h]
      refine .inl ?_
      cases r with
      | error e => exact List.mem_cons_of_mem _ (List.mem_append_right _ hj)
      | ok outcome =>
          rcases List.mem_append.mp hj with hj | hj
          · exact List.mem_cons_of_mem _ (List.mem_append_left _ hj)
          · rcases Task.mem_jobs_record hj with rfl | hj
            · exact List.mem_cons_self
            · exact List.mem_cons_of_mem _ (List.mem_append_right _ hj)
  | close h =>
      rw [h]
      exact .inl (List.mem_append_right _ hj)
  | report h =>
      rw [h]
      exact .inl hj

end DiceHost.Scheduler
