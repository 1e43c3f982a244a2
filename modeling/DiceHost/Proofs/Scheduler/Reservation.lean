/-
One firmware update at a time.

* `Stage.brings`: the tasks that a session has still to work on;
* `Licensed`: the right to write firmware is taken exactly when some die holds it, no two dice
  hold it, and firmware is written by a session that holds it only;
* `Licensed.turn`: **whatever happens keeps it so**;
* `Orderly.released`: however a session ends, it gives the right back;
* `Orderly.begun_of_new`: a session begins as the dispatcher takes its die from the queue;
* `one_update_after`: in every run, one die at most may be written firmware to.
-/
import DiceHost.Proofs.Scheduler.Attendance

namespace DiceHost.Scheduler

open Link

/-! ### Tasks -/

/-- The tasks that a session has still to work on, the one in hand included. -/
def Stage.brings : Stage → List Task
  | .working _ tasks _ => tasks
  | .sending _ _ _ task tasks _ => task :: tasks
  | _ => []

section Turns

variable {w : World} {s x : Session} {stage : Stage} {deed : Deed} {t : State}
  {ss : List Session} {n : ℕ} {p : PixelId} {task : Task}

/-- A session that has something to bring has not ended. -/
lemma Session.live_of_mem_brings (h : task ∈ x.stage.brings) : x.Live := by
  intro hover
  rw [hover] at h
  cases h

/-- A session finds its tasks in the jobs of its die, and keeps to them. -/
lemma Advance.mem_brings (h : Advance w s stage t) (htask : task ∈ stage.brings) :
    task ∈ s.stage.brings ∨ task ∈ Task.ofJobs (w.state.jobs s.pixel) := by
  cases h with
  | work => exact .inr htask
  | send _ hst | answer _ _ _ hst =>
      rw [hst]
      exact .inl htask
  | @finish _ _ _ _ _ _ r hst =>
      rw [hst]
      cases r with
      | ok outcome => exact .inl (List.mem_cons_of_mem _ htask)
      | error e => cases htask
  | connect | interrupt | refuse | link | interrupted | failed | connected | close | report =>
      cases htask

/-- Only a session that holds the right finds firmware to be written. -/
lemma isReserved_of_mem_ofJobs {t : State} (htask : task ∈ Task.ofJobs (t.jobs p))
    (hk : task.payload.kind ≠ .dataSet) : t.isReserved p = true := by
  rw [State.jobs] at htask
  cases hm : t.member? p with
  | none =>
      rw [hm] at htask
      cases htask
  | some m =>
      rw [hm] at htask
      rw [State.isReserved_eq hm]
      by_contra hr
      simp only [if_neg hr, Task.ofJobs, Option.toList_none, List.flatMap_nil, List.append_nil,
        Option.mem_toList, Option.map_eq_some_iff] at htask
      obtain ⟨job, -, rfl⟩ := htask
      exact hk rfl

/-! ### The right to write firmware -/

/-- The right to write firmware is taken exactly when some die holds it, no two dice hold it, and
firmware is written, or still to be written by a session, where the right is held only. -/
structure Licensed (t : State) (ss : List Session) : Prop where
  active_iff : t.dfuActive = true ↔ ∃ p, t.isReserved p = true
  unique : ∀ p q, t.isReserved p = true → t.isReserved q = true → p = q
  writing : ∀ p, t.isWriting p = true → t.isReserved p = true
  tasks : ∀ x ∈ ss, ∀ task ∈ x.stage.brings, task.payload.kind ≠ .dataSet →
    t.isReserved x.pixel = true

namespace Licensed

/-- The right stays where it is, and firmware is written under it only. -/
lemma steady (h : Licensed w.state w.sessions) (ht : State.Steady w.state t)
    (hwriting : ∀ p, t.isWriting p = true → w.state.isReserved p = true)
    (htasks : ∀ x ∈ ss, ∀ task ∈ x.stage.brings, task.payload.kind ≠ .dataSet →
      w.state.isReserved x.pixel = true) : Licensed t ss where
  active_iff := by
    rw [ht.active, h.active_iff]
    exact exists_congr fun p => by rw [ht.reserved]
  unique := by
    intro p q hp hq
    rw [ht.reserved] at hp hq
    exact h.unique p q hp hq
  writing := fun p hp => (ht.reserved p).trans (hwriting p hp)
  tasks := fun x hx task htask hk => (ht.reserved x.pixel).trans (htasks x hx task htask hk)

/-- Nothing but the state changes, and no session is disturbed. -/
lemma undisturbed (h : Licensed w.state w.sessions) (ht : State.Undisturbed w.state t) :
    Licensed t w.sessions :=
  h.steady ht.toSteady (fun p hp => h.writing p (ht.writes p hp)) h.tasks

/-- A session that takes a step brings firmware under the right only. -/
lemma tasks_advance (h : Licensed w.state w.sessions) (hids : (w.sessions.map (·.id)).Nodup)
    (hs : s ∈ w.sessions) (hstep : Advance w s stage t) :
    ∀ x ∈ (w.setStage s.id stage).sessions, ∀ task ∈ x.stage.brings,
      task.payload.kind ≠ .dataSet → w.state.isReserved x.pixel = true := by
  intro x hx task htask hk
  rcases mem_setStage hids hs hx with rfl | ⟨hx, -⟩
  · rcases hstep.mem_brings htask with htask | htask
    · exact h.tasks s hs task htask hk
    · exact isReserved_of_mem_ofJobs htask hk
  · exact h.tasks x hx task htask hk

/-- A session ends: the right is free if it was held there, and is where it was otherwise. -/
lemma releases (h : Licensed w.state w.sessions) (ho : Orderly w.state w.sessions w.started)
    (hs : s ∈ w.sessions) (hlive : s.Live) (ht : State.Releases w.state t s.pixel) :
    Licensed t (w.setStage s.id .over).sessions := by
  have hreserved {q : PixelId} (hq : t.isReserved q = true) :
      q ≠ s.pixel ∧ w.state.isReserved q = true := by
    have hne : q ≠ s.pixel := by
      rintro rfl
      rw [ht.reserved] at hq
      cases hq
    exact ⟨hne, ht.touches.isReserved hne ▸ hq⟩
  refine ⟨?_, ?_, ?_, ?_⟩
  · rw [ht.active, Bool.and_eq_true, Bool.not_eq_true', h.active_iff]
    constructor
    · rintro ⟨⟨q, hq⟩, hfree⟩
      refine ⟨q, ?_⟩
      rw [ht.touches.isReserved, hq]
      rintro rfl
      rw [hfree] at hq
      cases hq
    · rintro ⟨q, hq⟩
      obtain ⟨hne, hq⟩ := hreserved hq
      exact ⟨⟨q, hq⟩, Bool.eq_false_iff.mpr fun hs' => hne (h.unique q _ hq hs')⟩
  · exact fun p q hp hq => h.unique p q (hreserved hp).2 (hreserved hq).2
  · intro q hq
    have hne : q ≠ s.pixel := by
      rintro rfl
      rw [ht.writing] at hq
      cases hq
    rw [ht.touches.isWriting hne] at hq
    rw [ht.touches.isReserved hne]
    exact h.writing q hq
  · intro x hx task htask hk
    rcases mem_setStage ho.ids hs hx with rfl | ⟨hx, hid⟩
    · cases htask
    · rw [ht.touches.isReserved]
      · exact h.tasks x hx task htask hk
      · exact fun hp => hid (ho.apart x hx s hs (Session.live_of_mem_brings htask) hlive hp)

/-- A session begins: its die gets the right only if nobody holds it. -/
lemma begins {m : Member} (h : Licensed w.state w.sessions)
    (ho : Orderly w.state w.sessions w.started) (ha : Attended w.state w.sessions)
    (ht : State.Begins w.state t x.pixel m) (hst : x.stage = .starting) :
    Licensed t (w.sessions ++ [x]) := by
  have hrest : w.state.isManned x.pixel = false := (State.isManned_eq ht.member).trans ht.resting
  -- a die that is in no session does not hold the right yet
  have hfree : w.state.isReserved x.pixel = false := by
    refine Bool.eq_false_iff.mpr fun hr => ?_
    rw [ha.reserved _ hr] at hrest
    cases hrest
  have hown : t.isReserved x.pixel = w.state.reserves m := by
    rw [ht.reserved, ← State.isReserved_eq ht.member, hfree, Bool.false_or]
  have hothers : w.state.reserves m = true → ∀ q, w.state.isReserved q = false := by
    intro hres q
    rw [State.reserves, Bool.and_eq_true, Bool.not_eq_true'] at hres
    refine Bool.eq_false_iff.mpr fun hq => ?_
    rw [h.active_iff.mpr ⟨q, hq⟩] at hres
    cases hres.2
  refine ⟨?_, ?_, ?_, ?_⟩
  · rw [ht.active, Bool.or_eq_true, h.active_iff]
    constructor
    · rintro (⟨q, hq⟩ | hres)
      · refine ⟨q, ?_⟩
        rw [ht.touches.isReserved, hq]
        rintro rfl
        rw [hfree] at hq
        cases hq
      · exact ⟨x.pixel, hown.trans hres⟩
    · rintro ⟨q, hq⟩
      by_cases hne : q = x.pixel
      · exact .inr (hown ▸ hne ▸ hq)
      · exact .inl ⟨q, ht.touches.isReserved hne ▸ hq⟩
  · intro q r hq hr
    by_cases hqx : q = x.pixel <;> by_cases hrx : r = x.pixel
    · rw [hqx, hrx]
    · rw [hqx, hown] at hq
      rw [ht.touches.isReserved hrx, hothers hq] at hr
      cases hr
    · rw [hrx, hown] at hr
      rw [ht.touches.isReserved hqx, hothers hr] at hq
      cases hq
    · rw [ht.touches.isReserved hqx] at hq
      rw [ht.touches.isReserved hrx] at hr
      exact h.unique q r hq hr
  · intro q hq
    have hne : q ≠ x.pixel := by
      rintro rfl
      rw [ht.writing] at hq
      cases hq
    rw [ht.touches.isWriting hne] at hq
    rw [ht.touches.isReserved hne]
    exact h.writing q hq
  · intro y hy task htask hk
    rcases List.mem_append.mp hy with hy | hy
    · rw [ht.touches.isReserved]
      · exact h.tasks y hy task htask hk
      · intro hp
        obtain ⟨m', hm', hf'⟩ := ho.manned y hy (Session.live_of_mem_brings htask)
        rw [← hp, State.isManned_eq hm', hf'] at hrest
        cases hrest
    · rw [List.mem_singleton.mp hy, hst] at htask
      cases htask

/-- **A turn keeps the right where it belongs.** -/
lemma turn (ho : Orderly w.state w.sessions w.started) (ha : Attended w.state w.sessions)
    (hturn : Turn w deed t ss n) (h : Licensed w.state w.sessions) : Licensed t ss := by
  have hsame : State.Steady w.state w.state := (State.Undisturbed.refl w.state).toSteady
  cases hturn with
  | rest => exact h
  | request hr => exact h.undisturbed (hr.undisturbed ha.reserved)
  | seen a => exact h.undisturbed (State.undisturbed_adapterSeen _ a)
  | woken p epoch => exact h.undisturbed (State.undisturbed_backoffOver _ p epoch)
  | begun hnext =>
      obtain ⟨m, hbegins⟩ := ho.coherent.begins hnext
      exact h.begins ho ha hbegins rfl
  | ended hs hst =>
      have hlive := Session.live_of_reporting hst
      obtain ⟨m, hm, hf⟩ := ho.manned _ hs hlive
      exact h.releases ho hs hlive (ho.coherent.releases_sessionEnded hm hf _ _)
  | left => exact h.steady hsame h.writing fun x hx => h.tasks x (List.mem_of_mem_filter hx)
  | @advance s stage _ hs hstep =>
      have hlive := hstep.live
      obtain ⟨m, hm, hf⟩ := ho.manned s hs hlive
      have htasks := h.tasks_advance ho.ids hs hstep
      cases hstep with
      | interrupted => exact h.releases ho hs hlive (ho.coherent.releases_interrupted hm hf _)
      | failed => exact h.releases ho hs hlive (ho.coherent.releases_connectFailed hm hf _ _)
      | connected =>
          have ht := State.undisturbed_connected w.state s.pixel
          exact h.steady ht.toSteady (fun p hp => h.writing p (ht.writes p hp)) htasks
      | @send _ task _ _ _ hst =>
          refine h.steady (State.steady_transferring _ _ _) (fun p hp => ?_) htasks
          rcases State.writes_transferring hp with hp | ⟨rfl, hk⟩
          · exact h.writing p hp
          · refine h.tasks s hs task ?_ hk
            rw [hst]
            exact List.mem_cons_self
      | connect | interrupt | refuse | link | work | answer | finish | close | report =>
          exact h.steady hsame h.writing htasks

lemma start (a : AdapterState) (pairings : List Peripheral) :
    Licensed (State.start a pairings) [] := by
  have hfree : ∀ p, (State.start a pairings).isReserved p ≠ true := by
    intro p hp
    obtain ⟨m, hm, hr⟩ := (Option.any_eq_true _ _).mp hp
    obtain ⟨r, rfl⟩ := State.eq_of_member?_start hm
    cases hr
  refine ⟨?_, fun p q hp => (hfree p hp).elim, ?_, fun x hx => (List.not_mem_nil hx).elim⟩
  · refine ⟨fun h => (Bool.false_ne_true h).elim, ?_⟩
    rintro ⟨p, hp⟩
    exact (hfree p hp).elim
  · intro p hp
    obtain ⟨m, hm, hw⟩ := (Option.any_eq_true _ _).mp hp
    obtain ⟨r, rfl⟩ := State.eq_of_member?_start hm
    cases hw

end Licensed

/-! ### The bounds of a session -/

/-- However a session ends, its die is in none, and holds the right no longer. -/
lemma Orderly.released (ho : Orderly w.state w.sessions w.started) (hturn : Turn w deed t ss n)
    (hx : x ∈ w.sessions) (hlive : x.Live) (hends : ∀ y ∈ ss, y.id = x.id → ¬ y.Live) :
    State.Releases w.state t x.pixel := by
  have hstays : x ∉ ss := fun hmem => hends x hmem rfl hlive
  cases hturn with
  | rest | request | seen | woken => exact (hstays hx).elim
  | begun => exact (hstays (List.mem_append_left _ hx)).elim
  | @left s hs hst =>
      refine (hstays (List.mem_filter.mpr ⟨hx, decide_eq_true fun hid => ?_⟩)).elim
      exact hlive (List.inj_on_of_nodup_map ho.ids hx hs hid ▸ hst)
  | @ended s _ hs hst =>
      by_cases hid : x.id = s.id
      · obtain rfl := List.inj_on_of_nodup_map ho.ids hx hs hid
        obtain ⟨m, hm, hf⟩ := ho.manned x hs hlive
        exact ho.coherent.releases_sessionEnded hm hf _ _
      · exact (hstays (mem_setStage_of_ne hx hid)).elim
  | @advance s stage _ hs hstep =>
      by_cases hid : x.id = s.id
      · obtain rfl := List.inj_on_of_nodup_map ho.ids hx hs hid
        obtain ⟨m, hm, hf⟩ := ho.manned x hs hlive
        have hover : ¬ stage ≠ .over := hends _ (mem_setStage_self hs) rfl
        cases hstep with
        | interrupted => exact ho.coherent.releases_interrupted hm hf _
        | failed => exact ho.coherent.releases_connectFailed hm hf _ _
        | @finish _ _ _ _ _ _ r =>
            refine (hover ?_).elim
            cases r <;> simp [World.afterTransfer]
        | connect | interrupt | refuse | link | connected | work | send | answer | close
        | report => exact (hover (by simp)).elim
      · exact (hstays (mem_setStage_of_ne hx hid)).elim

/-- A session begins as the dispatcher takes its die from the queue. -/
lemma Orderly.begun_of_new (ho : Orderly w.state w.sessions w.started)
    (hturn : Turn w deed t ss n) (hx : x ∈ ss) (hnew : x.id ∉ w.sessions.map (·.id)) :
    ∃ m, State.Begins w.state t x.pixel m := by
  have hno : x ∉ w.sessions := fun hmem => hnew (List.mem_map_of_mem hmem)
  cases hturn with
  | rest | request | seen | woken => exact (hno hx).elim
  | left => exact (hno (List.mem_of_mem_filter hx)).elim
  | advance | ended =>
      refine (hnew ?_).elim
      rw [← map_id_setStage w _ _]
      exact List.mem_map_of_mem hx
  | begun hnext =>
      rcases List.mem_append.mp hx with hx | hx
      · exact (hno hx).elim
      · rw [List.mem_singleton.mp hx]
        exact ho.coherent.begins hnext

end Turns

/-- **One firmware update at a time, in every run.** The right to write firmware is taken
exactly when one die holds it, which is in a session then, and no two dice hold it. Firmware is
written to one die at most, and to the one that holds the right. However a session ends, its die
holds the right no longer, and the right is free if it was held there. While the right is taken,
no session begins with a die to which nothing but firmware is to be written. -/
theorem one_update_after (config : Config) (delay : ℕ) (radio : Radio)
    (pairings : List Peripheral) (hs : List Happening) :
    let w := (World.start config delay radio pairings).after hs
    (w.state.dfuActive = true ↔ ∃! p, w.state.isReserved p = true)
      ∧ (∀ p, w.state.isReserved p = true →
          w.state.isManned p = true ∧ HasLive w.sessions p
            ∧ ∀ q, w.state.isReserved q = true → q = p)
      ∧ (∀ p, w.state.isWriting p = true →
          w.state.isReserved p = true ∧ ∀ q, w.state.isWriting q = true → q = p)
      ∧ (∀ h, ∀ x ∈ w.sessions, x.Live →
          (∀ y ∈ (w.happen h).sessions, y.id = x.id → ¬ y.Live) →
          (w.happen h).state.isReserved x.pixel = false
            ∧ (w.state.isReserved x.pixel = true → (w.happen h).state.dfuActive = false))
      ∧ ∀ h, ∀ x ∈ (w.happen h).sessions, x.id ∉ w.sessions.map (·.id) →
          w.state.dfuActive = true →
          ∃ m, w.state.member? x.pixel = some m ∧ m.hasFirmwareOnly = false := by
  intro w
  have hstart : Orderly (World.start config delay radio pairings).state [] 0 :=
    Orderly.start config delay radio pairings
  have ho : Orderly w.state w.sessions w.started := hstart.after hs
  obtain ⟨ha, hl⟩ : Attended w.state w.sessions ∧ Licensed w.state w.sessions :=
    hstart.run (P := fun t ss => Attended t ss ∧ Licensed t ss) (Q := fun _ => True)
      (fun ho hturn _ h => ⟨h.1.turn ho hturn, h.2.turn ho h.1 hturn⟩) hs (fun _ _ => trivial)
      ⟨.start radio.adapter pairings, .start radio.adapter pairings⟩
  refine ⟨?_, ?_, ?_, ?_, ?_⟩
  · rw [hl.active_iff]
    constructor
    · rintro ⟨p, hp⟩
      exact ⟨p, hp, fun q hq => hl.unique q p hq hp⟩
    · rintro ⟨p, hp, -⟩
      exact ⟨p, hp⟩
  · intro p hp
    have hmanned := ha.reserved p hp
    exact ⟨hmanned, ha.session p hmanned, fun q hq => hl.unique q p hq hp⟩
  · intro p hp
    exact ⟨hl.writing p hp, fun q hq => hl.unique q p (hl.writing q hq) (hl.writing p hp)⟩
  · intro h x hx hlive hends
    have hreleases := ho.released (w.turn_happen h) hx hlive hends
    refine ⟨hreleases.reserved, fun hheld => ?_⟩
    rw [hreleases.active, hheld, Bool.not_true, Bool.and_false]
  · intro h x hx hnew hactive
    obtain ⟨m, hbegins⟩ := ho.begun_of_new (w.turn_happen h) hx hnew
    exact ⟨m, hbegins.member, hbegins.allowed hactive⟩

end DiceHost.Scheduler
