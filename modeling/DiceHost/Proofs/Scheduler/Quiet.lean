/-
Changes that let nobody be found.

* `State.takeNext_eq_none_iff`: the dispatcher finds nobody exactly when the adapter is not ready
  or no die that waits is eligible;
* `State.Quiet`: a change lets nobody be found who was not before;
* `Act.wakes_or_quiet`: **a change wakes the dispatcher, or it is quiet**, but for what the
  watcher and the dispatcher do, and for an interrupted session that puts its die back;
* `Act.adapter`: nobody but the watcher records the adapter.
-/
import DiceHost.Proofs.Scheduler.Acts
import DiceHost.Proofs.Scheduler.Attendance
import DiceHost.Proofs.Scheduler.Deeds

namespace DiceHost.Scheduler

open Link

/-! ### Nobody to serve -/

namespace State

variable {s t : State} {p q : PixelId} {m m' : Member} {l : Option Priority}

/-- A die waits, and it may have a session now. -/
def isServable (s : State) (p : PixelId) : Bool :=
  (s.queue.priority? p).isSome && s.isEligible p

lemma isServable_of_level (h : s.queue.priority? p = none) : s.isServable p = false := by
  rw [isServable, h]
  rfl

/-- The dispatcher finds nobody exactly when the adapter is not ready or no die that waits is
eligible. -/
lemma takeNext_eq_none_iff :
    s.takeNext = none
      ↔ (s.adapter.isReady = true → ∀ p ∈ s.queue.high ++ s.queue.low, s.isEligible p = false) := by
  rw [takeNext]
  by_cases ha : s.adapter.isReady = true
  · rw [if_pos ha, ← Queue.popWhere_eq_none_iff]
    cases s.queue.popWhere s.isEligible with
    | none => exact ⟨fun _ _ => rfl, fun _ => rfl⟩
    | some r =>
        exact ⟨fun h => (Option.some_ne_none _ h).elim,
          fun h => (Option.some_ne_none r (h ha)).elim⟩
  · rw [if_neg ha]
    exact ⟨fun _ h => (ha h).elim, fun _ => rfl⟩

/-- The same in terms of levels. -/
lemma takeNext_eq_none_iff_isServable :
    s.takeNext = none ↔ (s.adapter.isReady = true → ∀ p, s.isServable p = false) := by
  rw [takeNext_eq_none_iff]
  refine imp_congr_right fun _ => forall_congr' fun p => ?_
  have hlevel : p ∈ s.queue.high ++ s.queue.low ↔ (s.queue.priority? p).isSome = true := by
    rw [Option.isSome_iff_ne_none, Ne, Queue.priority?_eq_none, List.mem_append]
    tauto
  rw [hlevel, isServable, Bool.and_eq_false_imp]

/-- A change lets nobody be found who was not before. -/
def Quiet (s t : State) : Prop :=
  s.takeNext = none → t.takeNext = none

/-- A change at one die is quiet if that die cannot be served more than before. -/
lemma Quiet.of_touches (ht : Touches s t p) (hf : Frames s t)
    (hp : t.isServable p = true → s.isServable p = true) : Quiet s t := by
  intro hnone
  rw [takeNext_eq_none_iff_isServable] at hnone ⊢
  intro ha q
  have hq := hnone (hf.adapter ▸ ha) q
  by_cases hqp : q = p
  · subst hqp
    refine Bool.eq_false_iff.mpr fun ht' => ?_
    rw [hp ht'] at hq
    cases hq
  · rw [isServable, isEligible, ht.level q hqp, ht.member q hqp, hf.active]
    exact hq

/-- The same for a die that does not wait afterwards. -/
lemma Quiet.of_level (ht : Touches s t p) (hf : Frames s t) (h : t.queue.priority? p = none) :
    Quiet s t := by
  refine .of_touches ht hf fun hp => ?_
  rw [isServable_of_level h] at hp
  cases hp

/-- The same for a die whose level and jobs are left as they are. -/
lemma Quiet.of_jobs (ht : Touches s t p) (hf : Frames s t) (h : s.Holds p m l)
    (h' : t.Holds p m' l) (hprofile : m'.profileJob = m.profileJob)
    (hfirmware : m'.firmwareJob = m.firmwareJob) : Quiet s t := by
  refine .of_touches ht hf fun hp => ?_
  rw [isServable, isEligible, h'.level, h'.member, hf.active] at hp
  rw [isServable, isEligible, h.level, h.member]
  simpa only [Option.any_some, Member.hasFirmwareOnly, hprofile, hfirmware] using hp

/-- A request wakes the dispatcher, or it is quiet: whoever is registered, forgotten or cancelled
waits no more than before. -/
lemma Coherent.wakes_or_quiet {r : Request} {reply : Reply} {c : Change} (h : s.Coherent)
    (hr : s.Handled r reply c) : c.wakes = true ∨ Quiet s c.state := by
  have ht := hr.touches
  have hf := hr.frames
  cases hr with
  | connect | retry => exact .inl rfl
  | @program p m d =>
      rw [State.program]
      split_ifs <;> exact .inl rfl
  | updateFirmware =>
      rw [State.updateFirmware]
      dsimp only
      split_ifs <;> exact .inl rfl
  | register record =>
      cases hm : s.member? record.pixel with
      | none => exact .inr (.of_level ht hf (h.lacks hm).register.level)
      | some m =>
          have hold : s.Holds record.pixel m (s.queue.priority? record.pixel) := ⟨hm, rfl⟩
          exact .inr (.of_jobs ht hf hold hold.register rfl rfl)
  | @unregister p m hm =>
      cases hflight : m.inFlight with
      | true =>
          obtain ⟨hold, -⟩ := h.holds_inFlight hm hflight
          exact .inr (.of_level ht hf (hold.unregister hflight).level)
      | false => exact .inr (.of_level ht hf (lacks_unregister s p hflight).level)
  | @cancel p m hm hflight =>
      obtain ⟨l, hold, hc⟩ := h.holds hm
      rcases hold.cancel with ⟨-, hold'⟩ | ⟨hw, hold'⟩
      · exact .inr (.of_level ht hf hold'.level)
      · refine .inr (.of_level ht hf (hold'.level.trans ?_))
        -- a die that waits in the queue would have been taken out of it
        cases l with
        | none => rfl
        | some pr =>
            rw [((hc.level_iff pr).mp rfl).2] at hw
            cases hw

lemma wakes_or_same_backoffOver (s : State) (p : PixelId) (epoch : ℕ) :
    (s.backoffOver p epoch).wakes = true ∨ (s.backoffOver p epoch).state = s := by
  rw [backoffOver]
  cases s.member? p with
  | none => exact .inr rfl
  | some m =>
      dsimp only
      split_ifs
      · exact .inl rfl
      · exact .inr rfl

/-- To put a die back wakes nobody. -/
lemma wakes_interrupted (s : State) (p : PixelId) (pr : Priority) :
    (s.interrupted p pr).wakes = false := by
  rw [State.interrupted]
  cases (s.releaseDfu p).member? p with
  | none => rfl
  | some m =>
      dsimp only
      split_ifs <;> rfl

lemma Holds.wakes_connectFailed (h : s.Holds p m l) (c : Config) (e : LinkError) :
    (s.connectFailed c p e).1.wakes = true := by
  rw [State.connectFailed, h.releaseDfu.member]
  dsimp only
  split_ifs <;> rfl

lemma Holds.wakes_sessionEnded (h : s.Holds p m l) (c : Config) (r : Report) :
    (s.sessionEnded c p r).wakes = true := by
  rw [State.sessionEnded, h.releaseDfu.member]

end State

/-! ### Waking -/

section Acts

variable {w : World} {x : Happening} {c : Change}

/-- **A change wakes the dispatcher, or lets nobody be found who was not before.** There are three
more: the watcher records the adapter, the dispatcher begins a session, and an interrupted
session puts its die back. -/
lemma Act.wakes_or_quiet (ho : Orderly w.state w.sessions w.started) (hact : Act w x c) :
    (c.wakes = true ∨ State.Quiet w.state c.state) ∨ x = .move .watch ∨ x = .move .dispatch
      ∨ ∃ id s, x = .move (.session id) ∧ w.session? id = some s ∧ s.stage = .interrupted := by
  have hmanned {id : ℕ} {s : Session} (hs : w.session? id = some s) (hlive : s.Live) :=
    ho.holds_manned (World.mem_of_session? hs).1 hlive
  cases hact with
  | request hr => exact .inl (ho.coherent.wakes_or_quiet (State.handled hr))
  | seen => exact .inr (.inl rfl)
  | begun => exact .inr (.inr (.inl rfl))
  | interrupted hs hst => exact .inr (.inr (.inr ⟨_, _, rfl, hs, hst⟩))
  | @woken t =>
      rcases w.state.wakes_or_same_backoffOver t.pixel t.epoch with hwakes | hsame
      · exact .inl (.inl hwakes)
      · refine .inl (.inr ?_)
        rw [hsame]
        exact id
  | @failed id s e hs hst =>
      obtain ⟨m, hold, -⟩ := hmanned hs (Act.live (.failed hs hst) hs)
      exact .inl (.inl (hold.wakes_connectFailed w.config e))
  | @ended id s report hs hst =>
      obtain ⟨m, hold, -⟩ := hmanned hs (Act.live (.ended hs hst) hs)
      exact .inl (.inl (hold.wakes_sessionEnded w.config report))
  | @connected id s link hs hst =>
      obtain ⟨m, hold, -⟩ := hmanned hs (Act.live (.connected hs hst) hs)
      exact .inl (.inr (.of_jobs (State.touches_connected _ _) ⟨rfl, rfl⟩ hold hold.connected
        rfl rfl))
  | @transferring id s link task tasks report hs hst =>
      obtain ⟨m, hold, -⟩ := hmanned hs (Act.live (.transferring hs hst) hs)
      exact .inl (.inr (.of_jobs (State.touches_transferring _ _ _) ⟨rfl, rfl⟩ hold
        (hold.transferring _) rfl rfl))

/-- Nobody but the watcher records the adapter. -/
lemma Act.adapter (hact : Act w x c) (hx : x ≠ .move .watch) :
    c.state.adapter = w.state.adapter := by
  cases hact with
  | request hr => exact (State.handled hr).frames.adapter
  | seen => exact (hx rfl).elim
  | woken => exact (State.frames_backoffOver _ _ _).adapter
  | begun _ h => exact (State.takeNext_eq_some h).2.1
  | interrupted =>
      exact (State.frames_interrupted _ _ _).adapter.trans (State.adapter_releaseDfu _ _)
  | failed =>
      exact (State.frames_connectFailed _ _ _ _).adapter.trans (State.adapter_releaseDfu _ _)
  | ended =>
      exact (State.frames_sessionEnded _ _ _ _).adapter.trans (State.adapter_releaseDfu _ _)
  | connected | transferring => rfl

end Acts

end DiceHost.Scheduler
