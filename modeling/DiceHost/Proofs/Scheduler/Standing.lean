/-
Where a die stands, and what each part of the scheduler changes about it.

* `State.Holds`: the member of a die and its level in the queue;
* `State.Touches`: a change of the state at one die only;
* `Member.afterEnqueue`, `Member.afterSchedule`: a member that is made to wait;
* `State.Holds.enqueue`, …, `State.Holds.forget`: the parts from which everything else that
  happens to a die is made;
* `State.takeNext_cases`: the die that the dispatcher starts a session with.
-/
import DiceHost.Proofs.Link.Queue
import DiceHost.Scheduler.State

namespace DiceHost.Scheduler

open Link

variable {s t u : State} {p q : PixelId} {m : Member} {l : Option Priority}

namespace State

/-! ### Changes at one die -/

/-- A die is a member and has some level in the queue. -/
structure Holds (s : State) (p : PixelId) (m : Member) (l : Option Priority) : Prop where
  member : s.member? p = some m
  level : s.queue.priority? p = l

/-- A change of the state at one die: all other dice stay as they are. -/
structure Touches (s t : State) (p : PixelId) : Prop where
  unique : s.queue.Unique → t.queue.Unique
  member : ∀ q, q ≠ p → t.member? q = s.member? q
  level : ∀ q, q ≠ p → t.queue.priority? q = s.queue.priority? q
  seq : s.lastSeq ≤ t.lastSeq

namespace Touches

lemma refl (s : State) (p : PixelId) : Touches s s p :=
  ⟨id, fun _ _ => rfl, fun _ _ => rfl, le_rfl⟩

lemma trans (h : Touches s t p) (h' : Touches t u p) : Touches s u p where
  unique := fun hs => h'.unique (h.unique hs)
  member := fun q hq => (h'.member q hq).trans (h.member q hq)
  level := fun q hq => (h'.level q hq).trans (h.level q hq)
  seq := h.seq.trans h'.seq

/-- The other dice stand as before. -/
lemma holds (h : Touches s t p) (hq : q ≠ p) (hold : s.Holds q m l) : t.Holds q m l :=
  ⟨(h.member q hq).trans hold.member, (h.level q hq).trans hold.level⟩

end Touches

@[simp] lemma member?_modify (s : State) (p q : PixelId) (f : Member → Member) :
    (s.modify p f).member? q = if q = p then (s.member? q).map f else s.member? q :=
  PixelMap.get?_modify _ _ _ _

lemma member?_modify_self (h : s.member? p = some m) (f : Member → Member) :
    (s.modify p f).member? p = some (f m) := by
  rw [member?_modify, if_pos rfl, h, Option.map_some]

lemma touches_modify (s : State) (p : PixelId) (f : Member → Member) :
    Touches s (s.modify p f) p where
  unique := id
  member := fun q hq => by rw [member?_modify, if_neg hq]
  level := fun _ _ => rfl
  seq := le_rfl

lemma Holds.modify (h : s.Holds p m l) (f : Member → Member) :
    (s.modify p f).Holds p (f m) l :=
  ⟨member?_modify_self h.member f, h.level⟩

lemma touches_enqueueQueue (s : State) (p : PixelId) (pr : Priority) :
    Touches s { s with queue := (s.queue.enqueue p pr).1 } p where
  unique := fun hs => Queue.unique_enqueue hs p pr
  member := fun _ _ => rfl
  level := fun _ hq => (Queue.priority?_enqueue _ _ _ _).trans (if_neg hq)
  seq := le_rfl

lemma touches_removeQueue (s : State) (p : PixelId) :
    Touches s { s with queue := s.queue.remove p } p where
  unique := fun hs => Queue.unique_remove hs p
  member := fun _ _ => rfl
  level := fun _ hq => (Queue.priority?_remove _ _ _).trans (if_neg hq)
  seq := le_rfl

end State

/-! ### Waiting -/

/-- A member that is made to wait: in a session the priority is kept for its end, otherwise
it waits at the higher of its levels. -/
def Member.afterEnqueue (m : Member) (l : Option Priority) (pr : Priority) :
    Member × Option Priority :=
  if m.inFlight then ({ m with requeueAfter := strongest m.requeueAfter (some pr) }, l)
  else ({ m with state := .queued (l.elim pr (·.max pr)) }, some (l.elim pr (·.max pr)))

/-- A member that is to have a session: one that waits for its next attempt is queued by an
urgent request only. -/
def Member.afterSchedule (m : Member) (l : Option Priority) (pr : Priority) :
    Member × Option Priority :=
  if m.state.isBackingOff && pr = .low && !m.inFlight then (m, l) else m.afterEnqueue l pr

namespace State

lemma touches_enqueue (s : State) (p : PixelId) (pr : Priority) :
    Touches s (s.enqueue p pr).1 p := by
  rw [enqueue]
  cases s.member? p with
  | none => exact .refl s p
  | some m =>
      dsimp only
      split_ifs
      · exact touches_modify s p _
      · exact touches_enqueueQueue s p pr
      · exact (touches_enqueueQueue s p pr).trans (touches_modify _ p _)

lemma Holds.enqueue (h : s.Holds p m l) (pr : Priority) :
    (s.enqueue p pr).1.Holds p (m.afterEnqueue l pr).1 (m.afterEnqueue l pr).2 := by
  have hlevel : (s.queue.enqueue p pr).1.priority? p = some (l.elim pr (·.max pr)) := by
    rw [Queue.priority?_enqueue, if_pos rfl, h.level]
  rw [State.enqueue, h.member, Member.afterEnqueue]
  dsimp only
  rw [hlevel, Option.getD_some]
  by_cases hf : m.inFlight = true
  · rw [if_pos hf, if_pos hf]
    exact h.modify fun m => { m with requeueAfter := strongest m.requeueAfter (some pr) }
  · rw [if_neg hf, if_neg hf]
    by_cases hst : m.state = .queued (l.elim pr (·.max pr))
    · rw [if_pos hst, ← hst]
      exact ⟨h.member, hlevel⟩
    · rw [if_neg hst]
      exact Holds.modify (s := { s with queue := (s.queue.enqueue p pr).1 }) ⟨h.member, hlevel⟩
        fun m => { m with state := .queued (l.elim pr (·.max pr)) }

lemma touches_schedule (s : State) (p : PixelId) (pr : Priority) :
    Touches s (s.schedule p pr).1 p := by
  rw [schedule]
  cases s.member? p with
  | none => exact .refl s p
  | some m =>
      dsimp only
      split_ifs
      · exact .refl s p
      · exact touches_enqueue s p pr

lemma Holds.schedule (h : s.Holds p m l) (pr : Priority) :
    (s.schedule p pr).1.Holds p (m.afterSchedule l pr).1 (m.afterSchedule l pr).2 := by
  rw [State.schedule, h.member, Member.afterSchedule]
  dsimp only
  split_ifs
  · exact h
  · exact h.enqueue pr

/-! ### Other parts -/

lemma touches_releaseDfu (s : State) (p : PixelId) : Touches s (s.releaseDfu p) p := by
  rw [releaseDfu]
  split_ifs
  · exact ⟨id, (touches_modify s p _).member, fun _ _ => rfl, le_rfl⟩
  · exact .refl s p

lemma Holds.releaseDfu (h : s.Holds p m l) :
    (s.releaseDfu p).Holds p { m with dfuReserved := false } l := by
  rw [State.releaseDfu, h.member, Option.any_some]
  by_cases hr : m.dfuReserved = true
  · rw [if_pos hr]
    exact Holds.modify (s := { s with dfuActive := false }) ⟨h.member, h.level⟩
      fun m => { m with dfuReserved := false }
  · rw [if_neg hr]
    rw [Bool.not_eq_true] at hr
    rw [← hr]
    exact h

lemma touches_forget (s : State) (p : PixelId) : Touches s (s.forget p).1 p where
  unique := id
  member := fun _ hq => (PixelMap.get?_erase _ _ _).trans (if_neg hq)
  level := fun _ _ => rfl
  seq := le_rfl

lemma member?_forget (s : State) (p : PixelId) : (s.forget p).1.member? p = none :=
  (PixelMap.get?_erase _ _ _).trans (if_pos rfl)

/-! ### The dispatcher -/

/-- The right to write firmware that the next session of a member gets. -/
def reserves (s : State) (m : Member) : Bool :=
  m.firmwareJob.isSome && !s.dfuActive

/-- The dispatcher starts a session with a member that waits, and it waits no longer. -/
lemma takeNext_cases {pr : Priority} {c : Change} (hs : s.queue.Unique)
    (h : s.takeNext = some ((p, pr), c)) :
    ∃ m, s.Holds p m (some pr) ∧ Touches s c.state p ∧ c.state.Holds p
      { m with
        dfuReserved := m.dfuReserved || s.reserves m
        inFlight := true
        requeueAfter := none
        state := .connecting } none := by
  rw [takeNext] at h
  by_cases ha : s.adapter.isReady = true
  · rw [if_pos ha] at h
    cases hpop : s.queue.popWhere s.isEligible with
    | none =>
        rw [hpop] at h
        cases h
    | some r =>
        obtain ⟨⟨p', pr'⟩, queue⟩ := r
        rw [hpop] at h
        simp only [Option.some.injEq, Prod.mk.injEq] at h
        obtain ⟨⟨rfl, rfl⟩, rfl⟩ := h
        obtain ⟨helig, hlevel, hunique, hothers⟩ := Queue.priority?_popWhere hs hpop
        cases hm : s.member? p' with
        | none =>
            rw [isEligible, hm] at helig
            cases helig
        | some m =>
            refine ⟨m, ⟨hm, hlevel⟩, ⟨fun _ => hunique, ?_, ?_, le_rfl⟩, ?_, ?_⟩
            · exact fun q hq => (PixelMap.get?_modify _ _ _ _).trans (if_neg hq)
            · exact fun q hq => (hothers q).trans (if_neg hq)
            · refine (PixelMap.get?_modify _ _ _ _).trans ?_
              rw [if_pos rfl]
              change (s.member? p').map _ = _
              rw [hm]
              rfl
            · exact (hothers p').trans (if_pos rfl)
  · rw [if_neg ha] at h
    cases h

/-- The dispatcher leaves a die as it is that is at no level. -/
lemma Holds.spared_takeNext {pr : Priority} {c : Change} (h : s.Holds p m none)
    (hs : s.queue.Unique) (hnext : s.takeNext = some ((q, pr), c)) :
    p ≠ q ∧ c.state.Holds p m none := by
  obtain ⟨m', hold, ht, -⟩ := takeNext_cases hs hnext
  have hne : p ≠ q := by
    rintro rfl
    cases h.level.symm.trans hold.level
  exact ⟨hne, ht.holds hne h⟩

end State

end DiceHost.Scheduler
