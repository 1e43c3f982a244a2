/-
What deeds mean for one die.

* `Deed.accepts`: an errand is accepted at a die;
* `Deed.disturbs`: users change what is to be brought to a die, or its record;
* `Deed.discards`: a session ends after a failure for good, and what waits is dropped;
* `State.Handled.keeps`, `State.Handled.accepted`, `State.Handled.pending`: what requests do to
  the member of a die;
* `Follows`, `Orderly.follows`: **what a turn does to the member of a die** unless users disturb
  it: nothing, or what the end of a session does.
-/
import DiceHost.Proofs.Scheduler.Errands
import DiceHost.Proofs.Scheduler.Runs

namespace DiceHost.Scheduler

open Link

/-! ### Deeds about a die -/

namespace Deed

/-- An errand is accepted at a die. -/
def accepts (e : Errand) (p : PixelId) : Deed → Bool
  | request (.program q d _) _ => q = p && e = .dataSet d
  | request (.updateFirmware q image _ _) reply => q = p && e = .firmware image && reply = .queued
  | _ => false

/-- Users change what is to be brought to a die in a lane, or replace its record, or have it
forgotten. -/
def disturbs (lane : Lane) (p : PixelId) : Deed → Bool
  | request (.register r) _ => r.pixel = p
  | request (.unregister q) _ | request (.cancel q) _ => q = p
  | request (.program q _ _) _ => q = p && lane = .dataSet
  | request (.updateFirmware q _ _ _) reply => q = p && lane = .firmware && reply = .queued
  | _ => false

/-- A session with a die ends after a failure for good in a lane. -/
def discards (lane : Lane) (p : PixelId) : Deed → Bool
  | ended q report => q = p && report.discards lane
  | _ => false

end Deed

/-! ### Requests -/

namespace State

variable {s : State} {p : PixelId} {m m' : Member} {lane : Lane} {r : Request} {reply : Reply}
  {c : Change}

/-- A request leaves the member of a die as it is, unless it disturbs it. -/
lemma Handled.keeps (h : s.Handled r reply c) (hm : s.member? p = some m)
    (hd : (Deed.request r reply).disturbs lane p = false) :
    ∃ m', c.state.member? p = some m' ∧ m.Keeps lane m' := by
  by_cases hp : p = r.pixel
  · have hold : s.Holds p m (s.queue.priority? p) := ⟨hm, rfl⟩
    cases h with
    | register record => exact (of_decide_eq_false hd hp.symm).elim
    | unregister => exact (of_decide_eq_false hd hp.symm).elim
    | cancel => exact (of_decide_eq_false hd hp.symm).elim
    | connect pr hn =>
        obtain rfl := hp
        obtain rfl := Option.some_inj.mp (hm.symm.trans hn)
        cases hf : m.inFlight with
        | true =>
            rw [connect_of_inFlight s _ pr hf]
            exact ⟨m, hm, .refl lane m⟩
        | false => exact ⟨_, (hold.connect pr hf).member, m.keeps_afterSchedule _ pr⟩
    | program d pr hn =>
        obtain rfl := hp
        obtain rfl := Option.some_inj.mp (hm.symm.trans hn)
        cases lane with
        | dataSet => simp [Deed.disturbs] at hd
        | firmware =>
            rcases hold.program d pr with ⟨-, -, hold'⟩ | ⟨hold', -⟩
            · refine ⟨_, hold'.member, rfl, rfl, fun e he hrec => ?_⟩
              cases e with
              | dataSet d => cases he
              | firmware image => exact hrec
            · refine ⟨_, hold'.member, .trans ?_ (Member.keeps_afterSchedule _ _ pr)⟩
              exact ⟨rfl, rfl, fun _ _ hrec => hrec⟩
    | updateFirmware image force pr hn =>
        obtain rfl := hp
        obtain rfl := Option.some_inj.mp (hm.symm.trans hn)
        rcases hold.updateFirmware image force pr with ⟨-, hsame⟩ | ⟨hq, hold', -⟩
        · rw [hsame]
          exact ⟨m, hm, .refl lane m⟩
        · cases lane with
          | firmware => simp [Deed.disturbs, hq] at hd
          | dataSet =>
              refine ⟨_, hold'.member, .trans ?_ (Member.keeps_afterSchedule _ _ pr)⟩
              exact ⟨rfl, rfl, fun _ _ hrec => hrec⟩
    | retry =>
        obtain rfl := hp
        refine ⟨_, hold.retry.member, .trans ?_ (Member.keeps_afterSchedule _ _ .high)⟩
        exact .of_eq rfl rfl rfl rfl
  · exact ⟨m, (h.touches.member p hp).trans hm, .refl lane m⟩

/-- A die that is no member is none after a request that does not disturb it. -/
lemma Handled.absent (h : s.Handled r reply c) (hm : s.member? p = none)
    (hd : (Deed.request r reply).disturbs lane p = false) : c.state.member? p = none := by
  by_cases hp : p = r.pixel
  · subst hp
    rcases h.about with ⟨record, rfl⟩ | ⟨m, hm'⟩
    · exact (of_decide_eq_false hd rfl).elim
    · rw [hm] at hm'
      cases hm'
  · exact (h.touches.member p hp).trans hm

/-- An errand that is accepted waits with a number of its own, or the record of a member without
a session tells that the die holds it. -/
lemma Handled.accepted {e : Errand} (h : s.Handled r reply c)
    (ha : (Deed.request r reply).accepts e p = true) :
    ∃ m m', s.member? p = some m ∧ c.state.member? p = some m' ∧ m'.removed = m.removed
      ∧ ((m'.pending e.lane = some ⟨e, s.lastSeq + 1⟩ ∧ s.lastSeq < c.state.lastSeq)
        ∨ (m.inFlight = false ∧ m'.pending e.lane = none ∧ e.IsRecorded m'.peripheral)) := by
  cases h with
  | register | unregister | connect | cancel | retry => cases ha
  | @program q m d pr hm =>
      simp only [Deed.accepts, Bool.and_eq_true, decide_eq_true_eq] at ha
      obtain ⟨rfl, rfl⟩ := ha
      have hold : s.Holds q m (s.queue.priority? q) := ⟨hm, rfl⟩
      rcases hold.program d pr with ⟨hf, hup, hold'⟩ | ⟨hold', hseq⟩
      · refine ⟨m, _, hm, hold'.member, rfl, .inr ⟨hf, rfl, ?_, rfl⟩⟩
        exact of_decide_eq_true hup
      · have hkeeps : Member.Keeps .dataSet { m with profileJob := some ⟨d, s.lastSeq + 1⟩ } _ :=
          Member.keeps_afterSchedule _ (s.queue.priority? q) pr
        exact ⟨m, _, hm, hold'.member, hkeeps.removed, .inl ⟨hkeeps.pending, hseq⟩⟩
  | @updateFirmware q m image force pr hm =>
      simp only [Deed.accepts, Bool.and_eq_true, decide_eq_true_eq] at ha
      obtain ⟨⟨rfl, rfl⟩, hq⟩ := ha
      have hold : s.Holds q m (s.queue.priority? q) := ⟨hm, rfl⟩
      rcases hold.updateFirmware image force pr with ⟨⟨a, hskip⟩, -⟩ | ⟨-, hold', hseq⟩
      · rw [hq] at hskip
        cases hskip
      · have hkeeps :
            Member.Keeps .firmware { m with firmwareJob := some ⟨image, s.lastSeq + 1⟩ } _ :=
          Member.keeps_afterSchedule _ (s.queue.priority? q) pr
        exact ⟨m, _, hm, hold'.member, hkeeps.removed, .inl ⟨hkeeps.pending, hseq⟩⟩

/-- Registration of a die drops no job and brings none. -/
lemma pending_of_register {record : Peripheral} {j : Job}
    (hm : (s.register record).state.member? record.pixel = some m')
    (hj : m'.pending lane = some j) :
    ∃ m, s.member? record.pixel = some m ∧ m.pending lane = some j := by
  cases hs : s.member? record.pixel with
  | some m =>
      have hold : s.Holds record.pixel m (s.queue.priority? record.pixel) := ⟨hs, rfl⟩
      obtain rfl := Option.some_inj.mp (hold.register.member.symm.trans hm)
      refine ⟨m, rfl, ?_⟩
      cases lane <;> exact hj
  | none =>
      have hnew : (s.register record).state.member? record.pixel
          = some { peripheral := record } := by
        rw [State.register, hs]
        exact (PixelMap.get?_insert _ _ _ _).trans (if_pos rfl)
      obtain rfl := Option.some_inj.mp (hnew.symm.trans hm)
      cases lane <;> cases hj

/-- Nothing waits at a die after users have it forgotten. -/
lemma pending_of_unregister (hs : s.member? p = some m)
    (hm : (s.unregister p m).state.member? p = some m') : m'.pending lane = none := by
  have hold : s.Holds p m (s.queue.priority? p) := ⟨hs, rfl⟩
  cases hf : m.inFlight with
  | false =>
      rw [(lacks_unregister s p hf).member] at hm
      cases hm
  | true =>
      obtain rfl := Option.some_inj.mp ((hold.unregister hf).member.symm.trans hm)
      cases lane <;> rfl

/-- Nothing waits at a die after users cancel. -/
lemma pending_of_cancel (hs : s.member? p = some m)
    (hm : (s.cancel p m).state.member? p = some m') : m'.pending lane = none := by
  have hold : s.Holds p m (s.queue.priority? p) := ⟨hs, rfl⟩
  rcases hold.cancel with ⟨-, hold'⟩ | ⟨-, hold'⟩
  · obtain rfl := Option.some_inj.mp (hold'.member.symm.trans hm)
    cases lane <;> rfl
  · obtain rfl := Option.some_inj.mp (hold'.member.symm.trans hm)
    cases lane <;> rfl

/-- A job that waits after a request has waited before, or it is the one that was accepted. -/
lemma Handled.pending {j : Job} (h : s.Handled r reply c)
    (hm : c.state.member? p = some m') (hj : m'.pending lane = some j) :
    (∃ m, s.member? p = some m ∧ m.pending lane = some j)
      ∨ (j.seq = s.lastSeq + 1 ∧ s.lastSeq < c.state.lastSeq) := by
  have haccepted {e : Errand} (he : e.lane = lane)
      (ha : (Deed.request r reply).accepts e p = true) :
      j.seq = s.lastSeq + 1 ∧ s.lastSeq < c.state.lastSeq := by
    obtain ⟨-, n, -, hn, -, ⟨hpending, hseq⟩ | ⟨-, hpending, -⟩⟩ := h.accepted ha
    · obtain rfl := Option.some_inj.mp (hn.symm.trans hm)
      rw [he, hj, Option.some_inj] at hpending
      exact ⟨congrArg Job.seq hpending, hseq⟩
    · obtain rfl := Option.some_inj.mp (hn.symm.trans hm)
      rw [he, hj] at hpending
      cases hpending
  cases hd : (Deed.request r reply).disturbs lane p with
  | false =>
      cases hs : s.member? p with
      | none =>
          rw [h.absent hs hd] at hm
          cases hm
      | some m =>
          obtain ⟨n, hn, hkeeps⟩ := h.keeps hs hd
          obtain rfl := Option.some_inj.mp (hn.symm.trans hm)
          exact .inl ⟨m, rfl, hkeeps.pending.symm.trans hj⟩
  | true =>
      cases h with
      | connect | retry => cases hd
      | register record =>
          obtain rfl : record.pixel = p := of_decide_eq_true hd
          exact .inl (pending_of_register hm hj)
      | unregister hs =>
          obtain rfl := of_decide_eq_true hd
          rw [pending_of_unregister hs hm] at hj
          cases hj
      | cancel hs =>
          obtain rfl := of_decide_eq_true hd
          rw [pending_of_cancel hs hm] at hj
          cases hj
      | program d =>
          simp only [Deed.disturbs, Bool.and_eq_true, decide_eq_true_eq] at hd
          obtain ⟨rfl, rfl⟩ := hd
          exact .inr (haccepted (e := .dataSet d) rfl (by simp [Deed.accepts]))
      | updateFirmware image =>
          simp only [Deed.disturbs, Bool.and_eq_true, decide_eq_true_eq] at hd
          obtain ⟨⟨rfl, rfl⟩, hq⟩ := hd
          exact .inr (haccepted (e := .firmware image) rfl (by simp [Deed.accepts, hq]))

end State

/-! ### Turns -/

/-- What something that happens does to the member of a die, as far as a lane goes: it stays as
it is, it is forgotten if it was to be, or its session ends. -/
inductive Follows (lane : Lane) (c : Config) (p : PixelId) (deed : Deed) :
    Option Member → Option Member → Prop
  | absent : Follows lane c p deed none none
  | kept {m m' : Member} (h : m.Keeps lane m') : Follows lane c p deed (some m) (some m')
  | forgotten {m : Member} (h : m.removed = true) : Follows lane c p deed (some m) none
  | settled {m m' : Member} {r : Report} (hd : deed = .ended p r) (hr : m.removed = false)
      (h : (m.settled c p r).Keeps lane m') : Follows lane c p deed (some m) (some m')

namespace Follows

variable {lane : Lane} {c : Config} {p q : PixelId} {deed : Deed} {s t : State} {m m' : Member}
  {l l' : Option Priority}

lemma refl (o : Option Member) : Follows lane c p deed o o := by
  cases o with
  | none => exact .absent
  | some m => exact .kept (.refl lane m)

/-- A change at another die. -/
lemma of_touches (ht : State.Touches s t q) (hp : p ≠ q) :
    Follows lane c p deed (s.member? p) (t.member? p) := by
  rw [ht.member p hp]
  exact refl _

/-- A change that keeps the member of its die. -/
lemma of_holds (ht : State.Touches s t q) (hm : s.member? q = some m) (h : t.Holds q m' l')
    (hkeeps : m.Keeps lane m') : Follows lane c p deed (s.member? p) (t.member? p) := by
  by_cases hp : p = q
  · subst hp
    rw [hm, h.member]
    exact .kept hkeeps
  · exact of_touches ht hp

/-- A change that forgets its die. -/
lemma of_lacks (ht : State.Touches s t q) (hm : s.member? q = some m) (hr : m.removed = true)
    (h : t.Lacks q) : Follows lane c p deed (s.member? p) (t.member? p) := by
  by_cases hp : p = q
  · subst hp
    rw [hm, h.member]
    exact .forgotten hr
  · exact of_touches ht hp

end Follows

namespace Orderly

variable {w : World} {s : Session} {stage : Stage} {t : State} {lane : Lane} {p : PixelId}
  {deed : Deed}

/-- The die of a session that has not ended is at no level, and its member in a session. -/
lemma holds_manned (h : Orderly w.state w.sessions w.started) (hs : s ∈ w.sessions)
    (hlive : s.Live) : ∃ m, w.state.Holds s.pixel m none ∧ m.inFlight = true := by
  obtain ⟨m, hm, hf⟩ := h.manned s hs hlive
  exact ⟨m, (h.coherent.holds_inFlight hm hf).1, hf⟩

/-- A step of a session, but its last one, leaves the members as they are or forgets the one that
was to be forgotten. -/
lemma follows_advance (h : Orderly w.state w.sessions w.started) (hs : s ∈ w.sessions)
    (hstep : Advance w s stage t) :
    Follows lane w.config p deed (w.state.member? p) (t.member? p) := by
  obtain ⟨m, hold, -⟩ := h.holds_manned hs hstep.live
  cases hstep with
  | connect | interrupt | refuse | link | work | answer | finish | close | report => exact .refl _
  | connected =>
      exact .of_holds (State.touches_connected _ _) hold.member hold.connected
        (.of_eq rfl rfl rfl rfl)
  | send =>
      exact .of_holds (State.touches_transferring _ _ _) hold.member (hold.transferring _)
        (.of_eq rfl rfl rfl rfl)
  | interrupted =>
      have ht := State.touches_interrupted w.state s.pixel s.priority
      cases hr : m.removed with
      | true => exact .of_lacks ht hold.member hr (hold.lacks_interrupted _ hr)
      | false => exact .of_holds ht hold.member (hold.interrupted _ hr) (.of_eq rfl rfl rfl rfl)
  | @failed e =>
      have ht := State.touches_connectFailed w.state w.config s.pixel e
      cases hr : m.removed with
      | true => exact .of_lacks ht hold.member hr (hold.lacks_connectFailed _ _ hr)
      | false =>
          exact .of_holds ht hold.member (hold.connectFailed _ _ hr) (.of_eq rfl rfl rfl rfl)

/-- The last step of a session does to the member of its die what is told of its end. -/
lemma follows_ended (h : Orderly w.state w.sessions w.started) {r : Report}
    (hs : s ∈ w.sessions) (hlive : s.Live) :
    Follows lane w.config p (.ended s.pixel r) (w.state.member? p)
      ((w.state.sessionEnded w.config s.pixel r).state.member? p) := by
  obtain ⟨m, hold, -⟩ := h.holds_manned hs hlive
  have ht := State.touches_sessionEnded w.state w.config s.pixel r
  by_cases hp : p = s.pixel
  · subst hp
    cases hr : m.removed with
    | true => exact .of_lacks ht hold.member hr (hold.lacks_sessionEnded _ _ hr)
    | false =>
        rw [hold.member, (hold.sessionEnded w.config r hr).member]
        exact .settled rfl hr (m.keeps_afterSession _ _ _ _)
  · exact .of_touches ht hp

/-- **What a turn does to the member of a die** that users do not disturb. -/
lemma follows (h : Orderly w.state w.sessions w.started) {ss : List Session} {n : ℕ}
    (hturn : Turn w deed t ss n) (hd : deed.disturbs lane p = false) :
    Follows lane w.config p deed (w.state.member? p) (t.member? p) := by
  cases hturn with
  | rest | seen | left => exact .refl _
  | request hr =>
      cases hm : w.state.member? p with
      | none =>
          rw [hr.absent hm hd]
          exact .absent
      | some m =>
          obtain ⟨m', hm', hkeeps⟩ := hr.keeps hm hd
          rw [hm']
          exact .kept hkeeps
  | woken q epoch =>
      have ht := State.touches_backoffOver w.state q epoch
      cases hm : w.state.member? q with
      | none =>
          rw [State.backoffOver, hm]
          exact .refl _
      | some m =>
          have hold : w.state.Holds q m (w.state.queue.priority? q) := ⟨hm, rfl⟩
          rcases hold.backoffOver epoch with ⟨-, -, -, hold'⟩ | hsame
          · exact .of_holds ht hm hold' (m.keeps_afterEnqueue _ .low)
          · rw [hsame]
            exact .refl _
  | begun hnext =>
      obtain ⟨m, hold, ht, hold'⟩ := State.takeNext_cases h.coherent.unique hnext
      exact .of_holds ht hold.member hold' (.of_eq rfl rfl rfl rfl)
  | advance hs hstep => exact h.follows_advance hs hstep
  | ended hs hst => exact h.follows_ended hs (Session.live_of_reporting hst)

end Orderly

end DiceHost.Scheduler
