/-
Dice after a cancellation.

* `Member.Dormant`: a member that is in no session, has nothing to be written and waits for nothing;
* `Deed.rouses`: a request is accepted that may end this: any about the die but a cancellation;
* `State.Coherent.dormant_cancel`: a cancellation that is accepted leaves a dormant member;
* `Orderly.dormant_turn`: **nothing rouses a dormant member but a request about its die**;
* `dormant_after`: a cancelled die stays quiet in every run, whatever timers are pending.

A timer that was set before the cancellation goes off all the same. It finds a member that is not
backing off, so that the number of the wait does not matter.
-/
import DiceHost.Proofs.Scheduler.Attendance
import DiceHost.Proofs.Scheduler.Backoff
import DiceHost.Proofs.Scheduler.Failures

namespace DiceHost.Scheduler

open Link

/-! ### Dormant members -/

/-- A member is in no session, has nothing to be written, and is idle or given up. -/
structure Member.Dormant (m : Member) : Prop where
  inFlight : m.inFlight = false
  profileJob : m.profileJob = none
  firmwareJob : m.firmwareJob = none
  state : m.state = .idle ∨ m.state.isGivenUp = true

/-- A request is accepted that may rouse a die. -/
def Deed.rouses (p : PixelId) : Deed → Bool
  | .request (.cancel _) _ => false
  | .request r _ => r.pixel = p
  | _ => false

variable {m : Member} {p : PixelId}

namespace Member.Dormant

lemma isWaiting (h : m.Dormant) : m.state.isWaiting = false := by
  rcases h.state with hst | hg
  · rw [hst]
    rfl
  · cases hw : m.state.isWaiting with
    | false => rfl
    | true =>
        rw [DieState.isGivenUp_of_isWaiting hw] at hg
        cases hg

/-- A dormant member waits for no timer. -/
lemma isBackingOff (h : m.Dormant) : m.state.isBackingOff = false := by
  cases hb : m.state.isBackingOff with
  | false => rfl
  | true =>
      have hw := h.isWaiting
      rw [DieState.isWaiting_of_isBackingOff hb] at hw
      cases hw

end Member.Dormant

/-- A member in no session that does not wait is idle or given up. -/
lemma Member.Consistent.idle_or_givenUp {l : Option Priority} (h : m.Consistent l)
    (hf : m.inFlight = false) (hw : m.state.isWaiting = false) :
    l = none ∧ (m.state = .idle ∨ m.state.isGivenUp = true) := by
  have hactive : m.state.isActive ≠ true := by
    intro ha
    rw [h.active_iff.mpr ha] at hf
    cases hf
  have hlevel : l = none := by
    cases l with
    | none => rfl
    | some pr =>
        rw [((h.level_iff pr).mp rfl).2] at hw
        cases hw
  refine ⟨hlevel, ?_⟩
  cases hst : m.state with
  | idle => exact .inl rfl
  | failed n gaveUp =>
      rw [hst] at hw
      cases gaveUp with
      | true => exact .inr rfl
      | false => cases hw
  | queued pr =>
      rw [hst] at hw
      cases hw
  | connecting | connected | transferring =>
      rw [hst] at hactive
      exact (hactive rfl).elim

namespace State

variable {s : State} {r : Request} {reply : Reply} {c : Change}

/-- A cancellation that is accepted leaves a dormant member, which is at no level. -/
lemma Coherent.dormant_cancel (h : s.Coherent) (hc : s.handle (.cancel p) = .ok (reply, c)) :
    ∃ m, c.state.Holds p m none ∧ m.Dormant := by
  obtain ⟨m, hm, hf, hc⟩ := withResting_eq_ok hc
  obtain rfl : c = s.cancel p m := (Prod.mk.inj hc).2
  obtain ⟨l, hold, hmember⟩ := h.holds hm
  rcases hold.cancel with ⟨-, hold'⟩ | ⟨hw, hold'⟩
  · exact ⟨_, hold', hf, rfl, rfl, .inl rfl⟩
  · obtain ⟨rfl, hst⟩ := hmember.idle_or_givenUp hf hw
    exact ⟨_, hold', hf, rfl, rfl, hst⟩

/-- A request that does not rouse a dormant member leaves it as it is. -/
lemma Handled.dormant (h : s.Handled r reply c) (hold : s.Holds p m none) (hm : m.Dormant)
    (hd : (Deed.request r reply).rouses p = false) : c.state.Holds p m none := by
  by_cases hp : p = r.pixel
  swap
  · exact h.touches.holds hp hold
  cases h with
  | @cancel q n hn hf =>
      obtain rfl : p = q := hp
      obtain rfl := Option.some_inj.mp (hold.member.symm.trans hn)
      rcases hold.cancel with ⟨hw, -⟩ | ⟨-, hold'⟩
      · rw [hm.isWaiting] at hw
        cases hw
      · -- the jobs that are dropped are none
        have hsame : ({ m with profileJob := none, firmwareJob := none } : Member) = m := by
          rw [← hm.profileJob, ← hm.firmwareJob]
        exact hsame ▸ hold'
  | register | unregister | connect | program | updateFirmware | retry =>
      exact (of_decide_eq_false hd hp.symm).elim

end State

/-! ### Turns -/

namespace Orderly

variable {w : World} {deed : Deed} {t : State} {ss : List Session} {n : ℕ} {x : Session}

/-- A dormant member has no session that has not ended. -/
lemma not_live_of_dormant (h : Orderly w.state w.sessions w.started)
    (hold : w.state.Holds p m none) (hm : m.Dormant) (hx : x ∈ w.sessions)
    (hp : x.pixel = p) : ¬ x.Live := by
  intro hlive
  obtain ⟨m', hm', hf⟩ := h.manned x hx hlive
  rw [hp, hold.member, Option.some_inj] at hm'
  rw [← hm', hm.inFlight] at hf
  cases hf

/-- **Nothing rouses a dormant member but a request about its die.** It stays as it is and at no
level, and its die has only those sessions that it had. -/
lemma dormant_turn (h : Orderly w.state w.sessions w.started) (hturn : Turn w deed t ss n)
    (hd : deed.rouses p = false) (hold : w.state.Holds p m none) (hm : m.Dormant) :
    t.Holds p m none ∧ ∀ x ∈ ss, x.pixel = p → x ∈ w.sessions := by
  have hapart {y : Session} (hy : y ∈ w.sessions) (hlive : y.Live) : p ≠ y.pixel :=
    fun hp => h.not_live_of_dormant hold hm hy hp.symm hlive
  -- a session that takes a step is one of another die
  have hstage {y : Session} {stage : Stage} (hy : y ∈ w.sessions) (hlive : y.Live) :
      ∀ x ∈ (w.setStage y.id stage).sessions, x.pixel = p → x ∈ w.sessions := by
    intro x hx hp
    rcases mem_setStage h.ids hy hx with rfl | ⟨hx, -⟩
    · exact (hapart hy hlive hp.symm).elim
    · exact hx
  cases hturn with
  | rest => exact ⟨hold, fun x hx _ => hx⟩
  | request hr => exact ⟨hr.dormant hold hm hd, fun x hx _ => hx⟩
  | seen => exact ⟨⟨hold.member, hold.level⟩, fun x hx _ => hx⟩
  | left => exact ⟨hold, fun x hx _ => List.mem_of_mem_filter hx⟩
  | woken q epoch =>
      exact ⟨hold.spared_backoffOver (.inr hm.isBackingOff) q epoch, fun x hx _ => hx⟩
  | @begun q pr c hnext =>
      obtain ⟨hne, hold'⟩ := hold.spared_takeNext h.coherent.unique hnext
      refine ⟨hold', fun x hx hp => ?_⟩
      rcases List.mem_append.mp hx with hx | hx
      · exact hx
      · obtain rfl := List.mem_singleton.mp hx
        exact (hne hp.symm).elim
  | @advance y stage t hy hstep =>
      have hlive := hstep.live
      exact ⟨hstep.touches.holds (hapart hy hlive) hold, hstage hy hlive⟩
  | @ended y report hy hst =>
      have hlive := Session.live_of_reporting hst
      exact ⟨(State.touches_sessionEnded _ _ _ _).holds (hapart hy hlive) hold, hstage hy hlive⟩

/-- A dormant member stays so in a run without a request that rouses it. -/
lemma dormant_run (h : Orderly w.state w.sessions w.started) (hold : w.state.Holds p m none)
    (hm : m.Dormant) (later : List Happening)
    (hd : ∀ d ∈ w.deeds later, d.rouses p = false) :
    (w.after later).state.Holds p m none
      ∧ ∀ x ∈ (w.after later).sessions, x.pixel = p → x ∈ w.sessions := by
  refine h.run (P := fun t ss => t.Holds p m none ∧ ∀ x ∈ ss, x.pixel = p → x ∈ w.sessions)
    (fun ho hturn hd hP => ?_) later hd ⟨hold, fun x hx _ => hx⟩
  obtain ⟨hold', hsessions⟩ := ho.dormant_turn hturn hd hP.1 hm
  exact ⟨hold', fun x hx hp => hP.2 x (hsessions x hx hp) hp⟩

end Orderly

/-! ### Cancellation -/

/-- **A cancelled die stays quiet.** Once users have cancelled, the die has nothing to be written,
is not queued, and is idle or given up. Whatever happens then, be it that timers go off which were
set long before, it stays as it is: its member does not change, it is not queued, and it has no
session but those that had ended, until a request about it is accepted that is no cancellation. A
cancellation that is refused changes nothing. -/
theorem dormant_after (config : Config) (delay : ℕ) (radio : Radio) (pairings : List Peripheral)
    (hs : List Happening) (p : PixelId) :
    let w := (World.start config delay radio pairings).after hs
    let w₁ := w.happen (.move (.request (.cancel p)))
    (∀ reply c, w.state.handle (.cancel p) = .ok (reply, c) →
        ∃ m, m.Dormant ∧ w₁.state.Holds p m none
          ∧ ∀ later, (∀ d ∈ w₁.deeds later, d.rouses p = false) →
            let w₂ := w₁.after later
            w₂.state.Holds p m none
              ∧ ∀ x ∈ w₂.sessions, x.pixel = p → x ∈ w₁.sessions ∧ x.stage = .over)
      ∧ ∀ e, w.state.handle (.cancel p) = .error e →
          w.request (.cancel p) = (.error e, w, []) := by
  intro w w₁
  have hstart : Orderly (World.start config delay radio pairings).state [] 0 :=
    Orderly.start config delay radio pairings
  have ho : Orderly w.state w.sessions w.started := hstart.after hs
  have ho₁ : Orderly w₁.state w₁.sessions w₁.started := ho.happen _
  refine ⟨fun reply c hc => ?_, fun e he => ?_⟩
  · have hstate : w₁.state = c.state := (Act.request hc).carries.state
    obtain ⟨m, hold, hm⟩ := ho.coherent.dormant_cancel hc
    rw [← hstate] at hold
    refine ⟨m, hm, hold, fun later hd => ?_⟩
    intro w₂
    obtain ⟨hold₂, hsessions⟩ := ho₁.dormant_run hold hm later hd
    refine ⟨hold₂, fun x hx hp => ?_⟩
    have hx₁ := hsessions x hx hp
    exact ⟨hx₁, not_not.mp (ho₁.not_live_of_dormant hold hm hx₁ hp)⟩
  · rw [World.request, he]

namespace Sample

/-- The timer of a wait goes off after its die was cancelled, and the dispatcher looks for a die. -/
def lateTimer : List Happening :=
  [.move (.advance 1000), .move (.timer ⟨1000, ring, 1⟩), .move .dispatch, .move .dispatch]

end Sample

open Sample

/-- A die that waits after a refused attempt is cancelled. Its timer goes off and finds it
dormant. -/
theorem dormant_behind_timer :
    let w := (world.after (refusal 0)).happen (.move (.request (.cancel ring)))
    w.timers = [⟨1000, ring, 1⟩] ∧ (w.after lateTimer).timers = []
      ∧ ∃ m, m.Dormant ∧ w.state.Holds ring m none
        ∧ (w.after lateTimer).state.Holds ring m none := by
  intro w
  have hworld : World.start {} 0 world.radio [.new "ring" ring .d20 default] = world := rfl
  have hall := dormant_after {} 0 world.radio [.new "ring" ring .d20 default] (refusal 0) ring
  rw [hworld] at hall
  have haccepted : ((world.after (refusal 0)).state.handle (.cancel ring)).isOk = true := by
    decide +kernel
  have hquiet : ∀ d ∈ w.deeds lateTimer, d.rouses ring = false := by decide +kernel
  cases hc : (world.after (refusal 0)).state.handle (.cancel ring) with
  | error e =>
      rw [hc] at haccepted
      cases haccepted
  | ok answer =>
      obtain ⟨m, hm, hold, hlater⟩ := hall.1 answer.1 answer.2 hc
      obtain ⟨hstays, -⟩ := hlater lateTimer hquiet
      exact ⟨by decide +kernel, by decide +kernel, m, hm, hold, hstays⟩

end DiceHost.Scheduler
