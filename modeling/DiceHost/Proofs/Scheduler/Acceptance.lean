/-
What becomes of errands that are accepted.

* `Numbered`: jobs that wait or that sessions have in hand have numbers that were given before;
* `Secure`: an errand waits at a die, or the record of the die tells that it was brought, and no
  session will change that;
* `Secure.turn`, `Orderly.secure_of_accepts`: an errand is secure once it is accepted, and it
  stays so until users disturb it or a session of its die ends after a failure for good;
* `Errand.Stands`: users find that an errand waits or that it was brought;
* `stands_after_iff`: **when an errand stands that was accepted**;
* `lost_behind_failure`: errands that were accepted and do not stand.
-/
import DiceHost.Proofs.Scheduler.Deeds

namespace DiceHost.Scheduler

open Link

/-! ### Turns -/

namespace Orderly

variable {w : World} {deed : Deed} {t : State} {ss : List Session} {n : ℕ} {p : PixelId}
  {x : Session} {j : Job} {lane : Lane} {r : Report}

/-- A turn gives the sessions of a die at most the jobs that wait there. -/
lemma mem_inHand (h : Orderly w.state w.sessions w.started) (hturn : Turn w deed t ss n)
    (hj : j ∈ inHand ss p) :
    j ∈ inHand w.sessions p
      ∨ ∃ m, w.state.member? p = some m ∧ m.pending j.errand.lane = some j := by
  have hsame {x : Session} (hx : x ∈ w.sessions) (hp : x.pixel = p) (hj : j ∈ x.stage.carries) :
      j ∈ inHand w.sessions p := Scheduler.mem_inHand.mpr ⟨x, hx, hp, hj⟩
  obtain ⟨x, hx, hp, hin⟩ := Scheduler.mem_inHand.mp hj
  cases hturn with
  | rest | request | seen | woken => exact .inl (hsame hx hp hin)
  | left => exact .inl (hsame (List.mem_of_mem_filter hx) hp hin)
  | begun hnext =>
      rcases List.mem_append.mp hx with hx | hx
      · exact .inl (hsame hx hp hin)
      · obtain rfl := List.mem_singleton.mp hx
        cases hin
  | advance hs hstep =>
      rcases mem_setStage h.ids hs hx with rfl | ⟨hx, -⟩
      · rcases hstep.mem_carries hin with hin | hwaits
        · exact .inl (hsame hs hp hin)
        · exact .inr (hp ▸ hwaits)
      · exact .inl (hsame hx hp hin)
  | ended hs hst =>
      rcases mem_setStage h.ids hs hx with rfl | ⟨hx, -⟩
      · cases hin
      · exact .inl (hsame hx hp hin)

/-- A session with jobs in hand has not ended. -/
lemma live_of_mem_carries (hj : j ∈ x.stage.carries) : x.Live := by
  intro hover
  rw [hover] at hj
  cases hj

/-- After the end of a session none of its die has a job in hand. -/
lemma inHand_of_ended (h : Orderly w.state w.sessions w.started)
    (hturn : Turn w (.ended p r) t ss n) : inHand ss p = [] := by
  rw [List.eq_nil_iff_forall_not_mem]
  intro j hj
  obtain ⟨x, hx, hp, hin⟩ := Scheduler.mem_inHand.mp hj
  cases hturn with
  | ended hs hst =>
      rcases mem_setStage h.ids hs hx with rfl | ⟨hx, hid⟩
      · cases hin
      · exact hid (h.apart x hx _ hs (live_of_mem_carries hin) (Session.live_of_reporting hst) hp)

/-- What a session has done at its end it has had in hand. -/
lemma inHand_of_done (hturn : Turn w (.ended p r) t ss n) (hj : r.done lane = some j) :
    j ∈ inHand w.sessions p := by
  cases hturn with
  | ended hs hst =>
      refine Scheduler.mem_inHand.mpr ⟨_, hs, rfl, ?_⟩
      rw [hst]
      exact Report.mem_jobs.mpr ⟨lane, hj⟩

/-- A die without a session has no jobs in hand. -/
lemma inHand_of_resting {m : Member} (h : Orderly w.state w.sessions w.started)
    (hm : w.state.member? p = some m) (hf : m.inFlight = false) : inHand w.sessions p = [] := by
  rw [List.eq_nil_iff_forall_not_mem]
  intro j hj
  obtain ⟨x, hx, rfl, hin⟩ := Scheduler.mem_inHand.mp hj
  obtain ⟨m', hm', hf'⟩ := h.manned x hx (live_of_mem_carries hin)
  rw [hm, Option.some_inj] at hm'
  rw [← hm', hf] at hf'
  cases hf'

/-- Numbers are given in order. -/
lemma lastSeq_le (h : Orderly w.state w.sessions w.started) (hturn : Turn w deed t ss n) :
    w.state.lastSeq ≤ t.lastSeq := by
  cases hturn with
  | rest | seen | left => exact le_rfl
  | request hr => exact hr.touches.seq
  | woken p epoch => exact (State.touches_backoffOver _ p epoch).seq
  | ended => exact (State.touches_sessionEnded _ _ _ _).seq
  | begun hnext =>
      obtain ⟨-, -, ht, -⟩ := State.takeNext_cases h.coherent.unique hnext
      exact ht.seq
  | advance hs hstep =>
      cases hstep with
      | connect | interrupt | refuse | link | work | answer | finish | close | report =>
          exact le_rfl
      | connected => exact (State.touches_connected _ _).seq
      | send => exact (State.touches_transferring _ _ _).seq
      | interrupted => exact (State.touches_interrupted _ _ _).seq
      | failed => exact (State.touches_connectFailed _ _ _ _).seq

/-- A job that waits after a turn has waited before, unless users disturb its die. -/
lemma pending_of_undisturbed {m' : Member} (h : Orderly w.state w.sessions w.started)
    (hturn : Turn w deed t ss n) (hd : deed.disturbs lane p = false)
    (hm : t.member? p = some m') (hj : m'.pending lane = some j) :
    ∃ m, w.state.member? p = some m ∧ m.pending lane = some j := by
  have hfollows := h.follows hturn hd
  rw [hm] at hfollows
  generalize w.state.member? p = o at hfollows
  cases hfollows with
  | kept hkeeps => exact ⟨_, rfl, hkeeps.pending.symm.trans hj⟩
  | settled _ _ hkeeps =>
      exact ⟨_, rfl, Member.pending_of_settled _ _ _ _ _ (hkeeps.pending.symm.trans hj)⟩

/-- A job that waits after a turn has waited before, or it is the one that was accepted. -/
lemma pending_of_turn {m' : Member} (h : Orderly w.state w.sessions w.started)
    (hturn : Turn w deed t ss n) (hm : t.member? p = some m') (hj : m'.pending lane = some j) :
    (∃ m, w.state.member? p = some m ∧ m.pending lane = some j)
      ∨ (j.seq = w.state.lastSeq + 1 ∧ w.state.lastSeq < t.lastSeq) := by
  have hquiet (hd : deed.disturbs lane p = false) := h.pending_of_undisturbed hturn hd hm hj
  cases hturn with
  | request hr => exact hr.pending hm hj
  | rest | seen | woken | begun | advance | ended | left => exact .inl (hquiet rfl)

end Orderly

/-! ### Numbers -/

/-- The jobs that wait and those that sessions have in hand have numbers that were given
before. -/
structure Numbered (t : State) (ss : List Session) : Prop where
  pending : ∀ p m, t.member? p = some m → ∀ lane j, m.pending lane = some j → j.seq ≤ t.lastSeq
  inHand : ∀ p, ∀ j ∈ inHand ss p, j.seq ≤ t.lastSeq

/-- A turn keeps jobs numbered. -/
lemma Numbered.turn {w : World} {deed : Deed} {t : State} {ss : List Session} {n : ℕ}
    (ho : Orderly w.state w.sessions w.started) (hturn : Turn w deed t ss n)
    (h : Numbered w.state w.sessions) : Numbered t ss where
  pending := by
    intro p m hm lane j hj
    rcases ho.pending_of_turn hturn hm hj with ⟨m', hm', hj'⟩ | ⟨hseq, hlt⟩
    · exact (h.pending p m' hm' lane j hj').trans (ho.lastSeq_le hturn)
    · rw [hseq]
      exact hlt
  inHand := by
    intro p j hj
    refine le_trans ?_ (ho.lastSeq_le hturn)
    rcases ho.mem_inHand hturn hj with hj | ⟨m, hm, hj⟩
    · exact h.inHand p j hj
    · exact h.pending p m hm _ j hj

/-- Nothing waits at first. -/
lemma numbered_start (a : AdapterState) (pairings : List Peripheral) :
    Numbered (State.start a pairings) [] where
  pending := by
    intro p m hm lane j hj
    obtain ⟨r, -, rfl⟩ := List.mem_map.mp (PixelMap.mem_of_get?_ofList hm)
    cases lane <;> cases hj
  inHand := by simp [Scheduler.inHand]

/-! ### Errands in a run -/

/-- An errand is secure at a die. It waits with a number, and what the sessions of the die have in
hand with this number is the same errand; or the record of the die tells that it was brought,
nothing else waits, and no session of the die has a job of its lane. -/
inductive Secure (e : Errand) (p : PixelId) (t : State) (ss : List Session) : Prop
  | waits {m : Member} {n : ℕ} (hm : t.member? p = some m) (hr : m.removed = false)
      (hwaits : m.pending e.lane = some ⟨e, n⟩)
      (hhand : ∀ j ∈ inHand ss p, j.errand.lane = e.lane → j.seq = n → j.errand = e)
  | brought {m : Member} (hm : t.member? p = some m) (hr : m.removed = false)
      (hnone : m.pending e.lane = none) (hrec : e.IsRecorded m.peripheral)
      (hhand : ∀ j ∈ inHand ss p, j.errand.lane ≠ e.lane)

section Turns

variable {w : World} {deed : Deed} {t : State} {ss : List Session} {n : ℕ} {p : PixelId}
  {e : Errand} {lane : Lane} {m : Member}

/-- An errand that waits stays secure, unless users disturb it or it is dropped. -/
lemma Orderly.secure_of_waits {k : ℕ} (h : Orderly w.state w.sessions w.started)
    (hturn : Turn w deed t ss n) (hd : deed.disturbs e.lane p = false)
    (hk : deed.discards e.lane p = false) (hm : w.state.member? p = some m)
    (hr : m.removed = false) (hwaits : m.pending e.lane = some ⟨e, k⟩)
    (hhand : ∀ j ∈ inHand w.sessions p, j.errand.lane = e.lane → j.seq = k → j.errand = e) :
    Secure e p t ss := by
  have hhand' : ∀ j ∈ inHand ss p, j.errand.lane = e.lane → j.seq = k → j.errand = e := by
    intro j hj hlane hseq
    rcases h.mem_inHand hturn hj with hj' | ⟨m', hm', hj'⟩
    · exact hhand j hj' hlane hseq
    · rw [hm, Option.some_inj] at hm'
      rw [← hm', hlane, hwaits, Option.some_inj] at hj'
      rw [← hj']
  have hfollows := h.follows hturn hd
  rw [hm] at hfollows
  generalize ht : t.member? p = o at hfollows
  cases hfollows with
  | kept hkeeps =>
      exact .waits ht (hkeeps.removed.trans hr) (hkeeps.pending.trans hwaits) hhand'
  | forgotten hr' =>
      rw [hr] at hr'
      cases hr'
  | @settled _ m' r hdeed _ hkeeps =>
      subst hdeed
      have hno : r.discards e.lane = false := by simpa [Deed.discards] using hk
      have hpending := hkeeps.pending.trans (m.pending_settled w.config p r e.lane)
      have hr' := hkeeps.removed.trans ((m.settled_removed w.config p r).trans hr)
      rw [hno, if_neg Bool.false_ne_true, hwaits] at hpending
      cases hdone : r.done e.lane with
      | none =>
          rw [hdone] at hpending
          exact .waits ht hr' hpending hhand'
      | some j =>
          rw [hdone, Option.elim_some] at hpending
          by_cases hseq : j.seq = k
          · -- the session has brought the errand itself
            have hj := hhand j (Orderly.inHand_of_done hturn hdone) (Report.lane_of_done hdone) hseq
            have hrec := hkeeps.recorded e rfl (hj ▸ m.recorded_settled w.config p e.lane hdone)
            rw [Option.filter_some_neg (by simp [hseq])] at hpending
            refine .brought ht hr' hpending hrec ?_
            rw [h.inHand_of_ended hturn]
            exact nofun
          · rw [Option.filter_some_pos (by simpa using Ne.symm hseq)] at hpending
            exact .waits ht hr' hpending hhand'

/-- An errand that was brought stays secure, unless users disturb it. -/
lemma Orderly.secure_of_brought (h : Orderly w.state w.sessions w.started)
    (hturn : Turn w deed t ss n) (hd : deed.disturbs e.lane p = false)
    (hm : w.state.member? p = some m) (hr : m.removed = false)
    (hnone : m.pending e.lane = none) (hrec : e.IsRecorded m.peripheral)
    (hhand : ∀ j ∈ inHand w.sessions p, j.errand.lane ≠ e.lane) : Secure e p t ss := by
  have hhand' : ∀ j ∈ inHand ss p, j.errand.lane ≠ e.lane := by
    intro j hj hlane
    rcases h.mem_inHand hturn hj with hj' | ⟨m', hm', hj'⟩
    · exact hhand j hj' hlane
    · rw [hm, Option.some_inj] at hm'
      rw [← hm', hlane, hnone] at hj'
      cases hj'
  have hfollows := h.follows hturn hd
  rw [hm] at hfollows
  generalize ht : t.member? p = o at hfollows
  cases hfollows with
  | kept hkeeps =>
      exact .brought ht (hkeeps.removed.trans hr) (hkeeps.pending.trans hnone)
        (hkeeps.recorded e rfl hrec) hhand'
  | forgotten hr' =>
      rw [hr] at hr'
      cases hr'
  | @settled _ m' r hdeed _ hkeeps =>
      subst hdeed
      have hdone : r.done e.lane = none := by
        cases hdone : r.done e.lane with
        | none => rfl
        | some j =>
            exact (hhand j (Orderly.inHand_of_done hturn hdone) (Report.lane_of_done hdone)).elim
      have hnone' : (m.settled w.config p r).pending e.lane = none := by
        rw [Member.pending_settled, hdone, hnone]
        split_ifs <;> rfl
      exact .brought ht (hkeeps.removed.trans ((m.settled_removed w.config p r).trans hr))
        (hkeeps.pending.trans hnone')
        (hkeeps.recorded e rfl (Member.recorded_settled_of_none w.config p hdone hrec)) hhand'

/-- **A secure errand stays so**, unless users disturb it or a session ends after a failure for
good. -/
lemma Secure.turn (ho : Orderly w.state w.sessions w.started) (hturn : Turn w deed t ss n)
    (hd : deed.disturbs e.lane p = false) (hk : deed.discards e.lane p = false)
    (h : Secure e p w.state w.sessions) : Secure e p t ss := by
  cases h with
  | waits hm hr hwaits hhand => exact ho.secure_of_waits hturn hd hk hm hr hwaits hhand
  | brought hm hr hnone hrec hhand => exact ho.secure_of_brought hturn hd hm hr hnone hrec hhand

/-- An errand is secure when it is accepted at a member that is not to be forgotten. -/
lemma Orderly.secure_of_accepts (h : Orderly w.state w.sessions w.started)
    (hn : Numbered w.state w.sessions) (hturn : Turn w deed t ss n)
    (ha : deed.accepts e p = true) :
    ∃ m m', w.state.member? p = some m ∧ t.member? p = some m' ∧ m'.removed = m.removed
      ∧ (m.removed = false → Secure e p t ss) := by
  cases hturn with
  | rest | seen | woken | begun | advance | ended | left => cases ha
  | request hr =>
      obtain ⟨m, m', hm, hm', hr', hwaits | ⟨hf, hnone, hrec⟩⟩ := hr.accepted ha
      · refine ⟨m, m', hm, hm', hr', fun hno => .waits hm' (hr'.trans hno) hwaits.1 ?_⟩
        -- the number is new
        intro j hj _ hseq
        have hle := hn.inHand p j hj
        rw [hseq] at hle
        exact (Nat.not_succ_le_self _ hle).elim
      · refine ⟨m, m', hm, hm', hr', fun hno => .brought hm' (hr'.trans hno) hnone hrec ?_⟩
        rw [h.inHand_of_resting hm hf]
        exact nofun

/-- A die is a member that is not to be forgotten. -/
def State.Retains (t : State) (p : PixelId) : Prop :=
  ∃ m, t.member? p = some m ∧ m.removed = false

/-- Whether a die is to be forgotten is up to users. -/
lemma Orderly.retains_iff (h : Orderly w.state w.sessions w.started)
    (hturn : Turn w deed t ss n) (hd : deed.disturbs lane p = false) :
    t.Retains p ↔ w.state.Retains p := by
  have hfollows := h.follows hturn hd
  rw [State.Retains, State.Retains]
  generalize w.state.member? p = o at hfollows
  generalize t.member? p = o' at hfollows
  cases hfollows with
  | absent => exact .rfl
  | kept hkeeps => simp [hkeeps.removed]
  | forgotten hr => simp [hr]
  | settled _ hr hkeeps => simp [hkeeps.removed, Member.settled_removed, hr]

/-- A job waits at a die in a lane. -/
def State.Awaits (t : State) (lane : Lane) (p : PixelId) : Prop :=
  ∃ m j, t.member? p = some m ∧ m.pending lane = some j

/-- Only users bring jobs. -/
lemma Orderly.awaits_of_turn (h : Orderly w.state w.sessions w.started)
    (hturn : Turn w deed t ss n) (hd : deed.disturbs lane p = false) :
    t.Awaits lane p → w.state.Awaits lane p := by
  rintro ⟨m, j, hm, hj⟩
  obtain ⟨m', hm', hj'⟩ := h.pending_of_undisturbed hturn hd hm hj
  exact ⟨m', j, hm', hj'⟩

/-- Nothing waits after a failure for good. -/
lemma Orderly.not_awaits_of_discards (h : Orderly w.state w.sessions w.started)
    (hturn : Turn w deed t ss n) (hk : deed.discards lane p = true) : ¬ t.Awaits lane p := by
  rintro ⟨m', j, hm', hj⟩
  cases hturn with
  | rest | request | seen | woken | begun | advance | left => cases hk
  | @ended s r hs hst =>
      simp only [Deed.discards, Bool.and_eq_true, decide_eq_true_eq] at hk
      obtain ⟨rfl, hk⟩ := hk
      obtain ⟨m, hold, -⟩ := h.holds_manned hs (Session.live_of_reporting hst)
      cases hr : m.removed with
      | true =>
          rw [(hold.lacks_sessionEnded w.config r hr).member] at hm'
          cases hm'
      | false =>
          rw [(hold.sessionEnded w.config r hr).member, Option.some_inj] at hm'
          have hkeeps : Member.Keeps lane _ _ := m.keeps_afterSession none w.config s.pixel r
          rw [← hm', hkeeps.pending, Member.pending_settled, if_pos hk] at hj
          cases hj

end Turns

/-! ### Acceptance -/

section Runs

variable {w : World} {e : Errand} {lane : Lane} {p : PixelId}

/-- Nothing waits in a run after a failure for good, unless users bring something. -/
lemma Orderly.not_awaits_after (h : Orderly w.state w.sessions w.started) (hs : List Happening)
    (hd : ∀ d ∈ w.deeds hs, d.disturbs lane p = false)
    (hk : ∃ d ∈ w.deeds hs, d.discards lane p = true) : ¬ (w.after hs).state.Awaits lane p := by
  induction hs generalizing w with
  | nil => simp [World.deeds] at hk
  | cons x hs ih =>
      rw [World.deeds, List.forall_mem_cons] at hd
      rw [World.deeds, List.exists_mem_cons_iff] at hk
      rcases hk with hk | hk
      · refine (h.happen x).run (P := fun t _ => ¬ t.Awaits lane p) ?_ hs hd.2 ?_
        · exact fun ho hturn hd hno ht => hno (ho.awaits_of_turn hturn hd ht)
        · exact h.not_awaits_of_discards (w.turn_happen x) hk
      · exact ih (h.happen x) hd.2 hk

/-- Whether a die is to be forgotten is up to users in a run. -/
lemma Orderly.retains_after (h : Orderly w.state w.sessions w.started) (hs : List Happening)
    (hd : ∀ d ∈ w.deeds hs, d.disturbs lane p = false) :
    (w.after hs).state.Retains p ↔ w.state.Retains p := by
  refine h.run (P := fun t _ => t.Retains p ↔ w.state.Retains p) ?_ hs hd .rfl
  exact fun ho hturn hd hiff => (ho.retains_iff hturn hd).trans hiff

/-- A secure errand stays so in a run, unless users disturb it or a session of its die ends after
a failure for good. -/
lemma Secure.after (ho : Orderly w.state w.sessions w.started) (hs : List Happening)
    (hd : ∀ d ∈ w.deeds hs, d.disturbs e.lane p = false)
    (hk : ¬ ∃ d ∈ w.deeds hs, d.discards e.lane p = true) (h : Secure e p w.state w.sessions) :
    Secure e p (w.after hs).state (w.after hs).sessions := by
  refine ho.run (P := Secure e p)
    (Q := fun d => d.disturbs e.lane p = false ∧ d.discards e.lane p = false) ?_ hs ?_ h
  · exact fun ho hturn hd h => h.turn ho hturn hd.1 hd.2
  · intro d hmem
    refine ⟨hd d hmem, ?_⟩
    rw [← Bool.not_eq_true]
    exact fun hkd => hk ⟨d, hmem, hkd⟩

end Runs

/-- Users find an errand done or on its way: its die is a member, not to be forgotten, and unless
it is in a session its record tells that the errand was brought, or the errand waits and the die
is queued or has failed. -/
def Errand.Stands (e : Errand) (p : PixelId) (t : State) : Prop :=
  ∃ m, t.member? p = some m ∧ m.removed = false ∧ (m.inFlight = false →
    e.IsRecorded m.peripheral
      ∨ (∃ n, m.pending e.lane = some ⟨e, n⟩)
        ∧ ((∃ pr, m.state = .queued pr) ∨ ∃ n gaveUp, m.state = .failed n gaveUp))

/-- A secure errand stands in an orderly world. -/
lemma Secure.stands {e : Errand} {p : PixelId} {t : State} {ss : List Session} (hc : t.Coherent)
    (h : Secure e p t ss) : e.Stands p t := by
  cases h with
  | brought hm hr _ hrec _ => exact ⟨_, hm, hr, fun _ => .inl hrec⟩
  | waits hm hr hwaits _ =>
      obtain ⟨l, -, hmember⟩ := hc.holds hm
      refine ⟨_, hm, hr, fun hf => .inr ⟨⟨_, hwaits⟩, ?_⟩⟩
      exact hmember.waits hf (Member.hasJobs_of_pending hwaits)

/-- **When an errand stands that was accepted.** In every run that follows, while users do not
disturb it, an errand stands exactly when its die was not to be forgotten as the errand was
accepted, and when no session of the die has ended after a failure for good in its lane, or, after
one, the record tells that the errand was brought. -/
theorem stands_after_iff (config : Config) (delay : ℕ) (radio : Radio)
    (pairings : List Peripheral) (before after : List Happening) (h : Happening) (e : Errand)
    (p : PixelId) :
    let w := (World.start config delay radio pairings).after before
    let w' := (w.happen h).after after
    (w.deed h).accepts e p = true →
    (∀ d ∈ (w.happen h).deeds after, d.disturbs e.lane p = false) →
    (e.Stands p w'.state ↔
      w.state.Retains p ∧
        ((∃ d ∈ (w.happen h).deeds after, d.discards e.lane p = true) →
          ∀ m, w'.state.member? p = some m → m.inFlight = false → e.IsRecorded m.peripheral)) := by
  intro w w' ha hd
  have hstart : Orderly (World.start config delay radio pairings).state [] 0 :=
    Orderly.start config delay radio pairings
  have ho : Orderly w.state w.sessions w.started := hstart.after before
  have ho' := ho.happen h
  have hnumbered : Numbered w.state w.sessions :=
    hstart.run (P := Numbered) (Q := fun _ => True) (fun ho hturn _ hn => hn.turn ho hturn) before
      (fun _ _ => trivial) (numbered_start radio.adapter pairings)
  obtain ⟨m, m', hm, hm', hr, hsecure⟩ := ho.secure_of_accepts hnumbered (w.turn_happen h) ha
  -- the mark is not touched from before the acceptance to the end
  have hretains : w'.state.Retains p ↔ w.state.Retains p := by
    rw [ho'.retains_after after hd, State.Retains, State.Retains, hm, hm']
    simp [hr]
  constructor
  · rintro ⟨n, hn, hnr, hrest⟩
    refine ⟨hretains.mp ⟨n, hn, hnr⟩, fun hk n' hn' hf => ?_⟩
    obtain rfl := Option.some_inj.mp (hn.symm.trans hn')
    rcases hrest hf with hrec | ⟨⟨k, hwaits⟩, -⟩
    · exact hrec
    · exact (ho'.not_awaits_after after hd hk ⟨n, _, hn, hwaits⟩).elim
  · rintro ⟨hretained, hrest⟩
    by_cases hk : ∃ d ∈ (w.happen h).deeds after, d.discards e.lane p = true
    · obtain ⟨n, hn, hnr⟩ := hretains.mpr hretained
      exact ⟨n, hn, hnr, fun hf => .inl (hrest hk n hn hf)⟩
    · obtain ⟨n, hn, hnr⟩ := hretained
      obtain rfl := Option.some_inj.mp (hm.symm.trans hn)
      exact ((hsecure hnr).after ho' after hd hk).stands (ho'.after after).coherent

namespace Sample

/-- A die in range. -/
def ring : PixelId := ⟨7⟩

/-- A scheduler that knows the die. -/
def world : World :=
  .start {} 0 { dice := .ofList (fun _ => ring) [{ options := {} }] }
    [.new "ring" ring .d20 default]

/-- Bytes that no die takes for a data set. -/
def junk : Program := ⟨⟨1⟩, [1, 2, 3], DataSet.hash [1, 2, 3]⟩

/-- A data set without animations. -/
def blank : Program := ⟨⟨2⟩, List.replicate 12 0, DataSet.hash (List.replicate 12 0)⟩

/-- A data set is to be written to the die. -/
def ask (d : Program) : Happening := .move (.request (.program ring d .low))

/-- A session with the die takes some steps. -/
def steps (n : ℕ) : List Happening := List.replicate n (.move (.session 0))

/-- A session with the die has found a data set to be written. -/
def begun (d : Program) : List Happening :=
  [ask d, .move .dispatch, .move .dispatch] ++ steps 4

end Sample

open Sample

/-- A data set that is asked for while another one is written waits for the next session. -/
theorem stands_behind_success :
    let w := world.after (begun blank)
    let w' := (w.happen (ask junk)).after (steps 10)
    (w.deed (ask junk)).accepts (.dataSet junk) ring = true
      ∧ (∀ d ∈ (w.happen (ask junk)).deeds (steps 10), d.disturbs .dataSet ring = false)
      ∧ (Errand.dataSet junk).Stands ring w'.state := by
  intro w w'
  have ha : (w.deed (ask junk)).accepts (.dataSet junk) ring = true := by decide +kernel
  have hd : ∀ d ∈ (w.happen (ask junk)).deeds (steps 10), d.disturbs .dataSet ring = false := by
    decide +kernel
  have hk : ¬ ∃ d ∈ (w.happen (ask junk)).deeds (steps 10), d.discards .dataSet ring = true := by
    decide +kernel
  refine ⟨ha, hd, (stands_after_iff {} 0 _ _ (begun blank) (steps 10) (ask junk) (.dataSet junk)
    ring ha hd).mpr ⟨?_, fun hdiscards => (hk hdiscards).elim⟩⟩
  exact ⟨_, rfl, by decide +kernel⟩

/-- A data set is lost that is asked for while another one is written, if the die rejects the
other one, and so is one that is accepted for a die that is to be forgotten, though no session
has had it in hand. -/
theorem lost_behind_failure :
    let w := world.after (begun junk)
    let w' := w.happen (.move (.request (.unregister ring)))
    ((w.deed (ask blank)).accepts (.dataSet blank) ring = true
      ∧ (∀ d ∈ (w.happen (ask blank)).deeds (steps 10), d.disturbs .dataSet ring = false)
      ∧ (∀ k ≤ 10, ∀ j ∈ inHand ((w.happen (ask blank)).after (steps k)).sessions ring,
          j.errand ≠ .dataSet blank)
      ∧ ¬ (Errand.dataSet blank).Stands ring ((w.happen (ask blank)).after (steps 10)).state)
    ∧ (w'.deed (ask blank)).accepts (.dataSet blank) ring = true
      ∧ (∀ d ∈ (w'.happen (ask blank)).deeds (steps 10), d.disturbs .dataSet ring = false)
      ∧ (∀ k ≤ 10, ∀ j ∈ inHand ((w'.happen (ask blank)).after (steps k)).sessions ring,
          j.errand ≠ .dataSet blank)
      ∧ ¬ (Errand.dataSet blank).Stands ring ((w'.happen (ask blank)).after (steps 10)).state := by
  intro w w'
  have hlost : ∀ m ∈ ((w.happen (ask blank)).after (steps 10)).state.member? ring,
      m.inFlight = false ∧ m.profileJob = none
        ∧ ¬ (Errand.dataSet blank).IsRecorded m.peripheral := by decide +kernel
  have hforgotten : ((w'.happen (ask blank)).after (steps 10)).state.member? ring = none := by
    decide +kernel
  refine ⟨⟨by decide +kernel, by decide +kernel, by decide +kernel, ?_⟩, by decide +kernel,
    by decide +kernel, by decide +kernel, ?_⟩
  · rintro ⟨m, hm, -, hrest⟩
    obtain ⟨hf, hnone, hrec⟩ := hlost m hm
    rcases hrest hf with hrec' | ⟨⟨n, hwaits⟩, -⟩
    · exact hrec hrec'
    · rw [Errand.lane, Member.pending, hnone] at hwaits
      cases hwaits
  · rintro ⟨m, hm, -⟩
    rw [hforgotten] at hm
    cases hm

end DiceHost.Scheduler
