/-
Dice in sessions, and the right to write firmware.

* `State.isManned`, `State.isReserved`, `State.isWriting`: a die is in a session, its session
  holds the right, firmware is being written to it;
* `State.Steady`, `State.Undisturbed`: a change leaves sessions and the right as they are, and
  begins no writing;
* `State.Handled.undisturbed`, `State.undisturbed_backoffOver`, …: what is not the start or the
  end of a session does so;
* `State.Frames`: a change leaves the adapter as it is, and whether the right is taken;
* `State.Begins`: what the start of a session does, and for which dice it is allowed;
* `State.Releases`: every end of a session gives the right back;
* `Attended`, `Attended.turn`: **a die in a session has a live one, and no other die holds the
  right**, whatever happens.
-/
import DiceHost.Proofs.Scheduler.Runs

namespace DiceHost.Scheduler

open Link

/-- Firmware is being written. -/
def DieState.writesFirmware : DieState → Bool
  | transferring kind => kind ≠ .dataSet
  | _ => false

/-! ### Members -/

/-- A member stays in its session or out of it, its session keeps the right or does without,
and no writing begins. -/
structure Member.KeepsCourse (m m' : Member) : Prop where
  inFlight : m'.inFlight = m.inFlight
  reserved : m'.dfuReserved = m.dfuReserved
  writes : m'.state.writesFirmware = true → m.state.writesFirmware = true

namespace Member

variable {m m' n : Member}

/-- The same if nothing is written afterwards. -/
lemma KeepsCourse.of_still (hf : m'.inFlight = m.inFlight) (hr : m'.dfuReserved = m.dfuReserved)
    (hw : m'.state.writesFirmware = false) : m.KeepsCourse m' where
  inFlight := hf
  reserved := hr
  writes := by
    intro hw'
    rw [hw] at hw'
    cases hw'

lemma KeepsCourse.trans (h : m.KeepsCourse m') (h' : m'.KeepsCourse n) : m.KeepsCourse n where
  inFlight := h'.inFlight.trans h.inFlight
  reserved := h'.reserved.trans h.reserved
  writes := fun hn => h.writes (h'.writes hn)

lemma keepsCourse_afterEnqueue (m : Member) (l : Option Priority) (pr : Priority) :
    m.KeepsCourse (m.afterEnqueue l pr).1 := by
  rw [afterEnqueue]
  split_ifs
  · exact ⟨rfl, rfl, id⟩
  · exact .of_still rfl rfl rfl

lemma keepsCourse_afterSchedule (m : Member) (l : Option Priority) (pr : Priority) :
    m.KeepsCourse (m.afterSchedule l pr).1 := by
  rw [afterSchedule]
  split_ifs
  · exact ⟨rfl, rfl, id⟩
  · exact m.keepsCourse_afterEnqueue l pr

variable (m : Member) (c : Config) (p : PixelId) (r : Report)

lemma settled_dfuReserved : (m.settled c p r).dfuReserved = false := by
  rw [settled, settle_eq]
  change (m.released.confirm r).dfuReserved = false
  rw [confirm_eq]
  rfl

/-- After its session a member is in none, holds no right, and nothing is written to it. -/
lemma rests_afterSession (l : Option Priority) :
    (m.afterSession l c p r).1.inFlight = false
      ∧ (m.afterSession l c p r).1.dfuReserved = false
      ∧ (m.afterSession l c p r).1.state.writesFirmware = false := by
  have hf := m.settled_inFlight c p r
  have hr := m.settled_dfuReserved c p r
  rw [afterSession]
  by_cases hg : (m.settled c p r).state.isGivenUp = true
  · rw [if_pos hg]
    refine ⟨hf, hr, ?_⟩
    cases hst : (m.settled c p r).state with
    | transferring kind =>
        rw [hst] at hg
        cases hg
    | idle | queued | connecting | connected | failed => rfl
  · rw [if_neg hg]
    cases m.nextPriority c p r with
    | none => exact ⟨hf, hr, rfl⟩
    | some pr =>
        have hkeeps := keepsCourse_afterSchedule
          { m.settled c p r with requeueAfter := none, state := .idle } l pr
        refine ⟨hkeeps.inFlight.trans hf, hkeeps.reserved.trans hr, ?_⟩
        exact Bool.eq_false_iff.mpr fun hw => Bool.false_ne_true (hkeeps.writes hw)

end Member

/-! ### States -/

namespace State

/-- A die is in a session. -/
def isManned (s : State) (p : PixelId) : Bool :=
  (s.member? p).any (·.inFlight)

/-- The session of a die may write firmware. -/
def isReserved (s : State) (p : PixelId) : Bool :=
  (s.member? p).any (·.dfuReserved)

/-- Firmware is being written to a die. -/
def isWriting (s : State) (p : PixelId) : Bool :=
  (s.member? p).any (·.state.writesFirmware)

/-- Dice stay in their sessions or out of them, and the right to write firmware stays where
it is. -/
structure Steady (s t : State) : Prop where
  active : t.dfuActive = s.dfuActive
  manned : ∀ p, t.isManned p = s.isManned p
  reserved : ∀ p, t.isReserved p = s.isReserved p

/-- No writing of firmware begins, either. -/
structure Undisturbed (s t : State) : Prop extends Steady s t where
  writes : ∀ p, t.isWriting p = true → s.isWriting p = true

variable {s t u : State} {p q : PixelId} {m m' : Member} {l : Option Priority}

lemma isManned_eq (hm : s.member? p = some m) : s.isManned p = m.inFlight := by
  rw [isManned, hm, Option.any_some]

lemma isReserved_eq (hm : s.member? p = some m) : s.isReserved p = m.dfuReserved := by
  rw [isReserved, hm, Option.any_some]

lemma isWriting_eq (hm : s.member? p = some m) : s.isWriting p = m.state.writesFirmware := by
  rw [isWriting, hm, Option.any_some]

lemma isManned_iff : s.isManned p = true ↔ ∃ m, s.member? p = some m ∧ m.inFlight = true := by
  rw [isManned, Option.any_eq_true]

namespace Touches

/-- Other dice stay in their sessions or out of them. -/
lemma isManned (h : Touches s t p) (hq : q ≠ p) : t.isManned q = s.isManned q := by
  rw [State.isManned, h.member q hq, State.isManned]

lemma isReserved (h : Touches s t p) (hq : q ≠ p) : t.isReserved q = s.isReserved q := by
  rw [State.isReserved, h.member q hq, State.isReserved]

lemma isWriting (h : Touches s t p) (hq : q ≠ p) : t.isWriting q = s.isWriting q := by
  rw [State.isWriting, h.member q hq, State.isWriting]

end Touches

namespace Undisturbed

lemma refl (s : State) : Undisturbed s s :=
  ⟨⟨rfl, fun _ => rfl, fun _ => rfl⟩, fun _ => id⟩

/-- A change at one die disturbs nothing when it does not so there. -/
lemma of_touches (ht : Touches s t p) (ha : t.dfuActive = s.dfuActive)
    (hm : t.isManned p = s.isManned p) (hr : t.isReserved p = s.isReserved p)
    (hw : t.isWriting p = true → s.isWriting p = true) : Undisturbed s t where
  active := ha
  manned := by
    intro q
    by_cases hq : q = p
    · rw [hq, hm]
    · exact ht.isManned hq
  reserved := by
    intro q
    by_cases hq : q = p
    · rw [hq, hr]
    · exact ht.isReserved hq
  writes := by
    intro q hqw
    by_cases hq : q = p
    · rw [hq] at hqw ⊢
      exact hw hqw
    · rwa [ht.isWriting hq] at hqw

/-- The same for a die that is a member before and after. -/
lemma of_holds (ht : Touches s t p) (ha : t.dfuActive = s.dfuActive)
    (hm : s.member? p = some m) (hm' : t.member? p = some m') (hk : m.KeepsCourse m') :
    Undisturbed s t := by
  refine of_touches ht ha ?_ ?_ ?_
  · rw [isManned_eq hm', isManned_eq hm, hk.inFlight]
  · rw [isReserved_eq hm', isReserved_eq hm, hk.reserved]
  · rw [isWriting_eq hm', isWriting_eq hm]
    exact hk.writes

end Undisturbed

/-! ### Requests and timers -/

/-- The adapter, and whether the right to write firmware is taken, are left as they are. -/
structure Frames (s t : State) : Prop where
  adapter : t.adapter = s.adapter
  active : t.dfuActive = s.dfuActive

lemma Frames.trans (h : Frames s t) (h' : Frames t u) : Frames s u :=
  ⟨h'.adapter.trans h.adapter, h'.active.trans h.active⟩

lemma frames_enqueue (s : State) (p : PixelId) (pr : Priority) :
    Frames s (s.enqueue p pr).1 := by
  rw [enqueue]
  cases s.member? p with
  | none => exact ⟨rfl, rfl⟩
  | some m =>
      dsimp only
      split_ifs <;> exact ⟨rfl, rfl⟩

lemma frames_schedule (s : State) (p : PixelId) (pr : Priority) :
    Frames s (s.schedule p pr).1 := by
  rw [schedule]
  cases s.member? p with
  | none => exact ⟨rfl, rfl⟩
  | some m =>
      dsimp only
      split_ifs
      · exact ⟨rfl, rfl⟩
      · exact frames_enqueue s p pr

/-- Requests are about dice only. -/
lemma Handled.frames {r : Request} {reply : Reply} {c : Change} (h : s.Handled r reply c) :
    Frames s c.state := by
  cases h with
  | register => exact ⟨rfl, rfl⟩
  | unregister =>
      rw [State.unregister]
      split_ifs <;> exact ⟨rfl, rfl⟩
  | connect =>
      rw [State.connect]
      split_ifs
      · exact ⟨rfl, rfl⟩
      · exact frames_schedule s _ _
  | @program p m d =>
      rw [State.program]
      by_cases hd : (!m.inFlight && m.peripheral.isUpToDate d.hash) = true
      · rw [if_pos hd]
        exact ⟨rfl, rfl⟩
      · rw [if_neg hd]
        refine .trans ?_ (frames_schedule _ _ _)
        exact ⟨rfl, rfl⟩
  | updateFirmware =>
      rw [State.updateFirmware]
      dsimp only
      split_ifs
      · exact ⟨rfl, rfl⟩
      · refine .trans ?_ (frames_schedule _ _ _)
        exact ⟨rfl, rfl⟩
  | cancel =>
      rw [State.cancel]
      split_ifs <;> exact ⟨rfl, rfl⟩
  | retry =>
      refine .trans ?_ (frames_schedule _ _ _)
      exact ⟨rfl, rfl⟩

lemma frames_backoffOver (s : State) (p : PixelId) (epoch : ℕ) :
    Frames s (s.backoffOver p epoch).state := by
  rw [backoffOver]
  cases s.member? p with
  | none => exact ⟨rfl, rfl⟩
  | some m =>
      dsimp only
      split_ifs
      · exact frames_enqueue s p .low
      · exact ⟨rfl, rfl⟩

/-- **Requests disturb no session.** A die that is forgotten at once is in none, and so it holds
no right. -/
lemma Handled.undisturbed {r : Request} {reply : Reply} {c : Change} (h : s.Handled r reply c)
    (hfree : ∀ p, s.isReserved p = true → s.isManned p = true) : Undisturbed s c.state := by
  have ht := h.touches
  have ha := h.frames.active
  cases h with
  | register record =>
      change Touches s _ record.pixel at ht
      cases hm : s.member? record.pixel with
      | some m =>
          have hold : s.Holds record.pixel m (s.queue.priority? record.pixel) := ⟨hm, rfl⟩
          exact .of_holds ht ha hm hold.register.member ⟨rfl, rfl, id⟩
      | none =>
          have hm' : (s.register record).state.member? record.pixel
              = some { peripheral := record } := by
            rw [State.register, hm]
            exact (PixelMap.get?_insert _ _ _ _).trans (if_pos rfl)
          refine .of_touches ht ha ?_ ?_ ?_
          · rw [isManned_eq hm', isManned, hm, Option.any_none]
          · rw [isReserved_eq hm', isReserved, hm, Option.any_none]
          · rw [isWriting_eq hm']
            exact fun h => (Bool.false_ne_true h).elim
  | @unregister p m hm =>
      change Touches s _ p at ht
      have hold : s.Holds p m (s.queue.priority? p) := ⟨hm, rfl⟩
      cases hf : m.inFlight with
      | true => exact .of_holds ht ha hm (hold.unregister hf).member ⟨rfl, rfl, id⟩
      | false =>
          have hnone := (lacks_unregister s p hf).member
          have hres : s.isReserved p = false := by
            refine Bool.eq_false_iff.mpr fun hr => ?_
            have hmanned := hfree p hr
            rw [isManned_eq hm, hf] at hmanned
            cases hmanned
          refine .of_touches ht ha ?_ ?_ ?_
          · rw [isManned_eq hm, hf, isManned, hnone, Option.any_none]
          · rw [hres, isReserved, hnone, Option.any_none]
          · rw [isWriting, hnone, Option.any_none]
            exact fun h => (Bool.false_ne_true h).elim
  | @connect p m pr hm =>
      have hold : s.Holds p m (s.queue.priority? p) := ⟨hm, rfl⟩
      cases hf : m.inFlight with
      | true =>
          rw [connect_of_inFlight s p pr hf]
          exact .refl s
      | false =>
          exact .of_holds ht ha hm (hold.connect pr hf).member (m.keepsCourse_afterSchedule _ pr)
  | @program p m d pr hm =>
      have hold : s.Holds p m (s.queue.priority? p) := ⟨hm, rfl⟩
      rcases hold.program d pr with ⟨-, -, hold'⟩ | ⟨hold', -⟩
      · exact .of_holds ht ha hm hold'.member ⟨rfl, rfl, id⟩
      · refine .of_holds ht ha hm hold'.member (.trans ?_ (Member.keepsCourse_afterSchedule _ _ pr))
        exact ⟨rfl, rfl, id⟩
  | @updateFirmware p m image force pr hm =>
      have hold : s.Holds p m (s.queue.priority? p) := ⟨hm, rfl⟩
      rcases hold.updateFirmware image force pr with ⟨-, hsame⟩ | ⟨-, hold', -⟩
      · rw [hsame]
        exact .refl s
      · refine .of_holds ht ha hm hold'.member (.trans ?_ (Member.keepsCourse_afterSchedule _ _ pr))
        exact ⟨rfl, rfl, id⟩
  | @cancel p m hm hf =>
      have hold : s.Holds p m (s.queue.priority? p) := ⟨hm, rfl⟩
      rcases hold.cancel with ⟨-, hold'⟩ | ⟨-, hold'⟩
      · exact .of_holds ht ha hm hold'.member (.of_still rfl rfl rfl)
      · exact .of_holds ht ha hm hold'.member ⟨rfl, rfl, id⟩
  | @retry p m hm hf =>
      have hold : s.Holds p m (s.queue.priority? p) := ⟨hm, rfl⟩
      refine .of_holds ht ha hm hold.retry.member
        (.trans ?_ (Member.keepsCourse_afterSchedule _ _ .high))
      exact .of_still rfl rfl rfl

lemma undisturbed_adapterSeen (s : State) (a : AdapterState) :
    Undisturbed s (s.adapterSeen a).state :=
  ⟨⟨rfl, fun _ => rfl, fun _ => rfl⟩, fun _ => id⟩

/-- A timer disturbs no session. -/
lemma undisturbed_backoffOver (s : State) (p : PixelId) (epoch : ℕ) :
    Undisturbed s (s.backoffOver p epoch).state := by
  cases hm : s.member? p with
  | none =>
      rw [State.backoffOver, hm]
      exact .refl s
  | some m =>
      have hold : s.Holds p m (s.queue.priority? p) := ⟨hm, rfl⟩
      have ha := (frames_backoffOver s p epoch).active
      rcases hold.backoffOver epoch with ⟨-, -, -, hold'⟩ | hsame
      · exact .of_holds (touches_backoffOver s p epoch) ha hm hold'.member
          (m.keepsCourse_afterEnqueue _ .low)
      · rw [hsame]
        exact .refl s

/-! ### The course of a session -/

lemma undisturbed_connected (s : State) (p : PixelId) : Undisturbed s (s.connected p).state := by
  have ht := touches_connected s p
  cases hm : s.member? p with
  | none =>
      have hm' : (s.connected p).state.member? p = s.member? p := by
        rw [State.connected, member?_modify, if_pos rfl, hm, Option.map_none]
      refine .of_touches ht rfl ?_ ?_ ?_
      · rw [isManned, hm', isManned]
      · rw [isReserved, hm', isReserved]
      · rw [isWriting, hm', hm]
        exact fun h => (Bool.false_ne_true h).elim
  | some m =>
      have hold : s.Holds p m (s.queue.priority? p) := ⟨hm, rfl⟩
      exact .of_holds ht rfl hm hold.connected.member (.of_still rfl rfl rfl)

/-- A transfer leaves sessions and the right as they are. -/
lemma steady_transferring (s : State) (p : PixelId) (kind : PayloadKind) :
    Steady s (s.transferring p kind).state := by
  have ht := touches_transferring s p kind
  have hp : (s.transferring p kind).state.isManned p = s.isManned p
      ∧ (s.transferring p kind).state.isReserved p = s.isReserved p := by
    simp only [State.transferring, isManned, isReserved, member?_modify]
    cases s.member? p <;> exact ⟨rfl, rfl⟩
  refine ⟨rfl, fun q => ?_, fun q => ?_⟩
  · by_cases hq : q = p
    · rw [hq, hp.1]
    · exact ht.isManned hq
  · by_cases hq : q = p
    · rw [hq, hp.2]
    · exact ht.isReserved hq

/-- A transfer begins the writing of firmware at its own die only, and only if it is of
firmware. -/
lemma writes_transferring {kind : PayloadKind}
    (hw : (s.transferring p kind).state.isWriting q = true) :
    s.isWriting q = true ∨ (q = p ∧ kind ≠ .dataSet) := by
  by_cases hq : q = p
  · refine .inr ⟨hq, ?_⟩
    simp only [State.transferring, isWriting, member?_modify, if_pos hq] at hw
    cases hm : s.member? q with
    | none =>
        rw [hm] at hw
        cases hw
    | some m =>
        rw [hm] at hw
        exact of_decide_eq_true hw
  · rw [(touches_transferring s p kind).isWriting hq] at hw
    exact .inl hw

/-! ### The start of a session -/

/-- A session begins with a die: it may do so while firmware is written elsewhere only if there
is more than firmware to be written, and it is given the right if it has firmware to write and
nobody else has the right. -/
structure Begins (s t : State) (p : PixelId) (m : Member) : Prop where
  member : s.member? p = some m
  allowed : s.dfuActive = true → m.hasFirmwareOnly = false
  resting : m.inFlight = false
  touches : Touches s t p
  active : t.dfuActive = (s.dfuActive || s.reserves m)
  manned : t.isManned p = true
  reserved : t.isReserved p = (m.dfuReserved || s.reserves m)
  writing : t.isWriting p = false

/-- The dispatcher takes an eligible die from the queue. It changes the die, the queue and whether
the right is taken. -/
lemma takeNext_eq_some {pr : Priority} {c : Change} (h : s.takeNext = some ((p, pr), c)) :
    (∃ queue, s.queue.popWhere s.isEligible = some ((p, pr), queue))
      ∧ c.state.adapter = s.adapter
      ∧ c.state.dfuActive
        = (s.dfuActive || ((s.member? p).any (·.firmwareJob.isSome) && !s.dfuActive))
      ∧ c.events = [.stateChanged p .connecting] := by
  rw [takeNext] at h
  split_ifs at h
  cases hpop : s.queue.popWhere s.isEligible with
  | none =>
      rw [hpop] at h
      cases h
  | some r =>
      obtain ⟨⟨p', pr'⟩, queue⟩ := r
      rw [hpop] at h
      simp only [Option.some.injEq, Prod.mk.injEq] at h
      obtain ⟨⟨rfl, rfl⟩, rfl⟩ := h
      exact ⟨⟨queue, rfl⟩, rfl, rfl, rfl⟩

/-- The member that the dispatcher takes is eligible, and the right is taken if the session
gets it. -/
lemma takeNext_eligible {pr : Priority} {c : Change} (h : s.takeNext = some ((p, pr), c))
    (hs : s.queue.Unique) (hm : s.member? p = some m) :
    (s.dfuActive = true → m.hasFirmwareOnly = false)
      ∧ c.state.dfuActive = (s.dfuActive || s.reserves m) := by
  obtain ⟨⟨queue, hpop⟩, -, hactive, -⟩ := takeNext_eq_some h
  obtain ⟨helig, -⟩ := Queue.priority?_popWhere hs hpop
  rw [isEligible, hm, Option.any_some] at helig
  rw [hm, Option.any_some] at hactive
  refine ⟨fun htaken => ?_, hactive⟩
  rw [htaken, Bool.true_and, Bool.not_eq_true'] at helig
  exact helig

/-- The dispatcher begins a session. -/
lemma Coherent.begins (h : s.Coherent) {pr : Priority} {c : Change}
    (hnext : s.takeNext = some ((p, pr), c)) : ∃ m, Begins s c.state p m := by
  obtain ⟨m, hold, ht, hold'⟩ := takeNext_cases h.unique hnext
  obtain ⟨hallowed, hactive⟩ := takeNext_eligible hnext h.unique hold.member
  obtain ⟨l, hl, hc⟩ := h.holds hold.member
  obtain rfl := hl.level.symm.trans hold.level
  exact ⟨m, hold.member, hallowed, ((hc.level_iff pr).mp rfl).1, ht, hactive,
    isManned_eq hold'.member, isReserved_eq hold'.member, isWriting_eq hold'.member⟩

/-! ### The end of a session -/

/-- The session of a die is over: the die is in none, nothing is written to it, and the right
is given back if it was held there. -/
structure Releases (s t : State) (p : PixelId) : Prop where
  touches : Touches s t p
  active : t.dfuActive = (s.dfuActive && !s.isReserved p)
  manned : t.isManned p = false
  reserved : t.isReserved p = false
  writing : t.isWriting p = false

namespace Releases

/-- A die that is forgotten. -/
lemma of_lacks (ht : Touches s t p) (ha : t.dfuActive = (s.dfuActive && !s.isReserved p))
    (h : t.Lacks p) : Releases s t p := by
  refine ⟨ht, ha, ?_, ?_, ?_⟩
  · rw [isManned, h.member, Option.any_none]
  · rw [isReserved, h.member, Option.any_none]
  · rw [isWriting, h.member, Option.any_none]

/-- A die that stays a member. -/
lemma of_holds (ht : Touches s t p) (ha : t.dfuActive = (s.dfuActive && !s.isReserved p))
    (h : t.Holds p m l) (hf : m.inFlight = false) (hr : m.dfuReserved = false)
    (hw : m.state.writesFirmware = false) : Releases s t p :=
  ⟨ht, ha, (isManned_eq h.member).trans hf, (isReserved_eq h.member).trans hr,
    (isWriting_eq h.member).trans hw⟩

end Releases

lemma dfuActive_releaseDfu (s : State) (p : PixelId) :
    (s.releaseDfu p).dfuActive = (s.dfuActive && !s.isReserved p) := by
  rw [releaseDfu, isReserved]
  cases (s.member? p).any (·.dfuReserved) with
  | true => exact (Bool.and_false _).symm
  | false => exact (Bool.and_true _).symm

lemma adapter_releaseDfu (s : State) (p : PixelId) : (s.releaseDfu p).adapter = s.adapter := by
  rw [releaseDfu]
  split_ifs <;> rfl

lemma frames_interrupted (s : State) (p : PixelId) (pr : Priority) :
    Frames (s.releaseDfu p) (s.interrupted p pr).state := by
  rw [interrupted]
  cases (s.releaseDfu p).member? p with
  | none => exact ⟨rfl, rfl⟩
  | some m =>
      dsimp only
      split_ifs
      · exact ⟨rfl, rfl⟩
      · refine .trans ?_ (frames_enqueue _ _ _)
        exact ⟨rfl, rfl⟩

lemma frames_connectFailed (s : State) (c : Config) (p : PixelId) (e : LinkError) :
    Frames (s.releaseDfu p) (s.connectFailed c p e).1.state := by
  rw [connectFailed]
  cases (s.releaseDfu p).member? p with
  | none => exact ⟨rfl, rfl⟩
  | some m =>
      dsimp only
      split_ifs <;> exact ⟨rfl, rfl⟩

lemma frames_sessionEnded (s : State) (c : Config) (p : PixelId) (r : Report) :
    Frames (s.releaseDfu p) (s.sessionEnded c p r).state := by
  rw [sessionEnded]
  cases (s.releaseDfu p).member? p with
  | none => exact ⟨rfl, rfl⟩
  | some m =>
      dsimp only
      by_cases hr : (({ m with inFlight := false } : Member).confirm r
          |>.settle c p r.error).1.removed = true
      · rw [if_pos hr]
        exact ⟨rfl, rfl⟩
      · rw [if_neg hr]
        by_cases hg : (({ m with inFlight := false } : Member).confirm r
            |>.settle c p r.error).1.state.isGivenUp = true
        · rw [if_pos hg]
          exact ⟨rfl, rfl⟩
        · rw [if_neg hg]
          split
          · refine .trans ?_ (frames_schedule _ _ _)
            exact ⟨rfl, rfl⟩
          · exact ⟨rfl, rfl⟩

lemma Coherent.releases_interrupted (h : s.Coherent) (hm : s.member? p = some m)
    (hf : m.inFlight = true) (pr : Priority) : Releases s (s.interrupted p pr).state p := by
  obtain ⟨hold, -⟩ := h.holds_inFlight hm hf
  have ht := touches_interrupted s p pr
  have ha := (frames_interrupted s p pr).active.trans (dfuActive_releaseDfu s p)
  cases hr : m.removed with
  | true => exact .of_lacks ht ha (hold.lacks_interrupted pr hr)
  | false => exact .of_holds ht ha (hold.interrupted pr hr) rfl rfl rfl

lemma Coherent.releases_connectFailed (h : s.Coherent) (hm : s.member? p = some m)
    (hf : m.inFlight = true) (c : Config) (e : LinkError) :
    Releases s (s.connectFailed c p e).1.state p := by
  obtain ⟨hold, -⟩ := h.holds_inFlight hm hf
  have ht := touches_connectFailed s c p e
  have ha := (frames_connectFailed s c p e).active.trans (dfuActive_releaseDfu s p)
  cases hr : m.removed with
  | true => exact .of_lacks ht ha (hold.lacks_connectFailed c e hr)
  | false => exact .of_holds ht ha (hold.connectFailed c e hr) rfl rfl rfl

lemma Coherent.releases_sessionEnded (h : s.Coherent) (hm : s.member? p = some m)
    (hf : m.inFlight = true) (c : Config) (r : Report) :
    Releases s (s.sessionEnded c p r).state p := by
  obtain ⟨hold, -⟩ := h.holds_inFlight hm hf
  have ht := touches_sessionEnded s c p r
  have ha := (frames_sessionEnded s c p r).active.trans (dfuActive_releaseDfu s p)
  cases hr : m.removed with
  | true => exact .of_lacks ht ha (hold.lacks_sessionEnded c r hr)
  | false =>
      obtain ⟨hf', hr', hw'⟩ := m.rests_afterSession c p r none
      exact .of_holds ht ha (hold.sessionEnded c r hr) hf' hr' hw'

/-- The members of a scheduler that has just been started have only a record. -/
lemma eq_of_member?_start {a : AdapterState} {pairings : List Peripheral}
    (hm : (State.start a pairings).member? p = some m) : ∃ r, m = { peripheral := r } := by
  obtain ⟨r, -, rfl⟩ := List.mem_map.mp (PixelMap.mem_of_get?_ofList hm)
  exact ⟨r, rfl⟩

end State

/-! ### Attendance -/

/-- A die has a live session among some sessions. -/
def HasLive (ss : List Session) (p : PixelId) : Prop :=
  ∃ x ∈ ss, x.Live ∧ x.pixel = p

/-- Every die in a session has a live one, and only such a die holds the right to write
firmware. -/
structure Attended (t : State) (ss : List Session) : Prop where
  session : ∀ p, t.isManned p = true → HasLive ss p
  reserved : ∀ p, t.isReserved p = true → t.isManned p = true

section Turns

variable {w : World} {s : Session} {stage : Stage} {deed : Deed} {t : State} {ss : List Session}
  {n : ℕ} {p : PixelId}

lemma mem_setStage_self (hs : s ∈ w.sessions) :
    { s with stage } ∈ (w.setStage s.id stage).sessions :=
  List.mem_map.mpr ⟨s, hs, if_pos rfl⟩

lemma mem_setStage_of_ne {x : Session} (hx : x ∈ w.sessions) (hid : x.id ≠ s.id) :
    x ∈ (w.setStage s.id stage).sessions :=
  List.mem_map.mpr ⟨x, hx, if_neg hid⟩

/-- A live session stays live at a new stage, unless it is the one that ends. -/
lemma HasLive.setStage (hids : (w.sessions.map (·.id)).Nodup) (hs : s ∈ w.sessions)
    (h : HasLive w.sessions p) (hgoes : stage ≠ .over ∨ p ≠ s.pixel) :
    HasLive (w.setStage s.id stage).sessions p := by
  obtain ⟨x, hx, hlive, hp⟩ := h
  by_cases hid : x.id = s.id
  · obtain rfl := List.inj_on_of_nodup_map hids hx hs hid
    exact ⟨_, mem_setStage_self hx, hgoes.resolve_right fun hne => hne hp.symm, hp⟩
  · exact ⟨x, mem_setStage_of_ne hx hid, hlive, hp⟩

/-- A session that has ended is no live one. -/
lemma HasLive.left (hids : (w.sessions.map (·.id)).Nodup) (hs : s ∈ w.sessions)
    (hst : s.stage = .over) (h : HasLive w.sessions p) :
    HasLive (w.sessions.filter (·.id ≠ s.id)) p := by
  obtain ⟨x, hx, hlive, hp⟩ := h
  refine ⟨x, List.mem_filter.mpr ⟨hx, decide_eq_true fun hid => ?_⟩, hlive, hp⟩
  exact hlive (List.inj_on_of_nodup_map hids hx hs hid ▸ hst)

namespace Attended

/-- Sessions and the right stay where they are. -/
lemma steady (h : Attended w.state w.sessions) (ht : State.Steady w.state t)
    (hss : ∀ p, HasLive w.sessions p → HasLive ss p) : Attended t ss where
  session := fun p hp => hss p (h.session p (ht.manned p ▸ hp))
  reserved := by
    intro p hp
    rw [ht.reserved] at hp
    rw [ht.manned]
    exact h.reserved p hp

/-- A session ends. -/
lemma releases (h : Attended w.state w.sessions) (hids : (w.sessions.map (·.id)).Nodup)
    (hs : s ∈ w.sessions) (ht : State.Releases w.state t s.pixel) :
    Attended t (w.setStage s.id .over).sessions where
  session := by
    intro p hp
    by_cases hne : p = s.pixel
    · rw [hne, ht.manned] at hp
      cases hp
    · rw [ht.touches.isManned hne] at hp
      exact (h.session p hp).setStage hids hs (.inr hne)
  reserved := by
    intro p hp
    by_cases hne : p = s.pixel
    · rw [hne, ht.reserved] at hp
      cases hp
    · rw [ht.touches.isReserved hne] at hp
      rw [ht.touches.isManned hne]
      exact h.reserved p hp

/-- A session begins. -/
lemma begins {m : Member} {x : Session} (h : Attended w.state w.sessions)
    (ht : State.Begins w.state t x.pixel m) (hlive : x.Live) :
    Attended t (w.sessions ++ [x]) where
  session := by
    intro p hp
    by_cases hne : p = x.pixel
    · exact ⟨x, List.mem_append_right _ (List.mem_singleton_self x), hlive, hne.symm⟩
    · rw [ht.touches.isManned hne] at hp
      obtain ⟨y, hy, hylive, hyp⟩ := h.session p hp
      exact ⟨y, List.mem_append_left _ hy, hylive, hyp⟩
  reserved := by
    intro p hp
    by_cases hne : p = x.pixel
    · rw [hne, ht.manned]
    · rw [ht.touches.isReserved hne] at hp
      rw [ht.touches.isManned hne]
      exact h.reserved p hp

/-- **A turn keeps dice attended.** -/
lemma turn (ho : Orderly w.state w.sessions w.started) (hturn : Turn w deed t ss n)
    (h : Attended w.state w.sessions) : Attended t ss := by
  have hsame : State.Steady w.state w.state := (State.Undisturbed.refl w.state).toSteady
  cases hturn with
  | rest => exact h
  | request hr => exact h.steady (hr.undisturbed h.reserved).toSteady fun _ => id
  | seen a => exact h.steady (State.undisturbed_adapterSeen _ a).toSteady fun _ => id
  | woken p epoch => exact h.steady (State.undisturbed_backoffOver _ p epoch).toSteady fun _ => id
  | begun hnext =>
      obtain ⟨m, hbegins⟩ := ho.coherent.begins hnext
      exact h.begins hbegins (by simp [Session.Live])
  | ended hs hst =>
      obtain ⟨m, hm, hf⟩ := ho.manned _ hs (Session.live_of_reporting hst)
      exact h.releases ho.ids hs (ho.coherent.releases_sessionEnded hm hf _ _)
  | left hs hst => exact h.steady hsame fun p hp => hp.left ho.ids hs hst
  | advance hs hstep =>
      obtain ⟨m, hm, hf⟩ := ho.manned _ hs hstep.live
      have hgoes {stage : Stage} (hst : stage ≠ .over) (p : PixelId)
          (hp : HasLive w.sessions p) := hp.setStage ho.ids hs (.inl hst)
      cases hstep with
      | interrupted => exact h.releases ho.ids hs (ho.coherent.releases_interrupted hm hf _)
      | failed => exact h.releases ho.ids hs (ho.coherent.releases_connectFailed hm hf _ _)
      | connected => exact h.steady (State.undisturbed_connected _ _).toSteady (hgoes (by simp))
      | send => exact h.steady (State.steady_transferring _ _ _) (hgoes (by simp))
      | @finish _ _ _ _ _ _ r =>
          refine h.steady hsame (hgoes ?_)
          cases r <;> simp [World.afterTransfer]
      | connect | interrupt | refuse | link | work | answer | close | report =>
          exact h.steady hsame (hgoes (by simp))

lemma start (a : AdapterState) (pairings : List Peripheral) :
    Attended (State.start a pairings) [] where
  session := by
    intro p hp
    obtain ⟨m, hm, hf⟩ := State.isManned_iff.mp hp
    obtain ⟨r, rfl⟩ := State.eq_of_member?_start hm
    cases hf
  reserved := by
    intro p hp
    obtain ⟨m, hm, hr⟩ := (Option.any_eq_true _ _).mp hp
    obtain ⟨r, rfl⟩ := State.eq_of_member?_start hm
    cases hr

end Attended

end Turns

end DiceHost.Scheduler
