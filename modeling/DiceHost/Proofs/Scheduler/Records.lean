/-
What becomes of the members of the scheduler.

* `Member.Follows`: the record of a member tells the same data set as before, and the number of
  its wait has not fallen;
* `State.Follows`: whoever is a member in one state follows the member of that die in another;
* `State.follows_handled`: members follow what they were before a request, but for the record
  that is registered;
* `State.follows_interrupted`, …: they do so in the turns of a session and of timers;
* `State.recordedHash?_sessionEnded`: the record of a die tells at the end of a session what the
  session has confirmed, or what it told before.
-/
import DiceHost.Proofs.Scheduler.Coherence
import DiceHost.Scheduler.World

namespace DiceHost.Scheduler

open Link

/-- The record of a member tells the same data set, and the number of its wait has not
fallen. -/
structure Member.Follows (m m' : Member) : Prop where
  hash : m'.peripheral.profileHash = m.peripheral.profileHash
  epoch : m.backoffEpoch ≤ m'.backoffEpoch

lemma Member.Follows.same {m m' : Member}
    (hhash : m'.peripheral.profileHash = m.peripheral.profileHash)
    (hepoch : m'.backoffEpoch = m.backoffEpoch) : m.Follows m' :=
  ⟨hhash, hepoch.ge⟩

namespace State

variable {s t u : State} {p q : PixelId} {m : Member} {l : Option Priority}

/-- The hash of the data set that a die holds, as its record tells. -/
def recordedHash? (s : State) (q : PixelId) : Option UInt32 :=
  (s.member? q).bind (·.peripheral.profileHash)

/-- Whoever is a member for a die follows the member that the die had before. -/
def Follows (s t : State) (q : PixelId) : Prop :=
  ∀ m', t.member? q = some m' → ∃ m, s.member? q = some m ∧ m.Follows m'

namespace Follows

lemma refl (s : State) (q : PixelId) : s.Follows s q :=
  fun m hm => ⟨m, hm, rfl, le_rfl⟩

lemma trans (h : s.Follows t q) (h' : t.Follows u q) : s.Follows u q := by
  intro n hn
  obtain ⟨m', hm', hhash', hepoch'⟩ := h' n hn
  obtain ⟨m, hm, hhash, hepoch⟩ := h m' hm'
  exact ⟨m, hm, hhash'.trans hhash, hepoch.trans hepoch'⟩

lemma of_member?_eq (h : t.member? q = s.member? q) : s.Follows t q :=
  fun m hm => ⟨m, h ▸ hm, rfl, le_rfl⟩

/-- A record tells no data set that it has not told before. -/
lemma recordedHash? (h : s.Follows t q) {x : UInt32} (hx : t.recordedHash? q = some x) :
    s.recordedHash? q = some x := by
  obtain ⟨m', hm', hx⟩ := Option.bind_eq_some_iff.mp hx
  obtain ⟨m, hm, hhash, -⟩ := h m' hm'
  exact Option.bind_eq_some_iff.mpr ⟨m, hm, hhash ▸ hx⟩

end Follows

/-- A change at one die leaves the members of the others. -/
lemma Touches.follows (h : Touches s t p) (hq : q ≠ p) : s.Follows t q :=
  .of_member?_eq (h.member q hq)

/-! ### Changes of members -/

/-- Changed members follow those they were when each of them does. -/
lemma follows_modify {f : Member → Member}
    (hf : ∀ m, s.member? p = some m → m.Follows (f m)) (q : PixelId) :
    s.Follows (s.modify p f) q := by
  intro m' hm'
  rw [member?_modify] at hm'
  by_cases hq : q = p
  · subst hq
    rw [if_pos rfl] at hm'
    obtain ⟨m, hm, rfl⟩ := Option.map_eq_some_iff.mp hm'
    exact ⟨m, hm, hf m hm⟩
  · rw [if_neg hq] at hm'
    exact ⟨m', hm', rfl, le_rfl⟩

lemma follows_forget (s : State) (p q : PixelId) : s.Follows (s.forget p).1 q := by
  by_cases hq : q = p
  · intro m' hm'
    rw [hq, member?_forget] at hm'
    cases hm'
  · exact (touches_forget s p).follows hq

lemma follows_enqueue (s : State) (p : PixelId) (pr : Priority) (q : PixelId) :
    s.Follows (s.enqueue p pr).1 q := by
  rw [enqueue]
  cases s.member? p with
  | none => exact .refl s q
  | some m =>
      dsimp only
      split_ifs
      · exact follows_modify (by intros; exact .same rfl rfl) q
      · exact .of_member?_eq rfl
      · have hqueue : s.Follows { s with queue := (s.queue.enqueue p pr).1 } q :=
          .of_member?_eq rfl
        exact hqueue.trans (follows_modify (by intros; exact .same rfl rfl) q)

lemma follows_schedule (s : State) (p : PixelId) (pr : Priority) (q : PixelId) :
    s.Follows (s.schedule p pr).1 q := by
  rw [schedule]
  cases s.member? p with
  | none => exact .refl s q
  | some m =>
      dsimp only
      split_ifs
      · exact .refl s q
      · exact follows_enqueue s p pr q

lemma follows_releaseDfu (s : State) (p q : PixelId) : s.Follows (s.releaseDfu p) q := by
  rw [releaseDfu]
  split_ifs
  · have hright : s.Follows { s with dfuActive := false } q := .of_member?_eq rfl
    exact hright.trans (follows_modify (by intros; exact .same rfl rfl) q)
  · exact .refl s q

/-! ### Requests -/

lemma follows_unregister (s : State) (p : PixelId) (m : Member) (q : PixelId) :
    s.Follows (s.unregister p m).state q := by
  rw [unregister]
  split_ifs
  · exact follows_modify (by intros; exact .same rfl rfl) q
  · have hqueue : s.Follows { s with queue := s.queue.remove p } q := .of_member?_eq rfl
    exact hqueue.trans (follows_forget _ p q)

lemma follows_connect (s : State) (p : PixelId) (m : Member) (pr : Priority) (q : PixelId) :
    s.Follows (s.connect p m pr).2.state q := by
  rw [connect]
  split_ifs
  · exact .refl s q
  · exact follows_schedule s p pr q

lemma follows_program (hm : s.member? p = some m) (d : Program) (pr : Priority) (q : PixelId) :
    s.Follows (s.program p m d pr).2.state q := by
  have hseq : s.Follows { s with lastSeq := s.lastSeq + 1 } q := .of_member?_eq rfl
  rw [program]
  by_cases hd : (!m.inFlight && m.peripheral.isUpToDate d.hash) = true
  · rw [if_pos hd]
    refine follows_modify ?_ q
    intro m' hm'
    cases hm.symm.trans hm'
    exact .same rfl rfl
  · rw [if_neg hd]
    exact (hseq.trans (follows_modify (by intros; exact .same rfl rfl) q)).trans
      (follows_schedule _ p pr q)

lemma follows_updateFirmware (s : State) (p : PixelId) (m : Member) (image : FirmwareImage)
    (force : Bool) (pr : Priority) (q : PixelId) :
    s.Follows (s.updateFirmware p m image force pr).2.state q := by
  have hseq : s.Follows { s with lastSeq := s.lastSeq + 1 } q := .of_member?_eq rfl
  rw [updateFirmware]
  dsimp only
  split_ifs
  · exact .refl s q
  · exact (hseq.trans (follows_modify (by intros; exact .same rfl rfl) q)).trans
      (follows_schedule _ p pr q)

lemma follows_cancel (s : State) (p : PixelId) (m : Member) (q : PixelId) :
    s.Follows (s.cancel p m).state q := by
  have hjobs : s.Follows
      (s.modify p fun m => { m with profileJob := none, firmwareJob := none }) q :=
    follows_modify (by intros; exact .same rfl rfl) q
  rw [cancel]
  split_ifs
  · refine hjobs.trans (Follows.trans ?_ (follows_modify (by intros; exact ⟨rfl, Nat.le_succ _⟩) q))
    exact .of_member?_eq rfl
  · exact hjobs

lemma follows_retry (s : State) (p q : PixelId) : s.Follows (s.retry p).state q :=
  (follows_modify (by intros; exact ⟨rfl, Nat.le_succ _⟩) q).trans (follows_schedule _ p .high q)

/-- The member of a record that is registered. -/
lemma member?_register (s : State) (r : Peripheral) :
    ∃ m', (s.register r).state.member? r.pixel = some m' ∧ m'.peripheral = r
      ∧ ∀ m, s.member? r.pixel = some m → m'.backoffEpoch = m.backoffEpoch := by
  have hget : (s.register r).state.member? r.pixel = some _ :=
    (PixelMap.get?_insert _ _ _ _).trans (if_pos rfl)
  refine ⟨_, hget, ?_, ?_⟩
  · cases s.member? r.pixel <;> rfl
  · intro m hm
    rw [hm]

/-- After a request the member of a die follows what it was before, or its record has been
registered. -/
lemma follows_handled {r : Request} {reply : Reply} {c : Change} (h : s.Handled r reply c)
    (q : PixelId) :
    s.Follows c.state q
      ∨ ∃ record, r = .register record ∧ record.pixel = q
        ∧ c.state = (s.register record).state := by
  cases h with
  | register record =>
      by_cases hq : q = record.pixel
      · exact .inr ⟨record, rfl, hq.symm, rfl⟩
      · exact .inl ((touches_register s record).follows hq)
  | unregister => exact .inl (follows_unregister s _ _ q)
  | connect pr => exact .inl (follows_connect s _ _ pr q)
  | program d pr hm => exact .inl (follows_program hm d pr q)
  | updateFirmware image force pr => exact .inl (follows_updateFirmware s _ _ image force pr q)
  | cancel => exact .inl (follows_cancel s _ _ q)
  | retry => exact .inl (follows_retry s _ q)

/-- A program is answered as up to date when the record of a die without a session tells its data
set. -/
lemma current_of_upToDate {w : World} {d : Program} {pr : Priority}
    (h : (w.request (.program p d pr)).1 = .ok .upToDate) :
    ∃ m, w.state.member? p = some m ∧ m.inFlight = false
      ∧ m.peripheral.profileHash = some d.hash := by
  rw [World.request] at h
  cases hr : w.state.handle (.program p d pr) with
  | error e =>
      rw [hr] at h
      cases h
  | ok result =>
      obtain ⟨reply, change⟩ := result
      rw [hr] at h
      obtain ⟨m, hm, -, hresult⟩ := withHope_eq_ok hr
      have hreply : (w.state.program p m d pr).1 = .upToDate :=
        (congrArg Prod.fst hresult.symm).trans (Except.ok.inj h)
      rw [State.program] at hreply
      by_cases hd : (!m.inFlight && m.peripheral.isUpToDate d.hash) = true
      · simp only [Bool.and_eq_true, Bool.not_eq_true'] at hd
        exact ⟨m, hm, hd.1, of_decide_eq_true hd.2⟩
      · rw [if_neg hd] at hreply
        cases hreply

/-! ### Timers, the dispatcher and sessions -/

lemma follows_backoffOver (s : State) (p : PixelId) (epoch : ℕ) (q : PixelId) :
    s.Follows (s.backoffOver p epoch).state q := by
  rw [backoffOver]
  cases s.member? p with
  | none => exact .refl s q
  | some m =>
      dsimp only
      split_ifs
      · exact follows_enqueue s p .low q
      · exact .refl s q

lemma follows_takeNext {pr : Priority} {c : Change} (h : s.takeNext = some ((p, pr), c))
    (q : PixelId) : s.Follows c.state q := by
  rw [takeNext] at h
  split_ifs at h
  cases hpop : s.queue.popWhere s.isEligible with
  | none =>
      rw [hpop] at h
      cases h
  | some r =>
      rw [hpop] at h
      cases h
      refine Follows.trans ?_ (follows_modify (by intros; exact .same rfl rfl) q)
      exact .of_member?_eq rfl

lemma follows_interrupted (s : State) (p : PixelId) (pr : Priority) (q : PixelId) :
    s.Follows (s.interrupted p pr).state q := by
  have hrelease := follows_releaseDfu s p q
  rw [interrupted]
  cases (s.releaseDfu p).member? p with
  | none => exact hrelease
  | some m =>
      dsimp only
      split_ifs
      · exact hrelease.trans (follows_forget _ p q)
      · exact (hrelease.trans (follows_modify (by intros; exact .same rfl rfl) q)).trans
          (follows_enqueue _ p _ q)

lemma follows_connectFailed (s : State) (c : Config) (p : PixelId) (e : LinkError)
    (q : PixelId) : s.Follows (s.connectFailed c p e).1.state q := by
  have hrelease := follows_releaseDfu s p q
  rw [connectFailed]
  cases hm : (s.releaseDfu p).member? p with
  | none => exact hrelease
  | some m =>
      have hcount {epoch : ℕ} (hle : m.backoffEpoch ≤ epoch) (state : DieState)
          (attempts : UInt32) : (s.releaseDfu p).Follows ((s.releaseDfu p).modify p fun m =>
            { m with inFlight := false, requeueAfter := none, attempts, state,
                     backoffEpoch := epoch }) q := by
        refine follows_modify ?_ q
        intro m' hm'
        cases hm.symm.trans hm'
        exact ⟨rfl, hle⟩
      dsimp only
      split_ifs
      · exact hrelease.trans (follows_forget _ p q)
      · exact hrelease.trans (hcount le_rfl _ _)
      · exact hrelease.trans (hcount (Nat.le_succ _) _ _)

lemma follows_connected (s : State) (p q : PixelId) : s.Follows (s.connected p).state q :=
  follows_modify (by intros; exact .same rfl rfl) q

lemma follows_transferring (s : State) (p : PixelId) (kind : PayloadKind) (q : PixelId) :
    s.Follows (s.transferring p kind).state q :=
  follows_modify (by intros; exact .same rfl rfl) q

end State

/-! ### The end of a session -/

/-- The data set that a report confirms. -/
def Report.hash? (r : Report) : Option UInt32 :=
  r.profile.map (·.1.program.hash)

namespace Member

lemma afterEnqueue_same (m : Member) (l : Option Priority) (pr : Priority) :
    (m.afterEnqueue l pr).1.peripheral = m.peripheral
      ∧ (m.afterEnqueue l pr).1.backoffEpoch = m.backoffEpoch := by
  rw [afterEnqueue]
  split_ifs <;> exact ⟨rfl, rfl⟩

lemma afterSchedule_same (m : Member) (l : Option Priority) (pr : Priority) :
    (m.afterSchedule l pr).1.peripheral = m.peripheral
      ∧ (m.afterSchedule l pr).1.backoffEpoch = m.backoffEpoch := by
  rw [afterSchedule]
  split_ifs
  · exact ⟨rfl, rfl⟩
  · exact m.afterEnqueue_same l pr

/-- What is confirmed is told by the record. -/
lemma profileHash_settled (m : Member) (c : Config) (p : PixelId) (r : Report) :
    (m.settled c p r).peripheral.profileHash
      = r.hash?.or m.peripheral.profileHash := by
  have hconfirm : (m.released.confirm r).peripheral.profileHash
      = r.hash?.or m.peripheral.profileHash := by
    rw [confirm, Report.hash?]
    cases r.profile <;> cases r.firmware <;> rfl
  rw [settled, settle_eq]
  exact hconfirm

lemma epoch_settled (m : Member) (c : Config) (p : PixelId) (r : Report) :
    (m.settled c p r).backoffEpoch = m.backoffEpoch := by
  rw [settled, settle_eq]
  change (m.released.confirm r).backoffEpoch = m.backoffEpoch
  rw [confirm_eq]
  rfl

lemma afterSession_same (m : Member) (l : Option Priority) (c : Config) (p : PixelId)
    (r : Report) : (m.afterSession l c p r).1.peripheral = (m.settled c p r).peripheral
      ∧ (m.afterSession l c p r).1.backoffEpoch = (m.settled c p r).backoffEpoch := by
  rw [afterSession]
  dsimp only
  split_ifs
  · exact ⟨rfl, rfl⟩
  · cases m.nextPriority c p r with
    | none => exact ⟨rfl, rfl⟩
    | some pr => exact afterSchedule_same _ l pr

end Member

/-- The record of a die tells at the end of its session what the session has confirmed, or what
it told before. -/
lemma State.recordedHash?_sessionEnded {s : State} {p : PixelId} {m : Member}
    (h : s.Holds p m none) (c : Config) (r : Report) :
    ∀ x, (s.sessionEnded c p r).state.recordedHash? p = some x →
      r.hash? = some x ∨ r.hash? = none ∧ s.recordedHash? p = some x := by
  intro x hx
  cases hr : m.removed with
  | true =>
      rw [recordedHash?, (h.lacks_sessionEnded c r hr).member] at hx
      cases hx
  | false =>
      rw [recordedHash?, (h.sessionEnded c r hr).member, Option.bind_some,
        (m.afterSession_same none c p r).1, Member.profileHash_settled] at hx
      rw [recordedHash?, h.member, Option.bind_some]
      cases hhash : r.hash? with
      | none =>
          rw [hhash] at hx
          exact .inr ⟨rfl, hx⟩
      | some y =>
          rw [hhash] at hx
          exact .inl hx

end DiceHost.Scheduler
