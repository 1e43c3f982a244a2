/-
What requests and turns do to a die.

* `State.Lacks`: a die that is no member and does not wait;
* `State.touches_register`, …, `State.touches_sessionEnded`: each of them changes the state at
  one die only;
* `State.Holds.register`, …, `State.Holds.connectFailed`: where that die stands after it;
* `State.Handled`: the requests that are accepted;
* `Member.afterSession`, `State.Holds.sessionEnded`: a member at the end of its session.
-/
import DiceHost.Proofs.Scheduler.Standing
import DiceHost.Scheduler.Request
import DiceHost.Scheduler.Turn

namespace DiceHost.Scheduler

open Link

namespace State

variable {s : State} {p : PixelId} {m : Member} {l : Option Priority}

/-- A die is no member and does not wait. -/
structure Lacks (s : State) (p : PixelId) : Prop where
  member : s.member? p = none
  level : s.queue.priority? p = none

/-! ### Requests -/

/-- A request about a member is accepted when the member accepts it. -/
lemma withMember_eq_ok {α : Type} {f : Member → Except RequestError α} {a : α}
    (h : s.withMember p f = .ok a) : ∃ m, s.member? p = some m ∧ f m = .ok a := by
  rw [withMember] at h
  cases hm : s.member? p with
  | none =>
      rw [hm] at h
      cases h
  | some m =>
      rw [hm] at h
      exact ⟨m, rfl, h⟩

lemma withHope_eq_ok {α : Type} {f : Member → α} {a : α} (h : s.withHope p f = .ok a) :
    ∃ m, s.member? p = some m ∧ m.state.isGivenUp = false ∧ a = f m := by
  obtain ⟨m, hm, h⟩ := withMember_eq_ok h
  cases hg : m.state.isGivenUp with
  | true =>
      rw [if_pos hg] at h
      cases h
  | false =>
      rw [hg] at h
      cases h
      exact ⟨m, hm, hg, rfl⟩

lemma withResting_eq_ok {α : Type} {f : Member → α} {a : α} (h : s.withResting p f = .ok a) :
    ∃ m, s.member? p = some m ∧ m.inFlight = false ∧ a = f m := by
  obtain ⟨m, hm, h⟩ := withMember_eq_ok h
  cases hf : m.inFlight with
  | true =>
      rw [if_pos hf] at h
      cases h
  | false =>
      rw [hf] at h
      cases h
      exact ⟨m, hm, hf, rfl⟩

lemma touches_register (s : State) (r : Peripheral) :
    Touches s (s.register r).state r.pixel where
  unique := id
  member := fun _ hq => (PixelMap.get?_insert _ _ _ _).trans (if_neg hq)
  level := fun _ _ => rfl
  seq := le_rfl

/-- A new record of a member. -/
lemma Holds.register {r : Peripheral} (h : s.Holds r.pixel m l) :
    (s.register r).state.Holds r.pixel { m with peripheral := r, removed := false } l := by
  refine ⟨?_, h.level⟩
  rw [State.register, h.member]
  exact (PixelMap.get?_insert _ _ _ _).trans (if_pos rfl)

/-- The record of a new member. -/
lemma Lacks.register {r : Peripheral} (h : s.Lacks r.pixel) :
    (s.register r).state.Holds r.pixel { peripheral := r } none := by
  refine ⟨?_, h.level⟩
  rw [State.register, h.member]
  exact (PixelMap.get?_insert _ _ _ _).trans (if_pos rfl)

lemma touches_unregister (s : State) (p : PixelId) (m : Member) :
    Touches s (s.unregister p m).state p := by
  rw [unregister]
  split_ifs
  · exact touches_modify s p _
  · exact (touches_removeQueue s p).trans (touches_forget _ p)

/-- A member in a session is to be forgotten at its end. -/
lemma Holds.unregister (h : s.Holds p m l) (hf : m.inFlight = true) :
    (s.unregister p m).state.Holds p
      { m with removed := true, profileJob := none, firmwareJob := none } l := by
  rw [State.unregister, if_pos hf]
  exact h.modify fun m => { m with removed := true, profileJob := none, firmwareJob := none }

lemma lacks_unregister (s : State) (p : PixelId) (hf : m.inFlight = false) :
    (s.unregister p m).state.Lacks p := by
  rw [unregister, hf]
  exact ⟨member?_forget _ p, (Queue.priority?_remove _ _ _).trans (if_pos rfl)⟩

lemma touches_connect (s : State) (p : PixelId) (m : Member) (pr : Priority) :
    Touches s (s.connect p m pr).2.state p := by
  rw [connect]
  split_ifs
  · exact .refl s p
  · exact touches_schedule s p pr

lemma connect_of_inFlight (s : State) (p : PixelId) (pr : Priority) (hf : m.inFlight = true) :
    (s.connect p m pr).2.state = s := by
  rw [connect, if_pos hf]

lemma Holds.connect (h : s.Holds p m l) (pr : Priority) (hf : m.inFlight = false) :
    (s.connect p m pr).2.state.Holds p (m.afterSchedule l pr).1 (m.afterSchedule l pr).2 := by
  rw [State.connect, hf]
  exact h.schedule pr

lemma touches_program (s : State) (p : PixelId) (m : Member) (d : Program) (pr : Priority) :
    Touches s (s.program p m d pr).2.state p := by
  have hseq : Touches s { s with lastSeq := s.lastSeq + 1 } p :=
    ⟨id, fun _ _ => rfl, fun _ _ => rfl, Nat.le_succ _⟩
  rw [program]
  by_cases hd : (!m.inFlight && m.peripheral.isUpToDate d.hash) = true
  · rw [if_pos hd]
    exact touches_modify s p _
  · rw [if_neg hd]
    exact (hseq.trans (touches_modify _ p _)).trans (touches_schedule _ p pr)

/-- The die holds the data set already, and nothing is to be written; or the data set is to be
written, and the request for it has a number of its own. -/
lemma Holds.program (h : s.Holds p m l) (d : Program) (pr : Priority) :
    (m.inFlight = false ∧ m.peripheral.isUpToDate d.hash = true
        ∧ (s.program p m d pr).2.state.Holds p
          { m with peripheral := { m.peripheral with profile := some d.profile }
                   profileJob := none } l)
      ∨ ((s.program p m d pr).2.state.Holds p
          (({ m with profileJob := some ⟨d, s.lastSeq + 1⟩ } : Member).afterSchedule l pr).1
          (({ m with profileJob := some ⟨d, s.lastSeq + 1⟩ } : Member).afterSchedule l pr).2
        ∧ s.lastSeq < (s.program p m d pr).2.state.lastSeq) := by
  have hjob := Holds.modify (s := { s with lastSeq := s.lastSeq + 1 }) ⟨h.member, h.level⟩
    fun m => { m with profileJob := some ⟨d, s.lastSeq + 1⟩ }
  have hseq := (touches_schedule ({ s with lastSeq := s.lastSeq + 1 }.modify p fun m =>
    { m with profileJob := some ⟨d, s.lastSeq + 1⟩ }) p pr).seq
  rw [State.program]
  by_cases hd : (!m.inFlight && m.peripheral.isUpToDate d.hash) = true
  · rw [if_pos hd]
    simp only [Bool.and_eq_true, Bool.not_eq_true'] at hd
    exact .inl ⟨hd.1, hd.2, h.modify fun m' =>
      { m' with peripheral := { m.peripheral with profile := some d.profile }, profileJob := none }⟩
  · rw [if_neg hd]
    exact .inr ⟨hjob.schedule pr, Nat.lt_of_lt_of_le (Nat.lt_succ_self _) hseq⟩

lemma touches_updateFirmware (s : State) (p : PixelId) (m : Member) (image : FirmwareImage)
    (force : Bool) (pr : Priority) :
    Touches s (s.updateFirmware p m image force pr).2.state p := by
  rw [updateFirmware]
  dsimp only
  split_ifs
  · exact .refl s p
  · have hseq : Touches s { s with lastSeq := s.lastSeq + 1 } p :=
      ⟨id, fun _ _ => rfl, fun _ _ => rfl, Nat.le_succ _⟩
    exact (hseq.trans (touches_modify _ p _)).trans (touches_schedule _ p pr)

/-- Firmware is to be written, and the request for it has a number of its own; or nothing
changes. -/
lemma Holds.updateFirmware (h : s.Holds p m l) (image : FirmwareImage) (force : Bool)
    (pr : Priority) :
    ((∃ a, (s.updateFirmware p m image force pr).1 = .skipped a)
        ∧ (s.updateFirmware p m image force pr).2.state = s)
      ∨ ((s.updateFirmware p m image force pr).1 = .queued
        ∧ (s.updateFirmware p m image force pr).2.state.Holds p
          (({ m with firmwareJob := some ⟨image, s.lastSeq + 1⟩ } : Member).afterSchedule l pr).1
          (({ m with firmwareJob := some ⟨image, s.lastSeq + 1⟩ } : Member).afterSchedule l pr).2
        ∧ s.lastSeq < (s.updateFirmware p m image force pr).2.state.lastSeq) := by
  have hjob := Holds.modify (s := { s with lastSeq := s.lastSeq + 1 }) ⟨h.member, h.level⟩
    fun m => { m with firmwareJob := some ⟨image, s.lastSeq + 1⟩ }
  have hseq := (touches_schedule ({ s with lastSeq := s.lastSeq + 1 }.modify p fun m =>
    { m with firmwareJob := some ⟨image, s.lastSeq + 1⟩ }) p pr).seq
  rw [State.updateFirmware]
  dsimp only
  split_ifs
  · exact .inl ⟨⟨_, rfl⟩, rfl⟩
  · exact .inr ⟨rfl, hjob.schedule pr, Nat.lt_of_lt_of_le (Nat.lt_succ_self _) hseq⟩

lemma touches_cancel (s : State) (p : PixelId) (m : Member) :
    Touches s (s.cancel p m).state p := by
  rw [cancel]
  split_ifs
  · exact ((touches_modify s p _).trans (touches_removeQueue _ p)).trans (touches_modify _ p _)
  · exact touches_modify s p _

/-- The jobs are dropped, and the member waits no longer. -/
lemma Holds.cancel (h : s.Holds p m l) :
    (m.state.isWaiting = true ∧ (s.cancel p m).state.Holds p
        { m with profileJob := none, firmwareJob := none, backoffEpoch := m.backoffEpoch + 1,
                 state := .idle } none)
      ∨ (m.state.isWaiting = false ∧ (s.cancel p m).state.Holds p
        { m with profileJob := none, firmwareJob := none } l) := by
  have hjobs := h.modify fun m => { m with profileJob := none, firmwareJob := none }
  rw [State.cancel]
  by_cases hw : m.state.isWaiting = true
  · rw [if_pos hw]
    have hleft := (Queue.priority?_remove s.queue p p).trans (if_pos rfl)
    exact .inl ⟨hw, Holds.modify (s := { s.modify p _ with queue := s.queue.remove p })
      ⟨hjobs.member, hleft⟩ fun m => { m with backoffEpoch := m.backoffEpoch + 1, state := .idle }⟩
  · rw [if_neg hw]
    exact .inr ⟨Bool.not_eq_true _ ▸ hw, hjobs⟩

lemma touches_retry (s : State) (p : PixelId) : Touches s (s.retry p).state p :=
  (touches_modify s p _).trans (touches_schedule _ p .high)

lemma Holds.retry (h : s.Holds p m l) :
    (s.retry p).state.Holds p
      (({ m with attempts := 0, backoffEpoch := m.backoffEpoch + 1, state := .idle }
        : Member).afterSchedule l .high).1
      (({ m with attempts := 0, backoffEpoch := m.backoffEpoch + 1, state := .idle }
        : Member).afterSchedule l .high).2 :=
  (h.modify fun m =>
    { m with attempts := 0, backoffEpoch := m.backoffEpoch + 1, state := .idle }).schedule .high

end State

/-! ### Requests that are accepted -/

/-- The die that a request is about. -/
def Request.pixel : Request → PixelId
  | .register r => r.pixel
  | .unregister p | .connect p _ | .program p _ _ | .updateFirmware p _ _ _ | .cancel p
  | .retry p => p

/-- A request that is accepted, with its answer and what it changes: all but the registration of
a die are about a member, and two about one that is not in a session. -/
inductive State.Handled (s : State) : Request → Reply → Change → Prop
  | register (r : Peripheral) : Handled s (.register r) .done (s.register r)
  | unregister {p : PixelId} {m : Member} (hm : s.member? p = some m) :
      Handled s (.unregister p) (.forgotten m.peripheral) (s.unregister p m)
  | connect {p : PixelId} {m : Member} (pr : Priority) (hm : s.member? p = some m) :
      Handled s (.connect p pr) (s.connect p m pr).1 (s.connect p m pr).2
  | program {p : PixelId} {m : Member} (d : Program) (pr : Priority)
      (hm : s.member? p = some m) :
      Handled s (.program p d pr) (s.program p m d pr).1 (s.program p m d pr).2
  | updateFirmware {p : PixelId} {m : Member} (image : FirmwareImage) (force : Bool)
      (pr : Priority) (hm : s.member? p = some m) :
      Handled s (.updateFirmware p image force pr) (s.updateFirmware p m image force pr).1
        (s.updateFirmware p m image force pr).2
  | cancel {p : PixelId} {m : Member} (hm : s.member? p = some m) (hf : m.inFlight = false) :
      Handled s (.cancel p) .done (s.cancel p m)
  | retry {p : PixelId} {m : Member} (hm : s.member? p = some m) (hf : m.inFlight = false) :
      Handled s (.retry p) .done (s.retry p)

namespace State

variable {s : State} {p : PixelId} {r : Request} {reply : Reply} {c : Change}

/-- A request that is answered is accepted. -/
lemma handled (hr : s.handle r = .ok (reply, c)) : s.Handled r reply c := by
  cases r with
  | register record =>
      cases hr
      exact .register record
  | unregister p =>
      obtain ⟨m, hm, hr⟩ := withMember_eq_ok hr
      cases hr
      exact .unregister hm
  | connect p pr =>
      obtain ⟨m, hm, -, hr⟩ := withHope_eq_ok hr
      obtain ⟨rfl, rfl⟩ := Prod.mk.inj hr
      exact .connect pr hm
  | program p d pr =>
      obtain ⟨m, hm, -, hr⟩ := withHope_eq_ok hr
      obtain ⟨rfl, rfl⟩ := Prod.mk.inj hr
      exact .program d pr hm
  | updateFirmware p image force pr =>
      obtain ⟨m, hm, -, hr⟩ := withHope_eq_ok hr
      obtain ⟨rfl, rfl⟩ := Prod.mk.inj hr
      exact .updateFirmware image force pr hm
  | cancel p =>
      obtain ⟨m, hm, hf, hr⟩ := withResting_eq_ok hr
      cases hr
      exact .cancel hm hf
  | retry p =>
      obtain ⟨m, hm, hf, hr⟩ := withResting_eq_ok hr
      cases hr
      exact .retry hm hf

namespace Handled

/-- A request is about a member, or it registers a die. -/
lemma about (h : s.Handled r reply c) :
    (∃ record, r = .register record) ∨ ∃ m, s.member? r.pixel = some m := by
  cases h with
  | register record => exact .inl ⟨record, rfl⟩
  | unregister hm | connect _ hm | program _ _ hm | updateFirmware _ _ _ hm | cancel hm
  | retry hm => exact .inr ⟨_, hm⟩

/-- A request changes the state at its die only. -/
lemma touches (h : s.Handled r reply c) : Touches s c.state r.pixel := by
  cases h with
  | register record => exact touches_register s record
  | unregister => exact touches_unregister s _ _
  | connect pr => exact touches_connect s _ _ pr
  | program d pr => exact touches_program s _ _ d pr
  | updateFirmware image force pr => exact touches_updateFirmware s _ _ image force pr
  | cancel => exact touches_cancel s _ _
  | retry => exact touches_retry s _

end Handled

end State

/-! ### Connection attempts -/

/-- The priority at which an interrupted member waits again. -/
def Member.priorityAfter (m : Member) (pr : Priority) : Priority :=
  m.requeueAfter.elim pr (·.max pr)

namespace State

variable {s : State} {p : PixelId} {m : Member} {l : Option Priority}

lemma touches_interrupted (s : State) (p : PixelId) (pr : Priority) :
    Touches s (s.interrupted p pr).state p := by
  have hrelease := touches_releaseDfu s p
  rw [interrupted]
  cases (s.releaseDfu p).member? p with
  | none => exact hrelease
  | some m =>
      dsimp only
      split_ifs
      · exact hrelease.trans (touches_forget _ p)
      · exact (hrelease.trans (touches_modify _ p _)).trans (touches_enqueue _ p _)

/-- A member whose connection was interrupted is queued again. -/
lemma Holds.interrupted (h : s.Holds p m l) (pr : Priority) (hr : m.removed = false) :
    (s.interrupted p pr).state.Holds p
      { m with
        dfuReserved := false
        inFlight := false
        requeueAfter := none
        state := .queued (l.elim (m.priorityAfter pr) (·.max (m.priorityAfter pr))) }
      (some (l.elim (m.priorityAfter pr) (·.max (m.priorityAfter pr)))) := by
  have hidle := h.releaseDfu.modify fun m =>
    { m with inFlight := false, requeueAfter := none, state := .idle }
  have hqueued := hidle.enqueue (m.priorityAfter pr)
  have hr' : ¬ ({ m with dfuReserved := false } : Member).removed = true := by simp [hr]
  rw [State.interrupted, h.releaseDfu.member]
  dsimp only
  rw [if_neg hr']
  exact hqueued

lemma touches_connectFailed (s : State) (c : Config) (p : PixelId) (e : LinkError) :
    Touches s (s.connectFailed c p e).1.state p := by
  have hrelease := touches_releaseDfu s p
  rw [connectFailed]
  cases (s.releaseDfu p).member? p with
  | none => exact hrelease
  | some m =>
      dsimp only
      split_ifs
      · exact hrelease.trans (touches_forget _ p)
      · exact hrelease.trans (touches_modify _ p _)
      · exact hrelease.trans (touches_modify _ p _)

/-- A member after the failure of a connection. -/
def failedMember (c : Config) (m : Member) : Member :=
  { m with
    dfuReserved := false
    inFlight := false
    requeueAfter := none
    attempts := m.attempts + 1
    state := .failed (m.attempts + 1) (c.maxRetries < m.attempts + 1)
    backoffEpoch := if c.maxRetries < m.attempts + 1 then m.backoffEpoch else m.backoffEpoch + 1 }

/-- A member whose connection failed waits for its next attempt or is given up. -/
lemma Holds.connectFailed (h : s.Holds p m l) (c : Config) (e : LinkError)
    (hr : m.removed = false) :
    (s.connectFailed c p e).1.state.Holds p (failedMember c m) l := by
  have hr' : ¬ ({ m with dfuReserved := false } : Member).removed = true := by simp [hr]
  rw [State.connectFailed, h.releaseDfu.member]
  dsimp only
  rw [if_neg hr']
  exact h.releaseDfu.modify fun n =>
    { n with
      inFlight := false
      requeueAfter := none
      attempts := m.attempts + 1
      state := .failed (m.attempts + 1) (c.maxRetries < m.attempts + 1)
      backoffEpoch := if c.maxRetries < m.attempts + 1 then m.backoffEpoch else m.backoffEpoch + 1 }

/-- A member that is to be forgotten is forgotten when its connection is interrupted. -/
lemma Holds.lacks_interrupted (h : s.Holds p m none) (pr : Priority) (hr : m.removed = true) :
    (s.interrupted p pr).state.Lacks p := by
  have hr' : ({ m with dfuReserved := false } : Member).removed = true := hr
  rw [State.interrupted, h.releaseDfu.member]
  dsimp only
  rw [if_pos hr']
  exact ⟨member?_forget _ p, h.releaseDfu.level⟩

/-- A member that is to be forgotten is forgotten when its connection fails. -/
lemma Holds.lacks_connectFailed (h : s.Holds p m none) (c : Config) (e : LinkError)
    (hr : m.removed = true) : (s.connectFailed c p e).1.state.Lacks p := by
  have hr' : ({ m with dfuReserved := false } : Member).removed = true := hr
  rw [State.connectFailed, h.releaseDfu.member]
  dsimp only
  rw [if_pos hr']
  exact ⟨member?_forget _ p, h.releaseDfu.level⟩

lemma touches_backoffOver (s : State) (p : PixelId) (epoch : ℕ) :
    Touches s (s.backoffOver p epoch).state p := by
  rw [backoffOver]
  cases s.member? p with
  | none => exact .refl s p
  | some m =>
      dsimp only
      split_ifs
      · exact touches_enqueue s p .low
      · exact .refl s p

/-- A timer queues a member that waits for it, and does nothing to any other. -/
lemma Holds.backoffOver (h : s.Holds p m l) (epoch : ℕ) :
    (m.state.isBackingOff = true ∧ m.inFlight = false ∧ m.backoffEpoch = epoch
        ∧ (s.backoffOver p epoch).state.Holds p (m.afterEnqueue l .low).1 (m.afterEnqueue l .low).2)
      ∨ (s.backoffOver p epoch).state = s := by
  rw [State.backoffOver, h.member]
  dsimp only
  by_cases hw : (m.state.isBackingOff && !m.inFlight && m.backoffEpoch = epoch) = true
  · rw [if_pos hw]
    simp only [Bool.and_eq_true, Bool.not_eq_true', decide_eq_true_eq] at hw
    exact .inl ⟨hw.1.1, hw.1.2, hw.2, h.enqueue .low⟩
  · rw [if_neg hw]
    exact .inr rfl

/-- A timer leaves a member as it is that is in a session or backs off from nothing. -/
lemma Holds.spared_backoffOver (h : s.Holds p m l)
    (hm : m.inFlight = true ∨ m.state.isBackingOff = false) (q : PixelId) (epoch : ℕ) :
    (s.backoffOver q epoch).state.Holds p m l := by
  by_cases hq : p = q
  swap
  · exact (touches_backoffOver s q epoch).holds hq h
  subst hq
  rcases h.backoffOver epoch with ⟨hb, hf, -⟩ | hsame
  · rw [hb, hf] at hm
    rcases hm with hm | hm <;> cases hm
  · rw [hsame]
    exact h

end State

/-! ### Sessions -/

namespace State

variable {s : State} {p : PixelId} {m : Member} {l : Option Priority}

lemma touches_connected (s : State) (p : PixelId) : Touches s (s.connected p).state p :=
  touches_modify s p _

lemma Holds.connected (h : s.Holds p m l) :
    (s.connected p).state.Holds p { m with state := .connected } l :=
  h.modify fun m => { m with state := .connected }

lemma touches_transferring (s : State) (p : PixelId) (kind : PayloadKind) :
    Touches s (s.transferring p kind).state p :=
  touches_modify s p _

lemma Holds.transferring (h : s.Holds p m l) (kind : PayloadKind) :
    (s.transferring p kind).state.Holds p { m with state := .transferring kind } l :=
  h.modify fun m => { m with state := .transferring kind }

end State

/-- A member whose session is over. -/
def Member.released (m : Member) : Member :=
  { m with dfuReserved := false, inFlight := false }

/-- A member with the end of its session recorded: what the die has confirmed, and what
follows from a failure. -/
def Member.settled (m : Member) (c : Config) (p : PixelId) (r : Report) : Member :=
  ((m.released.confirm r).settle c p r.error).1

namespace Member

/-- What the die has confirmed is a matter of the record and of the jobs. -/
lemma confirm_eq (m : Member) (r : Report) :
    m.confirm r = { m with
      peripheral := (m.confirm r).peripheral
      profileJob := (m.confirm r).profileJob
      firmwareJob := (m.confirm r).firmwareJob } := by
  rw [confirm]
  cases r.profile <;> cases r.firmware <;> rfl

/-- What follows from a failure is a matter of the state, of the failures and of the jobs. -/
lemma settle_eq (m : Member) (c : Config) (p : PixelId) (e : Option (PayloadKind × TransferError)) :
    (m.settle c p e).1 = { m with
      state := (m.settle c p e).1.state
      attempts := (m.settle c p e).1.attempts
      profileJob := (m.settle c p e).1.profileJob
      firmwareJob := (m.settle c p e).1.firmwareJob } := by
  rw [settle.eq_def]
  cases e with
  | none => rfl
  | some e =>
      obtain ⟨kind, e⟩ := e
      dsimp only
      split_ifs
      · rfl
      · rfl
      · cases kind <;> rfl

variable (m : Member) (c : Config) (p : PixelId) (r : Report)

lemma settled_removed : (m.settled c p r).removed = m.removed := by
  rw [settled, settle_eq]
  change (m.released.confirm r).removed = m.removed
  rw [confirm_eq]
  rfl

lemma settled_inFlight : (m.settled c p r).inFlight = false := by
  rw [settled, settle_eq]
  change (m.released.confirm r).inFlight = false
  rw [confirm_eq]
  rfl

/-- A member is given up at the end of its session, or its state is left as it was. -/
lemma settled_state : (m.settled c p r).state = m.state
    ∨ (m.settled c p r).state = .failed (m.settled c p r).attempts true := by
  have hconfirm : (m.released.confirm r).state = m.state := by
    rw [confirm_eq]
    rfl
  rw [settled, settle.eq_def]
  cases r.error with
  | none => exact .inl hconfirm
  | some e =>
      obtain ⟨kind, e⟩ := e
      dsimp only
      split_ifs
      · exact .inr rfl
      · exact .inl hconfirm
      · cases kind <;> exact .inl hconfirm

end Member

/-- The priority at which a member is queued again after its session. -/
def Member.nextPriority (m : Member) (c : Config) (p : PixelId) (r : Report) : Option Priority :=
  let n := m.settled c p r
  strongest ((m.released.confirm r).settle c p r.error).2.2
    (if n.hasJobs then some (n.requeueAfter.getD .low) else n.requeueAfter)

/-- Where a member stands after its session, unless it is to be forgotten. -/
def Member.afterSession (m : Member) (l : Option Priority) (c : Config) (p : PixelId)
    (r : Report) : Member × Option Priority :=
  let n := m.settled c p r
  if n.state.isGivenUp then (n, l)
  else
    let n := { n with requeueAfter := none, state := .idle }
    match m.nextPriority c p r with
    | some pr => n.afterSchedule l pr
    | none => (n, l)

namespace State

variable {s : State} {p : PixelId} {m : Member} {l : Option Priority}

lemma touches_sessionEnded (s : State) (c : Config) (p : PixelId) (r : Report) :
    Touches s (s.sessionEnded c p r).state p := by
  have hrelease := touches_releaseDfu s p
  rw [sessionEnded]
  cases (s.releaseDfu p).member? p with
  | none => exact hrelease
  | some m =>
      have hmodify (f : Member → Member) := hrelease.trans (touches_modify _ p f)
      dsimp only
      by_cases hr : (({ m with inFlight := false } : Member).confirm r
          |>.settle c p r.error).1.removed = true
      · rw [if_pos hr]
        exact (hmodify _).trans (touches_forget _ p)
      · rw [if_neg hr]
        by_cases hg : (({ m with inFlight := false } : Member).confirm r
            |>.settle c p r.error).1.state.isGivenUp = true
        · rw [if_pos hg]
          exact hmodify _
        · rw [if_neg hg]
          split
          · exact ((hmodify _).trans (touches_modify _ p _)).trans (touches_schedule _ p _)
          · exact (hmodify _).trans (touches_modify _ p _)

lemma Holds.lacks_sessionEnded (h : s.Holds p m none) (c : Config) (r : Report)
    (hr : m.removed = true) : (s.sessionEnded c p r).state.Lacks p := by
  have hr' : (m.settled c p r).removed = true := (m.settled_removed c p r).trans hr
  rw [State.sessionEnded, h.releaseDfu.member]
  dsimp only
  rw [Member.settled, Member.released] at hr'
  rw [if_pos hr']
  exact ⟨member?_forget _ p, h.releaseDfu.level⟩

lemma Holds.sessionEnded (h : s.Holds p m l) (c : Config) (r : Report) (hr : m.removed = false) :
    (s.sessionEnded c p r).state.Holds p (m.afterSession l c p r).1 (m.afterSession l c p r).2 := by
  have hr' : ¬ (m.settled c p r).removed = true := by simp [m.settled_removed, hr]
  have hsettled := h.releaseDfu.modify fun _ => m.settled c p r
  rw [State.sessionEnded, h.releaseDfu.member, Member.afterSession]
  dsimp only
  rw [Member.settled, Member.released] at hr'
  rw [if_neg hr']
  by_cases hg : (m.settled c p r).state.isGivenUp = true
  · rw [if_pos hg]
    rw [Member.settled, Member.released] at hg
    rw [if_pos hg]
    exact hsettled
  · rw [if_neg hg]
    rw [Member.settled, Member.released] at hg
    rw [if_neg hg]
    have hidle := hsettled.modify fun n => { n with requeueAfter := none, state := .idle }
    cases hn : m.nextPriority c p r with
    | none =>
        rw [Member.nextPriority, Member.settled, Member.released] at hn
        simp only [hn]
        exact hidle
    | some pr =>
        rw [Member.nextPriority, Member.settled, Member.released] at hn
        simp only [hn]
        exact hidle.schedule pr

end State

end DiceHost.Scheduler
