/-
Members that wait for their next attempt.

* `Member.wait?`, `State.wait?`: the failures of a die that waits for its next attempt, and the
  number of its wait;
* `Request.intervenes`: the requests that may end a wait: those of high priority, and the removal,
  the cancellation and the retry of a die;
* `State.wait?_handled`: a request leaves every wait as it is, or it intervenes and ends the wait
  of its die;
* `State.wait?_takeNext`, …: so do the dispatcher and the sessions, for they are about dice that
  do not wait for an attempt; only a failed connection begins a wait.
-/
import DiceHost.Proofs.Scheduler.Coherence

namespace DiceHost.Scheduler

open Link

/-! ### Waits -/

/-- The wait of a member for its next attempt: its failures and the number of the wait. -/
def Member.wait? (m : Member) : Option (UInt32 × ℕ) :=
  match m.state with
  | .failed attempts false => if m.inFlight then none else some (attempts, m.backoffEpoch)
  | _ => none

namespace Member

variable {m : Member} {l : Option Priority} {pr : Priority}

lemma wait?_of_inFlight (hf : m.inFlight = true) : m.wait? = none := by
  rw [wait?.eq_def]
  split
  · rw [if_pos hf]
  · rfl

lemma wait?_of_isBackingOff (h : m.state.isBackingOff = false) : m.wait? = none := by
  rw [wait?.eq_def]
  split
  · rename_i hst
    rw [hst] at h
    cases h
  · rfl

/-- A member waits for its next attempt exactly when a timer of its number would queue it. -/
lemma wait?_eq_some {a : UInt32} {e : ℕ} :
    m.wait? = some (a, e)
      ↔ m.state = .failed a false ∧ m.inFlight = false ∧ m.backoffEpoch = e := by
  rw [wait?.eq_def]
  split
  · rename_i attempts hst
    rw [hst]
    cases m.inFlight <;> simp
  · rename_i hst
    exact ⟨nofun, fun h => absurd h.1 (hst a)⟩

/-- A member that is made to wait in the queue does not wait for an attempt. -/
lemma wait?_afterEnqueue (m : Member) (l : Option Priority) (pr : Priority) :
    (m.afterEnqueue l pr).1.wait? = none := by
  rw [afterEnqueue]
  split_ifs with hf
  · exact wait?_of_inFlight hf
  · rfl

/-- A request for a session ends a wait only if it is urgent. -/
lemma wait?_afterSchedule (m : Member) (l : Option Priority) (pr : Priority) :
    (m.afterSchedule l pr).1.wait? = m.wait?
      ∨ (m.afterSchedule l pr).1.wait? = none ∧ pr = .high := by
  rw [afterSchedule]
  split_ifs with h
  · exact .inl rfl
  · rw [wait?_afterEnqueue]
    cases pr with
    | high => exact .inr ⟨rfl, rfl⟩
    | low =>
        refine .inl ?_
        cases hf : m.inFlight with
        | true => exact (wait?_of_inFlight hf).symm
        | false =>
            refine (wait?_of_isBackingOff ?_).symm
            simpa [hf] using h

/-- After its session a member is given up, queued or idle. -/
lemma wait?_afterSession (m : Member) (l : Option Priority) (c : Config) (p : PixelId)
    (r : Report) : (m.afterSession l c p r).1.wait? = none := by
  rw [afterSession]
  dsimp only
  split_ifs with hg
  · refine wait?_of_isBackingOff ?_
    cases hst : (m.settled c p r).state with
    | failed n gaveUp =>
        rw [hst] at hg
        cases gaveUp with
        | true => rfl
        | false => cases hg
    | idle | queued | connecting | connected | transferring => rfl
  · cases m.nextPriority c p r with
    | none => rfl
    | some pr =>
        rcases wait?_afterSchedule { m.settled c p r with requeueAfter := none, state := .idle }
          l pr with h | ⟨h, -⟩
        · exact h
        · exact h

/-- A member whose connection failed waits, unless it is given up. -/
lemma wait?_failedMember (c : Config) (m : Member) :
    (State.failedMember c m).wait?
      = if c.maxRetries < m.attempts + 1 then none
        else some (m.attempts + 1, m.backoffEpoch + 1) := by
  by_cases hgive : c.maxRetries < m.attempts + 1 <;> simp [State.failedMember, wait?, hgive]

end Member

namespace State

/-- The wait of a die for its next attempt. -/
def wait? (s : State) (p : PixelId) : Option (UInt32 × ℕ) :=
  (s.member? p).bind Member.wait?

variable {s t : State} {p q : PixelId} {m : Member} {l : Option Priority}

lemma wait?_of_member? (h : t.member? p = s.member? p) : t.wait? p = s.wait? p := by
  rw [wait?, h, wait?]

/-- A change at one die leaves the waits of the others. -/
lemma Touches.wait? (h : Touches s t p) (hq : q ≠ p) : t.wait? q = s.wait? q :=
  wait?_of_member? (h.member q hq)

lemma wait?_eq (hm : s.member? p = some m) : s.wait? p = m.wait? := by
  rw [wait?, hm, Option.bind_some]

lemma Holds.wait? (h : s.Holds p m l) : s.wait? p = m.wait? :=
  wait?_eq h.member

lemma Lacks.wait? (h : s.Lacks p) : s.wait? p = none := by
  rw [State.wait?, h.member, Option.bind_none]

end State

/-! ### Requests -/

/-- Whether a request may end the wait of its die: one of high priority, the removal of the die,
its cancellation and its retry. -/
def Request.intervenes : Request → Bool
  | .register _ => false
  | .unregister _ | .cancel _ | .retry _ => true
  | .connect _ pr | .program _ _ pr | .updateFirmware _ _ _ pr => pr = .high

namespace State

variable {s t : State} {p q : PixelId} {m : Member} {l : Option Priority}

/-- A wait is left as it is, or it ends for a reason. -/
def KeepsWait (s t : State) (p : PixelId) (reason : Prop) : Prop :=
  t.wait? p = s.wait? p ∨ t.wait? p = none ∧ reason

/-- A member that is to have a session waits as before, unless the request is urgent. -/
lemma Holds.keeps_schedule {m' : Member} (h : s.Holds p m l) {pr : Priority}
    (h' : t.Holds p (m'.afterSchedule l pr).1 (m'.afterSchedule l pr).2)
    (hm' : m'.wait? = m.wait?) : s.KeepsWait t p (pr = .high) := by
  rw [KeepsWait, h'.wait?, h.wait?, ← hm']
  exact m'.wait?_afterSchedule l pr

lemma Coherent.wait?_register (hs : s.Coherent) (r : Peripheral) :
    (s.register r).state.wait? r.pixel = s.wait? r.pixel := by
  rcases hs.each r.pixel with hlacks | ⟨m, l, hold, -⟩
  · rw [hlacks.register.wait?, hlacks.wait?]
    rfl
  · rw [hold.register.wait?, hold.wait?]
    rfl

lemma Coherent.keeps_connect (hs : s.Coherent) (hm : s.member? p = some m) (pr : Priority) :
    s.KeepsWait (s.connect p m pr).2.state p (pr = .high) := by
  obtain ⟨l, hold, -⟩ := hs.holds hm
  cases hf : m.inFlight with
  | true =>
      rw [connect_of_inFlight s p pr hf]
      exact .inl rfl
  | false => exact hold.keeps_schedule (hold.connect pr hf) rfl

lemma Coherent.keeps_program (hs : s.Coherent) (hm : s.member? p = some m) (d : Program)
    (pr : Priority) : s.KeepsWait (s.program p m d pr).2.state p (pr = .high) := by
  obtain ⟨l, hold, -⟩ := hs.holds hm
  rcases hold.program d pr with ⟨-, -, hold'⟩ | ⟨hold', -⟩
  · rw [KeepsWait, hold'.wait?, hold.wait?]
    exact .inl rfl
  · exact hold.keeps_schedule hold' rfl

lemma Coherent.keeps_updateFirmware (hs : s.Coherent) (hm : s.member? p = some m)
    (image : FirmwareImage) (force : Bool) (pr : Priority) :
    s.KeepsWait (s.updateFirmware p m image force pr).2.state p (pr = .high) := by
  obtain ⟨l, hold, -⟩ := hs.holds hm
  rcases hold.updateFirmware image force pr with ⟨-, hsame⟩ | ⟨-, hold', -⟩
  · rw [hsame]
    exact .inl rfl
  · exact hold.keeps_schedule hold' rfl

/-- A member that is removed waits no longer, now or at the end of its session. -/
lemma Coherent.wait?_unregister (hs : s.Coherent) (hm : s.member? p = some m) :
    (s.unregister p m).state.wait? p = none := by
  obtain ⟨l, hold, -⟩ := hs.holds hm
  cases hf : m.inFlight with
  | true =>
      rw [(hold.unregister hf).wait?]
      exact Member.wait?_of_inFlight hf
  | false => exact (lacks_unregister s p hf).wait?

lemma Coherent.wait?_cancel (hs : s.Coherent) (hm : s.member? p = some m) :
    (s.cancel p m).state.wait? p = none := by
  obtain ⟨l, hold, -⟩ := hs.holds hm
  rcases hold.cancel with ⟨-, hold'⟩ | ⟨hw, hold'⟩
  · rw [hold'.wait?]
    rfl
  · rw [hold'.wait?]
    refine Member.wait?_of_isBackingOff (m := { m with profileJob := none, firmwareJob := none }) ?_
    cases hst : m.state with
    | failed n gaveUp =>
        rw [hst] at hw
        exact hw
    | idle | queued | connecting | connected | transferring => rfl

lemma Coherent.wait?_retry (hs : s.Coherent) (hm : s.member? p = some m) :
    (s.retry p).state.wait? p = none := by
  obtain ⟨l, hold, -⟩ := hs.holds hm
  rw [hold.retry.wait?]
  rcases Member.wait?_afterSchedule { m with attempts := 0, backoffEpoch := m.backoffEpoch + 1,
                                             state := .idle } l .high with h | ⟨h, -⟩
  · exact h
  · exact h

/-- **A request leaves a wait as it is, or it intervenes and ends the wait of its die.** -/
lemma Coherent.wait?_handled (hs : s.Coherent) {r : Request} {reply : Reply} {c : Change}
    (h : s.Handled r reply c) (q : PixelId) :
    s.KeepsWait c.state q (r.pixel = q ∧ r.intervenes = true) := by
  by_cases hq : q = r.pixel
  · subst hq
    have hhigh {t : State} {pr : Priority} (h : s.KeepsWait t r.pixel (pr = .high)) :
        s.KeepsWait t r.pixel (r.pixel = r.pixel ∧ (decide (pr = .high)) = true) :=
      h.imp_right (And.imp_right fun hpr => ⟨rfl, decide_eq_true hpr⟩)
    cases h with
    | register r => exact .inl (hs.wait?_register r)
    | unregister hm => exact .inr ⟨hs.wait?_unregister hm, rfl, rfl⟩
    | connect pr hm => exact hhigh (hs.keeps_connect hm pr)
    | program d pr hm => exact hhigh (hs.keeps_program hm d pr)
    | updateFirmware image force pr hm =>
        exact hhigh (hs.keeps_updateFirmware hm image force pr)
    | cancel hm => exact .inr ⟨hs.wait?_cancel hm, rfl, rfl⟩
    | retry hm => exact .inr ⟨hs.wait?_retry hm, rfl, rfl⟩
  · exact .inl (h.touches.wait? hq)

/-! ### The dispatcher, sessions and timers -/

/-- The dispatcher takes a die from the queue, which does not wait for an attempt. -/
lemma Coherent.wait?_takeNext (hs : s.Coherent) {pr : Priority} {c : Change}
    (h : s.takeNext = some ((p, pr), c)) (q : PixelId) : c.state.wait? q = s.wait? q := by
  obtain ⟨m, hold, ht, hold'⟩ := takeNext_cases hs.unique h
  by_cases hq : q = p
  · obtain ⟨l, hl, hc⟩ := hs.holds hold.member
    obtain rfl := hl.level.symm.trans hold.level
    have hqueued : m.state.isBackingOff = false := by
      rw [((hc.level_iff pr).mp rfl).2]
      rfl
    rw [hq, hold'.wait?, hold.wait?, Member.wait?_of_isBackingOff hqueued]
    rfl
  · exact ht.wait? hq

/-- A change at a die in a session leaves all waits when the die does not wait after it. -/
lemma wait?_session (ht : Touches s t p) (hm : s.member? p = some m) (hf : m.inFlight = true)
    (hp : t.wait? p = none) (q : PixelId) : t.wait? q = s.wait? q := by
  by_cases hq : q = p
  · rw [hq, hp, wait?_eq hm, Member.wait?_of_inFlight hf]
  · exact ht.wait? hq

lemma Coherent.wait?_connected (hs : s.Coherent) (hm : s.member? p = some m)
    (hf : m.inFlight = true) (q : PixelId) : (s.connected p).state.wait? q = s.wait? q := by
  obtain ⟨hold, -⟩ := hs.holds_inFlight hm hf
  exact wait?_session (touches_connected s p) hm hf hold.connected.wait? q

lemma Coherent.wait?_transferring (hs : s.Coherent) (hm : s.member? p = some m)
    (hf : m.inFlight = true) (kind : PayloadKind) (q : PixelId) :
    (s.transferring p kind).state.wait? q = s.wait? q := by
  obtain ⟨hold, -⟩ := hs.holds_inFlight hm hf
  exact wait?_session (touches_transferring s p kind) hm hf (hold.transferring kind).wait? q

lemma Coherent.wait?_interrupted (hs : s.Coherent) (hm : s.member? p = some m)
    (hf : m.inFlight = true) (pr : Priority) (q : PixelId) :
    (s.interrupted p pr).state.wait? q = s.wait? q := by
  obtain ⟨hold, -⟩ := hs.holds_inFlight hm hf
  refine wait?_session (touches_interrupted s p pr) hm hf ?_ q
  cases hr : m.removed with
  | true => exact (hold.lacks_interrupted pr hr).wait?
  | false => exact (hold.interrupted pr hr).wait?

lemma Coherent.wait?_sessionEnded (hs : s.Coherent) (hm : s.member? p = some m)
    (hf : m.inFlight = true) (c : Config) (r : Report) (q : PixelId) :
    (s.sessionEnded c p r).state.wait? q = s.wait? q := by
  obtain ⟨hold, -⟩ := hs.holds_inFlight hm hf
  refine wait?_session (touches_sessionEnded s c p r) hm hf ?_ q
  cases hr : m.removed with
  | true => exact (hold.lacks_sessionEnded c r hr).wait?
  | false => exact (hold.sessionEnded c r hr).wait?.trans (m.wait?_afterSession none c p r)

/-- A failed connection makes a die wait, and sets the timer for it, or no wait changes and there
is no timer. -/
lemma Coherent.wait?_connectFailed (hs : s.Coherent) (hm : s.member? p = some m)
    (hf : m.inFlight = true) (c : Config) (e : LinkError) :
    ((s.connectFailed c p e).1.state.wait? p = some (m.attempts + 1, m.backoffEpoch + 1)
        ∧ (s.connectFailed c p e).2 = some (c.backoff (m.attempts + 1), m.backoffEpoch + 1))
      ∨ (∀ q, (s.connectFailed c p e).1.state.wait? q = s.wait? q)
        ∧ (s.connectFailed c p e).2 = none := by
  obtain ⟨hold, -⟩ := hs.holds_inFlight hm hf
  have ht := touches_connectFailed s c p e
  have hold₀ := hold.releaseDfu
  cases hr : m.removed with
  | true =>
      refine .inr ⟨wait?_session ht hm hf (hold.lacks_connectFailed c e hr).wait?, ?_⟩
      rw [State.connectFailed, hold₀.member]
      simp only [hr, if_true]
  | false =>
      have hfailed := (hold.connectFailed c e hr).wait?
      rw [Member.wait?_failedMember] at hfailed
      have hresult : (s.connectFailed c p e).2 = if c.maxRetries < m.attempts + 1 then none
          else some (c.backoff (m.attempts + 1), m.backoffEpoch + 1) := by
        rw [State.connectFailed, hold₀.member]
        simp only [hr, Bool.false_eq_true, if_false]
        split_ifs <;> rfl
      split_ifs at hfailed hresult
      · exact .inr ⟨wait?_session ht hm hf hfailed, hresult⟩
      · exact .inl ⟨hfailed, hresult⟩

/-- A timer asks for a session if its die is in the wait of its number. -/
lemma backoffOver_of_wait? {a : UInt32} {e : ℕ} (hw : s.wait? p = some (a, e)) :
    (s.backoffOver p e).state = (s.enqueue p .low).1 := by
  obtain ⟨m, hm, hwait⟩ := Option.bind_eq_some_iff.mp hw
  obtain ⟨hst, hf, he⟩ := Member.wait?_eq_some.mp hwait
  have hpasses : (m.state.isBackingOff && !m.inFlight && m.backoffEpoch = e) = true := by
    simp [hst, hf, he, DieState.isBackingOff]
  rw [backoffOver, hm]
  dsimp only
  rw [if_pos hpasses]

/-- Any other timer does nothing. -/
lemma backoffOver_of_wait?_ne {e : ℕ} (hw : ∀ a, s.wait? p ≠ some (a, e)) :
    (s.backoffOver p e).state = s := by
  rw [backoffOver]
  cases hm : s.member? p with
  | none => rfl
  | some m =>
      dsimp only
      split_ifs with hpasses
      · simp only [Bool.and_eq_true, Bool.not_eq_true', decide_eq_true_eq] at hpasses
        obtain ⟨⟨hst, hf⟩, he⟩ := hpasses
        cases hs : m.state with
        | failed a gaveUp =>
            rw [hs] at hst
            cases gaveUp with
            | true => cases hst
            | false =>
                refine absurd ?_ (hw a)
                rw [wait?_eq hm]
                exact Member.wait?_eq_some.mpr ⟨hs, hf, he⟩
        | idle | queued | connecting | connected | transferring =>
            rw [hs] at hst
            cases hst
      · rfl

/-- A die waits in the queue, and its state tells the level. -/
def IsQueued (s : State) (p : PixelId) (pr : Priority) : Prop :=
  ∃ m, s.Holds p m (some pr) ∧ m.state = .queued pr ∧ m.inFlight = false

/-- A timer queues its die at low priority. -/
lemma Coherent.isQueued_backoffOver (hs : s.Coherent) {a : UInt32} {e : ℕ}
    (hw : s.wait? p = some (a, e)) : (s.backoffOver p e).state.IsQueued p .low := by
  obtain ⟨m, hm, hwait⟩ := Option.bind_eq_some_iff.mp hw
  obtain ⟨hst, hf, -⟩ := Member.wait?_eq_some.mp hwait
  obtain ⟨l, hold, hc⟩ := hs.holds hm
  -- a member that waits for an attempt is not in the queue
  obtain rfl : l = none := by
    cases l with
    | none => rfl
    | some pr =>
        rw [((hc.level_iff pr).mp rfl).2] at hst
        cases hst
  have hqueued : m.afterEnqueue none .low = ({ m with state := .queued .low }, some .low) := by
    rw [Member.afterEnqueue, hf]
    rfl
  have hold' := hold.enqueue .low
  rw [hqueued] at hold'
  rw [backoffOver_of_wait? hw]
  exact ⟨_, hold', rfl, hf⟩

/-- A die in the queue does not wait for an attempt. -/
lemma IsQueued.wait? {pr : Priority} (h : s.IsQueued p pr) : s.wait? p = none := by
  obtain ⟨m, hold, hst, -⟩ := h
  rw [hold.wait?, Member.wait?, hst]

/-- A timer ends the wait of its number, and leaves every other as it is. -/
lemma wait?_backoffOver {e : ℕ}
    (hq : ¬ (q = p ∧ ∃ a, s.wait? p = some (a, e))) :
    (s.backoffOver p e).state.wait? q = s.wait? q := by
  by_cases hp : q = p
  · rw [backoffOver_of_wait?_ne fun a ha => hq ⟨hp, a, ha⟩]
  · exact (touches_backoffOver s p e).wait? hp

/-- Nobody waits at the start. -/
lemma wait?_start (a : AdapterState) (pairings : List Peripheral) (p : PixelId) :
    (State.start a pairings).wait? p = none := by
  cases hm : (State.start a pairings).member? p with
  | none => rw [wait?, hm, Option.bind_none]
  | some m =>
      obtain ⟨r, -, rfl⟩ := List.mem_map.mp (PixelMap.mem_of_get?_ofList hm)
      rw [wait?_eq hm]
      rfl

end State

end DiceHost.Scheduler
