/-
State, queue and marks of a die agree.

* `Member.Consistent`: the state of a member goes with its level, its session and its failures;
* `Member.Coherent`: it is consistent and something to be written is waited for;
* `State.Coherent`: no die waits twice, every member is coherent, and no other die waits;
* `State.Coherent.handled`, `State.Coherent.takeNext`, `State.Coherent.sessionEnded` and their
  kin: **whatever touches the state keeps it coherent**.
-/
import DiceHost.Proofs.PixelMap
import DiceHost.Proofs.Scheduler.Effects

namespace DiceHost.Scheduler

open Link

/-- A die has a session. -/
def DieState.isActive : DieState → Bool
  | connecting | connected | transferring _ => true
  | _ => false

/-! ### Members -/

/-- The state of a member goes with its level in the queue, with its session, and with the
number of its failures; only a session keeps a member that is to be forgotten. -/
structure Member.Consistent (m : Member) (l : Option Priority) : Prop where
  level_iff : ∀ pr, l = some pr ↔ m.inFlight = false ∧ m.state = .queued pr
  active_iff : m.inFlight = true ↔ m.state.isActive = true
  attempts : ∀ n gaveUp, m.state = .failed n gaveUp → m.attempts = n
  removed : m.removed = true → m.inFlight = true

/-- A member that has something to be written, and no session, waits for one or has failed. -/
structure Member.Coherent (m : Member) (l : Option Priority) : Prop
    extends Member.Consistent m l where
  waits : m.inFlight = false → m.hasJobs = true →
    (∃ pr, m.state = .queued pr) ∨ ∃ n gaveUp, m.state = .failed n gaveUp

namespace Member

variable {m : Member} {l : Option Priority} {pr : Priority}

/-- A member in a session is at no level. -/
lemma Consistent.level_eq_none (h : m.Consistent l) (hf : m.inFlight = true) : l = none := by
  cases l with
  | none => rfl
  | some pr =>
      obtain ⟨hf', -⟩ := (h.level_iff pr).mp rfl
      rw [hf] at hf'
      cases hf'

lemma Consistent.removed_eq_false (h : m.Consistent l) (hf : m.inFlight = false) :
    m.removed = false := by
  cases hr : m.removed with
  | false => rfl
  | true =>
      rw [h.removed hr] at hf
      cases hf

/-- A member in a session is coherent when it is consistent. -/
lemma Consistent.coherent_of_inFlight (h : m.Consistent l) (hf : m.inFlight = true) :
    m.Coherent l where
  toConsistent := h
  waits := by
    intro hf'
    rw [hf] at hf'
    cases hf'

/-- A member in a session, by its state. -/
lemma coherent_of_isActive (hf : m.inFlight = true) (ha : m.state.isActive = true) :
    m.Coherent none := by
  refine Consistent.coherent_of_inFlight ⟨?_, ?_, ?_, fun _ => hf⟩ hf
  · intro pr
    constructor
    · intro h
      cases h
    · rintro ⟨hf', -⟩
      rw [hf] at hf'
      cases hf'
  · exact ⟨fun _ => ha, fun _ => hf⟩
  · intro n gaveUp hst
    rw [hst] at ha
    cases ha

/-- A member without a session, by its state and its level. -/
lemma consistent_of_resting (hf : m.inFlight = false) (hr : m.removed = false)
    (ha : m.state.isActive = false) (hl : ∀ pr, l = some pr ↔ m.state = .queued pr)
    (hn : ∀ n gaveUp, m.state = .failed n gaveUp → m.attempts = n) : m.Consistent l where
  level_iff := fun pr => (hl pr).trans ⟨fun h => ⟨hf, h⟩, fun h => h.2⟩
  active_iff := by
    rw [hf, ha]
  attempts := hn
  removed := by
    intro h
    rw [hr] at h
    cases h

/-- A member that waits in the queue. -/
lemma coherent_of_queued (hf : m.inFlight = false) (hr : m.removed = false)
    (hst : m.state = .queued pr) : m.Coherent (some pr) := by
  refine ⟨consistent_of_resting hf hr (by rw [hst]; rfl) ?_ ?_, fun _ _ => .inl ⟨pr, hst⟩⟩
  · intro pr'
    rw [hst, Option.some_inj, DieState.queued.injEq]
  · intro n gaveUp h
    rw [hst] at h
    cases h

/-- A member that has failed. -/
lemma coherent_of_failed {gaveUp : Bool} (hf : m.inFlight = false) (hr : m.removed = false)
    (hst : m.state = .failed m.attempts gaveUp) : m.Coherent none := by
  refine ⟨consistent_of_resting hf hr (by rw [hst]; rfl) ?_ ?_, fun _ _ => .inr ⟨_, _, hst⟩⟩
  · intro pr
    rw [hst]
    exact ⟨nofun, nofun⟩
  · intro n gaveUp' h
    rw [hst] at h
    cases h
    rfl

/-- A member that waits for nothing. -/
lemma consistent_of_idle (hf : m.inFlight = false) (hr : m.removed = false)
    (hst : m.state = .idle) : m.Consistent none := by
  refine consistent_of_resting hf hr (by rw [hst]; rfl) ?_ ?_
  · intro pr
    rw [hst]
    exact ⟨nofun, nofun⟩
  · intro n gaveUp h
    rw [hst] at h
    cases h

lemma afterEnqueue_inFlight (m : Member) (l : Option Priority) (pr : Priority) :
    (m.afterEnqueue l pr).1.inFlight = m.inFlight := by
  rw [Member.afterEnqueue]
  split_ifs <;> rfl

lemma afterSchedule_inFlight (m : Member) (l : Option Priority) (pr : Priority) :
    (m.afterSchedule l pr).1.inFlight = m.inFlight := by
  rw [Member.afterSchedule]
  split_ifs
  · rfl
  · exact m.afterEnqueue_inFlight l pr

/-- A member that is made to wait becomes coherent. -/
lemma Consistent.afterEnqueue (h : m.Consistent l) (pr : Priority) :
    (m.afterEnqueue l pr).1.Coherent (m.afterEnqueue l pr).2 := by
  rw [Member.afterEnqueue]
  by_cases hf : m.inFlight = true
  · rw [if_pos hf]
    exact Consistent.coherent_of_inFlight ⟨h.level_iff, h.active_iff, h.attempts, h.removed⟩ hf
  · rw [if_neg hf]
    rw [Bool.not_eq_true] at hf
    exact coherent_of_queued hf (h.removed_eq_false hf) rfl

/-- A member that is to have a session becomes coherent. -/
lemma Consistent.afterSchedule (h : m.Consistent l) (pr : Priority) :
    (m.afterSchedule l pr).1.Coherent (m.afterSchedule l pr).2 := by
  rw [Member.afterSchedule]
  by_cases hb : (m.state.isBackingOff && pr = .low && !m.inFlight) = true
  · rw [if_pos hb]
    refine ⟨h, fun _ _ => .inr ?_⟩
    simp only [Bool.and_eq_true] at hb
    cases hst : m.state with
    | failed n gaveUp => exact ⟨n, gaveUp, rfl⟩
    | idle | queued | connecting | connected | transferring =>
        rw [hst] at hb
        cases hb.1.1
  · rw [if_neg hb]
    exact h.afterEnqueue pr

/-- A member is coherent after its session. -/
lemma Coherent.afterSession (h : m.Coherent l) (hf : m.inFlight = true) (hr : m.removed = false)
    (c : Config) (p : PixelId) (r : Report) :
    (m.afterSession none c p r).1.Coherent (m.afterSession none c p r).2 := by
  have hf' := m.settled_inFlight c p r
  have hr' := (m.settled_removed c p r).trans hr
  rw [Member.afterSession]
  by_cases hg : (m.settled c p r).state.isGivenUp = true
  · rw [if_pos hg]
    refine coherent_of_failed hf' hr' ((m.settled_state c p r).resolve_left ?_)
    -- a member in a session has not failed yet
    intro hst
    have hactive := h.active_iff.mp hf
    rw [hst] at hg
    cases hm : m.state with
    | failed n gaveUp =>
        rw [hm] at hactive
        cases hactive
    | idle | queued | connecting | connected | transferring =>
        rw [hm] at hg
        cases hg
  · rw [if_neg hg]
    have hidle : ({ m.settled c p r with requeueAfter := none, state := .idle }
        : Member).Consistent none := consistent_of_idle hf' hr' rfl
    cases hn : m.nextPriority c p r with
    | some pr => exact hidle.afterSchedule pr
    | none =>
        refine ⟨hidle, fun _ hjobs => ?_⟩
        -- something to be written would have had a priority
        have hjobs' : (m.settled c p r).hasJobs = true := hjobs
        rw [nextPriority, hjobs', if_pos rfl] at hn
        cases hfirst : ((m.released.confirm r).settle c p r.error).2.2 with
        | none =>
            rw [hfirst] at hn
            cases hn
        | some pr =>
            rw [hfirst] at hn
            cases hn

end Member

/-! ### States -/

/-- No die waits twice, every member is coherent, and only members wait. -/
structure State.Coherent (s : State) : Prop where
  unique : s.queue.Unique
  each : ∀ p, s.Lacks p ∨ ∃ m l, s.Holds p m l ∧ m.Coherent l

namespace State

variable {s t : State} {p : PixelId} {m : Member} {l : Option Priority}

namespace Coherent

/-- The member of a die is coherent. -/
lemma holds (h : s.Coherent) (hm : s.member? p = some m) :
    ∃ l, s.Holds p m l ∧ m.Coherent l := by
  rcases h.each p with hp | ⟨m', l, hold, hc⟩
  · rw [hp.member] at hm
    cases hm
  · rw [hold.member, Option.some_inj] at hm
    exact ⟨l, hm ▸ hold, hm ▸ hc⟩

lemma lacks (h : s.Coherent) (hm : s.member? p = none) : s.Lacks p := by
  rcases h.each p with hp | ⟨m', l, hold, hc⟩
  · exact hp
  · rw [hold.member] at hm
    cases hm

/-- A member in a session is at no level. -/
lemma holds_inFlight (h : s.Coherent) (hm : s.member? p = some m) (hf : m.inFlight = true) :
    s.Holds p m none ∧ m.Coherent none := by
  obtain ⟨l, hold, hc⟩ := h.holds hm
  obtain rfl := hc.level_eq_none hf
  exact ⟨hold, hc⟩

/-- A change at one die keeps the state coherent when it does so there. -/
lemma of_touches (h : s.Coherent) (ht : Touches s t p)
    (hp : t.Lacks p ∨ ∃ m l, t.Holds p m l ∧ m.Coherent l) : t.Coherent where
  unique := ht.unique h.unique
  each := by
    intro q
    by_cases hq : q = p
    · exact hq ▸ hp
    · rcases h.each q with hlacks | ⟨m, l, hold, hc⟩
      · exact .inl ⟨(ht.member q hq).trans hlacks.member, (ht.level q hq).trans hlacks.level⟩
      · exact .inr ⟨m, l, ht.holds hq hold, hc⟩

end Coherent

/-! ### Changes outside of sessions -/

/-- A change keeps the state coherent and leaves the dice in their sessions. -/
structure Calm (s t : State) : Prop where
  coherent : t.Coherent
  inFlight : ∀ p m, s.member? p = some m → m.inFlight = true →
    ∃ m', t.member? p = some m' ∧ m'.inFlight = true

namespace Calm

lemma refl (h : s.Coherent) : Calm s s :=
  ⟨h, fun _ m hm hf => ⟨m, hm, hf⟩⟩

/-- A change at one die is calm when it is so there. -/
lemma of_touches (h : s.Coherent) (ht : Touches s t p)
    (hp : t.Lacks p ∨ ∃ m l, t.Holds p m l ∧ m.Coherent l)
    (hf : ∀ m, s.member? p = some m → m.inFlight = true →
      ∃ m', t.member? p = some m' ∧ m'.inFlight = true) : Calm s t where
  coherent := h.of_touches ht hp
  inFlight := by
    intro q m hm hq
    by_cases hqp : q = p
    · subst hqp
      exact hf m hm hq
    · exact ⟨m, (ht.member q hqp).trans hm, hq⟩

/-- The same for a die that is a member before and after. -/
lemma of_holds {m' : Member} {l' : Option Priority} (h : s.Coherent) (ht : Touches s t p)
    (hm : s.member? p = some m) (hold : t.Holds p m' l') (hc : m'.Coherent l')
    (hf : m'.inFlight = m.inFlight) : Calm s t := by
  refine of_touches h ht (.inr ⟨m', l', hold, hc⟩) ?_
  intro n hn hn'
  rw [hm, Option.some_inj] at hn
  exact ⟨m', hold.member, hf.trans (hn ▸ hn')⟩

end Calm

lemma Coherent.register (h : s.Coherent) (r : Peripheral) : Calm s (s.register r).state := by
  have ht := touches_register s r
  cases hm : s.member? r.pixel with
  | none =>
      refine Calm.of_touches h ht (.inr ⟨_, _, (h.lacks hm).register, ?_⟩) ?_
      · exact ⟨Member.consistent_of_idle rfl rfl rfl, nofun⟩
      · intro m hm'
        rw [hm] at hm'
        cases hm'
  | some m =>
      obtain ⟨l, hold, hc⟩ := h.holds hm
      refine Calm.of_holds h ht hm hold.register ⟨⟨hc.level_iff, hc.active_iff, hc.attempts, ?_⟩,
        hc.waits⟩ rfl
      intro hr
      cases hr

lemma Coherent.unregister (h : s.Coherent) (hm : s.member? p = some m) :
    Calm s (s.unregister p m).state := by
  have ht := touches_unregister s p m
  cases hf : m.inFlight with
  | true =>
      obtain ⟨hold, hc⟩ := h.holds_inFlight hm hf
      exact Calm.of_holds h ht hm (hold.unregister hf)
        (Member.coherent_of_isActive hf (hc.active_iff.mp hf)) rfl
  | false =>
      refine Calm.of_touches h ht (.inl (lacks_unregister s p hf)) ?_
      intro m' hm' hf'
      rw [hm, Option.some_inj] at hm'
      rw [← hm', hf] at hf'
      cases hf'

lemma Coherent.connect (h : s.Coherent) (hm : s.member? p = some m) (pr : Priority) :
    Calm s (s.connect p m pr).2.state := by
  cases hf : m.inFlight with
  | true =>
      rw [connect_of_inFlight s p pr hf]
      exact .refl h
  | false =>
      obtain ⟨l, hold, hc⟩ := h.holds hm
      exact Calm.of_holds h (touches_connect s p m pr) hm (hold.connect pr hf)
        (hc.toConsistent.afterSchedule pr) (m.afterSchedule_inFlight l pr)

lemma Coherent.program (h : s.Coherent) (hm : s.member? p = some m) (d : Program)
    (pr : Priority) : Calm s (s.program p m d pr).2.state := by
  have ht := touches_program s p m d pr
  obtain ⟨l, hold, hc⟩ := h.holds hm
  rcases hold.program d pr with ⟨-, -, hold'⟩ | ⟨hold', -⟩
  · refine Calm.of_holds h ht hm hold'
      ⟨⟨hc.level_iff, hc.active_iff, hc.attempts, hc.removed⟩, ?_⟩ rfl
    -- a member that is left with firmware only has waited for it before
    intro hf hjobs
    refine hc.waits hf ?_
    rw [Member.hasJobs] at hjobs ⊢
    rw [Option.isSome_none, Bool.false_or] at hjobs
    rw [hjobs, Bool.or_true]
  · have hjob : ({ m with profileJob := some ⟨d, s.lastSeq + 1⟩ } : Member).Consistent l :=
      ⟨hc.level_iff, hc.active_iff, hc.attempts, hc.removed⟩
    exact Calm.of_holds h ht hm hold' (hjob.afterSchedule pr)
      (Member.afterSchedule_inFlight _ l pr)

lemma Coherent.updateFirmware (h : s.Coherent) (hm : s.member? p = some m)
    (image : FirmwareImage) (force : Bool) (pr : Priority) :
    Calm s (s.updateFirmware p m image force pr).2.state := by
  obtain ⟨l, hold, hc⟩ := h.holds hm
  rcases hold.updateFirmware image force pr with ⟨-, hsame⟩ | ⟨-, hold', -⟩
  · rw [hsame]
    exact .refl h
  · have hjob : ({ m with firmwareJob := some ⟨image, s.lastSeq + 1⟩ } : Member).Consistent l :=
      ⟨hc.level_iff, hc.active_iff, hc.attempts, hc.removed⟩
    exact Calm.of_holds h (touches_updateFirmware s p m image force pr) hm hold'
      (hjob.afterSchedule pr) (Member.afterSchedule_inFlight _ l pr)

lemma Coherent.cancel (h : s.Coherent) (hm : s.member? p = some m) (hf : m.inFlight = false) :
    Calm s (s.cancel p m).state := by
  have ht := touches_cancel s p m
  obtain ⟨l, hold, hc⟩ := h.holds hm
  rcases hold.cancel with ⟨-, hold'⟩ | ⟨-, hold'⟩
  · exact Calm.of_holds h ht hm hold'
      ⟨Member.consistent_of_idle hf (hc.removed_eq_false hf) rfl, nofun⟩ rfl
  · exact Calm.of_holds h ht hm hold'
      ⟨⟨hc.level_iff, hc.active_iff, hc.attempts, hc.removed⟩, nofun⟩ rfl

lemma Coherent.retry (h : s.Coherent) (hm : s.member? p = some m) (hf : m.inFlight = false) :
    Calm s (s.retry p).state := by
  obtain ⟨l, hold, hc⟩ := h.holds hm
  have hold' := hold.retry
  -- an idle member is queued at once, at whatever level it has waited before
  have hqueued : (({ m with attempts := 0, backoffEpoch := m.backoffEpoch + 1, state := .idle }
      : Member).afterSchedule l .high)
      = ({ m with attempts := 0, backoffEpoch := m.backoffEpoch + 1,
                  state := .queued (l.elim .high (·.max .high)) },
        some (l.elim .high (·.max .high))) := by
    rw [Member.afterSchedule, Member.afterEnqueue, hf]
    rfl
  rw [hqueued] at hold'
  exact Calm.of_holds h (touches_retry s p) hm hold'
    (Member.coherent_of_queued hf (hc.removed_eq_false hf) rfl) rfl

/-- **Requests keep the state coherent.** -/
lemma Coherent.handled (h : s.Coherent) {r : Request} {reply : Reply} {c : Change}
    (hr : s.Handled r reply c) : Calm s c.state := by
  cases hr with
  | register r => exact h.register r
  | unregister hm => exact h.unregister hm
  | connect pr hm => exact h.connect hm pr
  | program d pr hm => exact h.program hm d pr
  | updateFirmware image force pr hm => exact h.updateFirmware hm image force pr
  | cancel hm hf => exact h.cancel hm hf
  | retry hm hf => exact h.retry hm hf

/-- A change of the adapter is not about any die. -/
lemma Coherent.adapterSeen (h : s.Coherent) (a : AdapterState) :
    Calm s (s.adapterSeen a).state where
  coherent :=
    { unique := h.unique
      each := by
        intro p
        rcases h.each p with hlacks | ⟨m, l, hold, hc⟩
        · exact .inl ⟨hlacks.member, hlacks.level⟩
        · exact .inr ⟨m, l, ⟨hold.member, hold.level⟩, hc⟩ }
  inFlight := fun _ m hm hf => ⟨m, hm, hf⟩

/-- A timer keeps the state coherent. -/
lemma Coherent.backoffOver (h : s.Coherent) (p : PixelId) (epoch : ℕ) :
    Calm s (s.backoffOver p epoch).state := by
  cases hm : s.member? p with
  | none =>
      rw [State.backoffOver, hm]
      exact .refl h
  | some m =>
      obtain ⟨l, hold, hc⟩ := h.holds hm
      rcases hold.backoffOver epoch with ⟨-, -, -, hold'⟩ | hsame
      · exact Calm.of_holds h (touches_backoffOver s p epoch) hm hold'
          (hc.toConsistent.afterEnqueue .low) (m.afterEnqueue_inFlight l .low)
      · rw [hsame]
        exact .refl h

/-! ### Changes by sessions -/

/-- The dispatcher starts a session with a member that has none. -/
lemma Coherent.takeNext (h : s.Coherent) {pr : Priority} {c : Change}
    (hnext : s.takeNext = some ((p, pr), c)) :
    c.state.Coherent ∧ Touches s c.state p ∧ (∃ m, s.member? p = some m ∧ m.inFlight = false)
      ∧ ∃ m, c.state.member? p = some m ∧ m.inFlight = true := by
  obtain ⟨m, hold, ht, hold'⟩ := takeNext_cases h.unique hnext
  obtain ⟨l, hl, hc⟩ := h.holds hold.member
  obtain rfl := hl.level.symm.trans hold.level
  refine ⟨h.of_touches ht (.inr ⟨_, _, hold', Member.coherent_of_isActive rfl rfl⟩), ht,
    ⟨m, hold.member, ((hc.level_iff pr).mp rfl).1⟩, _, hold'.member, rfl⟩

lemma Coherent.interrupted (h : s.Coherent) (hm : s.member? p = some m) (hf : m.inFlight = true)
    (pr : Priority) : (s.interrupted p pr).state.Coherent := by
  obtain ⟨hold, hc⟩ := h.holds_inFlight hm hf
  have ht := touches_interrupted s p pr
  cases hr : m.removed with
  | true => exact h.of_touches ht (.inl (hold.lacks_interrupted pr hr))
  | false =>
      exact h.of_touches ht (.inr ⟨_, _, hold.interrupted pr hr,
        Member.coherent_of_queued rfl hr rfl⟩)

lemma Coherent.connectFailed (h : s.Coherent) (hm : s.member? p = some m)
    (hf : m.inFlight = true) (c : Config) (e : LinkError) :
    (s.connectFailed c p e).1.state.Coherent := by
  obtain ⟨hold, hc⟩ := h.holds_inFlight hm hf
  have ht := touches_connectFailed s c p e
  cases hr : m.removed with
  | true => exact h.of_touches ht (.inl (hold.lacks_connectFailed c e hr))
  | false =>
      exact h.of_touches ht (.inr ⟨_, _, hold.connectFailed c e hr,
        Member.coherent_of_failed rfl hr rfl⟩)

lemma Coherent.connected (h : s.Coherent) (hm : s.member? p = some m) (hf : m.inFlight = true) :
    Calm s (s.connected p).state := by
  obtain ⟨hold, hc⟩ := h.holds_inFlight hm hf
  exact Calm.of_holds h (touches_connected s p) hm hold.connected
    (Member.coherent_of_isActive hf rfl) rfl

lemma Coherent.transferring (h : s.Coherent) (hm : s.member? p = some m)
    (hf : m.inFlight = true) (kind : PayloadKind) : Calm s (s.transferring p kind).state := by
  obtain ⟨hold, hc⟩ := h.holds_inFlight hm hf
  exact Calm.of_holds h (touches_transferring s p kind) hm (hold.transferring kind)
    (Member.coherent_of_isActive hf rfl) rfl

lemma Coherent.sessionEnded (h : s.Coherent) (hm : s.member? p = some m) (hf : m.inFlight = true)
    (c : Config) (r : Report) : (s.sessionEnded c p r).state.Coherent := by
  obtain ⟨hold, hc⟩ := h.holds_inFlight hm hf
  have ht := touches_sessionEnded s c p r
  cases hr : m.removed with
  | true => exact h.of_touches ht (.inl (hold.lacks_sessionEnded c r hr))
  | false =>
      exact h.of_touches ht (.inr ⟨_, _, hold.sessionEnded c r hr, hc.afterSession hf hr c p r⟩)

/-! ### The start -/

/-- A scheduler that has just been started is coherent. -/
lemma coherent_start (a : AdapterState) (pairings : List Peripheral) :
    (State.start a pairings).Coherent where
  unique := List.nodup_nil
  each := by
    intro p
    have hlevel : (State.start a pairings).queue.priority? p = none := rfl
    cases hm : (State.start a pairings).member? p with
    | none => exact .inl ⟨hm, hlevel⟩
    | some m =>
        obtain ⟨r, -, rfl⟩ := List.mem_map.mp (PixelMap.mem_of_get?_ofList hm)
        exact .inr ⟨_, _, ⟨hm, hlevel⟩, Member.consistent_of_idle rfl rfl rfl, nofun⟩

end State

end DiceHost.Scheduler
