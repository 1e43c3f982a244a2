/-
The scheduler in every run.

* `Session.Live`: a session that has not ended;
* `Orderly`: the state is coherent, sessions have numbers of their own, no two live ones are
  with the same die, and the die of a live session is in a session;
* `Orderly.turn`, `Orderly.after`: **what happens keeps the scheduler orderly**;
* `agreement_after`: in every run, queue, states and marks agree.
-/
import DiceHost.Proofs.Scheduler.Coherence
import DiceHost.Proofs.Scheduler.Happening

namespace DiceHost.Scheduler

open Link

/-- A session has not ended. -/
def Session.Live (s : Session) : Prop := s.stage ≠ .over

lemma Session.live_of_reporting {s : Session} {r : Report} (h : s.stage = .reporting r) :
    s.Live := by
  intro hover
  rw [hover] at h
  cases h

/-- A session that takes a step has not ended. -/
lemma Advance.live {w : World} {s : Session} {stage : Stage} {t : State}
    (h : Advance w s stage t) : s.Live := by
  intro hover
  cases h with
  | interrupt h => rcases h with h | ⟨due, h⟩ <;> rw [hover] at h <;> cases h
  | connect _ h | refuse _ h | link _ h | interrupted h | failed h | connected h | work h
  | send _ h | answer _ _ _ h | finish h | close h | report h =>
      rw [hover] at h
      cases h

/-- A step of a session changes the shared state at its die only. -/
lemma Advance.touches {w : World} {s : Session} {stage : Stage} {t : State}
    (h : Advance w s stage t) : State.Touches w.state t s.pixel := by
  cases h with
  | connect | interrupt | refuse | link | work | answer | finish | close | report =>
      exact .refl _ _
  | interrupted => exact State.touches_interrupted _ _ _
  | failed => exact State.touches_connectFailed _ _ _ _
  | connected => exact State.touches_connected _ _
  | send => exact State.touches_transferring _ _ _

/-! ### Sessions at new stages -/

section Stages

variable {w : World} {s x : Session} {stage : Stage}

lemma map_id_setStage (w : World) (id : ℕ) (stage : Stage) :
    (w.setStage id stage).sessions.map (·.id) = w.sessions.map (·.id) := by
  rw [World.setStage, List.map_map]
  refine List.map_congr_left fun x _ => ?_
  rw [Function.comp_apply]
  split_ifs <;> rfl

/-- The sessions are those that were there, one of them at a new stage. -/
lemma mem_setStage (hids : (w.sessions.map (·.id)).Nodup) (hs : s ∈ w.sessions)
    (hx : x ∈ (w.setStage s.id stage).sessions) :
    x = { s with stage } ∨ (x ∈ w.sessions ∧ x.id ≠ s.id) := by
  obtain ⟨y, hy, rfl⟩ := List.mem_map.mp hx
  by_cases hid : y.id = s.id
  · obtain rfl := List.inj_on_of_nodup_map hids hy hs hid
    rw [if_pos rfl]
    exact .inl rfl
  · rw [if_neg hid]
    exact .inr ⟨hy, hid⟩

end Stages

/-! ### Orderly worlds -/

/-- The state is coherent, and the sessions go with it: each has a number of its own, live
ones are with different dice, and these are in a session. -/
structure Orderly (t : State) (ss : List Session) (n : ℕ) : Prop where
  coherent : t.Coherent
  ids : (ss.map (·.id)).Nodup
  fresh : ∀ x ∈ ss, x.id < n
  apart : ∀ x ∈ ss, ∀ y ∈ ss, x.Live → y.Live → x.pixel = y.pixel → x.id = y.id
  manned : ∀ x ∈ ss, x.Live → ∃ m, t.member? x.pixel = some m ∧ m.inFlight = true

namespace Orderly

variable {w : World} {s : Session} {stage : Stage} {t : State}

/-- The state changes and the sessions do not. -/
lemma calm (h : Orderly w.state w.sessions w.started) (ht : State.Calm w.state t) :
    Orderly t w.sessions w.started where
  coherent := ht.coherent
  ids := h.ids
  fresh := h.fresh
  apart := h.apart
  manned := by
    intro x hx hlive
    obtain ⟨m, hm, hf⟩ := h.manned x hx hlive
    exact ht.inFlight x.pixel m hm hf

/-- A live session takes a step: its die stays in it unless it has ended, and the dice of
the other sessions stay in theirs. -/
lemma setStage (h : Orderly w.state w.sessions w.started) (hs : s ∈ w.sessions)
    (hlive : s.Live) (hc : t.Coherent)
    (hself : stage ≠ .over → ∃ m, t.member? s.pixel = some m ∧ m.inFlight = true)
    (hothers : ∀ x ∈ w.sessions, x.Live → x.pixel ≠ s.pixel →
      ∃ m, t.member? x.pixel = some m ∧ m.inFlight = true) :
    Orderly t (w.setStage s.id stage).sessions w.started where
  coherent := hc
  ids := by
    rw [map_id_setStage]
    exact h.ids
  fresh := by
    intro x hx
    rcases mem_setStage h.ids hs hx with rfl | ⟨hx, -⟩
    · exact h.fresh s hs
    · exact h.fresh x hx
  apart := by
    intro x hx y hy hxl hyl hp
    rcases mem_setStage h.ids hs hx with rfl | ⟨hx, -⟩ <;>
      rcases mem_setStage h.ids hs hy with rfl | ⟨hy, -⟩
    · rfl
    · exact h.apart s hs y hy hlive hyl hp
    · exact h.apart x hx s hs hxl hlive hp
    · exact h.apart x hx y hy hxl hyl hp
  manned := by
    intro x hx hxl
    rcases mem_setStage h.ids hs hx with rfl | ⟨hx, hid⟩
    · exact hself hxl
    · exact hothers x hx hxl fun hp => hid (h.apart x hx s hs hxl hlive hp)

/-- A live session moves on, which leaves the dice in their sessions. -/
lemma goesOn (h : Orderly w.state w.sessions w.started) (hs : s ∈ w.sessions)
    (hlive : s.Live) (ht : State.Calm w.state t) :
    Orderly t (w.setStage s.id stage).sessions w.started := by
  refine h.setStage hs hlive ht.coherent (fun _ => ?_) (fun x hx hxl _ => ?_)
  · obtain ⟨m, hm, hf⟩ := h.manned s hs hlive
    exact ht.inFlight s.pixel m hm hf
  · obtain ⟨m, hm, hf⟩ := h.manned x hx hxl
    exact ht.inFlight x.pixel m hm hf

/-- A live session ends, which may change everything about its die. -/
lemma ends (h : Orderly w.state w.sessions w.started) (hs : s ∈ w.sessions) (hlive : s.Live)
    (hc : t.Coherent) (ht : State.Touches w.state t s.pixel) :
    Orderly t (w.setStage s.id .over).sessions w.started := by
  refine h.setStage hs hlive hc (fun hover => (hover rfl).elim) (fun x hx hxl hp => ?_)
  obtain ⟨m, hm, hf⟩ := h.manned x hx hxl
  exact ⟨m, (ht.member x.pixel hp).trans hm, hf⟩

/-- The dispatcher starts a session. -/
lemma begun (h : Orderly w.state w.sessions w.started) {p : PixelId} {pr : Priority} {c : Change}
    (hnext : w.state.takeNext = some ((p, pr), c)) :
    Orderly c.state (w.sessions ++ [{ id := w.started, pixel := p, priority := pr }])
      (w.started + 1) := by
  obtain ⟨hc, ht, ⟨m, hm, hf⟩, hm'⟩ := h.coherent.takeNext hnext
  -- the die has no live session yet
  have hfree : ∀ x ∈ w.sessions, x.Live → x.pixel ≠ p := by
    rintro x hx hlive rfl
    obtain ⟨m', hm', hf'⟩ := h.manned x hx hlive
    rw [hm, Option.some_inj] at hm'
    rw [← hm', hf] at hf'
    cases hf'
  refine ⟨hc, ?_, ?_, ?_, ?_⟩
  · rw [List.map_append, List.nodup_append]
    refine ⟨h.ids, List.nodup_singleton _, ?_⟩
    rintro a ha b hb rfl
    obtain ⟨x, hx, rfl⟩ := List.mem_map.mp ha
    exact Nat.ne_of_lt (h.fresh x hx) (List.mem_singleton.mp hb)
  · intro x hx
    rcases List.mem_append.mp hx with hx | hx
    · exact Nat.lt_succ_of_lt (h.fresh x hx)
    · obtain rfl := List.mem_singleton.mp hx
      exact Nat.lt_succ_self _
  · intro x hx y hy hxl hyl hp
    rcases List.mem_append.mp hx with hx | hx <;> rcases List.mem_append.mp hy with hy | hy
    · exact h.apart x hx y hy hxl hyl hp
    · obtain rfl := List.mem_singleton.mp hy
      exact (hfree x hx hxl hp).elim
    · obtain rfl := List.mem_singleton.mp hx
      exact (hfree y hy hyl hp.symm).elim
    · rw [List.mem_singleton.mp hx, List.mem_singleton.mp hy]
  · intro x hx hxl
    rcases List.mem_append.mp hx with hx | hx
    · obtain ⟨n, hn, hf⟩ := h.manned x hx hxl
      exact ⟨n, (ht.member x.pixel (hfree x hx hxl)).trans hn, hf⟩
    · obtain rfl := List.mem_singleton.mp hx
      exact hm'

/-- A session that has ended leaves. -/
lemma left (h : Orderly w.state w.sessions w.started) (id : ℕ) :
    Orderly w.state (w.sessions.filter (·.id ≠ id)) w.started where
  coherent := h.coherent
  ids := h.ids.sublist (List.filter_sublist.map _)
  fresh := fun x hx => h.fresh x (List.mem_of_mem_filter hx)
  apart := fun x hx y hy => h.apart x (List.mem_of_mem_filter hx) y (List.mem_of_mem_filter hy)
  manned := fun x hx => h.manned x (List.mem_of_mem_filter hx)

/-- A step of a session keeps the world orderly. -/
lemma advance (h : Orderly w.state w.sessions w.started) (hs : s ∈ w.sessions)
    (hstep : Advance w s stage t) :
    Orderly t (w.setStage s.id stage).sessions w.started := by
  have hlive := hstep.live
  obtain ⟨m, hm, hf⟩ := h.manned s hs hlive
  cases hstep with
  | connect | interrupt | refuse | link | work | answer | finish | close | report =>
      exact h.goesOn hs hlive (.refl h.coherent)
  | connected => exact h.goesOn hs hlive (h.coherent.connected hm hf)
  | send => exact h.goesOn hs hlive (h.coherent.transferring hm hf _)
  | interrupted =>
      exact h.ends hs hlive (h.coherent.interrupted hm hf _) (State.touches_interrupted _ _ _)
  | failed =>
      exact h.ends hs hlive (h.coherent.connectFailed hm hf _ _)
        (State.touches_connectFailed _ _ _ _)

/-- The last step of a session keeps the world orderly. -/
lemma ended (h : Orderly w.state w.sessions w.started) {report : Report} (hs : s ∈ w.sessions)
    (hst : s.stage = .reporting report) :
    Orderly (w.state.sessionEnded w.config s.pixel report).state (w.setStage s.id .over).sessions
      w.started := by
  have hlive := Session.live_of_reporting hst
  obtain ⟨m, hm, hf⟩ := h.manned s hs hlive
  exact h.ends hs hlive (h.coherent.sessionEnded hm hf _ _) (State.touches_sessionEnded _ _ _ _)

/-- **A turn keeps the world orderly.** -/
lemma turn (h : Orderly w.state w.sessions w.started) {deed : Deed} {ss : List Session} {n : ℕ}
    (hturn : Turn w deed t ss n) : Orderly t ss n := by
  cases hturn with
  | rest => exact h
  | request hr => exact h.calm (h.coherent.handled hr)
  | seen a => exact h.calm (h.coherent.adapterSeen a)
  | woken p epoch => exact h.calm (h.coherent.backoffOver p epoch)
  | begun hnext => exact h.begun hnext
  | advance hs hstep => exact h.advance hs hstep
  | ended hs hst => exact h.ended hs hst
  | left => exact h.left _

lemma happen (h : Orderly w.state w.sessions w.started) (x : Happening) :
    Orderly (w.happen x).state (w.happen x).sessions (w.happen x).started :=
  h.turn (w.turn_happen x)

lemma after (h : Orderly w.state w.sessions w.started) (hs : List Happening) :
    Orderly (w.after hs).state (w.after hs).sessions (w.after hs).started := by
  induction hs generalizing w with
  | nil => exact h
  | cons x hs ih => exact ih (h.happen x)

/-- What turns with certain deeds keep in orderly worlds holds in a run of such deeds. -/
lemma run {P : State → List Session → Prop} {Q : Deed → Prop}
    (hstep : ∀ {w : World} {deed : Deed} {t : State} {ss : List Session} {n : ℕ},
      Orderly w.state w.sessions w.started → Turn w deed t ss n → Q deed →
      P w.state w.sessions → P t ss)
    (h : Orderly w.state w.sessions w.started) (hs : List Happening)
    (hdeeds : ∀ d ∈ w.deeds hs, Q d) (hP : P w.state w.sessions) :
    P (w.after hs).state (w.after hs).sessions := by
  induction hs generalizing w with
  | nil => exact hP
  | cons x hs ih =>
      rw [World.deeds, List.forall_mem_cons] at hdeeds
      exact ih (h.happen x) hdeeds.2 (hstep h (w.turn_happen x) hdeeds.1 hP)

/-- A scheduler that has just been started is orderly. -/
lemma start (config : Config) (delay : ℕ) (radio : Radio) (pairings : List Peripheral) :
    Orderly (World.start config delay radio pairings).state [] 0 where
  coherent := State.coherent_start _ _
  ids := List.nodup_nil
  fresh := by simp
  apart := by simp
  manned := by simp

end Orderly

/-! ### Agreement -/

/-- **Queue, states and marks agree in every run.** No die waits twice; the dice at a level
are the members without a session whose state tells that level; a member is in a session
exactly when its state is that of one; a failed state tells the failures of its member; only
members in a session are to be forgotten; and a member that has something to be written, and
no session, is queued or has failed. -/
theorem agreement_after (config : Config) (delay : ℕ) (radio : Radio)
    (pairings : List Peripheral) (hs : List Happening) :
    let s := ((World.start config delay radio pairings).after hs).state
    (s.queue.high ++ s.queue.low).Nodup
      ∧ (∀ p pr, p ∈ s.queue.level pr ↔
          ∃ m, s.member? p = some m ∧ m.inFlight = false ∧ m.state = .queued pr)
      ∧ ∀ p m, s.member? p = some m →
        (m.inFlight = true ↔
            m.state = .connecting ∨ m.state = .connected ∨ ∃ kind, m.state = .transferring kind)
          ∧ (∀ n gaveUp, m.state = .failed n gaveUp → m.attempts = n)
          ∧ (m.removed = true → m.inFlight = true)
          ∧ (m.inFlight = false → (m.profileJob.isSome ∨ m.firmwareJob.isSome) →
            (∃ pr, m.state = .queued pr) ∨ ∃ n gaveUp, m.state = .failed n gaveUp) := by
  have hc := (Orderly.after (w := World.start config delay radio pairings)
    (Orderly.start config delay radio pairings) hs).coherent
  intro s
  refine ⟨hc.unique, ?_, ?_⟩
  · intro p pr
    rw [Queue.mem_level_iff hc.unique]
    rcases hc.each p with hlacks | ⟨m, l, hold, hm⟩
    · rw [hlacks.level, hlacks.member]
      exact ⟨nofun, fun ⟨m, hm, _⟩ => by cases hm⟩
    · rw [hold.level, hold.member, hm.level_iff pr]
      constructor
      · rintro ⟨hf, hst⟩
        exact ⟨m, rfl, hf, hst⟩
      · rintro ⟨n, hn, hf, hst⟩
        rw [Option.some_inj] at hn
        exact hn ▸ ⟨hf, hst⟩
  · intro p m hm
    obtain ⟨l, -, hm⟩ := hc.holds hm
    refine ⟨hm.active_iff.trans ?_, hm.attempts, hm.removed, fun hf hjobs => hm.waits hf ?_⟩
    · cases m.state <;> simp [DieState.isActive]
    · rw [Member.hasJobs, Bool.or_eq_true]
      exact hjobs

end DiceHost.Scheduler
