/-
Timers and the waits that they end.

* `World.passing`: the timers that would queue a die now;
* `World.clock_happen`: time passes by moves of its own, and the settings stay;
* `World.BacksOff`: the failure of a connection that makes a die wait, and sets a timer;
* `Tick`, `Orderly.tick`: **what a happening does to the waits and to the timers**: a wait begins
  with a failed connection and ends with a request that intervenes or with a timer of its number.
-/
import DiceHost.Proofs.Scheduler.Records
import DiceHost.Proofs.Scheduler.Runs
import DiceHost.Proofs.Scheduler.Waiting
import DiceHost.Scheduler.Clock

namespace DiceHost.Scheduler

open Link

/-! ### Timers -/

namespace World

/-- Whether a timer would queue its die if it went off now. -/
def passes (w : World) (t : Timer) : Bool :=
  (w.state.member? t.pixel).any fun m =>
    m.state.isBackingOff && !m.inFlight && m.backoffEpoch = t.epoch

/-- The pending timers that would queue a die now. -/
def passing (w : World) (p : PixelId) : List Timer :=
  w.timers.filter fun t => t.pixel = p && w.passes t

/-- The pending timers of a die with the number of a wait. -/
def ticking (w : World) (p : PixelId) (e : ℕ) : List Timer :=
  w.timers.filter fun t => t.pixel = p && t.epoch = e

variable {w w' : World} {p : PixelId} {a : UInt32} {e : ℕ} {t : Timer}

lemma mem_ticking : t ∈ w.ticking p e ↔ t ∈ w.timers ∧ t.pixel = p ∧ t.epoch = e := by
  simp [ticking]

/-- The timers that would queue a die are those with the number of its wait. -/
lemma passing_eq_ticking (hw : w.state.wait? p = some (a, e)) : w.passing p = w.ticking p e := by
  obtain ⟨m, hm, hwait⟩ := Option.bind_eq_some_iff.mp hw
  obtain ⟨hst, hf, he⟩ := Member.wait?_eq_some.mp hwait
  refine List.filter_congr fun t _ => ?_
  by_cases hp : t.pixel = p
  · simp [passes, hp, hm, hst, hf, he, DieState.isBackingOff, eq_comm]
  · simp [hp]

lemma ticking_congr (h : w'.timers = w.timers) (p : PixelId) (e : ℕ) :
    w'.ticking p e = w.ticking p e := by
  rw [ticking, h, ticking]

/-- A timer that goes off is missed only among those of its die and its number. -/
lemma ticking_erase (h : w'.timers = w.timers.erase t) (ht : t ∈ w.timers)
    (hother : t ∉ w.ticking p e) : w'.ticking p e = w.ticking p e := by
  obtain ⟨pre, post, -, heq, herase⟩ := List.exists_erase_eq ht
  have hfalse : (t.pixel = p && t.epoch = e : Bool) = false := by
    simpa [mem_ticking, ht] using hother
  rw [ticking, h, herase, ticking, heq, List.filter_append, List.filter_append,
    List.filter_cons_of_neg (by simpa using hfalse)]

/-- A timer that is set is the last one. -/
lemma ticking_append (h : w'.timers = w.timers ++ [t]) :
    w'.ticking t.pixel t.epoch = w.ticking t.pixel t.epoch ++ [t] := by
  rw [ticking, h, ticking, List.filter_append]
  simp

lemma ticking_append_of_ne (h : w'.timers = w.timers ++ [t]) (hp : p ≠ t.pixel) :
    w'.ticking p e = w.ticking p e := by
  rw [ticking, h, ticking, List.filter_append]
  simp [hp.symm]

end World

/-! ### Time -/

/-- The time that passes. -/
def Happening.elapsed : Happening → ℕ
  | .move (.advance ms) => ms
  | _ => 0

namespace World

variable {w w' : World}

/-- The settings, the time and the timers are left as they are. -/
structure Idles (w w' : World) : Prop where
  config : w'.config = w.config
  now : w'.now = w.now
  timers : w'.timers = w.timers

/-- The shared state is left as it is, too. -/
structure Rests (w w' : World) : Prop extends Idles w w' where
  state : w'.state = w.state

lemma idles_dispatch (w : World) : w.Idles w.dispatch.1 := by
  rw [dispatch]
  cases w.dispatcher with
  | acquiring =>
      dsimp only
      split_ifs <;> exact ⟨rfl, rfl, rfl⟩
  | looking =>
      dsimp only
      cases w.state.takeNext with
      | none => exact ⟨rfl, rfl, rfl⟩
      | some r => exact ⟨rfl, rfl, rfl⟩
  | parked =>
      dsimp only
      split_ifs <;> exact ⟨rfl, rfl, rfl⟩

lemma idles_request (w : World) (r : Request) : w.Idles (w.request r).2.1 := by
  rw [request]
  cases w.state.handle r <;> exact ⟨rfl, rfl, rfl⟩

lemma idles_watch (w : World) : w.Idles w.watch.1 := by
  rw [watch]
  split_ifs <;> exact ⟨rfl, rfl, rfl⟩

lemma rests_connection (w : World) (s : Session) (outcome : Except LinkError Connection) :
    w.Rests (w.connection s outcome) := by
  rw [connection.eq_def]
  cases s.stage <;> exact ⟨⟨rfl, rfl, rfl⟩, rfl⟩

lemma rests_answer (w : World) (s : Session) (reply : Except LinkError (List UInt8)) :
    w.Rests (w.answer s reply) := by
  rw [answer.eq_def]
  cases s.stage with
  | sending =>
      dsimp only
      split_ifs <;> exact ⟨⟨rfl, rfl, rfl⟩, rfl⟩
  | starting | interrupted | refused | linked | connected | working | connecting | closing
  | reporting | «over» => exact ⟨⟨rfl, rfl, rfl⟩, rfl⟩

lemma rests_interruptSession (w : World) (s : Session) : w.Rests (w.interruptSession s) := by
  rw [interruptSession.eq_def]
  cases s.stage with
  | connecting =>
      dsimp only
      split_ifs <;> exact ⟨⟨rfl, rfl, rfl⟩, rfl⟩
  | starting | interrupted | refused | linked | connected | working | sending | closing
  | reporting | «over» => exact ⟨⟨rfl, rfl, rfl⟩, rfl⟩

/-- What rests for every session rests for the session of a number. -/
lemma rests_session? {f : Session → World} (hf : ∀ s, w.Rests (f s)) (id : ℕ) :
    w.Rests ((w.session? id).elim w f) := by
  cases w.session? id with
  | none => exact ⟨⟨rfl, rfl, rfl⟩, rfl⟩
  | some s => exact hf s

/-- Only the failure of a connection sets a timer. -/
lemma idles_advanceSession (w : World) {s : Session} (hs : ∀ e, s.stage ≠ .refused e) :
    w.Idles (w.advanceSession s).1 := by
  rw [advanceSession.eq_def]
  cases hst : s.stage with
  | refused e => exact absurd hst (hs e)
  | connecting due =>
      dsimp only
      split_ifs
      · rw [completeConnection]
        exact ⟨rfl, rfl, rfl⟩
      · exact ⟨rfl, rfl, rfl⟩
  | working link tasks report => cases tasks <;> exact ⟨rfl, rfl, rfl⟩
  | sending link t due task tasks report =>
      dsimp only
      split_ifs
      · exact ⟨rfl, rfl, rfl⟩
      · cases t.request? with
        | some m => exact ⟨rfl, rfl, rfl⟩
        | none => cases t.result? <;> exact ⟨rfl, rfl, rfl⟩
  | starting | interrupted | linked | connected | closing | reporting | «over» =>
      exact ⟨rfl, rfl, rfl⟩

/-- Time passes by moves of its own, and the settings stay. -/
lemma clock_happen (w : World) (h : Happening) :
    (w.happen h).config = w.config ∧ (w.happen h).now = w.now + h.elapsed := by
  have hidles {w' : World} (h : w.Idles w') : w'.config = w.config ∧ w'.now = w.now + 0 :=
    ⟨h.config, h.now⟩
  cases h with
  | radio r => exact ⟨rfl, rfl⟩
  | connection id outcome => exact hidles (rests_session? (w.rests_connection · outcome) id).toIdles
  | answer id reply => exact hidles (rests_session? (w.rests_answer · reply) id).toIdles
  | move m =>
      cases m with
      | request r => exact hidles (w.idles_request r)
      | watch => exact hidles w.idles_watch
      | dispatch => exact hidles w.idles_dispatch
      | adjust | adapter | advance => exact ⟨rfl, rfl⟩
      | interrupt id => exact hidles (rests_session? w.rests_interruptSession id).toIdles
      | timer t =>
          rw [happen, step]
          split_ifs <;> exact ⟨rfl, rfl⟩
      | session id =>
          rw [happen, step]
          cases hs : w.session? id with
          | none => exact ⟨rfl, rfl⟩
          | some s =>
              by_cases hst : ∃ e, s.stage = .refused e
              · obtain ⟨e, hst⟩ := hst
                rw [Option.elim_some, advanceSession.eq_def, hst]
                exact ⟨rfl, rfl⟩
              · exact hidles (w.idles_advanceSession fun e he => hst ⟨e, he⟩)

/-- The settings stay in a run. -/
lemma config_after (w : World) (hs : List Happening) : (w.after hs).config = w.config := by
  induction hs generalizing w with
  | nil => rfl
  | cons h hs ih => exact (ih _).trans (w.clock_happen h).1

end World

/-! ### Ticks -/

/-- Whether a deed is a request that may end the wait of a die. -/
def Deed.intervenes (p : PixelId) : Deed → Bool
  | .request r _ => r.pixel = p && r.intervenes
  | _ => false

/-- A failed connection makes a die wait: the attempt of its session was refused, the failure is
counted, the wait has a number of its own, and a timer is set for its end. -/
structure World.BacksOff (w : World) (h : Happening) (p : PixelId) (a : UInt32) (e : ℕ) :
    Prop where
  refused : ∃ id s error, h = .move (.session id) ∧ w.session? id = some s ∧ s.pixel = p
    ∧ s.stage = .refused error
  counted : ∃ m, w.state.member? p = some m ∧ m.inFlight = true ∧ m.attempts + 1 = a
    ∧ m.backoffEpoch + 1 = e
  wait : (w.happen h).state.wait? p = some (a, e)
  timers : (w.happen h).timers = w.timers ++ [⟨w.now + w.config.backoff a, p, e⟩]

/-- What a happening does to the waits and to the timers. -/
inductive Tick (w : World) (h : Happening) : Prop
  /-- No timer is concerned, and waits end by requests only. -/
  | still (htimers : (w.happen h).timers = w.timers)
      (hwaits : ∀ q, w.state.KeepsWait (w.happen h).state q ((w.deed h).intervenes q = true))
  /-- A timer goes off. -/
  | fired (t : Timer) (hh : h = .move (.timer t)) (ht : t ∈ w.timers) (hdue : t.due ≤ w.now)
      (htimers : (w.happen h).timers = w.timers.erase t)
      (hstate : (w.happen h).state = (w.state.backoffOver t.pixel t.epoch).state)
  /-- A die backs off. -/
  | set (p : PixelId) (a : UInt32) (e : ℕ) (hb : w.BacksOff h p a e)
      (hothers : ∀ q, q ≠ p → (w.happen h).state.wait? q = w.state.wait? q)

namespace Tick

variable {w : World} {h : Happening}

/-- Nothing happens to the timers and to the waits. -/
lemma of_eq (htimers : (w.happen h).timers = w.timers)
    (hwaits : ∀ q, (w.happen h).state.wait? q = w.state.wait? q) : Tick w h :=
  .still htimers fun q => .inl (hwaits q)

lemma of_rests (hrests : w.Rests (w.happen h)) : Tick w h :=
  of_eq hrests.timers fun q => by rw [hrests.state]

end Tick

namespace Orderly

variable {w : World}

lemma tick_request (h : Orderly w.state w.sessions w.started) (r : Request) :
    Tick w (.move (.request r)) := by
  cases hr : w.state.handle r with
  | error e =>
      refine .of_eq (w.idles_request r).timers fun q => ?_
      rw [World.happen, World.step, World.request, hr]
  | ok result =>
      obtain ⟨reply, c⟩ := result
      refine .still (w.idles_request r).timers fun q => ?_
      have hkeeps := h.coherent.wait?_handled (State.handled hr) q
      rw [World.happen, World.step, World.request, World.deed, hr]
      refine hkeeps.imp_right (And.imp_right fun h => ?_)
      rw [Deed.intervenes, Bool.and_eq_true]
      exact ⟨decide_eq_true h.1, h.2⟩

lemma tick_dispatch (h : Orderly w.state w.sessions w.started) : Tick w (.move .dispatch) := by
  refine .of_eq w.idles_dispatch.timers fun q => ?_
  rw [World.happen, World.step, World.dispatch]
  cases w.dispatcher with
  | acquiring =>
      dsimp only
      split_ifs <;> rfl
  | looking =>
      dsimp only
      cases hnext : w.state.takeNext with
      | none => rfl
      | some r => exact h.coherent.wait?_takeNext hnext q
  | parked =>
      dsimp only
      split_ifs <;> rfl

lemma tick_watch (w : World) : Tick w (.move .watch) := by
  refine .of_eq w.idles_watch.timers fun q => ?_
  rw [World.happen, World.step, World.watch]
  split_ifs <;> rfl

lemma tick_timer (w : World) (t : Timer) : Tick w (.move (.timer t)) := by
  by_cases ht : t ∈ w.timers ∧ t.due ≤ w.now
  · refine .fired t rfl ht.1 ht.2 ?_ ?_
    · rw [World.happen, World.step, if_pos ht]
      rfl
    · rw [World.happen, World.step, if_pos ht]
      rfl
  · refine .of_rests ?_
    rw [World.happen, World.step, if_neg ht]
    exact ⟨⟨rfl, rfl, rfl⟩, rfl⟩

/-- The session of a die takes a step other than the end of a failed attempt. -/
lemma wait?_advanceSession (h : Orderly w.state w.sessions w.started) {s : Session}
    (hs : s ∈ w.sessions) (hrefused : ∀ e, s.stage ≠ .refused e) (q : PixelId) :
    (w.advanceSession s).1.state.wait? q = w.state.wait? q := by
  have hmanned (hlive : s.Live) := h.manned s hs hlive
  rw [World.advanceSession.eq_def]
  rw [Session.Live] at hmanned
  cases hst : s.stage with
  | refused e => exact absurd hst (hrefused e)
  | connecting due =>
      dsimp only
      split_ifs
      · rw [World.completeConnection]
        rfl
      · rfl
  | interrupted =>
      obtain ⟨m, hm, hf⟩ := hmanned (by simp [hst])
      exact h.coherent.wait?_interrupted hm hf _ q
  | linked link =>
      obtain ⟨m, hm, hf⟩ := hmanned (by simp [hst])
      exact h.coherent.wait?_connected hm hf q
  | working link tasks report =>
      cases tasks with
      | nil => rfl
      | cons task tasks =>
          obtain ⟨m, hm, hf⟩ := hmanned (by simp [hst])
          exact h.coherent.wait?_transferring hm hf _ q
  | sending link t due task tasks report =>
      dsimp only
      split_ifs
      · rfl
      · cases t.request? with
        | some m => rfl
        | none => cases t.result? <;> rfl
  | reporting report =>
      obtain ⟨m, hm, hf⟩ := hmanned (by simp [hst])
      exact h.coherent.wait?_sessionEnded hm hf _ _ q
  | starting | connected | closing | «over» => rfl

/-- The end of a failed attempt makes the die wait, or no wait changes. -/
lemma tick_failConnection (h : Orderly w.state w.sessions w.started) {id : ℕ} {s : Session}
    {error : LinkError} (hs : w.session? id = some s) (hst : s.stage = .refused error) :
    Tick w (.move (.session id)) := by
  obtain ⟨m, hm, hf⟩ := h.manned s (World.mem_of_session? hs).1 (by simp [Session.Live, hst])
  have hhappen : w.happen (.move (.session id)) = (w.failConnection s error).1 := by
    rw [World.happen, World.step, hs, Option.elim_some, World.advanceSession.eq_def, hst]
  have hstate : (w.happen (.move (.session id))).state
      = (w.state.connectFailed w.config s.pixel error).1.state := by
    rw [hhappen]
    rfl
  have htimers : (w.happen (.move (.session id))).timers
      = w.timers ++ ((w.state.connectFailed w.config s.pixel error).2.map fun wait =>
          (⟨w.now + wait.1, s.pixel, wait.2⟩ : Timer)).toList := by
    rw [hhappen]
    rfl
  rcases h.coherent.wait?_connectFailed hm hf w.config error with ⟨hwait, hset⟩ | ⟨hwait, hset⟩
  · rw [hset] at htimers
    refine .set s.pixel _ _ ⟨⟨id, s, error, rfl, hs, rfl, hst⟩, ⟨m, hm, hf, rfl, rfl⟩,
      hstate ▸ hwait, htimers⟩ fun q hq => ?_
    rw [hstate]
    exact (State.touches_connectFailed w.state w.config s.pixel error).wait? hq
  · rw [hset] at htimers
    refine .of_eq (htimers.trans (List.append_nil _)) fun q => ?_
    rw [hstate]
    exact hwait q

lemma tick_session (h : Orderly w.state w.sessions w.started) (id : ℕ) :
    Tick w (.move (.session id)) := by
  cases hs : w.session? id with
  | none =>
      refine .of_rests ?_
      rw [World.happen, World.step, hs]
      exact ⟨⟨rfl, rfl, rfl⟩, rfl⟩
  | some s =>
      by_cases hst : ∃ error, s.stage = .refused error
      · obtain ⟨error, hst⟩ := hst
        exact h.tick_failConnection hs hst
      · have hrefused : ∀ error, s.stage ≠ .refused error := fun error he => hst ⟨error, he⟩
        have hhappen : w.happen (.move (.session id)) = (w.advanceSession s).1 := by
          rw [World.happen, World.step, hs]
          rfl
        refine .of_eq ?_ fun q => ?_
        · rw [hhappen]
          exact (w.idles_advanceSession hrefused).timers
        · rw [hhappen]
          exact h.wait?_advanceSession (World.mem_of_session? hs).1 hrefused q

/-- **What happens to the waits and to the timers.** -/
lemma tick (h : Orderly w.state w.sessions w.started) (x : Happening) : Tick w x := by
  cases x with
  | radio r => exact .of_eq rfl fun q => rfl
  | connection id outcome =>
      exact .of_rests (World.rests_session? (w.rests_connection · outcome) id)
  | answer id reply => exact .of_rests (World.rests_session? (w.rests_answer · reply) id)
  | move m =>
      cases m with
      | request r => exact h.tick_request r
      | watch => exact tick_watch w
      | dispatch => exact h.tick_dispatch
      | adjust | adapter | advance => exact .of_eq rfl fun q => rfl
      | timer t => exact tick_timer w t
      | session id => exact h.tick_session id
      | interrupt id => exact .of_rests (World.rests_session? w.rests_interruptSession id)

end Orderly

end DiceHost.Scheduler
