/-
When the dispatcher is woken for whoever it could serve.

* `World.Sleeps`: the dispatcher is parked and nothing is left to wake it;
* `World.Attends`: a dispatcher that sleeps would find nobody;
* `World.Overlooks`: a session that has learnt of the loss of the adapter puts its die back, which
  wakes nobody, and the dispatcher sleeps though it would find somebody now;
* `World.Attends.happen`: **whatever else happens keeps the dispatcher attending**;
* `attends_iff_never_overlooks`: **in a run the dispatcher always attends exactly if it overlooks
  nobody**;
* `missed_by_late_return`: a run in which it does: the die is put back when the adapter is ready
  again and the dispatcher has looked and parked.
-/
import DiceHost.Proofs.Scheduler.Acceptance
import DiceHost.Proofs.Scheduler.Quiet

namespace DiceHost.Scheduler

open Link

namespace World

variable {w v : World} {x : Happening} {c : Change}

/-! ### Sleeping -/

/-- The dispatcher is parked with no wake-up stored, the adapter is recorded as ready, and the
watcher has no change left to see. -/
structure Sleeps (w : World) : Prop where
  parked : w.dispatcher = .parked
  asleep : w.wake = false
  ready : w.state.adapter.isReady = true
  seen : w.changePending = false

/-- A dispatcher that sleeps would find nobody. -/
def Attends (w : World) : Prop :=
  w.Sleeps → w.state.takeNext = none

/-- While the dispatcher sleeps, a session that has learnt of the loss of the adapter puts its die
back, and now the dispatcher would find somebody. -/
def Overlooks (w : World) (x : Happening) : Prop :=
  w.Sleeps ∧ (∃ id s, x = .move (.session id) ∧ w.session? id = some s ∧ s.stage = .interrupted)
    ∧ (w.happen x).state.takeNext ≠ none

/-! ### The dispatcher and the watcher -/

/-- The dispatcher and the watcher are left as they are, and no wake-up is lost. -/
structure Leaves (w v : World) : Prop where
  dispatcher : v.dispatcher = w.dispatcher
  pending : v.changePending = w.changePending
  wake : w.wake = true → v.wake = true

lemma Leaves.refl (w : World) : w.Leaves w := ⟨rfl, rfl, id⟩

lemma Leaves.apply (h : w.Leaves v) (c : Change) : w.Leaves (v.apply c).1 where
  dispatcher := h.dispatcher
  pending := h.pending
  wake := fun hw => Bool.or_eq_true_iff.mpr (.inl (h.wake hw))

/-- A session comes to another stage, and uses the radio. -/
lemma leaves_setStage (r : Radio) (id : ℕ) (stage : Stage) :
    w.Leaves (setStage { w with radio := r } id stage) :=
  ⟨rfl, rfl, fun h => h⟩

lemma leaves_advanceSession (w : World) (s : Session) : w.Leaves (w.advanceSession s).1 := by
  have hset (stage : Stage) : w.Leaves (w.setStage s.id stage) := leaves_setStage w.radio s.id stage
  rw [advanceSession.eq_def]
  cases s.stage with
  | starting => exact hset (if w.radio.adapter.isReady then .connecting _ else .interrupted)
  | connected link => exact hset (.working link _ _)
  | «over» => exact ⟨rfl, rfl, fun h => h⟩
  | connecting due =>
      dsimp only
      split_ifs
      · exact leaves_setStage _ _ _
      · exact .refl w
  | interrupted | reporting => exact (hset .over).apply _
  | linked link => exact (hset (.connected link)).apply _
  | refused e =>
      let next := (w.state.connectFailed w.config s.pixel e).2
      let v : World :=
        { w with
          timers := w.timers ++ (next.map fun wait =>
            (⟨w.now + wait.1, s.pixel, wait.2⟩ : Timer)).toList }
      have hv : w.Leaves (v.setStage s.id .over) := ⟨rfl, rfl, id⟩
      exact hv.apply _
  | working link tasks report =>
      cases tasks with
      | nil => exact hset _
      | cons task tasks =>
          let t := Transfer.start task.payload w.config.chunkSize link.maxMessage
          exact (hset (.sending link t (w.answerDue link t) task tasks report)).apply _
  | sending link t due task tasks report =>
      dsimp only
      split_ifs
      · exact .refl w
      · cases t.request? with
        | some m => exact leaves_setStage _ _ _
        | none =>
            cases t.result? with
            | none => exact .refl w
            | some r => exact hset _
  | closing link report => exact leaves_setStage _ _ _

/-- What concerns the dispatcher or the watcher. -/
def concerns : Happening → Bool
  | .move .dispatch | .move .watch | .move (.adapter _) => true
  | _ => false

/-- Everything else leaves the dispatcher and the watcher as they are. -/
lemma leaves_happen (w : World) {x : Happening} (hx : concerns x = false) :
    w.Leaves (w.happen x) := by
  cases x with
  | radio r => exact ⟨rfl, rfl, id⟩
  | connection id outcome =>
      rw [happen]
      cases w.session? id with
      | none => exact .refl w
      | some s =>
          rw [Option.elim_some, connection.eq_def]
          cases s.stage <;> exact ⟨rfl, rfl, fun h => h⟩
  | answer id reply =>
      rw [happen]
      cases w.session? id with
      | none => exact .refl w
      | some s =>
          rw [Option.elim_some, answer.eq_def]
          cases s.stage with
          | sending =>
              dsimp only
              split_ifs <;> exact ⟨rfl, rfl, fun h => h⟩
          | starting | interrupted | refused | linked | connected | working | connecting
          | closing | reporting | «over» => exact .refl w
  | move m =>
      rw [happen]
      cases m with
      | dispatch | watch | adapter => cases hx
      | adjust | advance => exact ⟨rfl, rfl, id⟩
      | request r =>
          rw [step, request]
          cases w.state.handle r with
          | ok c => exact .apply (.refl w) _
          | error e => exact .refl w
      | timer t =>
          rw [step]
          split_ifs
          · have hv : w.Leaves { w with timers := w.timers.erase t } :=
              ⟨rfl, rfl, fun h => h⟩
            exact hv.apply _
          · exact .refl w
      | session id =>
          rw [step]
          cases w.session? id with
          | none => exact .refl w
          | some s => exact w.leaves_advanceSession s
      | interrupt id =>
          rw [step]
          cases w.session? id with
          | none => exact .refl w
          | some s =>
              dsimp only
              rw [Option.elim_some, interruptSession.eq_def]
              cases s.stage with
              | connecting =>
                  dsimp only
                  split_ifs <;> exact ⟨rfl, rfl, fun h => h⟩
              | starting | interrupted | refused | linked | connected | working | sending
              | closing | reporting | «over» => exact .refl w

/-- A dispatcher that sleeps afterwards has slept before, if the record of the adapter is left as it
is, too. -/
lemma Leaves.sleeps (h : w.Leaves v) (hadapter : v.state.adapter = w.state.adapter)
    (hv : v.Sleeps) : w.Sleeps where
  parked := h.dispatcher ▸ hv.parked
  asleep := by
    refine Bool.eq_false_iff.mpr fun hwake => ?_
    have hasleep := hv.asleep
    rw [h.wake hwake] at hasleep
    cases hasleep
  ready := hadapter ▸ hv.ready
  seen := h.pending ▸ hv.seen

namespace Attends

/-- The watcher wakes the dispatcher when it records that the adapter is ready. -/
lemma watch (h : w.Attends) : w.watch.1.Attends := by
  rw [World.watch]
  split_ifs with hpending
  · intro hsleeps
    have hasleep : (w.wake || w.radio.adapter.isReady) = false := hsleeps.asleep
    have hready : w.radio.adapter.isReady = true := hsleeps.ready
    rw [hready, Bool.or_true] at hasleep
    cases hasleep
  · exact h

/-- The dispatcher parks when it has found nobody. -/
lemma dispatch (h : w.Attends) : w.dispatch.1.Attends := by
  rw [World.dispatch]
  cases hd : w.dispatcher with
  | acquiring =>
      dsimp only
      split_ifs
      · intro hsleeps
        cases hsleeps.parked
      · exact h
  | looking =>
      dsimp only
      cases hnext : w.state.takeNext with
      | none => exact fun _ => hnext
      | some r =>
          intro hsleeps
          cases hsleeps.parked
  | parked =>
      dsimp only
      split_ifs
      · intro hsleeps
        cases hsleeps.parked
      · exact h

/-- What concerns neither the dispatcher nor the watcher keeps the dispatcher attending, unless
somebody is overlooked: a change of the shared state wakes the dispatcher or is quiet. -/
lemma rest (h : w.Attends) (ho : Orderly w.state w.sessions w.started) (hx : concerns x = false)
    (hover : ¬ w.Overlooks x) : (w.happen x).Attends := by
  have hleaves := w.leaves_happen hx
  have hwatch : x ≠ .move .watch := by
    rintro rfl
    cases hx
  intro hsleeps
  rcases w.act_or_unmoved x with ⟨c, hact⟩ | hunmoved
  · have hadapter : (w.happen x).state.adapter = w.state.adapter := by
      rw [hact.carries.state, hact.adapter hwatch]
    have hbefore := hleaves.sleeps hadapter hsleeps
    rcases hact.wakes_or_quiet ho with (hwakes | hquiet) | rfl | rfl | hback
    · have hasleep := hsleeps.asleep
      rw [hact.carries.wake, hwakes, Bool.or_true] at hasleep
      cases hasleep
    · rw [hact.carries.state]
      exact hquiet (h hbefore)
    · exact absurd rfl hwatch
    · cases hx
    · by_contra hsome
      exact hover ⟨hbefore, hback, hsome⟩
  · rw [hunmoved.state]
    exact h (hleaves.sleeps (congrArg State.adapter hunmoved.state) hsleeps)

/-- **What happens keeps the dispatcher attending**, unless somebody is overlooked. -/
lemma happen (h : w.Attends) (ho : Orderly w.state w.sessions w.started)
    (hover : ¬ w.Overlooks x) : (w.happen x).Attends := by
  cases hx : concerns x with
  | false => exact h.rest ho hx hover
  | true =>
      cases x with
      | radio | connection | answer => cases hx
      | move m =>
          cases m with
          | dispatch => exact h.dispatch
          | watch => exact h.watch
          | adapter a =>
              intro hsleeps
              cases hsleeps.seen
          | request | adjust | session | interrupt | timer | advance => cases hx

lemma start (config : Config) (delay : ℕ) (radio : Radio) (pairings : List Peripheral) :
    (World.start config delay radio pairings).Attends := by
  intro hsleeps
  cases hsleeps.parked

/-- In a run the dispatcher goes on attending, as long as nobody is overlooked. -/
lemma after (h : w.Attends) (ho : Orderly w.state w.sessions w.started) (hs : List Happening)
    (hover : ∀ pre x, pre ++ [x] <+: hs → ¬ (w.after pre).Overlooks x) : (w.after hs).Attends := by
  induction hs using List.reverseRecOn with
  | nil => exact h
  | append_singleton hs x ih =>
      rw [after_concat]
      have hbefore := ih fun pre y hpre => hover pre y (hpre.trans (List.prefix_append _ _))
      exact hbefore.happen (ho.after hs) (hover hs x (List.prefix_refl _))

end Attends

/-- To put a die back wakes nobody. -/
lemma Overlooks.not_attends (h : w.Overlooks x) : ¬ (w.happen x).Attends := by
  obtain ⟨hsleeps, ⟨id, s, rfl, hs, hst⟩, hsome⟩ := h
  have hact := Act.interrupted hs hst
  have hleaves := w.leaves_happen (x := .move (.session id)) rfl
  refine fun hattends => hsome (hattends ⟨?_, ?_, ?_, ?_⟩)
  · rw [hleaves.dispatcher, hsleeps.parked]
  · rw [hact.carries.wake, hsleeps.asleep, State.wakes_interrupted]
    rfl
  · rw [hact.carries.state, hact.adapter nofun, hsleeps.ready]
  · rw [hleaves.pending, hsleeps.seen]

end World

/-- **When no wake-up is lost.** In a run the dispatcher attends all the time exactly if nobody is
overlooked: all that queues a die, gives back the right to write firmware or makes the adapter
ready wakes the dispatcher, but for a session that puts its die back after it has learnt of the
loss of the adapter. -/
theorem attends_iff_never_overlooks (config : Config) (delay : ℕ) (radio : Radio)
    (pairings : List Peripheral) (hs : List Happening) :
    let start := World.start config delay radio pairings
    (∀ pre, pre <+: hs → (start.after pre).Attends)
      ↔ ∀ pre x, pre ++ [x] <+: hs → ¬ (start.after pre).Overlooks x := by
  intro start
  constructor
  · intro hattends pre x hpre hover
    refine hover.not_attends ?_
    rw [← World.after_concat]
    exact hattends _ hpre
  · intro hover pre hpre
    exact World.Attends.after (.start config delay radio pairings)
      (.start config delay radio pairings) pre fun pre' x hpre' => hover pre' x (hpre'.trans hpre)

namespace Sample

/-- The session with a die has learnt of the loss of the adapter. The adapter is ready again, and
the dispatcher has looked and parked, before the die is put back. -/
def lateReturn : List Move :=
  [.request (.connect ring .high), .dispatch, .dispatch, .adapter .poweredOff, .session 0, .watch,
    .adapter .poweredOn, .watch] ++ List.replicate 4 .dispatch ++ [.session 0]

end Sample

open Sample

/-- The die waits for a dispatcher that nothing wakes. -/
theorem missed_by_late_return :
    let w := world.after (lateReturn.map .move)
    w.dispatcher = .parked ∧ w.wake = false ∧ w.state.adapter.isReady = true
      ∧ w.changePending = false ∧ w.state.takeNext.isSome = true := by
  decide +kernel

end DiceHost.Scheduler
