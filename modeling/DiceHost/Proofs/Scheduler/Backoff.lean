/-
Dice that wait for their next attempt in the course of a run.

* `World.WaitsThrough`, `World.Requeues`: a wait that lasts, and one that ends by its timer when
  this is due;
* `World.Prompt`: time does not pass over a timer that is pending;
* `World.Fresh`: a die without pending timers is registered;
* `Tick.wait_before`, `Tick.wait_after`: the wait of a die around a happening;
* `waits_since_failure`: **whoever waits has waited since a failure, the timers that would queue it
  are the one that this failure has set and those that were left over with the same number, and
  without such a timer it is queued at low priority exactly when its own is due**.

The waits of a member are numbered from one. A die that is forgotten and registered again counts
from the start, while timers of its earlier waits may still be pending.
-/
import DiceHost.Proofs.Scheduler.Acceptance
import DiceHost.Proofs.Scheduler.Records
import DiceHost.Proofs.Scheduler.Timers
import DiceHost.Scheduler.Clock

namespace DiceHost.Scheduler

open Link

namespace World

/-! ### Runs -/

/-- A die is in one wait all along a run. -/
def WaitsThrough (w : World) (p : PixelId) (a : UInt32) (e : ℕ) (hs : List Happening) : Prop :=
  ∀ pre, pre <+: hs → (w.after pre).state.wait? p = some (a, e)

/-- A die waits in a run until its timer goes off, which is when it is due, and is queued then at
low priority. -/
def Requeues (w : World) (p : PixelId) (a : UInt32) (t : Timer) (hs : List Happening) : Prop :=
  ∃ pre post, hs = pre ++ .move (.timer t) :: post ∧ w.WaitsThrough p a t.epoch pre
    ∧ (w.after pre).now = t.due
    ∧ ((w.after pre).happen (.move (.timer t))).state.IsQueued p .low

/-- Something holds of all that happens in a run. -/
def Throughout (P : World → Happening → Prop) (w : World) : List Happening → Prop
  | [] => True
  | h :: hs => P w h ∧ (w.happen h).Throughout P hs

instance decidableThroughout {P : World → Happening → Prop} [∀ w h, Decidable (P w h)] :
    ∀ w hs, Decidable (Throughout P w hs)
  | _, [] => .isTrue trivial
  | w, h :: hs =>
    have := decidableThroughout (P := P) (w.happen h) hs
    inferInstanceAs (Decidable (P w h ∧ (w.happen h).Throughout P hs))

/-- Time does not pass over a timer that is pending. -/
def Prompt : World → List Happening → Prop :=
  Throughout fun w h => 0 < h.elapsed → ∀ t ∈ w.timers, w.now + h.elapsed ≤ t.due

instance (w : World) (hs : List Happening) : Decidable (w.Prompt hs) :=
  decidableThroughout w hs

/-- Whenever a die is registered that is no member, no timer of it is pending. -/
def Fresh (p : PixelId) : World → List Happening → Prop :=
  Throughout fun w h => ∀ r reply, w.deed h = .request (.register r) reply → r.pixel = p →
    w.state.member? p = none → ∀ t ∈ w.timers, t.pixel ≠ p

variable {w : World} {p : PixelId} {a : UInt32} {e : ℕ} {t : Timer} {h : Happening}
  {hs : List Happening}

lemma waitsThrough_nil : w.WaitsThrough p a e [] ↔ w.state.wait? p = some (a, e) := by
  simp [WaitsThrough]

lemma waitsThrough_cons : w.WaitsThrough p a e (h :: hs)
    ↔ w.state.wait? p = some (a, e) ∧ (w.happen h).WaitsThrough p a e hs := by
  constructor
  · exact fun hw => ⟨hw [] List.nil_prefix, fun pre hpre =>
      hw (h :: pre) (List.cons_prefix_cons.mpr ⟨rfl, hpre⟩)⟩
  · rintro ⟨hnil, hw⟩ pre hpre
    cases pre with
    | nil => exact hnil
    | cons x pre =>
        obtain ⟨rfl, htail⟩ := List.cons_prefix_cons.mp hpre
        exact hw pre htail

lemma Requeues.cons (hw : w.state.wait? p = some (a, t.epoch))
    (hr : (w.happen h).Requeues p a t hs) : w.Requeues p a t (h :: hs) := by
  obtain ⟨pre, post, rfl, hwaits, hrest⟩ := hr
  exact ⟨h :: pre, post, rfl, waitsThrough_cons.mpr ⟨hw, hwaits⟩, hrest⟩

end World

/-! ### The clock -/

/-- A move of a part of the scheduler: no time passes, and nobody outside does anything. -/
def Move.IsInner : Move → Prop
  | .watch | .dispatch | .session _ | .interrupt _ | .timer _ => True
  | .request _ | .adjust _ | .adapter _ | .advance _ => False

namespace World

variable {w : World} {m : Move} {stop : ℕ}

/-- What happens at the present moment is a move of a part of the scheduler. -/
lemma isInner_of_next? (h : w.next? = some m) : m.IsInner := by
  have hsession (s : Session) (hs : w.sessionMove? s = some m) : m.IsInner := by
    rw [sessionMove?.eq_def] at hs
    split at hs <;> try split_ifs at hs
    all_goals
      cases hs
      trivial
  rw [next?] at h
  split_ifs at h
  · cases h
    trivial
  · rw [Option.or_eq_some_iff, Option.or_eq_some_iff] at h
    rcases h with h | ⟨-, h | ⟨-, h⟩⟩
    · obtain ⟨s, -, hs⟩ := List.exists_of_findSome?_eq_some h
      exact hsession s hs
    · obtain ⟨t, -, rfl⟩ := Option.map_eq_some_iff.mp h
      trivial
    · rw [dispatcherMove?] at h
      split_ifs at h
      cases h
      trivial

/-- When nothing happens at the present moment, no timer is due. -/
lemma lt_due_of_next? (h : w.next? = none) : ∀ t ∈ w.timers, w.now < t.due := by
  intro t ht
  rw [next?] at h
  split_ifs at h
  rw [Option.or_eq_none_iff, Option.or_eq_none_iff, Option.map_eq_none_iff] at h
  have hnone := List.find?_eq_none.mp h.2.1 t ht
  simpa using hnone

/-- The next thing that is due is not due after a timer. -/
lemma nextDue?_le (w : World) {t : Timer} (ht : t ∈ w.timers) :
    ∃ d, w.nextDue? = some d ∧ d ≤ t.due := by
  have hmem : t.due ∈ w.sessions.filterMap Session.due? ++ w.timers.map (·.due) :=
    List.mem_append_right _ (List.mem_map_of_mem ht)
  obtain ⟨d, hd⟩ := Option.isSome_iff_exists.mp (List.isSome_min?_of_mem hmem)
  exact ⟨d, hd, (List.min?_eq_some_iff.mp hd).2 _ hmem⟩

/-- The clock does not pass over a timer. -/
lemma prompt_nextBefore? (h : w.nextBefore? stop = some m)
    (hpass : 0 < (Happening.move m).elapsed) :
    ∀ t ∈ w.timers, w.now + (Happening.move m).elapsed ≤ t.due := by
  intro t ht
  rw [nextBefore?, Option.or_eq_some_iff] at h
  rcases h with h | ⟨hnone, h⟩
  · have hinner := isInner_of_next? h
    cases m with
    | watch | dispatch | session | interrupt | timer => cases hpass
    | request | adjust | adapter | advance => exact hinner.elim
  · split_ifs at h with hstop
    cases h
    have hlt := lt_due_of_next? hnone t ht
    obtain ⟨d, hd, hle⟩ := w.nextDue?_le ht
    rw [Happening.elapsed, hd, Option.elim_some]
    omega

/-- The clock does nothing that intervenes. -/
lemma deed_nextBefore? (h : w.nextBefore? stop = some m) (p : PixelId) :
    (w.deed (.move m)).intervenes p = false := by
  have hcalm {m : Move} (hm : m.IsInner ∨ ∃ ms, m = .advance ms) :
      (w.deed (.move m)).intervenes p = false := by
    cases m with
    | session id =>
        rw [deed]
        cases w.session? id with
        | none => rfl
        | some s =>
            dsimp only
            split <;> rfl
    | request r => rcases hm with hm | ⟨ms, hm⟩ <;> cases hm
    | watch | dispatch | interrupt | timer | adjust | adapter | advance => rfl
  rw [nextBefore?, Option.or_eq_some_iff] at h
  rcases h with h | ⟨-, h⟩
  · exact hcalm (.inl (isInner_of_next? h))
  · split_ifs at h
    cases h
    exact hcalm (.inr ⟨_, rfl⟩)

/-- **The clock runs promptly**: what it makes happen is a prompt run in which no request
intervenes. -/
theorem prompt_runSteps (stop fuel : ℕ) (w : World) (told : List Event) :
    ∃ hs : List Happening, (w.runSteps stop fuel told).1 = w.after hs ∧ w.Prompt hs
      ∧ ∀ p, ∀ d ∈ w.deeds hs, d.intervenes p = false := by
  induction fuel generalizing w told with
  | zero => exact ⟨[], rfl, trivial, fun p => by simp [deeds]⟩
  | succ fuel ih =>
      rw [runSteps]
      cases hm : w.nextBefore? stop with
      | none => exact ⟨[], rfl, trivial, fun p => by simp [deeds]⟩
      | some m =>
          obtain ⟨hs, hafter, hprompt, hcalm⟩ := ih (w.step m).1 ((w.step m).2.reverse ++ told)
          refine ⟨.move m :: hs, hafter, ⟨prompt_nextBefore? hm, hprompt⟩, fun p => ?_⟩
          rw [deeds, List.forall_mem_cons]
          exact ⟨deed_nextBefore? hm p, hcalm p⟩

end World

/-! ### Waits around a happening -/

/-- A die that backs off is in a session. -/
lemma World.BacksOff.wait?_eq_none {w : World} {h : Happening} {p : PixelId} {a : UInt32} {e : ℕ}
    (hb : w.BacksOff h p a e) : w.state.wait? p = none := by
  obtain ⟨m, hm, hf, -⟩ := hb.counted
  rw [State.wait?_eq hm, Member.wait?_of_inFlight hf]

namespace Tick

variable {w : World} {h : Happening} {p : PixelId} {a : UInt32} {e : ℕ}

/-- A die that waits after a happening has waited before it, or it has just backed off. -/
lemma wait_before (htick : Tick w h) (hc : w.state.Coherent)
    (hw : (w.happen h).state.wait? p = some (a, e)) :
    (w.state.wait? p = some (a, e) ∧ (w.happen h).ticking p e = w.ticking p e)
      ∨ w.BacksOff h p a e := by
  cases htick with
  | still htimers hwaits =>
      rcases hwaits p with hsame | ⟨hnone, -⟩
      · exact .inl ⟨hsame ▸ hw, World.ticking_congr htimers p e⟩
      · rw [hnone] at hw
        cases hw
  | fired t hh ht hdue htimers hstate =>
      rw [hstate] at hw
      have hother : ¬ (p = t.pixel ∧ ∃ b, w.state.wait? t.pixel = some (b, t.epoch)) := by
        rintro ⟨rfl, b, hb⟩
        rw [(hc.isQueued_backoffOver hb).wait?] at hw
        cases hw
      rw [State.wait?_backoffOver hother] at hw
      refine .inl ⟨hw, World.ticking_erase htimers ht fun hmem => hother ?_⟩
      obtain ⟨-, rfl, rfl⟩ := World.mem_ticking.mp hmem
      exact ⟨rfl, a, hw⟩
  | set q b n hb hothers =>
      by_cases hq : p = q
      · subst hq
        rw [hb.wait, Option.some_inj, Prod.mk.injEq] at hw
        obtain ⟨rfl, rfl⟩ := hw
        exact .inr hb
      · exact .inl ⟨hothers p hq ▸ hw, World.ticking_append_of_ne hb.timers hq⟩

/-- A die that waits before a happening waits after it, unless a request intervenes or a timer of
the wait goes off. -/
lemma wait_after (htick : Tick w h) (hc : w.state.Coherent)
    (hw : w.state.wait? p = some (a, e)) :
    ((w.happen h).state.wait? p = some (a, e) ∧ (w.happen h).ticking p e = w.ticking p e)
      ∨ (w.deed h).intervenes p = true
      ∨ ∃ t ∈ w.ticking p e, h = .move (.timer t) ∧ t.due ≤ w.now
        ∧ (w.happen h).state.IsQueued p .low := by
  cases htick with
  | still htimers hwaits =>
      rcases hwaits p with hsame | ⟨-, hi⟩
      · exact .inl ⟨hsame.trans hw, World.ticking_congr htimers p e⟩
      · exact .inr (.inl hi)
  | fired t hh ht hdue htimers hstate =>
      by_cases hmem : t ∈ w.ticking p e
      · obtain ⟨-, rfl, rfl⟩ := World.mem_ticking.mp hmem
        exact .inr (.inr ⟨t, hmem, hh, hdue, hstate ▸ hc.isQueued_backoffOver hw⟩)
      · refine .inl ⟨?_, World.ticking_erase htimers ht hmem⟩
        rw [hstate, State.wait?_backoffOver, hw]
        rintro ⟨rfl, b, hb⟩
        rw [hw, Option.some_inj, Prod.mk.injEq] at hb
        exact hmem (World.mem_ticking.mpr ⟨ht, rfl, hb.2.symm⟩)
  | set q b n hb hothers =>
      by_cases hq : p = q
      · subst hq
        rw [hb.wait?_eq_none] at hw
        cases hw
      · exact .inl ⟨(hothers p hq).trans hw, World.ticking_append_of_ne hb.timers hq⟩

end Tick

/-! ### Numbers of waits -/

/-- The pending timers of a member have numbers of its waits so far. -/
def World.Counts (w : World) (p : PixelId) : Prop :=
  ∀ m, w.state.member? p = some m → ∀ t ∈ w.timers, t.pixel = p → t.epoch ≤ m.backoffEpoch

namespace Orderly

variable {w : World} {deed : Deed} {t : State} {ss : List Session} {n : ℕ} {p : PixelId}
  {a : UInt32} {e : ℕ}

/-- The number of the wait of a member does not fall, and a die becomes a member by a request
only. -/
lemma epoch_turn (h : Orderly w.state w.sessions w.started) (hturn : Turn w deed t ss n)
    {m' : Member} (hm' : t.member? p = some m') :
    (∃ m, w.state.member? p = some m ∧ m.backoffEpoch ≤ m'.backoffEpoch)
      ∨ w.state.member? p = none
        ∧ ∃ r reply, deed = .request (.register r) reply ∧ r.pixel = p := by
  have hfollows (hf : w.state.Follows t p) :
      ∃ m, w.state.member? p = some m ∧ m.backoffEpoch ≤ m'.backoffEpoch := by
    obtain ⟨m, hm, hfm⟩ := hf m' hm'
    exact ⟨m, hm, hfm.epoch⟩
  cases hturn with
  | rest | left => exact .inl ⟨m', hm', le_rfl⟩
  | seen a => exact .inl ⟨m', hm', le_rfl⟩
  | request hr =>
      rcases State.follows_handled hr p with hf | ⟨r, rfl, rfl, hc⟩
      · exact .inl (hfollows hf)
      · obtain ⟨m₁, hm₁, -, hepoch⟩ := State.member?_register w.state r
        rw [hc, hm₁, Option.some_inj] at hm'
        subst hm'
        cases hm : w.state.member? r.pixel with
        | none => exact .inr ⟨rfl, r, _, rfl, rfl⟩
        | some m => exact .inl ⟨m, rfl, (hepoch m hm).ge⟩
  | woken q epoch => exact .inl (hfollows (State.follows_backoffOver _ q epoch p))
  | begun hnext => exact .inl (hfollows (State.follows_takeNext hnext p))
  | @advance s stage t hs hstep =>
      refine .inl (hfollows ?_)
      cases hstep with
      | connect | interrupt | refuse | link | work | answer | finish | close | report =>
          exact .refl _ p
      | interrupted => exact State.follows_interrupted _ _ _ p
      | failed => exact State.follows_connectFailed _ _ _ _ p
      | connected => exact State.follows_connected _ _ p
      | send => exact State.follows_transferring _ _ _ p
  | @ended s report hs hst =>
      by_cases hp : p = s.pixel
      · subst hp
        obtain ⟨m, hm, hf⟩ := h.manned s hs (Session.live_of_reporting hst)
        obtain ⟨hold, -⟩ := h.coherent.holds_inFlight hm hf
        refine .inl ⟨m, hm, ?_⟩
        cases hr : m.removed with
        | true =>
            rw [(hold.lacks_sessionEnded w.config report hr).member] at hm'
            cases hm'
        | false =>
            rw [(hold.sessionEnded w.config report hr).member, Option.some_inj] at hm'
            rw [← hm', (m.afterSession_same none w.config s.pixel report).2, m.epoch_settled]
      · exact .inl (hfollows ((State.touches_sessionEnded _ _ _ _).follows hp))

/-- The timers of a die have numbers of its waits, if it is registered without pending timers. -/
lemma counts_happen (h : Orderly w.state w.sessions w.started) (hcounts : w.Counts p)
    {x : Happening}
    (hfresh : ∀ r reply, w.deed x = .request (.register r) reply → r.pixel = p →
      w.state.member? p = none → ∀ t ∈ w.timers, t.pixel ≠ p) : (w.happen x).Counts p := by
  intro m' hm' t ht hp
  -- a timer that was pending before
  have hold (ht : t ∈ w.timers) : t.epoch ≤ m'.backoffEpoch := by
    rcases h.epoch_turn (w.turn_happen x) hm' with ⟨m, hm, hle⟩ | ⟨hm, r, reply, hd, hr⟩
    · exact (hcounts m hm t ht hp).trans hle
    · exact absurd hp (hfresh r reply hd hr hm t ht)
  cases h.tick x with
  | still htimers => exact hold (htimers ▸ ht)
  | fired t' _ _ _ htimers =>
      rw [htimers] at ht
      exact hold (List.mem_of_mem_erase ht)
  | set q a e hb =>
      rw [hb.timers, List.mem_append, List.mem_singleton] at ht
      rcases ht with ht | rfl
      · exact hold ht
      · obtain rfl := hp
        have hwait := hb.wait
        rw [State.wait?_eq hm', Member.wait?_eq_some] at hwait
        exact hwait.2.2.ge

lemma counts_after (h : Orderly w.state w.sessions w.started) (hcounts : w.Counts p)
    {hs : List Happening} (hfresh : w.Fresh p hs) : (w.after hs).Counts p := by
  induction hs generalizing w with
  | nil => exact hcounts
  | cons x hs ih => exact ih (h.happen x) (h.counts_happen hcounts hfresh.1) hfresh.2

end Orderly

/-- A wait has a number that no timer has, if those of its die are counted. -/
lemma World.BacksOff.ticking_eq_nil {w : World} {h : Happening} {p : PixelId} {a : UInt32} {e : ℕ}
    (hb : w.BacksOff h p a e) (hcounts : w.Counts p) : w.ticking p e = [] := by
  obtain ⟨m, hm, -, -, rfl⟩ := hb.counted
  rw [List.eq_nil_iff_forall_not_mem]
  intro t ht
  obtain ⟨ht, hp, he⟩ := World.mem_ticking.mp ht
  exact absurd (hcounts m hm t ht hp) (by omega)

/-! ### Waits in runs -/

namespace Orderly

variable {w : World} {p : PixelId} {a : UInt32} {e : ℕ} {t : Timer} {hs : List Happening}

/-- Whoever waits at the end of a run has waited all along, or since a failure in it; the timers
of the wait have been the same since. -/
lemma waits_since (h : Orderly w.state w.sessions w.started)
    (hw : (w.after hs).state.wait? p = some (a, e)) :
    (w.WaitsThrough p a e hs ∧ (w.after hs).ticking p e = w.ticking p e)
      ∨ ∃ pre x post, hs = pre ++ x :: post ∧ (w.after pre).BacksOff x p a e
        ∧ ((w.after pre).happen x).WaitsThrough p a e post
        ∧ (w.after hs).ticking p e = ((w.after pre).happen x).ticking p e := by
  induction hs generalizing w with
  | nil => exact .inl ⟨World.waitsThrough_nil.mpr hw, rfl⟩
  | cons x hs ih =>
      rcases ih (h.happen x) hw with ⟨hwaits, hticking⟩ | ⟨pre, y, post, rfl, hrest⟩
      · have hafter : (w.happen x).state.wait? p = some (a, e) := hwaits [] List.nil_prefix
        rcases (h.tick x).wait_before h.coherent hafter with ⟨hbefore, hsame⟩ | hb
        · exact .inl ⟨World.waitsThrough_cons.mpr ⟨hbefore, hwaits⟩, hticking.trans hsame⟩
        · exact .inr ⟨[], x, hs, rfl, hb, hwaits, hticking⟩
      · exact .inr ⟨x :: pre, y, post, rfl, hrest⟩

/-- A die with a single timer waits until this is due, and is queued then, unless a request
intervenes. -/
lemma waits_or_requeues (h : Orderly w.state w.sessions w.started)
    (hw : w.state.wait? p = some (a, t.epoch)) (ht : w.ticking p t.epoch = [t])
    (hnow : w.now ≤ t.due) (hcalm : ∀ d ∈ w.deeds hs, d.intervenes p = false)
    (hprompt : w.Prompt hs) :
    (w.WaitsThrough p a t.epoch hs ∧ (w.after hs).ticking p t.epoch = [t]
        ∧ (w.after hs).now ≤ t.due)
      ∨ w.Requeues p a t hs := by
  induction hs generalizing w with
  | nil => exact .inl ⟨World.waitsThrough_nil.mpr hw, ht, hnow⟩
  | cons x hs ih =>
      rw [World.deeds, List.forall_mem_cons] at hcalm
      rcases (h.tick x).wait_after h.coherent hw with ⟨hafter, hsame⟩ | hi | ⟨t', ht', hx, hdue, hq⟩
      · have hnow' : (w.happen x).now ≤ t.due := by
          rw [(w.clock_happen x).2]
          by_cases hpass : 0 < x.elapsed
          · have hmem : t ∈ w.ticking p t.epoch := ht ▸ List.mem_singleton_self t
            exact hprompt.1 hpass t (World.mem_ticking.mp hmem).1
          · omega
        rcases ih (h.happen x) hafter (hsame.trans ht) hnow' hcalm.2 hprompt.2 with
          ⟨hwaits, hrest⟩ | hr
        · exact .inl ⟨World.waitsThrough_cons.mpr ⟨hw, hwaits⟩, hrest⟩
        · exact .inr (hr.cons hw)
      · rw [hcalm.1] at hi
        cases hi
      · rw [ht, List.mem_singleton] at ht'
        subst ht' hx
        exact .inr ⟨[], hs, rfl, World.waitsThrough_nil.mpr hw, le_antisymm hnow hdue, hq⟩

end Orderly

/-- **A wait and its timers.** Whoever waits for its next attempt has waited since a failure. The
pending timers that would queue it are those that were left over at the failure with the number of
the wait, and the one that the failure has set; none is left over if the die was never registered
anew while timers of it were pending. If none is left over, then in every prompt run in which no
request intervenes the die waits until its timer is due, and is queued by it at that time. -/
theorem waits_since_failure (config : Config) (delay : ℕ) (radio : Radio)
    (pairings : List Peripheral) (hs : List Happening) (p : PixelId) (a : UInt32) (e : ℕ)
    (hw : ((World.start config delay radio pairings).after hs).state.wait? p = some (a, e)) :
    let start := World.start config delay radio pairings
    ∃ pre h post, hs = pre ++ h :: post ∧
      let w := start.after pre
      let t : Timer := ⟨w.now + config.backoff a, p, e⟩
      w.BacksOff h p a e ∧ (w.happen h).WaitsThrough p a e post
        ∧ (start.after hs).passing p = w.ticking p e ++ [t]
        ∧ (start.Fresh p pre → w.ticking p e = [])
        ∧ (w.ticking p e = [] → ∀ next,
            (∀ d ∈ (w.happen h).deeds next, d.intervenes p = false) →
            (w.happen h).Prompt next →
            ((w.happen h).WaitsThrough p a e next
                ∧ ((w.happen h).after next).passing p = [t]
                ∧ ((w.happen h).after next).now ≤ t.due)
              ∨ (w.happen h).Requeues p a t next) := by
  intro start
  have hstart : Orderly start.state [] 0 := Orderly.start config delay radio pairings
  rcases Orderly.waits_since (w := start) hstart hw with ⟨hwaits, -⟩ |
    ⟨pre, h, post, rfl, hb, hwaits, hticking⟩
  · have hnone : start.state.wait? p = none := State.wait?_start radio.adapter pairings p
    rw [show start.state.wait? p = some (a, e) from hwaits [] List.nil_prefix] at hnone
    cases hnone
  · have ho : Orderly (start.after pre).state (start.after pre).sessions
        (start.after pre).started := Orderly.after (w := start) hstart pre
    have hset : ((start.after pre).happen h).ticking p e
        = (start.after pre).ticking p e ++ [⟨(start.after pre).now + config.backoff a, p, e⟩] := by
      have htimers := hb.timers
      rw [start.config_after pre] at htimers
      exact World.ticking_append htimers
    refine ⟨pre, h, post, rfl, hb, hwaits, ?_, ?_, ?_⟩
    · rw [World.passing_eq_ticking hw, hticking, hset]
    · intro hfresh
      refine hb.ticking_eq_nil (hstart.counts_after (w := start) ?_ hfresh)
      exact fun m hm t ht => by cases ht
    · intro hnone next hcalm hprompt
      rw [hnone, List.nil_append] at hset
      have hnow : ((start.after pre).happen h).now ≤ (start.after pre).now + config.backoff a := by
        obtain ⟨id, s, error, rfl, -⟩ := hb.refused
        rw [(World.clock_happen _ _).2]
        exact Nat.add_le_add_left (Nat.zero_le _) _
      refine ((ho.happen h).waits_or_requeues hb.wait hset hnow hcalm hprompt).imp_left ?_
      rintro ⟨hwaits', hticking', hnow'⟩
      refine ⟨hwaits', ?_, hnow'⟩
      rw [World.passing_eq_ticking (hwaits' next (List.prefix_refl next)), hticking']

namespace Sample

/-- The die is asked for at high priority, and the attempt of a session to connect is refused. -/
def refusal (id : ℕ) : List Happening :=
  [.move (.request (.connect ring .high)), .move .dispatch, .move .dispatch, .move (.session id),
    .connection id (.error .disconnected), .move (.session id)]

/-- The die is forgotten and registered again. -/
def renewal : List Happening :=
  [.move (.request (.unregister ring)),
    .move (.request (.register (.new "ring" ring .d20 default)))]

end Sample

open Sample

/-- A die waits for the only timer after its attempt to connect was refused. -/
theorem waits_after_refusal :
    (world.after (refusal 0)).state.wait? ring = some (1, 1)
      ∧ ∃ pre h post, refusal 0 = pre ++ h :: post ∧ (world.after pre).BacksOff h ring 1 1
        ∧ (world.after (refusal 0)).passing ring = [⟨(world.after pre).now + 1000, ring, 1⟩] := by
  have hw : (world.after (refusal 0)).state.wait? ring = some (1, 1) := by decide +kernel
  have hnone : ∀ k < 6, (world.after ((refusal 0).take k)).ticking ring 1 = [] := by
    decide +kernel
  obtain ⟨pre, h, post, heq, hb, -, hpassing, -⟩ :=
    waits_since_failure {} 0 _ _ (refusal 0) ring 1 1 hw
  have hpre : pre = (refusal 0).take pre.length := by rw [heq, List.take_left]
  have hlength : pre.length < 6 := by
    have hsix : (refusal 0).length = 6 := rfl
    rw [heq, List.length_append, List.length_cons] at hsix
    omega
  have hticking : (world.after pre).ticking ring 1 = [] := by
    rw [hpre]
    exact hnone _ hlength
  exact ⟨hw, pre, h, post, heq, hb, hpassing.trans (congrArg (· ++ _) hticking)⟩

/-- A die that is forgotten and registered again while it waits, and fails again, is queued by the
timer of its first wait: after 900 milliseconds instead of 1000. -/
theorem queued_by_stale_timer :
    let w := world.after (refusal 0 ++ .move (.advance 100) :: renewal ++ refusal 1)
    let next : List Happening := [.move (.advance 900), .move (.timer ⟨1000, ring, 1⟩)]
    w.state.wait? ring = some (1, 1) ∧ w.now = 100 ∧ w.config.backoff 1 = 1000
      ∧ w.passing ring = [⟨1000, ring, 1⟩, ⟨1100, ring, 1⟩]
      ∧ w.Prompt next ∧ (∀ d ∈ w.deeds next, d.intervenes ring = false)
      ∧ (w.after next).now = 1000
      ∧ (w.after next).state.queue.priority? ring = some .low := by
  decide +kernel

end DiceHost.Scheduler
