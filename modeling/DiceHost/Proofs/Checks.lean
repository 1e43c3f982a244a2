/-
What it means that an entity passes its check.

* `Check.seq_eq_ok`, `Check.require_eq_ok`, `Check.each_eq_ok`: a check made of parts is
  passed when all its parts are;
* `Keyframe.length_of_checkAll`: a track that passes has at most 255 keyframes;
* `Condition.face_of_check`, `Animation.duration_of_check`: the numbers that a data set
  keeps in fewer bits are small.
-/
import Mathlib.Tactic
import DiceHost.Library.Basic

namespace DiceHost

namespace Check

/-- A result after a check is there when the check is passed. -/
lemma seq_eq_ok {ε α : Type} {x : Except ε Unit} {y : Except ε α} {a : α} :
    (do x; y) = .ok a ↔ x = .ok () ∧ y = .ok a := by
  cases x with
  | error e =>
      constructor
      · intro h
        cases h
      · rintro ⟨h, -⟩
        cases h
  | ok u => exact ⟨fun h => ⟨rfl, h⟩, fun h => h.2⟩

lemma require_eq_ok {ok : Bool} {field : Field} {defect : Defect} :
    require ok field defect = .ok () ↔ ok = true := by
  cases ok <;> simp [require]

/-- All members of a list are passed when each of them is. -/
lemma each_eq_ok {α : Type} {f : α → Check} {xs : List α} :
    each f xs = .ok () ↔ ∀ x ∈ xs, f x = .ok () := by
  induction xs with
  | nil => simp [each]
  | cons x xs ih => rw [each, seq_eq_ok, ih, List.forall_mem_cons]

lemma duration_eq_ok {field : Field} {ms : UInt32} :
    duration field ms = .ok () ↔ ms.toNat < 2 ^ 16 := by
  rw [duration, require_eq_ok, decide_eq_true_iff, UInt32.le_iff_toNat_le]
  exact Nat.lt_succ_iff.symm

lemma face_eq_ok {f : UInt32} : face f = .ok () ↔ Die.IsFace f := by
  by_cases h : Die.IsFace f
  · rw [face, Die.faceMask_of_isFace h]
    exact iff_of_true rfl h
  · rw [face, Die.faceMask_of_not_isFace h]
    exact iff_of_false nofun h

end Check

/-- A track that passes its check has at most 255 keyframes. -/
lemma Keyframe.length_of_checkAll {ks : List Keyframe} (h : Keyframe.checkAll ks = .ok ()) :
    ks.length < 2 ^ 8 := by
  rw [Keyframe.checkAll, Check.seq_eq_ok, Check.seq_eq_ok, Check.require_eq_ok,
    Check.require_eq_ok, decide_eq_true_iff] at h
  exact Nat.lt_succ_of_le h.2.1

/-- The tracks of a pattern that passes its check have at most 255 keyframes each. -/
lemma Pattern.length_of_check {p : Pattern} (h : p.check = .ok ()) :
    ∀ t ∈ p.tracks, t.keyframes.length < 2 ^ 8 := by
  intro t ht
  rw [Pattern.check, Check.seq_eq_ok, Check.each_eq_ok] at h
  have ht' := h.2 t ht
  rw [PatternTrack.check, Check.seq_eq_ok] at ht'
  exact Keyframe.length_of_checkAll ht'.2

/-- The gradient of a kind of animation that passes its check has at most 255 keyframes. -/
lemma AnimationKind.length_of_check {k : AnimationKind} (h : k.check = .ok ()) :
    ∀ g, k.gradient? = some g → g.keyframes.length < 2 ^ 8 := by
  rintro g hg
  have hcheck : g.check = .ok () := by
    cases k with
    | gradient g' => cases hg; exact h
    | gradientPattern pattern g' override => cases hg; exact h
    | cycle g' count fade intensity cycles =>
        cases hg
        exact (Check.seq_eq_ok.mp h).1
    | simple | keyframed | rainbow | noise => cases hg
  exact Keyframe.length_of_checkAll hcheck

/-- The duration of an animation that passes its check fits sixteen bits. -/
lemma Animation.duration_of_check {a : Animation} (h : a.check = .ok ()) :
    a.duration.toNat < 2 ^ 16 := by
  rw [Animation.check, Check.seq_eq_ok] at h
  exact Check.duration_eq_ok.mp h.1

lemma Animation.kind_of_check {a : Animation} (h : a.check = .ok ()) :
    a.kind.check = .ok () := by
  rw [Animation.check, Check.seq_eq_ok, Check.seq_eq_ok] at h
  exact h.2.2

/-- The face of a comparison that passes its check fits eight bits. -/
lemma Condition.face_of_check {face : UInt32} {flags : Flags .faceCompare}
    (h : (Condition.faceCompare face flags).check = .ok ()) : face.toNat < 2 ^ 8 := by
  rw [Condition.check, Check.seq_eq_ok, Check.face_eq_ok] at h
  have hmax := (Die.isFace_iff.mp h.1).2
  omega

/-- The conditions of a profile that passes its check pass theirs. -/
lemma Profile.condition_of_check {p : Profile} (h : p.check = .ok ()) :
    ∀ r ∈ p.rules, r.condition.check = .ok () := by
  intro r hr
  rw [Profile.check, Check.seq_eq_ok, Check.each_eq_ok] at h
  have hr' := h.2 r hr
  rw [Rule.check, Check.seq_eq_ok] at hr'
  exact hr'.1

end DiceHost
