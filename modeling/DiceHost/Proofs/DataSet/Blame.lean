/-
No entity is found at fault that passes its check.

* `Emit.Clears`: a step that never fails because of an entity;
* `Source.Checked`: what an emission reads passes its check;
* `compile_ne_entity`: **a compilation that reads only what passes its check never fails because
  of an entity**.
-/
import DiceHost.Proofs.DataSet.Emission

namespace DiceHost.DataSet

/-! ### Steps -/

/-- What does not fail in a way, and goes on to what does not, does not fail in that way. -/
lemma bind_ne_error {ε α β : Type} {x : Except ε α} {f : α → Except ε β} {err : ε}
    (hx : x ≠ .error err) (hf : ∀ a, f a ≠ .error err) : (x >>= f) ≠ .error err := by
  cases x with
  | error err' => exact fun h => hx (congrArg _ (Except.error.inj h))
  | ok a => exact hf a

namespace Emit

variable {α β : Type}

/-- A step that never fails because of an entity. -/
def Clears (x : Emit α) : Prop := ∀ d e, x d ≠ .error (.entity e)

lemma clears_pure (a : α) : Clears (pure a) := fun _ _ h => by cases h

lemma clears_get : Clears get := fun _ _ h => by cases h

lemma clears_set (d : Draft) : Clears (set d) := fun _ _ h => by cases h

lemma clears_modify (f : Draft → Draft) : Clears (modify f) := fun _ _ h => by cases h

lemma clears_throw {err : CompileError} (h : ∀ e, err ≠ .entity e) :
    Clears (throw err : Emit α) :=
  fun _ e h' => h e (Except.error.inj h')

lemma clears_bind {x : Emit α} {f : α → Emit β} (hx : x.Clears) (hf : ∀ a, Clears (f a)) :
    Clears (x >>= f) := by
  intro d e
  change (x d >>= fun r => f r.1 r.2) ≠ _
  exact bind_ne_error (hx d e) fun r => hf r.1 r.2 e

end Emit

open Emit

/-! ### Emissions -/

/-- What an emission reads passes its check. -/
structure Source.Checked (s : Source) : Prop where
  animation : ∀ u a, s.animation? u = some a → a.check = .ok ()
  pattern : ∀ u p, s.pattern? u = some p → p.check = .ok ()

variable {s : Source}

lemma clears_emitTrack (ks : List Keyframe) (ledMask : UInt32) :
    Clears (emitTrack s ks ledMask) := fun _ _ h => by cases h

lemma clears_emitTracks (ts : List PatternTrack) : Clears (emitTracks s ts) := by
  intro d e h
  rw [emitTracks_eq] at h
  cases h

lemma checkCapacity_ne_entity (what : Capacity) (count limit : ℕ) (e : EntityError) :
    checkCapacity what count limit ≠ .error (.entity e) := by
  rw [checkCapacity]
  split_ifs <;> nofun

namespace Source.Checked

variable (hs : s.Checked)

include hs

lemma emitPattern (u : Uuid) : Clears (emitPattern s u) := by
  refine clears_bind clears_get fun d => ?_
  split
  · exact clears_pure _
  · cases hp : s.pattern? u with
    | none => exact clears_throw nofun
    | some p =>
        simp only [hs.pattern u p hp]
        exact clears_bind (clears_emitTracks _) fun _ =>
          clears_bind (clears_modify _) fun _ => clears_pure _

lemma emitPayload (a : Animation) : Clears (emitPayload s a) := by
  rw [DataSet.emitPayload]
  cases a.kind with
  | simple | rainbow => exact clears_pure _
  | keyframed v t useLedIndices => exact clears_bind (hs.emitPattern v) fun _ => clears_pure _
  | gradientPattern v g override =>
      exact clears_bind (hs.emitPattern v) fun _ =>
        clears_bind (clears_emitTrack _ _) fun _ => clears_pure _
  | gradient g => exact clears_bind (clears_emitTrack _ _) fun _ => clears_pure _
  | cycle g => exact clears_bind (clears_emitTrack _ _) fun _ => clears_pure _
  | noise => exact clears_throw nofun

lemma emitRecord (a : Animation) : Clears (emitRecord s a) := by
  refine clears_bind (hs.emitPayload a) fun r => ?_
  cases a.kind.typeCode? with
  | none => exact clears_throw nofun
  | some code => exact clears_pure _

lemma emitAnimation (u : Uuid) : Clears (emitAnimation s u) := by
  refine clears_bind clears_get fun d => ?_
  split
  · exact clears_pure _
  · cases ha : s.animation? u with
    | none => exact clears_throw nofun
    | some a =>
        simp only [hs.animation u a ha]
        exact clears_bind (hs.emitRecord a) fun _ =>
          clears_bind clears_get fun _ => clears_bind (clears_set _) fun _ => clears_pure _

lemma emitAction (rule place : ℕ) (a : Action) : Clears (emitAction s rule place a) := by
  cases a with
  | playAnimation u => exact clears_bind (hs.emitAnimation u) fun _ => clears_pure _
  | playAudioClip | makeWebRequest | speakText =>
      exact clears_bind (clears_modify _) fun _ => clears_pure _

lemma emitActions (rule place : ℕ) (as : List Action) :
    Clears (emitActions s rule place as) := by
  induction as generalizing place with
  | nil => exact clears_pure _
  | cons a as ih =>
      exact clears_bind (hs.emitAction rule place a) fun _ =>
        clears_bind (clears_modify _) fun _ => ih (place + 1)

lemma emitRule (limits : Limits) (number : ℕ) (r : Rule) :
    Clears (emitRule s limits number r) := by
  refine clears_bind (fun d e h => ?_) fun _ => clears_bind clears_get fun _ =>
    clears_bind (clears_modify _) fun _ => clears_bind (hs.emitActions _ _ _) fun _ =>
      clears_modify _
  cases hcap : checkCapacity .actionsPerRule r.actions.length
      (min limits.actionsPerRule 256) with
  | error err =>
      rw [hcap] at h
      cases h
      exact checkCapacity_ne_entity _ _ _ e hcap
  | ok _ =>
      rw [hcap] at h
      cases h

lemma emitRules (limits : Limits) (number : ℕ) (rs : List Rule) :
    Clears (emitRules s limits number rs) := by
  induction rs generalizing number with
  | nil => exact clears_pure _
  | cons r rs ih => exact clears_bind (hs.emitRule limits number r) fun _ => ih (number + 1)

end Source.Checked

/-! ### Compilations -/

lemma checkSections_ne_entity (limits : Limits) (c : Contents) (e : EntityError) :
    checkSections limits c ≠ .error (.entity e) := by
  have hcheck (what : Capacity) (count limit : ℕ) := checkCapacity_ne_entity what count limit e
  exact bind_ne_error (hcheck _ _ _) fun _ => bind_ne_error (hcheck _ _ _) fun _ =>
    bind_ne_error (hcheck _ _ _) fun _ => bind_ne_error (hcheck _ _ _) fun _ => hcheck _ _ _

/-- **A compilation that reads only what passes its check never fails because of an entity.** -/
theorem compile_ne_entity {p : Profile} {l : Library} (hp : p.check = .ok ())
    (hs : (Source.ofProfile p l).Checked) (o : CompileOptions) (e : EntityError) :
    compile p l o ≠ .error (.entity e) := by
  rw [compile, hp]
  exact bind_ne_error nofun fun _ => bind_ne_error (checkCapacity_ne_entity _ _ _ e) fun _ =>
    bind_ne_error (hs.emitRules o.limits 0 p.rules {} e) fun _ =>
      bind_ne_error (checkSections_ne_entity _ _ e) nofun

end DiceHost.DataSet
