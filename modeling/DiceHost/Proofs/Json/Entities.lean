/-
Entities are told by their documents.

* `Animation.plain_toJson`, `Pattern.plain_toJson`, `Profile.plain_toJson`: the documents of
  entities have no numbers of the 64-bit format;
* `Animation.definite_toJson`, `Pattern.definite_toJson`, `Profile.definite_toJson`: the numbers of
  entities that pass their checks are finite;
* `Animation.toJson_injective`, `Pattern.toJson_injective`: **animations and patterns are told by
  their documents**;
* `Profile.Alike`, `Profile.alike_of_toJson`: profiles are, but for the times at which they were
  created and modified.
-/
import DiceHost.Proofs.Checks
import DiceHost.Proofs.Json.Compact
import DiceHost.Proofs.Text.Names

namespace DiceHost

open Numeric

/-! ### Plain documents -/

namespace Json

@[simp] lemma plain_str (s : String) : (Json.str s).Plain := .str s

@[simp] lemma plain_bool (b : Bool) : (Json.bool b).Plain := .bool b

@[simp] lemma plain_nat (n : ℕ) : (Json.nat n).Plain := .int n

@[simp] lemma plain_single (x : Binary32) : (Json.single x).Plain := .single x

@[simp] lemma plain_list {α : Type} {f : α → Json} {xs : List α} (h : ∀ x ∈ xs, (f x).Plain) :
    (Json.list f xs).Plain := by
  refine .arr fun j hj => ?_
  obtain ⟨x, hx, rfl⟩ := List.mem_map.mp hj
  exact h x hx

end Json

@[simp] lemma Uuid.plain_toJson (u : Uuid) : u.toJson.Plain := .str _

@[simp] lemma DieKind.plain_toJson (k : DieKind) : k.toJson.Plain := .str _

@[simp] lemma Flags.plain_toJson {kind : FlagKind} (f : Flags kind) : f.toJson.Plain := .str _

@[simp] lemma Timestamp.plain_toJson (t : Timestamp) : t.toJson.Plain := .str _

@[simp] lemma Color.plain_toJson (c : Color) : c.toJson.Plain := .obj (by simp)

@[simp] lemma Keyframe.plain_toJson (k : Keyframe) : k.toJson.Plain := .obj (by simp)

@[simp] lemma Gradient.plain_toJson (g : Gradient) : g.toJson.Plain := .obj (by simp)

@[simp] lemma PatternTrack.plain_toJson (t : PatternTrack) : t.toJson.Plain := .obj (by simp)

lemma Pattern.plain_toJson (p : Pattern) : p.toJson.Plain := .obj (by simp)

lemma AnimationKind.plain_entries (k : AnimationKind) : ∀ e ∈ k.entries, e.2.Plain := by
  cases k <;> simp [entries]

lemma Animation.plain_toJson (a : Animation) : a.toJson.Plain :=
  .obj (List.forall_mem_append.mpr ⟨by simp, a.kind.plain_entries⟩)

@[simp] lemma Condition.plain_toJson (c : Condition) : c.toJson.Plain := by
  cases c <;> exact .obj (by simp)

@[simp] lemma Action.plain_toJson (a : Action) : a.toJson.Plain := by
  cases a <;> exact .obj (by simp)

@[simp] lemma Rule.plain_toJson (r : Rule) : r.toJson.Plain := .obj (by simp)

lemma Profile.plain_toJson (p : Profile) : p.toJson.Plain := .obj (by simp)

/-! ### Numbers that pass a check -/

/-- A number between two finite numbers is finite. -/
lemma Numeric.Binary32.isFinite_of_le {x y : Binary32} (hx : Binary32.zero.le x = true)
    (hy : x.le y = true) (hfinite : y.isFinite = true) : x.isFinite = true := by
  have hzero : Binary32.zero.rank = 0 := by decide +kernel
  simp only [Binary32.le, Bool.and_eq_true, decide_eq_true_eq, hzero] at hx hy
  have hlow := hx.2
  have hhigh := hy.2
  rw [Binary32.isFinite, decide_eq_true_eq] at hfinite ⊢
  simp only [Binary32.rank] at hlow hhigh
  split_ifs at hlow hhigh <;> omega

lemma Check.isFinite_of_unit {field : Field} {x : Binary32} (h : Check.unit field x = .ok ()) :
    x.isFinite = true := by
  rw [Check.unit, Check.require_eq_ok, Bool.and_eq_true] at h
  exact Binary32.isFinite_of_le h.1 h.2 (by decide +kernel)

lemma AnimationKind.isFinite_of_checkCycles {x : Binary32} (h : checkCycles x = .ok ()) :
    x.isFinite = true := by
  rw [checkCycles, Check.require_eq_ok, Bool.and_eq_true] at h
  exact Binary32.isFinite_of_le h.1 h.2 (by decide +kernel)

lemma Check.isFinite_of_nonNegative {field : Field} {x : Binary32}
    (h : Check.nonNegative field x = .ok ()) : x.isFinite = true := by
  rw [Check.nonNegative, Check.require_eq_ok, Bool.and_eq_true] at h
  exact h.1

lemma Check.isFinite_of_positive {field : Field} {x : Binary32}
    (h : Check.positive field x = .ok ()) : x.isFinite = true := by
  rw [Check.positive, Check.require_eq_ok, Bool.and_eq_true] at h
  exact h.1

/-! ### Definite documents -/

namespace Json

@[simp] lemma definite_str (s : String) : (Json.str s).Definite := .str s

@[simp] lemma definite_bool (b : Bool) : (Json.bool b).Definite := .bool b

@[simp] lemma definite_nat (n : ℕ) : (Json.nat n).Definite := .int n

@[simp] lemma definite_single {x : Binary32} (h : x.isFinite = true) : (Json.single x).Definite :=
  .single h

@[simp] lemma definite_list {α : Type} {f : α → Json} {xs : List α}
    (h : ∀ x ∈ xs, (f x).Definite) : (Json.list f xs).Definite := by
  refine .arr fun j hj => ?_
  obtain ⟨x, hx, rfl⟩ := List.mem_map.mp hj
  exact h x hx

end Json

@[simp] lemma Uuid.definite_toJson (u : Uuid) : u.toJson.Definite := .str _

@[simp] lemma DieKind.definite_toJson (k : DieKind) : k.toJson.Definite := .str _

@[simp] lemma Flags.definite_toJson {kind : FlagKind} (f : Flags kind) : f.toJson.Definite := .str _

@[simp] lemma Timestamp.definite_toJson (t : Timestamp) : t.toJson.Definite := .str _

@[simp] lemma Color.definite_toJson (c : Color) : c.toJson.Definite := .obj (by simp)

lemma Keyframe.definite_toJson {k : Keyframe} (h : k.check = .ok ()) : k.toJson.Definite :=
  .obj (by simp [Check.isFinite_of_unit h])

lemma Keyframe.definite_of_checkAll {ks : List Keyframe} (h : Keyframe.checkAll ks = .ok ()) :
    (Json.list Keyframe.toJson ks).Definite := by
  rw [Keyframe.checkAll, Check.seq_eq_ok, Check.seq_eq_ok, Check.each_eq_ok] at h
  exact Json.definite_list fun k hk => Keyframe.definite_toJson (h.2.2 k hk)

lemma Gradient.definite_toJson {g : Gradient} (h : g.check = .ok ()) : g.toJson.Definite :=
  .obj (by simp [Keyframe.definite_of_checkAll h])

lemma PatternTrack.definite_toJson {t : PatternTrack} (h : t.check = .ok ()) :
    t.toJson.Definite := by
  rw [PatternTrack.check, Check.seq_eq_ok] at h
  exact .obj (by simp [Keyframe.definite_of_checkAll h.2])

lemma Pattern.definite_toJson {p : Pattern} (h : p.check = .ok ()) : p.toJson.Definite := by
  rw [Pattern.check, Check.seq_eq_ok, Check.each_eq_ok] at h
  have htracks := Json.definite_list fun t ht => PatternTrack.definite_toJson (h.2 t ht)
  exact .obj (by simp [htracks])

lemma AnimationKind.definite_entries {k : AnimationKind} (h : k.check = .ok ()) :
    ∀ e ∈ k.entries, e.2.Definite := by
  cases k with
  | simple color count fade =>
      rw [check, Check.seq_eq_ok] at h
      simp [entries, Check.isFinite_of_unit h.2]
  | gradient g => simp [entries, Gradient.definite_toJson h]
  | gradientPattern pattern g override =>
      simp [entries, Gradient.definite_toJson (g := g) h]
  | keyframed | noise => simp [entries]
  | rainbow count fade intensity cycles traveling =>
      rw [check, Check.seq_eq_ok, Check.seq_eq_ok, Check.seq_eq_ok] at h
      simp [entries, Check.isFinite_of_unit h.2.1, Check.isFinite_of_unit h.2.2.1,
        isFinite_of_checkCycles h.2.2.2]
  | cycle g count fade intensity cycles =>
      rw [check, Check.seq_eq_ok, Check.seq_eq_ok, Check.seq_eq_ok, Check.seq_eq_ok] at h
      simp [entries, Gradient.definite_toJson h.1, Check.isFinite_of_unit h.2.2.1,
        Check.isFinite_of_unit h.2.2.2.1, isFinite_of_checkCycles h.2.2.2.2]

lemma Animation.definite_toJson {a : Animation} (h : a.check = .ok ()) : a.toJson.Definite :=
  .obj (List.forall_mem_append.mpr
    ⟨by simp, AnimationKind.definite_entries (Animation.kind_of_check h)⟩)

@[simp] lemma Condition.definite_toJson (c : Condition) : c.toJson.Definite := by
  cases c <;> exact .obj (by simp)

lemma Action.definite_toJson {a : Action} (h : a.check = .ok ()) : a.toJson.Definite := by
  cases a with
  | speakText text pitch rate =>
      rw [check, Check.seq_eq_ok] at h
      exact .obj (by simp [Check.isFinite_of_positive h.1, Check.isFinite_of_positive h.2])
  | playAnimation | playAudioClip | makeWebRequest => exact .obj (by simp)

lemma Rule.definite_toJson {r : Rule} (h : r.check = .ok ()) : r.toJson.Definite := by
  rw [Rule.check, Check.seq_eq_ok, Check.each_eq_ok] at h
  have hactions := Json.definite_list fun a ha => Action.definite_toJson (h.2 a ha)
  exact .obj (by simp [hactions])

lemma Profile.definite_toJson {p : Profile} (h : p.check = .ok ()) : p.toJson.Definite := by
  rw [Profile.check, Check.seq_eq_ok, Check.each_eq_ok] at h
  have hrules := Json.definite_list fun r hr => Rule.definite_toJson (h.2 r hr)
  exact .obj (by simp [hrules, Check.isFinite_of_nonNegative h.1])

/-! ### Identifiers and names -/

namespace Json

lemma nat_inj {m n : ℕ} : Json.nat m = Json.nat n ↔ m = n := by
  simp [Json.nat]

lemma list_inj {α : Type} {f : α → Json} (hf : Function.Injective f) {xs ys : List α} :
    Json.list f xs = Json.list f ys ↔ xs = ys := by
  rw [Json.list, Json.list, Json.arr.injEq, (List.map_injective_iff.mpr hf).eq_iff]

end Json

lemma Uuid.toJson_injective : Function.Injective Uuid.toJson :=
  fun _ _ h => Text.injective_of_readBack Uuid.parse?_text (Json.str.inj h)

lemma DieKind.toJson_injective : Function.Injective DieKind.toJson :=
  fun _ _ h => Text.injective_of_readBack DieKind.ofName?_name (Json.str.inj h)

lemma Flags.toJson_injective {kind : FlagKind} :
    Function.Injective (toJson : Flags kind → Json) :=
  fun _ _ h => Text.injective_of_readBack Flags.parse?_text (Json.str.inj h)

/-! ### Entities -/

lemma Color.toJson_injective : Function.Injective Color.toJson := by
  rintro ⟨⟩ ⟨⟩ h
  simpa [toJson, Json.nat_inj, UInt8.toNat_inj] using h

lemma Keyframe.toJson_injective : Function.Injective Keyframe.toJson := by
  rintro ⟨⟩ ⟨⟩ h
  simpa [toJson, Color.toJson_injective.eq_iff] using h

lemma Gradient.toJson_injective : Function.Injective Gradient.toJson := by
  rintro ⟨⟩ ⟨⟩ h
  simpa [toJson, Json.list_inj Keyframe.toJson_injective] using h

lemma PatternTrack.toJson_injective : Function.Injective PatternTrack.toJson := by
  rintro ⟨⟩ ⟨⟩ h
  simpa [toJson, Json.nat_inj, UInt32.toNat_inj, Json.list_inj Keyframe.toJson_injective] using h

/-- **A pattern is told by its document.** -/
theorem Pattern.toJson_injective : Function.Injective Pattern.toJson := by
  rintro ⟨⟩ ⟨⟩ h
  simpa [toJson, Uuid.toJson_injective.eq_iff, Json.list_inj PatternTrack.toJson_injective] using h

lemma AnimationKind.entries_injective : Function.Injective AnimationKind.entries := by
  intro k k' h
  cases k <;> cases k' <;>
    simp_all [entries, Json.nat_inj, UInt8.toNat_inj, Color.toJson_injective.eq_iff,
      Gradient.toJson_injective.eq_iff, Uuid.toJson_injective.eq_iff]

/-- **An animation is told by its document.** -/
theorem Animation.toJson_injective : Function.Injective Animation.toJson := by
  rintro ⟨⟩ ⟨⟩ h
  simpa [toJson, Uuid.toJson_injective.eq_iff, Json.nat_inj, UInt32.toNat_inj,
    AnimationKind.entries_injective.eq_iff] using h

lemma Condition.toJson_injective : Function.Injective Condition.toJson := by
  intro c c' h
  cases c <;> cases c' <;>
    simp_all [toJson, Json.nat_inj, UInt32.toNat_inj, Flags.toJson_injective.eq_iff]

lemma WebRequestFormat.name_injective : Function.Injective WebRequestFormat.name :=
  Text.injective_of_readBack WebRequestFormat.ofName?_name

lemma Action.toJson_injective : Function.Injective Action.toJson := by
  intro a a' h
  cases a <;> cases a' <;>
    simp_all [toJson, Json.nat_inj, UInt8.toNat_inj, UInt32.toNat_inj,
      Uuid.toJson_injective.eq_iff, WebRequestFormat.name_injective.eq_iff]

lemma Rule.toJson_injective : Function.Injective Rule.toJson := by
  rintro ⟨⟩ ⟨⟩ h
  simpa [toJson, Condition.toJson_injective.eq_iff, Json.list_inj Action.toJson_injective] using h

/-- Profiles that differ in the times at which they were created and modified at most. -/
structure Profile.Alike (p q : Profile) : Prop where
  uuid : p.uuid = q.uuid
  name : p.name = q.name
  description : p.description = q.description
  dieKind : p.dieKind = q.dieKind
  rules : p.rules = q.rules
  brightness : p.brightness = q.brightness

/-- **Profiles are told by their documents, but for these times.** -/
theorem Profile.alike_of_toJson {p q : Profile} (h : p.toJson = q.toJson) : p.Alike q := by
  simp only [toJson, Json.obj.injEq, List.cons.injEq, Prod.mk.injEq, true_and, Json.str.injEq,
    Json.single.injEq, Uuid.toJson_injective.eq_iff, DieKind.toJson_injective.eq_iff,
    Json.list_inj Rule.toJson_injective] at h
  obtain ⟨huuid, hname, hdescription, hkind, hrules, hbrightness, -⟩ := h
  exact ⟨huuid, hname, hdescription, hkind, hrules, hbrightness⟩

end DiceHost
