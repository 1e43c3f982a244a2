/-
What a content digest is taken of tells what a compilation reads.

* `eq_of_digestPart_append`, `eq_of_digestParts`: documents are told by the stream of their texts,
  each of which ends with a zero byte;
* `definite_animation`, `definite_pattern`: what a profile with a data set pulls in has definite
  documents;
* `reads_of_contentBytes`: **when a profile has a data set, another one has the same stream only if
  the profiles are alike, the libraries agree and the options are the same**;
* `compile_of_contentBytes`: so it has the same data set.
-/
import DiceHost.DataSet.Cache
import DiceHost.Proofs.DataSet.Agreement
import DiceHost.Proofs.Text.Bytes

namespace DiceHost

open Numeric

/-! ### Values that may be absent -/

namespace Json

variable {α : Type} {f : α → Json}

lemma plain_opt (hf : ∀ x, (f x).Plain) (x : Option α) : (Json.opt f x).Plain := by
  cases x with
  | none => exact .null
  | some x => exact hf x

lemma opt_injective (hf : Function.Injective f) (hnull : ∀ x, f x ≠ .null) :
    Function.Injective (Json.opt f) := by
  intro x y h
  cases x with
  | none =>
      cases y with
      | none => rfl
      | some y => exact absurd h.symm (hnull y)
  | some x =>
      cases y with
      | none => exact absurd h (hnull x)
      | some y => exact congrArg _ (hf h)

end Json

lemma Animation.opt_toJson_injective : Function.Injective (Json.opt Animation.toJson) :=
  Json.opt_injective Animation.toJson_injective fun a => by simp [toJson]

lemma Pattern.opt_toJson_injective : Function.Injective (Json.opt Pattern.toJson) :=
  Json.opt_injective Pattern.toJson_injective fun q => by simp [toJson]

namespace DataSet

/-! ### Options -/

lemma CompileOptions.definite_toJson (o : CompileOptions) : o.toJson.Definite :=
  .obj fun e he => by
    rw [List.mem_singleton.mp he]
    exact .obj (by simp)

lemma CompileOptions.toJson_injective : Function.Injective CompileOptions.toJson := by
  rintro ⟨⟨⟩⟩ ⟨⟨⟩⟩ h
  simpa [toJson, Limits.toJson, Json.nat_inj] using h

/-! ### The stream -/

/-- A document is told by its part of a stream, whatever follows. -/
lemma eq_of_digestPart_append {j j' : Json} {r r' : List UInt8} (hj : j.Definite) (hj' : j'.Plain)
    (h : digestPart j ++ r = digestPart j' ++ r') : j = j' ∧ r = r' := by
  have hne {j : Json} (hj : j.Plain) : ∀ c ∈ j.compact, c ≠ '\x00' :=
    fun c hc heq => Json.zero_notMem_compact hj (heq ▸ hc)
  rw [digestPart, digestPart, Text.toList_toUTF8, Text.toList_toUTF8, List.append_assoc,
    List.append_assoc, List.singleton_append, List.singleton_append] at h
  obtain ⟨hcompact, hrest⟩ := Text.eq_of_bytes_append (hne hj.plain) (hne hj') h
  have happend : j.compact ++ [] = j'.compact ++ [] := by rw [hcompact]
  exact ⟨(Json.eq_of_compact_append hj hj' stops_nil stops_nil happend).1, hrest⟩

/-- Documents are told by their parts of a stream, whatever follows. -/
lemma eq_of_digestParts {f g : Uuid → Json} {us : List Uuid} {r r' : List UInt8}
    (hf : ∀ u ∈ us, (f u).Definite) (hg : ∀ u, (g u).Plain)
    (h : us.flatMap (fun u => digestPart (f u)) ++ r
      = us.flatMap (fun u => digestPart (g u)) ++ r') :
    (∀ u ∈ us, f u = g u) ∧ r = r' := by
  induction us with
  | nil => exact ⟨nofun, h⟩
  | cons u us ih =>
      rw [List.forall_mem_cons] at hf ⊢
      rw [List.flatMap_cons, List.flatMap_cons, List.append_assoc, List.append_assoc] at h
      obtain ⟨hu, hrest⟩ := eq_of_digestPart_append hf.1 (hg u) h
      obtain ⟨hus, hrest⟩ := ih hf.2 hrest
      exact ⟨⟨hu, hus⟩, hrest⟩

section Streams

variable {p q : Profile} {l l' : Library} {d d' : Dependencies} {o o' : CompileOptions}
  {c : Compiled}

/-- The patterns among the dependencies of a profile with a data set can be shown. -/
lemma showable_of_mem_patterns (hc : compile p l o = .ok c) (hd : dependencies p l = .ok d)
    {v : Uuid} (hv : v ∈ d.patterns) : (Source.ofProfile p l).Showable v := by
  obtain ⟨-, rfl⟩ := dependencies_eq_ok.mp hd
  rw [mem_firsts, List.mem_filterMap] at hv
  obtain ⟨u, hu, hshown⟩ := hv
  obtain ⟨a, ha, -, -, hpattern⟩ := playable_of_compile hc u hu
  change l.animation? u = some a at ha
  rw [Library.shown?, ha, Option.bind_some] at hshown
  exact hpattern v hshown

/-- The animations of a profile with a data set have definite documents. -/
lemma definite_animation (hc : compile p l o = .ok c) {u : Uuid} (hu : u ∈ p.animationRefs) :
    (Json.opt Animation.toJson (l.animation? u)).Definite := by
  obtain ⟨a, ha, hcheck, -⟩ := playable_of_compile hc u hu
  change l.animation? u = some a at ha
  rw [ha]
  exact Animation.definite_toJson hcheck

/-- So have its patterns. -/
lemma definite_pattern (hc : compile p l o = .ok c) (hd : dependencies p l = .ok d) {v : Uuid}
    (hv : v ∈ d.patterns) : (Json.opt Pattern.toJson (l.pattern? v)).Definite := by
  obtain ⟨q, hq, hcheck⟩ := showable_of_mem_patterns hc hd hv
  change l.pattern? v = some q at hq
  rw [hq]
  exact Pattern.definite_toJson hcheck

/-- **The stream of a compilation tells what it reads.** -/
theorem reads_of_contentBytes (hc : compile p l o = .ok c) (hd : dependencies p l = .ok d)
    (hd' : dependencies q l' = .ok d') (h : contentBytes p d l o = contentBytes q d' l' o') :
    p.Alike q ∧ Agree p l l' ∧ o = o' := by
  have hcheck : p.check = .ok () := (compile_eq_ok.mp hc).1
  have hvs {v : Uuid} (hv : v ∈ d.patterns) := definite_pattern hc hd hv
  obtain ⟨-, rfl⟩ := dependencies_eq_ok.mp hd
  obtain ⟨-, rfl⟩ := dependencies_eq_ok.mp hd'
  simp only [contentBytes, List.append_assoc] at h
  -- the profiles
  obtain ⟨hprofile, h⟩ :=
    eq_of_digestPart_append (Profile.definite_toJson hcheck) q.plain_toJson h
  have halike := Profile.alike_of_toJson hprofile
  -- the animations, which are the same ones
  have hrefs : q.animationRefs = p.animationRefs := by
    rw [Profile.animationRefs, Profile.animationRefs, halike.rules]
  rw [hrefs] at h
  obtain ⟨hanimations, h⟩ := eq_of_digestParts (fun u hu => definite_animation hc hu)
    (fun u => Json.plain_opt Animation.plain_toJson _) h
  have hanimation : ∀ u ∈ p.animationRefs, l.animation? u = l'.animation? u :=
    fun u hu => Animation.opt_toJson_injective (hanimations u hu)
  -- so the patterns are the same ones
  have hshown : p.animationRefs.filterMap l'.shown? = p.animationRefs.filterMap l.shown? :=
    List.filterMap_congr fun u hu => by rw [Library.shown?, Library.shown?, hanimation u hu]
  rw [hshown] at h
  obtain ⟨hpatterns, h⟩ := eq_of_digestParts (fun v hv => hvs hv)
    (fun v => Json.plain_opt Pattern.plain_toJson _) h
  have hpattern : ∀ u ∈ p.animationRefs, ∀ v, l.shown? u = some v → l.pattern? v = l'.pattern? v :=
    fun u hu v hv => Pattern.opt_toJson_injective
      (hpatterns v (mem_firsts.mpr (List.mem_filterMap.mpr ⟨u, hu, hv⟩)))
  -- the options
  rw [← List.append_nil (digestPart o.toJson), ← List.append_nil (digestPart o'.toJson)] at h
  have hoptions := (eq_of_digestPart_append o.definite_toJson o'.definite_toJson.plain h).1
  exact ⟨halike, ⟨rfl, rfl, hanimation, hpattern⟩, CompileOptions.toJson_injective hoptions⟩

/-- Compilations with the same stream have the same data set. -/
lemma compile_of_contentBytes (hc : compile p l o = .ok c) (hd : dependencies p l = .ok d)
    (hd' : dependencies q l' = .ok d') (h : contentBytes p d l o = contentBytes q d' l' o') :
    compile q l' o' = .ok c := by
  obtain ⟨halike, hagree, rfl⟩ := reads_of_contentBytes hc hd hd' h
  rw [← compile_congr halike hagree, hc]

end Streams

end DataSet

end DiceHost
