/-
What a compilation reads of a library.

* `Library.Supplies`, `Library.shown?`: an animation that is there with its pattern, and this
  pattern;
* `dependencies_eq_ok`: a profile has dependencies just when what it plays is there, and they are
  the animations that it plays and the patterns that these show;
* `Source.Agree`: two sources that have the same for some animations;
* `compile_congr`: **profiles that are alike have the same data set, or none, in libraries that
  agree on what they play**;
* `dependencies_of_compile`: a profile with a data set has dependencies.
-/
import DiceHost.Proofs.DataSet.Capacity
import DiceHost.Proofs.Json.Entities

namespace DiceHost

namespace Library

/-- The pattern that the animation of an identifier shows. -/
def shown? (l : Library) (u : Uuid) : Option Uuid :=
  (l.animation? u).bind Animation.pattern?

/-- An animation that is there, with its pattern if it shows one. -/
def Supplies (l : Library) (u : Uuid) : Prop :=
  (l.animation? u).isSome = true ∧ ∀ v, l.shown? u = some v → (l.pattern? v).isSome = true

end Library

namespace DataSet

/-! ### Dependencies -/

/-- A list with a member more, unless it is there. -/
def join (seen : List Uuid) (v : Uuid) : List Uuid :=
  if v ∈ seen then seen else seen ++ [v]

lemma mem_foldl_join {seen vs : List Uuid} {v : Uuid} :
    v ∈ vs.foldl join seen ↔ v ∈ seen ∨ v ∈ vs := by
  induction vs generalizing seen with
  | nil => simp
  | cons w vs ih =>
      rw [List.foldl_cons, ih, join]
      split_ifs with hw
      · simp only [List.mem_cons]
        constructor
        · exact Or.imp_right .inr
        · rintro (h | rfl | h)
          · exact .inl h
          · exact .inl hw
          · exact .inr h
      · rw [List.mem_append, List.mem_singleton, List.mem_cons, or_assoc]

lemma mem_firsts {vs : List Uuid} {v : Uuid} : v ∈ Profile.firsts vs ↔ v ∈ vs := by
  change v ∈ vs.foldl join [] ↔ _
  rw [mem_foldl_join, List.mem_nil_iff, false_or]

/-- The animations that a profile plays. -/
lemma mem_animationRefs {p : Profile} {u : Uuid} : u ∈ p.animationRefs ↔ u ∈ played p.rules := by
  rw [Profile.animationRefs, mem_firsts, played, List.mem_dedup]

section Dependencies

variable {l : Library}

/-- What one more animation pulls in. -/
lemma add_eq_ok {d e : Dependencies} {u : Uuid} :
    d.add l u = .ok e
      ↔ l.Supplies u ∧ e = ⟨d.animations ++ [u], (l.shown? u).toList.foldl join d.patterns⟩ := by
  rw [Dependencies.add, Library.Supplies, Library.shown?]
  cases l.animation? u with
  | none => simp
  | some a =>
      have hok {x : Dependencies} {supplies : Prop} (h : supplies) :
          (.ok x : Except CompileError Dependencies) = .ok e ↔ supplies ∧ e = x :=
        ⟨fun hx => ⟨h, (Except.ok.inj hx).symm⟩, fun hx => congrArg _ hx.2.symm⟩
      dsimp only
      rw [Option.bind_some]
      cases a.pattern? with
      | none => exact hok ⟨rfl, nofun⟩
      | some v =>
          cases hv : l.pattern? v with
          | none => simp [hv]
          | some q =>
              have hsupplies : (some a).isSome = true
                  ∧ ∀ w, some v = some w → (l.pattern? w).isSome = true := by
                refine ⟨rfl, fun w hw => ?_⟩
                rw [← Option.some_inj.mp hw, hv, Option.isSome_some]
              dsimp only
              rw [hv, Option.isNone_some, if_neg Bool.false_ne_true, Option.toList_some,
                List.foldl_cons, List.foldl_nil, join]
              split_ifs
              · exact hok hsupplies
              · exact hok hsupplies

/-- What some more animations pull in. -/
lemma foldlM_add_eq_ok {d e : Dependencies} {us : List Uuid} :
    us.foldlM (Dependencies.add l) d = .ok e
      ↔ (∀ u ∈ us, l.Supplies u)
        ∧ e = ⟨d.animations ++ us, (us.filterMap l.shown?).foldl join d.patterns⟩ := by
  induction us generalizing d with
  | nil =>
      rw [List.foldlM_nil, List.append_nil]
      exact ⟨fun h => ⟨by simp, (Except.ok.inj h).symm⟩, fun h => congrArg _ h.2.symm⟩
  | cons u us ih =>
      have hpatterns : ((u :: us).filterMap l.shown?).foldl join d.patterns
          = (us.filterMap l.shown?).foldl join ((l.shown? u).toList.foldl join d.patterns) := by
        rw [List.filterMap_cons]
        cases l.shown? u <;> rfl
      rw [List.foldlM_cons, List.forall_mem_cons, hpatterns]
      constructor
      · intro h
        cases hadd : d.add l u with
        | error err =>
            rw [hadd] at h
            cases h
        | ok d' =>
            rw [hadd] at h
            obtain ⟨hu, rfl⟩ := add_eq_ok.mp hadd
            obtain ⟨hus, rfl⟩ := ih.mp h
            exact ⟨⟨hu, hus⟩, by rw [List.append_assoc, List.singleton_append]⟩
      · rintro ⟨⟨hu, hus⟩, rfl⟩
        rw [add_eq_ok.mpr ⟨hu, rfl⟩]
        refine ih.mpr ⟨hus, ?_⟩
        rw [List.append_assoc, List.singleton_append]

/-- A profile has dependencies just when what it plays is there. -/
lemma dependencies_eq_ok {p : Profile} {d : Dependencies} :
    dependencies p l = .ok d
      ↔ (∀ u ∈ p.animationRefs, l.Supplies u)
        ∧ d = ⟨p.animationRefs, Profile.firsts (p.animationRefs.filterMap l.shown?)⟩ := by
  rw [dependencies, foldlM_add_eq_ok]
  rfl

end Dependencies

/-! ### Emissions from sources that agree -/

/-- Sources that have the same for some animations. -/
structure Source.Agree (s s' : Source) (us : List Uuid) : Prop where
  brightness : s.brightness = s'.brightness
  dieKind : s.dieKind = s'.dieKind
  animation : ∀ u ∈ us, s.animation? u = s'.animation? u
  pattern : ∀ u ∈ us, ∀ v, s.shown? u = some v → s.pattern? v = s'.pattern? v

section Emission

variable {s s' : Source}

lemma emitTrack_congr (hb : s.brightness = s'.brightness) : emitTrack s = emitTrack s' := by
  have hrecord : s.keyframeRecord = s'.keyframeRecord := by
    funext k
    rw [Source.keyframeRecord, Source.keyframeRecord, hb]
  funext ks ledMask d
  rw [emitTrack, emitTrack, hrecord]

lemma emitTracks_congr (hb : s.brightness = s'.brightness) : emitTracks s = emitTracks s' := by
  funext ts
  induction ts with
  | nil => rfl
  | cons t ts ih => rw [emitTracks, emitTracks, emitTrack_congr hb, ih]

lemma emitPattern_congr {v : Uuid} (hb : s.brightness = s'.brightness)
    (hv : s.pattern? v = s'.pattern? v) : emitPattern s v = emitPattern s' v := by
  rw [emitPattern, emitPattern, hv, emitTracks_congr hb]

lemma emitPayload_congr {a : Animation} (hb : s.brightness = s'.brightness)
    (hpattern : ∀ v, a.pattern? = some v → s.pattern? v = s'.pattern? v) :
    emitPayload s a = emitPayload s' a := by
  obtain ⟨uuid, name, duration, faceMask, kind⟩ := a
  cases kind with
  | simple color count fade => simp only [emitPayload, hb]
  | gradient g => simp only [emitPayload, emitTrack_congr hb]
  | gradientPattern v g override =>
      simp only [emitPayload, emitTrack_congr hb, emitPattern_congr hb (hpattern v rfl)]
  | keyframed v traveling useLedIndices =>
      simp only [emitPayload, emitPattern_congr hb (hpattern v rfl)]
  | rainbow | noise => rfl
  | cycle g count fade intensity cycles => simp only [emitPayload, emitTrack_congr hb]

lemma emitRecord_congr {a : Animation} (hb : s.brightness = s'.brightness)
    (hk : s.dieKind = s'.dieKind)
    (hpattern : ∀ v, a.pattern? = some v → s.pattern? v = s'.pattern? v) :
    emitRecord s a = emitRecord s' a := by
  have hnarrow : s.narrow = s'.narrow := by
    funext mask
    rw [Source.narrow, Source.narrow, hk]
  rw [emitRecord, emitRecord, emitPayload_congr hb hpattern, hnarrow]

namespace Source.Agree

variable {us : List Uuid}

lemma emitAnimation (h : s.Agree s' us) {u : Uuid} (hu : u ∈ us) :
    emitAnimation s u = emitAnimation s' u := by
  have hpattern := h.pattern u hu
  rw [Source.shown?] at hpattern
  rw [DataSet.emitAnimation, DataSet.emitAnimation, ← h.animation u hu]
  cases ha : s.animation? u with
  | none => rfl
  | some a =>
      rw [ha, Option.bind_some] at hpattern
      dsimp only
      rw [emitRecord_congr h.brightness h.dieKind hpattern]

lemma emitAction (h : s.Agree s' us) {rule place : ℕ} {a : Action}
    (ha : ∀ u, a.animation? = some u → u ∈ us) :
    emitAction s rule place a = emitAction s' rule place a := by
  cases a with
  | playAnimation u mask loopCount =>
      rw [DataSet.emitAction, DataSet.emitAction, h.emitAnimation (ha u rfl)]
  | playAudioClip | makeWebRequest | speakText => rfl

lemma emitActions (h : s.Agree s' us) {rule place : ℕ} {as : List Action}
    (has : ∀ a ∈ as, ∀ u, a.animation? = some u → u ∈ us) :
    emitActions s rule place as = emitActions s' rule place as := by
  induction as generalizing place with
  | nil => rfl
  | cons a as ih =>
      rw [List.forall_mem_cons] at has
      rw [DataSet.emitActions, DataSet.emitActions, h.emitAction has.1, ih has.2]

lemma emitRules (h : s.Agree s' us) {limits : Limits} {number : ℕ} {rs : List Rule}
    (hrs : ∀ u ∈ played rs, u ∈ us) :
    emitRules s limits number rs = emitRules s' limits number rs := by
  induction rs generalizing number with
  | nil => rfl
  | cons r rs ih =>
      have hr : ∀ a ∈ r.actions, ∀ u, a.animation? = some u → u ∈ us := fun a ha u hu =>
        hrs u (mem_played.mpr ⟨r, List.mem_cons_self, a, ha, hu⟩)
      have hrest : ∀ u ∈ played rs, u ∈ us := fun u hu => by
        obtain ⟨r', hr', a, ha, hu⟩ := mem_played.mp hu
        exact hrs u (mem_played.mpr ⟨r', List.mem_cons_of_mem r hr', a, ha, hu⟩)
      rw [DataSet.emitRules, DataSet.emitRules, emitRule, emitRule, h.emitActions hr, ih hrest]

end Source.Agree

end Emission

/-! ### Compilations -/

/-- Libraries that have the same for the animations that a profile plays. -/
def Agree (p : Profile) (l l' : Library) : Prop :=
  (Source.ofProfile p l).Agree (.ofProfile p l') p.animationRefs

/-- **A compilation reads what the profile plays and nothing else.** -/
theorem compile_congr {p q : Profile} {l l' : Library} {options : CompileOptions}
    (hpq : p.Alike q) (hl : Agree p l l') : compile p l options = compile q l' options := by
  have hcheck : p.check = q.check := by
    rw [Profile.check, Profile.check, hpq.brightness, hpq.rules]
  have hsource : Source.ofProfile p l' = Source.ofProfile q l' := by
    rw [Source.ofProfile, Source.ofProfile, hpq.brightness, hpq.dieKind]
  have hemit : emitRules (.ofProfile p l) options.limits 0 q.rules
      = emitRules (.ofProfile q l') options.limits 0 q.rules := by
    rw [← hpq.rules, hl.emitRules fun u hu => mem_animationRefs.mpr hu, hsource]
  simp only [compile, hcheck, hemit, hpq.rules, hpq.uuid]

/-- What a profile with a data set plays can be played. -/
lemma playable_of_compile {p : Profile} {l : Library} {options : CompileOptions} {c : Compiled}
    (h : compile p l options = .ok c) :
    ∀ u ∈ p.animationRefs, (Source.ofProfile p l).Playable u :=
  fun u hu => (compile_holdsOnce h).1 u (mem_animationRefs.mp hu)

/-- A profile with a data set has dependencies. -/
lemma dependencies_of_compile {p : Profile} {l : Library} {options : CompileOptions} {c : Compiled}
    (h : compile p l options = .ok c) : ∃ d, dependencies p l = .ok d := by
  refine ⟨_, dependencies_eq_ok.mpr ⟨fun u hu => ?_, rfl⟩⟩
  obtain ⟨a, ha, -, -, hpattern⟩ := playable_of_compile h u hu
  change l.animation? u = some a at ha
  refine ⟨by rw [ha, Option.isSome_some], fun v hv => ?_⟩
  rw [Library.shown?, ha, Option.bind_some] at hv
  obtain ⟨q, hq, -⟩ := hpattern v hv
  change l.pattern? v = some q at hq
  rw [hq, Option.isSome_some]

end DataSet

end DiceHost
