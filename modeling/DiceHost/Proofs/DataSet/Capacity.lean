/-
Profiles that have a data set.

* `Draft.Tally`, `Draft.Tallied`: a draft holds the tracks of each of its patterns once and
  the gradient of each of its animations once, and its patterns are those that its animations
  show;
* `Draft.Tallied.emitRules`: what rules make of a draft is tallied, and its animations are
  those that the rules play;
* `Sizes.Within`: sizes that stay within the limits of a die;
* `compile_accepts`: **a profile has a data set just when it is valid, all that it plays can
  be played, and what it asks for stays within the limits**; the data set has the sizes that
  are asked for, holds nothing twice, and is the same for all limits.

The limits are compared with the sections of the finished draft, the demand is read off the
profile. The tally of the draft joins the two: it holds after every step.
-/
import DiceHost.Proofs.DataSet.Demand

namespace DiceHost.DataSet

variable {s : Source} {d e : Draft}

/-! ### Tallies -/

namespace Draft

/-- The tracks of a draft are those of its patterns, each written once, and the gradients of
some animations. -/
structure Tally (s : Source) (us : List Uuid) (d : Draft) : Prop where
  once : d.shown.Nodup
  showable : ∀ v ∈ d.shown, s.Showable v
  tracks : ∃ ts, d.Holds s ts
    ∧ ts.Perm (d.shown.flatMap s.patternTracks ++ us.filterMap s.ownTrack?)

/-- The animations of a draft have a record each and can be played, and the draft holds their
patterns and their gradients and nothing else. -/
structure Tallied (s : Source) (d : Draft) : Prop where
  tally : d.Tally s d.animations
  once : d.animations.Nodup
  playable : ∀ u ∈ d.animations, s.Playable u
  records : d.contents.animations.length = d.animations.length
  shown : ∀ v, v ∈ d.shown ↔ ∃ u ∈ d.animations, s.shown? u = some v

namespace Tally

variable {us : List Uuid}

/-- A tally depends on the tracks, the keyframes and the patterns only. -/
lemma congr (h : d.Tally s us) (htracks : e.contents.tracks = d.contents.tracks)
    (hkeyframes : e.contents.keyframes = d.contents.keyframes)
    (hshown : e.shown = d.shown) : e.Tally s us where
  once := hshown ▸ h.once
  showable := hshown ▸ h.showable
  tracks := by
    obtain ⟨ts, hts, hperm⟩ := h.tracks
    exact ⟨ts, ⟨htracks.trans hts.tracks, hkeyframes.trans hts.keyframes⟩, hshown ▸ hperm⟩

/-- A pattern is written at its first use only. -/
lemma emitPattern {v : Uuid} {span : Span} (h : d.Tally s us)
    (he : DataSet.emitPattern s v d = .ok (span, e)) :
    e.Tally s us ∧ s.Showable v ∧ (∀ w, w ∈ e.shown ↔ w ∈ d.shown ∨ w = v)
      ∧ e.animations = d.animations ∧ e.contents.animations = d.contents.animations := by
  by_cases hmem : v ∈ d.shown
  · obtain ⟨span', -, hspan⟩ := emitPattern_of_mem (s := s) hmem
    cases hspan.symm.trans he
    refine ⟨h, h.showable v hmem, fun w => ⟨.inl, ?_⟩, rfl, rfl⟩
    rintro (hw | rfl)
    · exact hw
    · exact hmem
  · obtain ⟨hold, -⟩ | ⟨q, hq, hcheck, -, rfl⟩ := emitPattern_cases he
    · exact absurd (List.mem_map.mpr ⟨_, hold, rfl⟩) hmem
    obtain ⟨ts, hts, hperm⟩ := h.tracks
    obtain ⟨horder, hrecords, hshown⟩ := addTracks_frame s d q.tracks
    have hshown' : ((d.addTracks s q.tracks).addPattern v span).shown = d.shown ++ [v] := by
      rw [← hshown]
      exact List.map_append
    have hq' : s.patternTracks v = q.tracks := by
      rw [Source.patternTracks, hq]
      rfl
    refine ⟨⟨?_, ?_, ts ++ q.tracks, ?_, ?_⟩, ⟨q, hq, hcheck⟩, ?_, horder, hrecords⟩
    · rw [hshown']
      exact h.once.append (List.nodup_singleton v) (by simpa using hmem)
    · intro w hw
      rw [hshown', List.mem_append, List.mem_singleton] at hw
      rcases hw with hw | rfl
      · exact h.showable w hw
      · exact ⟨q, hq, hcheck⟩
    · have hall := hts.addTracks q.tracks
      exact ⟨hall.tracks, hall.keyframes⟩
    · rw [hshown', List.flatMap_append, List.flatMap_singleton, hq', List.append_assoc]
      refine (hperm.append_right q.tracks).trans ?_
      rw [List.append_assoc]
      exact List.perm_append_comm.append_left _
    · intro w
      rw [hshown', List.mem_append, List.mem_singleton]

/-- The payload of an animation completes the tracks that the animation needs. -/
lemma emitPayload {u : Uuid} {a : Animation} {r : UInt8 × Payload} (h : d.Tally s us)
    (ha : s.animation? u = some a) (he : DataSet.emitPayload s a d = .ok (r, e)) :
    e.Tally s (us ++ [u]) ∧ a.kind ≠ .noise ∧ (∀ v, a.pattern? = some v → s.Showable v)
      ∧ (∀ w, w ∈ e.shown ↔ w ∈ d.shown ∨ s.shown? u = some w)
      ∧ e.animations = d.animations ∧ e.contents.animations = d.contents.animations := by
  have hshown : s.shown? u = a.pattern? := by rw [Source.shown?, ha, Option.bind_some]
  have hown : s.ownTrack? u = a.ownTrack? := by rw [Source.ownTrack?, ha, Option.bind_some]
  obtain ⟨hkind, d', hd', rfl⟩ := emitPayload_cases he
  have hmid : d'.Tally s us ∧ (∀ v, a.pattern? = some v → s.Showable v)
      ∧ (∀ w, w ∈ d'.shown ↔ w ∈ d.shown ∨ a.pattern? = some w)
      ∧ d'.animations = d.animations ∧ d'.contents.animations = d.contents.animations := by
    obtain ⟨hnone, rfl⟩ | ⟨v, span, hv, hspan⟩ := hd'
    · rw [hnone]
      exact ⟨h, by simp, by simp, rfl, rfl⟩
    · obtain ⟨h', hshow, hmem, horder, hrecords⟩ := h.emitPattern hspan
      simp only [hv, Option.some_inj]
      exact ⟨h', fun w hw => hw ▸ hshow, fun w => by rw [hmem w, eq_comm (a := w)], horder,
        hrecords⟩
  obtain ⟨h', hpattern, hmem, horder, hrecords⟩ := hmid
  obtain ⟨ts, hts, hperm⟩ := h'.tracks
  obtain ⟨horder', hrecords', hshown'⟩ := addTracks_frame s d' a.ownTrack?.toList
  have hfilter : (us ++ [u]).filterMap s.ownTrack?
      = us.filterMap s.ownTrack? ++ a.ownTrack?.toList := by
    rw [List.filterMap_append, ← hown]
    cases hu : s.ownTrack? u <;> simp [hu]
  refine ⟨⟨?_, ?_, ts ++ a.ownTrack?.toList, hts.addTracks _, ?_⟩, hkind, hpattern, ?_,
    horder'.trans horder, hrecords'.trans hrecords⟩
  · rw [hshown']
    exact h'.once
  · rw [hshown']
    exact h'.showable
  · rw [hshown', hfilter, ← List.append_assoc]
    exact hperm.append_right _
  · rw [hshown', hshown]
    exact hmem

end Tally

namespace Tallied

lemma congr (h : d.Tallied s) (htracks : e.contents.tracks = d.contents.tracks)
    (hkeyframes : e.contents.keyframes = d.contents.keyframes)
    (hrecords : e.contents.animations = d.contents.animations)
    (horder : e.animations = d.animations) (hpatterns : e.patterns = d.patterns) :
    e.Tallied s := by
  have hshown : e.shown = d.shown := by rw [Draft.shown, hpatterns, Draft.shown]
  refine ⟨?_, horder ▸ h.once, horder ▸ h.playable, ?_, ?_⟩
  · rw [horder]
    exact h.tally.congr htracks hkeyframes hshown
  · rw [hrecords, horder]
    exact h.records
  · rw [hshown, horder]
    exact h.shown

lemma empty (s : Source) : Tallied s {} where
  tally := ⟨.nil, by simp [Draft.shown], [], ⟨rfl, rfl⟩, .nil⟩
  once := .nil
  playable := by simp
  records := rfl
  shown := by simp [Draft.shown]

/-- An animation is written at its first use only. -/
lemma emitAnimation {u : Uuid} {i : UInt16} (h : d.Tallied s)
    (he : DataSet.emitAnimation s u d = .ok (i, e)) :
    e.Tallied s ∧ ∀ w, w ∈ e.animations ↔ w ∈ d.animations ∨ w = u := by
  by_cases hmem : u ∈ d.animations
  · obtain ⟨i', hi⟩ := emitAnimation_of_mem (s := s) hmem
    cases hi.symm.trans he
    refine ⟨h, fun w => ⟨.inl, ?_⟩⟩
    rintro (hw | rfl)
    · exact hw
    · exact hmem
  · obtain ⟨n, hn, -, -⟩ | ⟨a, r, d', ha, hcheck, hr, -, rfl⟩ := emitAnimation_cases he
    · exact absurd (List.mem_of_getElem? hn) hmem
    obtain ⟨flags, payload, typeCode, hp, -, -⟩ := emitRecord_cases hr
    obtain ⟨htally, hkind, hpattern, hshown, horder, hrecords⟩ := h.tally.emitPayload ha hp
    have hanimations : (d'.addAnimation u r).animations = d.animations ++ [u] := by
      rw [addAnimation, horder]
    refine ⟨⟨?_, ?_, ?_, ?_, ?_⟩, ?_⟩
    · rw [hanimations]
      exact htally.congr rfl rfl rfl
    · rw [hanimations]
      exact h.once.append (List.nodup_singleton u) (by simpa using hmem)
    · intro w hw
      rw [hanimations, List.mem_append, List.mem_singleton] at hw
      rcases hw with hw | rfl
      · exact h.playable w hw
      · exact ⟨a, ha, hcheck, hkind, hpattern⟩
    · rw [hanimations, List.length_append, ← h.records, ← hrecords]
      exact List.length_append
    · intro v
      change v ∈ d'.shown ↔ _
      rw [hshown v, h.shown v, hanimations]
      simp only [List.mem_append, List.mem_singleton, or_and_right, exists_or, exists_eq_left]
    · intro w
      rw [hanimations, List.mem_append, List.mem_singleton]

lemma emitAction {rule place : ℕ} {a : Action} {r : ActionRecord} (h : d.Tallied s)
    (he : DataSet.emitAction s rule place a d = .ok (r, e)) :
    e.Tallied s ∧ ∀ w, w ∈ e.animations ↔ w ∈ d.animations ∨ a.animation? = some w := by
  cases a with
  | playAnimation u faceMask loopCount =>
      obtain ⟨i, d₁, h₁, he⟩ := Emit.bind_eq_ok.mp he
      cases he
      obtain ⟨h', hmem⟩ := h.emitAnimation h₁
      refine ⟨h', fun w => ?_⟩
      rw [hmem w, Action.animation?, Option.some_inj, eq_comm (a := w)]
  | playAudioClip | makeWebRequest | speakText =>
      cases he
      exact ⟨h.congr rfl rfl rfl rfl rfl, fun w => by simp [Action.animation?]⟩

/-- The actions of a rule leave their animations behind, and a record each. -/
lemma emitActions {rule place : ℕ} {as : List Action} (h : d.Tallied s)
    (he : DataSet.emitActions s rule place as d = .ok ((), e)) :
    e.Tallied s
      ∧ (∀ w, w ∈ e.animations ↔ w ∈ d.animations ∨ ∃ a ∈ as, a.animation? = some w)
      ∧ e.contents.actions.length = d.contents.actions.length + as.length := by
  induction as generalizing d place with
  | nil =>
      obtain rfl := emitActions_nil he
      exact ⟨h, by simp, rfl⟩
  | cons a rest ih =>
      obtain ⟨r, d', h₁, h₂⟩ := emitActions_cons he
      obtain ⟨h', hmem⟩ := h.emitAction h₁
      have hactions := (Supplies.emitAction h₁).actions_eq
      obtain ⟨he', hmem', hlen⟩ := ih (h'.congr (e := d'.addAction r) rfl rfl rfl rfl rfl) h₂
      refine ⟨he', fun w => ?_, ?_⟩
      · rw [hmem' w, List.exists_mem_cons_iff, ← or_assoc, ← hmem w]
        rfl
      · rw [hlen, addAction, List.length_append, hactions, List.length_cons]
        simp only [List.length_cons, List.length_nil]
        omega

lemma emitRule {limits : Limits} {number : ℕ} {r : Rule} (h : d.Tallied s)
    (he : DataSet.emitRule s limits number r d = .ok ((), e)) :
    e.Tallied s
      ∧ (∀ w, w ∈ e.animations ↔ w ∈ d.animations ∨ ∃ a ∈ r.actions, a.animation? = some w)
      ∧ e.contents.actions.length = d.contents.actions.length + r.actions.length := by
  obtain ⟨d', h₁, rfl⟩ := emitRule_cases he
  obtain ⟨h', hmem, hlen⟩ :=
    (h.congr (e := d.addCondition (conditionRecord r.condition)) rfl rfl rfl rfl rfl).emitActions
      h₁
  exact ⟨h'.congr rfl rfl rfl rfl rfl, hmem, hlen⟩

/-- Rules leave behind what they play, and a record for each of their actions. -/
lemma emitRules {limits : Limits} {number : ℕ} {rs : List Rule} (h : d.Tallied s)
    (he : DataSet.emitRules s limits number rs d = .ok ((), e)) :
    e.Tallied s ∧ (∀ w, w ∈ e.animations ↔ w ∈ d.animations ∨ w ∈ played rs)
      ∧ e.contents.actions.length
        = d.contents.actions.length + (rs.map (·.actions.length)).sum := by
  induction rs generalizing d number with
  | nil =>
      cases he
      exact ⟨h, by simp [played], rfl⟩
  | cons r rest ih =>
      obtain ⟨d', h₁, h₂⟩ := emitRules_cons he
      obtain ⟨h', hmem, hlen⟩ := h.emitRule h₁
      obtain ⟨he', hmem', hlen'⟩ := ih h' h₂
      refine ⟨he', fun w => ?_, ?_⟩
      · rw [hmem' w, hmem w, mem_played, mem_played, List.exists_mem_cons_iff, or_assoc]
      · rw [hlen', hlen, List.map_cons, List.sum_cons]
        omega

/-- The tracks of a draft are those that its animations need, in some order. -/
lemma tracks (h : d.Tallied s) {us : List Uuid} (hus : d.animations.Perm us) :
    ∃ ts, d.Holds s ts ∧ ts.Perm (s.tracks us) := by
  obtain ⟨ts, hts, hperm⟩ := h.tally.tracks
  have hshown : d.shown.Perm (us.filterMap s.shown?).dedup := by
    rw [List.perm_ext_iff_of_nodup h.tally.once (List.nodup_dedup _)]
    intro v
    rw [h.shown v, List.mem_dedup, List.mem_filterMap]
    simp only [hus.mem_iff]
  have hown := hus.filterMap s.ownTrack?
  exact ⟨ts, hts, hperm.trans ((hshown.flatMap_right _).append hown)⟩

end Tallied

end Draft

/-! ### Limits -/

/-- Sizes that stay within the limits of a die: at most 256 rules, and no count above 65535. -/
structure Sizes.Within (n : Sizes) (limits : Limits) : Prop where
  rules : n.rules ≤ min limits.rules 256
  conditions : n.conditions ≤ min limits.conditions 65535
  actions : n.actions ≤ min limits.actions 65535
  animations : n.animations ≤ min limits.animations 65535
  tracks : n.tracks ≤ min limits.tracks 65535
  keyframes : n.keyframes ≤ min limits.keyframes 65535

lemma checkCapacity_eq_ok {what : Capacity} {count limit : ℕ} :
    checkCapacity what count limit = .ok () ↔ count ≤ min limit 65535 := by
  rw [checkCapacity]
  by_cases h : min limit 65535 < count
  · rw [if_pos h]
    constructor
    · intro h'
      cases h'
    · intro h'
      omega
  · rw [if_neg h]
    exact ⟨fun _ => not_lt.mp h, fun _ => rfl⟩

/-- A section passes the check when its length stays within the limit. -/
lemma checkSections_eq_ok {limits : Limits} {c : Contents}
    (hrules : c.rules.length ≤ min limits.rules 256) :
    checkSections limits c = .ok () ↔ c.sizes.Within limits := by
  simp only [checkSections, Check.seq_eq_ok, checkCapacity_eq_ok]
  constructor
  · rintro ⟨hconditions, hactions, hanimations, htracks, hkeyframes⟩
    exact ⟨hrules, hconditions, hactions, hanimations, htracks, hkeyframes⟩
  · intro h
    exact ⟨h.conditions, h.actions, h.animations, h.tracks, h.keyframes⟩

/-- The header of sections that fit sixteen bits tells their lengths. -/
lemma Contents.Fits.sizes_header {c : Contents} (h : c.Fits) : c.header.sizes = c.sizes := by
  simp only [Header.sizes, Contents.header, Contents.sizes, toNat_count h.conditions,
    toNat_count h.actions, toNat_count h.rules, toNat_count h.animations, toNat_count h.tracks,
    toNat_count h.keyframes]

/-- A rule that is emitted has few enough actions. -/
lemma emitRule_capacity {limits : Limits} {number : ℕ} {r : Rule}
    (h : emitRule s limits number r d = .ok ((), e)) :
    r.actions.length ≤ min limits.actionsPerRule 256 := by
  rw [emitRule, Emit.bind_eq_ok] at h
  obtain ⟨_, d₁, h₁, -⟩ := h
  cases hcap : checkCapacity .actionsPerRule r.actions.length (min limits.actionsPerRule 256) with
  | error err =>
      rw [hcap] at h₁
      cases h₁
  | ok x =>
      have := checkCapacity_eq_ok.mp hcap
      omega

lemma emitRules_capacity {limits : Limits} {number : ℕ} {rs : List Rule}
    (h : emitRules s limits number rs d = .ok ((), e)) :
    ∀ r ∈ rs, r.actions.length ≤ min limits.actionsPerRule 256 := by
  induction rs generalizing d number with
  | nil => simp
  | cons r rest ih =>
      obtain ⟨d', h₁, h₂⟩ := emitRules_cons h
      exact List.forall_mem_cons.mpr ⟨emitRule_capacity h₁, ih h₂⟩

/-- What rules leave behind does not depend on the limits. -/
lemma emitRules_limits {limits limits' : Limits} {number : ℕ} {rs : List Rule} {e' : Draft}
    (h : emitRules s limits number rs d = .ok ((), e))
    (h' : emitRules s limits' number rs d = .ok ((), e')) : e' = e := by
  induction rs generalizing d number with
  | nil =>
      cases h
      cases h'
      rfl
  | cons r rest ih =>
      obtain ⟨d₁, h₁, h₂⟩ := emitRules_cons h
      obtain ⟨d₁', h₁', h₂'⟩ := emitRules_cons h'
      obtain ⟨d₂, hd₂, rfl⟩ := emitRule_cases h₁
      obtain ⟨d₂', hd₂', rfl⟩ := emitRule_cases h₁'
      cases hd₂.symm.trans hd₂'
      exact ih h₂ h₂'

/-! ### Profiles that have a data set -/

/-- A compilation that succeeds: the profile passes its check, its rules are few enough, and
they are emitted to sections that stay within the limits. -/
lemma compile_eq_ok {p : Profile} {l : Library} {options : CompileOptions} {c : Compiled} :
    compile p l options = .ok c ↔ p.check = .ok ()
      ∧ p.rules.length ≤ min options.limits.rules 256
      ∧ ∃ f, emitRules (.ofProfile p l) options.limits 0 p.rules {} = .ok ((), f)
        ∧ checkSections options.limits f.contents = .ok () ∧ c = f.finish p.uuid := by
  constructor
  · intro h
    obtain ⟨f, hcheck, -, hemit, hsections, rfl⟩ := compile_cases h
    rw [compile, Check.seq_eq_ok, Check.seq_eq_ok, checkCapacity_eq_ok] at h
    exact ⟨hcheck, h.2.1.trans (min_le_left _ _), f, hemit, hsections, rfl⟩
  · rintro ⟨hcheck, hrules, f, hemit, hsections, rfl⟩
    rw [compile, Check.seq_eq_ok, Check.seq_eq_ok, checkCapacity_eq_ok]
    refine ⟨by rw [hcheck]; rfl, by omega, ?_⟩
    rw [StateT.run, hemit]
    exact Check.seq_eq_ok.mpr ⟨hsections, rfl⟩

/-- The sections of the draft that the rules of a profile leave behind have the sizes that the
profile asks for, and hold the tracks that it needs. -/
lemma Draft.sizes_of_emitRules {p : Profile} {l : Library} {limits : Limits} {f : Draft}
    (h : emitRules (.ofProfile p l) limits 0 p.rules {} = .ok ((), f)) :
    f.Tallied (.ofProfile p l) ∧ f.animations.Perm (played p.rules)
      ∧ f.contents.sizes = demand p l := by
  obtain ⟨htallied, hmem, hactions⟩ := (Tallied.empty _).emitRules h
  obtain ⟨hconditions, hrules⟩ := emitRules_length h
  have hplayed : f.animations.Perm (played p.rules) := by
    have hnodup : (played p.rules).Nodup := List.nodup_dedup _
    refine (List.perm_ext_iff_of_nodup htallied.once hnodup).mpr fun u => ?_
    rw [hmem u]
    exact or_iff_right List.not_mem_nil
  obtain ⟨ts, hts, hperm⟩ := htallied.tracks hplayed
  obtain ⟨htracks, hkeyframes⟩ := hts.length_eq
  refine ⟨htallied, hplayed, ?_⟩
  simp only [List.length_nil, Nat.zero_add] at hactions hconditions hrules
  rw [Contents.sizes, hconditions, hactions, hrules, htallied.records, hplayed.length_eq,
    htracks, hkeyframes, hperm.length_eq, (hperm.map _).sum_eq]
  rfl

/-- A data set holds every animation that a profile plays once, and has one record for each
track that these need: a pattern's tracks once, however many animations show it. -/
structure Compiled.HoldsOnce (c : Compiled) (p : Profile) (l : Library) : Prop where
  animations : c.animations.Perm (played p.rules)
  tracks : ∃ ts, ts.Perm ((Source.ofProfile p l).tracks (played p.rules))
    ∧ List.Forall₂ (fun (t : PatternTrack) r =>
        c.contents.ShowsTrack (.ofProfile p l) t.keyframes t.ledMask r) ts c.contents.tracks

/-- What a profile compiles to has the sizes that the profile asks for, within the limits, and
holds nothing twice. -/
lemma compile_holdsOnce {p : Profile} {l : Library} {options : CompileOptions} {c : Compiled}
    (h : compile p l options = .ok c) :
    (∀ u ∈ played p.rules, (Source.ofProfile p l).Playable u)
      ∧ (demand p l).Within options.limits ∧ c.header.sizes = demand p l ∧ c.HoldsOnce p l := by
  obtain ⟨-, hrules, f, hemit, hsections, rfl⟩ := compile_eq_ok.mp h
  obtain ⟨htallied, hplayed, hsizes⟩ := Draft.sizes_of_emitRules hemit
  have hlength : f.contents.rules.length ≤ min options.limits.rules 256 := by
    have hr : f.contents.rules.length = p.rules.length := congrArg Sizes.rules hsizes
    omega
  have hfits : f.contents.Fits := fits_of_checkSections hsections (by omega)
  have hplayable : ∀ u ∈ played p.rules, (Source.ofProfile p l).Playable u :=
    fun u hu => htallied.playable u (hplayed.mem_iff.mpr hu)
  obtain ⟨ts, hts, hperm⟩ := htallied.tracks hplayed
  refine ⟨hplayable, hsizes ▸ (checkSections_eq_ok hlength).mp hsections,
    hfits.sizes_header.trans hsizes, hplayed, ts, hperm, ?_⟩
  exact hts.shows hfits fun t ht =>
    Source.length_of_mem_tracks hplayable t (hperm.mem_iff.mp ht)

/-- **A profile has a data set just when what it asks for is there and fits.** The profile
passes its check; all that it plays is in the library, passes its check and is of a kind that
dice can play, and the same holds of the patterns; no rule has too many actions; and each
count that the profile asks for stays within the limit. The data set then has these counts,
holds every animation and every pattern once, and does not depend on the limits. -/
theorem compile_accepts (p : Profile) (l : Library) (options : CompileOptions) :
    ((∃ c, compile p l options = .ok c) ↔ p.check = .ok ()
        ∧ (∀ u ∈ played p.rules, (Source.ofProfile p l).Playable u)
        ∧ (∀ r ∈ p.rules, r.actions.length ≤ min options.limits.actionsPerRule 256)
        ∧ (demand p l).Within options.limits)
      ∧ ∀ c, compile p l options = .ok c → c.header.sizes = demand p l ∧ c.HoldsOnce p l
        ∧ ∀ options' c', compile p l options' = .ok c' → c' = c := by
  refine ⟨⟨?_, ?_⟩, ?_⟩
  · rintro ⟨c, h⟩
    obtain ⟨hplayable, hwithin, -, -⟩ := compile_holdsOnce h
    obtain ⟨hcheck, -, f, hemit, -⟩ := compile_eq_ok.mp h
    exact ⟨hcheck, hplayable, emitRules_capacity hemit, hwithin⟩
  · rintro ⟨hcheck, hplayable, hactions, hwithin⟩
    obtain ⟨f, hemit⟩ := emitRules_ok (d := {}) 0 hactions hplayable
    obtain ⟨-, -, hsizes⟩ := Draft.sizes_of_emitRules hemit
    have hlength : f.contents.rules.length ≤ min options.limits.rules 256 := by
      have hr : f.contents.rules.length = p.rules.length := congrArg Sizes.rules hsizes
      exact hr ▸ hwithin.rules
    have hsections := (checkSections_eq_ok hlength).mpr (hsizes ▸ hwithin)
    exact ⟨f.finish p.uuid, compile_eq_ok.mpr
      ⟨hcheck, hwithin.rules, f, hemit, hsections, rfl⟩⟩
  · intro c h
    obtain ⟨-, -, hsizes, honce⟩ := compile_holdsOnce h
    refine ⟨hsizes, honce, fun options' c' h' => ?_⟩
    obtain ⟨-, -, f, hemit, -, rfl⟩ := compile_eq_ok.mp h
    obtain ⟨-, -, f', hemit', -, rfl⟩ := compile_eq_ok.mp h'
    rw [emitRules_limits hemit hemit']

/-- The pattern that both animations show counts once: two tracks, and one for the gradient. -/
theorem sample_demand : ∃ c, compile Sample.profile Sample.shelf {} = .ok c
    ∧ c.header.sizes = ⟨2, 4, 2, 2, 3, 6⟩ ∧ c.HoldsOnce Sample.profile Sample.shelf := by
  have hok : (compile Sample.profile Sample.shelf {}).toOption.isSome := by decide +kernel
  have hdemand : demand Sample.profile Sample.shelf = ⟨2, 4, 2, 2, 3, 6⟩ := by decide +kernel
  cases h : compile Sample.profile Sample.shelf {} with
  | error e =>
      rw [h] at hok
      cases hok
  | ok c =>
      obtain ⟨-, hall⟩ := compile_accepts Sample.profile Sample.shelf {}
      obtain ⟨hsizes, honce, -⟩ := hall c h
      exact ⟨c, rfl, hdemand ▸ hsizes, honce⟩

example : (compile Sample.profile Sample.shelf ⟨{ keyframes := 5 }⟩).toOption = none := by
  decide +kernel

end DiceHost.DataSet
