/-
The order in which a data set is written.

* `FirstNamed`: the members of a list, each once, in the order in which the list names them first;
* `Draft.Spaced`: the spans of patterns follow one another;
* `Draft.InOrder`: the patterns of a draft are those that its animations show, in the order in
  which these name them first, and the animations point at their spans;
* `Draft.InOrder.emitRules`: **rules are written in the order in which they name what they play**;
* `Compiled.HoldsSpans`: where the patterns of a data set stand;
* `dependencies_exact`: **the dependencies of a profile are what its data set is written from, in
  the order in which it is written**, and nothing else of a library counts.

The dependencies are read off the profile at once, the draft is written action by action. The two
meet in `join`, by which each adds an identifier that it meets.
-/
import DiceHost.Proofs.DataSet.Agreement

namespace DiceHost.DataSet

/-! ### Members in the order of their first mention -/

/-- Some identifiers are those that a list names, each once, in the order in which it names them
first. -/
structure FirstNamed (vs us : List Uuid) : Prop where
  mem : ∀ u, u ∈ us ↔ u ∈ vs
  order : us.Pairwise fun u v => vs.idxOf u < vs.idxOf v

lemma FirstNamed.nodup {vs us : List Uuid} (h : FirstNamed vs us) : us.Nodup :=
  h.order.imp fun hlt heq => absurd (heq ▸ hlt) (lt_irrefl _)

lemma firsts_append (vs ws : List Uuid) :
    Profile.firsts (vs ++ ws) = ws.foldl join (Profile.firsts vs) :=
  List.foldl_append

lemma firstNamed_firsts (vs : List Uuid) : FirstNamed vs (Profile.firsts vs) := by
  refine ⟨fun u => mem_firsts, ?_⟩
  induction vs using List.reverseRecOn with
  | nil => exact .nil
  | append_singleton vs v ih =>
      have hkept : (Profile.firsts vs).Pairwise
          fun u w => (vs ++ [v]).idxOf u < (vs ++ [v]).idxOf w := by
        refine ih.imp_of_mem fun hu hw hlt => ?_
        rwa [List.idxOf_append_of_mem (mem_firsts.mp hu),
          List.idxOf_append_of_mem (mem_firsts.mp hw)]
      rw [firsts_append, List.foldl_cons, List.foldl_nil, join]
      split_ifs with hv
      · exact hkept
      · -- a member that is named for the first time stands behind all others
        refine List.pairwise_append.mpr ⟨hkept, List.pairwise_singleton _ _, fun u hu w hw => ?_⟩
        rw [List.mem_singleton.mp hw, List.idxOf_append_of_mem (mem_firsts.mp hu),
          List.idxOf_append_of_notMem fun hmem => hv (mem_firsts.mpr hmem)]
        exact Nat.lt_add_right _ (List.idxOf_lt_length_of_mem (mem_firsts.mp hu))

/-! ### Patterns -/

variable {s : Source} {d e : Draft}

/-- The spans of the patterns of a draft follow one another among its tracks. -/
structure Draft.Spaced (d : Draft) : Prop where
  ascending : d.patterns.Pairwise fun x y =>
    x.2.offset.toNat + x.2.count.toNat ≤ y.2.offset.toNat
  below : ∀ x ∈ d.patterns,
    x.2.offset.toNat + x.2.count.toNat ≤ d.contents.tracks.length

namespace Draft.Spaced

lemma patterns_addTracks (s : Source) (d : Draft) (ts : List PatternTrack) :
    (d.addTracks s ts).patterns = d.patterns := by
  induction ts generalizing d with
  | nil => rfl
  | cons t ts ih => exact ih (d.addTrack s t.keyframes t.ledMask)

lemma addTracks (h : d.Spaced) (ts : List PatternTrack) : (d.addTracks s ts).Spaced where
  ascending := (patterns_addTracks s d ts).symm ▸ h.ascending
  below := by
    rw [patterns_addTracks, (length_addTracks s d ts).1]
    exact fun x hx => Nat.le_add_right_of_le (h.below x hx)

/-- The span of a pattern begins where the tracks of the draft have ended. -/
lemma addPattern {v : Uuid} {span : Span} (h : d.Spaced) (ts : List PatternTrack)
    (hoffset : span.offset.toNat = d.contents.tracks.length)
    (hcount : span.count.toNat ≤ ts.length) : ((d.addTracks s ts).addPattern v span).Spaced := by
  have hpatterns := patterns_addTracks s d ts
  have hlength := (length_addTracks s d ts).1
  refine ⟨?_, ?_⟩
  · rw [Draft.addPattern, hpatterns, List.pairwise_append]
    refine ⟨h.ascending, List.pairwise_singleton _ _, fun x hx y hy => ?_⟩
    rw [List.mem_singleton.mp hy]
    exact (h.below x hx).trans_eq hoffset.symm
  · rw [Draft.addPattern, hpatterns]
    intro x hx
    change _ ≤ (d.addTracks s ts).contents.tracks.length
    rw [hlength]
    obtain hx | hx := List.mem_append.mp hx
    · exact Nat.le_add_right_of_le (h.below x hx)
    · rw [List.mem_singleton.mp hx, hoffset]
      exact Nat.add_le_add_left hcount _

/-- A pattern is written behind all others, unless it is there. -/
lemma emitPattern {v : Uuid} {span : Span} (h : d.Spaced)
    (he : DataSet.emitPattern s v d = .ok (span, e)) (hfits : e.contents.tracks.length < 2 ^ 16) :
    e.Spaced ∧ e.shown = join d.shown v ∧ d.patterns <+: e.patterns ∧ (v, span) ∈ e.patterns
      ∧ e.animations = d.animations ∧ e.contents.animations = d.contents.animations := by
  by_cases hmem : v ∈ d.shown
  · obtain ⟨span', hold, hspan⟩ := emitPattern_of_mem (s := s) hmem
    cases hspan.symm.trans he
    exact ⟨h, (if_pos hmem).symm, List.prefix_rfl, hold, rfl, rfl⟩
  · obtain ⟨hold, -⟩ | ⟨q, -, -, rfl, rfl⟩ := emitPattern_cases he
    · exact absurd (List.mem_map.mpr ⟨_, hold, rfl⟩) hmem
    obtain ⟨horder, hrecords, -⟩ := addTracks_frame s d q.tracks
    have hpatterns := patterns_addTracks s d q.tracks
    have hoffset : (UInt16.ofNat d.contents.tracks.length).toNat = d.contents.tracks.length := by
      change (d.addTracks s q.tracks).contents.tracks.length < 2 ^ 16 at hfits
      rw [(length_addTracks s d q.tracks).1] at hfits
      exact Contents.toNat_count (Nat.lt_of_add_right_lt hfits)
    have hcount : (UInt16.ofNat q.tracks.length).toNat ≤ q.tracks.length :=
      (UInt16.toNat_ofNat').trans_le (Nat.mod_le _ _)
    refine ⟨h.addPattern q.tracks hoffset hcount, ?_, ?_,
      List.mem_append_right _ List.mem_cons_self, horder, hrecords⟩
    · rw [Draft.shown, Draft.addPattern, hpatterns, List.map_append, join, if_neg hmem]
      rfl
    · rw [Draft.addPattern, hpatterns]
      exact List.prefix_append _ _

end Draft.Spaced

/-! ### Animations -/

/-- The payload of an animation that shows a pattern points at the span of the pattern. -/
lemma trackSpan_emitPayload {a : Animation} {r : UInt8 × Payload} {v : Uuid}
    (h : emitPayload s a d = .ok (r, e)) (hv : a.pattern? = some v) :
    ∃ span d', emitPattern s v d = .ok (span, d') ∧ e = d'.addTracks s a.ownTrack?.toList
      ∧ ∀ record : AnimationRecord, record.payload = r.2 →
        record.trackSpan = (span.offset, span.count) := by
  obtain ⟨u, name, duration, faceMask, kind⟩ := a
  cases kind with
  | keyframed pattern traveling useLedIndices =>
      cases hv
      obtain ⟨span, d₁, h₁, h⟩ := Emit.bind_eq_ok.mp h
      cases h
      refine ⟨span, e, h₁, rfl, fun record hrecord => ?_⟩
      simp [AnimationRecord.trackSpan, hrecord, Payload.keyframed]
  | gradientPattern pattern g override =>
      cases hv
      obtain ⟨span, d₁, h₁, h⟩ := Emit.bind_eq_ok.mp h
      cases h
      refine ⟨span, d₁, h₁, rfl, fun record hrecord => ?_⟩
      simp [AnimationRecord.trackSpan, hrecord, Payload.gradientPattern]
  | simple | rainbow | gradient | cycle | noise => cases hv

/-- The record of an animation points at the span of the pattern that it shows. -/
def AnimationRecord.PointsInto (r : AnimationRecord) (patterns : List (Uuid × Span))
    (v? : Option Uuid) : Prop :=
  ∀ v, v? = some v → (v, ⟨r.trackSpan.1, r.trackSpan.2⟩) ∈ patterns

/-- The patterns of a draft are those that its animations show, in the order in which these name
them first; their spans follow one another, and the records of the animations point at them. -/
structure Draft.InOrder (s : Source) (d : Draft) : Prop extends Draft.Spaced d where
  shown : d.shown = Profile.firsts (d.animations.filterMap s.shown?)
  points : List.Forall₂ (fun u r => r.PointsInto d.patterns (s.shown? u))
    d.animations d.contents.animations

namespace Draft.InOrder

lemma empty (s : Source) : InOrder s {} where
  ascending := .nil
  below := nofun
  shown := rfl
  points := .nil

/-- The order depends on the tracks, the patterns and the animations only. -/
lemma congr (h : d.InOrder s) (htracks : e.contents.tracks = d.contents.tracks)
    (hpatterns : e.patterns = d.patterns) (horder : e.animations = d.animations)
    (hrecords : e.contents.animations = d.contents.animations) : e.InOrder s where
  ascending := hpatterns ▸ h.ascending
  below := htracks ▸ hpatterns ▸ h.below
  shown := by
    rw [Draft.shown, hpatterns, horder]
    exact h.shown
  points := hrecords ▸ horder ▸ hpatterns ▸ h.points

/-- The payload of an animation writes the pattern that the animation shows, unless it is
there. -/
lemma emitPayload {u : Uuid} {a : Animation} {r : UInt8 × Payload} (h : d.Spaced)
    (ha : s.animation? u = some a) (he : DataSet.emitPayload s a d = .ok (r, e))
    (hfits : e.contents.tracks.length < 2 ^ 16) :
    e.Spaced ∧ e.shown = (s.shown? u).toList.foldl join d.shown ∧ d.patterns <+: e.patterns
      ∧ (∀ record : AnimationRecord, record.payload = r.2 →
          record.PointsInto e.patterns (s.shown? u))
      ∧ e.animations = d.animations ∧ e.contents.animations = d.contents.animations := by
  have hshown : s.shown? u = a.pattern? := by rw [Source.shown?, ha, Option.bind_some]
  rw [hshown]
  cases hv : a.pattern? with
  | none =>
      obtain ⟨-, d', ⟨-, rfl⟩ | ⟨v, -, hv', -⟩, rfl⟩ := emitPayload_cases he
      · obtain ⟨horder, hrecords, hsame⟩ := addTracks_frame s d' a.ownTrack?.toList
        refine ⟨h.addTracks _, hsame, ?_, fun _ _ w hw => ?_, horder, hrecords⟩
        · rw [Spaced.patterns_addTracks]
        · cases hw
      · rw [hv] at hv'
        cases hv'
  | some v =>
      obtain ⟨span, d', hpattern, rfl, hspan⟩ := trackSpan_emitPayload he hv
      obtain ⟨horder, hrecords, hsame⟩ := addTracks_frame s d' a.ownTrack?.toList
      rw [(length_addTracks s d' _).1] at hfits
      obtain ⟨h', hjoin, hprefix, hmem, horder', hrecords'⟩ :=
        h.emitPattern hpattern (Nat.lt_of_add_right_lt hfits)
      rw [Spaced.patterns_addTracks]
      refine ⟨h'.addTracks _, hsame.trans hjoin, hprefix, fun record hrecord w hw => ?_,
        horder.trans horder', hrecords.trans hrecords'⟩
      rw [hspan record hrecord, ← Option.some_inj.mp hw]
      exact hmem

/-- An animation is written behind all others, unless it is there. -/
lemma emitAnimation {u : Uuid} {i : UInt16} (h : d.InOrder s)
    (he : DataSet.emitAnimation s u d = .ok (i, e)) (hfits : e.contents.tracks.length < 2 ^ 16) :
    e.InOrder s ∧ e.animations = join d.animations u := by
  by_cases hmem : u ∈ d.animations
  · obtain ⟨j, hj⟩ := emitAnimation_of_mem (s := s) hmem
    cases hj.symm.trans he
    exact ⟨h, (if_pos hmem).symm⟩
  · obtain ⟨n, hn, -, -⟩ | ⟨a, r, d', ha, -, hr, -, rfl⟩ := emitAnimation_cases he
    · exact absurd (List.mem_of_getElem? hn) hmem
    obtain ⟨flags, payload, typeCode, hp, -, hrecord⟩ := emitRecord_cases hr
    obtain ⟨hspaced, hshown, hprefix, hpoints, horder, hrecords⟩ :=
      emitPayload h.toSpaced ha hp hfits
    have hanimations : (d'.addAnimation u r).animations = d.animations ++ [u] := by
      rw [addAnimation, horder]
    refine ⟨⟨⟨hspaced.ascending, hspaced.below⟩, ?_, ?_⟩, ?_⟩
    · have hsingle : List.filterMap s.shown? [u] = (s.shown? u).toList := by
        cases hu : s.shown? u <;> simp [hu]
      rw [hanimations, List.filterMap_append, firsts_append, hsingle, ← h.shown, ← hshown]
      rfl
    · rw [hanimations, addAnimation, hrecords]
      refine List.rel_append ?_ (.cons (hpoints r (by rw [hrecord])) .nil)
      exact h.points.imp fun w x hw v hv => hprefix.subset (hw v hv)
    · rw [hanimations, join, if_neg hmem]

lemma emitAction {rule place : ℕ} {a : Action} {r : ActionRecord} (h : d.InOrder s)
    (he : DataSet.emitAction s rule place a d = .ok (r, e))
    (hfits : e.contents.tracks.length < 2 ^ 16) :
    e.InOrder s ∧ e.animations = a.animation?.toList.foldl join d.animations := by
  cases a with
  | playAnimation u faceMask loopCount =>
      obtain ⟨i, d₁, h₁, he⟩ := Emit.bind_eq_ok.mp he
      cases he
      exact h.emitAnimation h₁ hfits
  | playAudioClip | makeWebRequest | speakText =>
      cases he
      exact ⟨h.congr rfl rfl rfl rfl, rfl⟩

/-- The actions of a rule write what they play one after the other. -/
lemma emitActions {rule place : ℕ} {as : List Action} (h : d.InOrder s)
    (he : DataSet.emitActions s rule place as d = .ok ((), e))
    (hfits : e.contents.tracks.length < 2 ^ 16) :
    e.InOrder s ∧ e.animations = (as.filterMap Action.animation?).foldl join d.animations := by
  induction as generalizing d place with
  | nil =>
      obtain rfl := emitActions_nil he
      exact ⟨h, rfl⟩
  | cons a rest ih =>
      obtain ⟨r, d', h₁, h₂⟩ := emitActions_cons he
      have hfits' := (GrowsInto.emitActions h₂).tracks.length_le.trans_lt hfits
      obtain ⟨h', horder⟩ := h.emitAction h₁ hfits'
      obtain ⟨he', horder'⟩ := ih (h'.congr (e := d'.addAction r) rfl rfl rfl rfl) h₂
      refine ⟨he', horder'.trans ?_⟩
      rw [List.filterMap_cons]
      change List.foldl join d'.animations _ = _
      rw [horder]
      cases a.animation? <;> rfl

lemma emitRule {limits : Limits} {number : ℕ} {r : Rule} (h : d.InOrder s)
    (he : DataSet.emitRule s limits number r d = .ok ((), e))
    (hfits : e.contents.tracks.length < 2 ^ 16) :
    e.InOrder s
      ∧ e.animations = (r.actions.filterMap Action.animation?).foldl join d.animations := by
  obtain ⟨d', h₁, rfl⟩ := emitRule_cases he
  have h' := h.congr (e := d.addCondition (conditionRecord r.condition)) rfl rfl rfl rfl
  obtain ⟨he', horder⟩ := h'.emitActions h₁ hfits
  exact ⟨he'.congr rfl rfl rfl rfl, horder⟩

/-- **Rules are written in the order in which they name what they play.** -/
lemma emitRules {limits : Limits} {number : ℕ} {rs : List Rule} (h : d.InOrder s)
    (he : DataSet.emitRules s limits number rs d = .ok ((), e))
    (hfits : e.contents.tracks.length < 2 ^ 16) :
    e.InOrder s ∧ e.animations
      = (rs.flatMap fun r => r.actions.filterMap Action.animation?).foldl join d.animations := by
  induction rs generalizing d number with
  | nil =>
      cases he
      exact ⟨h, rfl⟩
  | cons r rest ih =>
      obtain ⟨d', h₁, h₂⟩ := emitRules_cons he
      have hfits' := (GrowsInto.emitRules h₂).tracks.length_le.trans_lt hfits
      obtain ⟨h', horder⟩ := h.emitRule h₁ hfits'
      obtain ⟨he', horder'⟩ := ih h' h₂
      refine ⟨he', ?_⟩
      rw [horder', horder, List.flatMap_cons, List.foldl_append]

end Draft.InOrder

/-! ### Data sets -/

/-- Some patterns are those that a data set holds, each at its span: the span holds the tracks of
the pattern, of which there are some; the spans follow one another; an animation that shows a
pattern points at the span of the pattern; and beside the spans there is a track for each gradient
only. -/
structure Compiled.HoldsSpans (c : Compiled) (s : Source) (spans : List (Uuid × Span)) :
    Prop where
  holds : ∀ v span, (v, span) ∈ spans → 0 < span.count.toNat ∧
    ∃ q, s.pattern? v = some q ∧ c.contents.ShowsPattern s q span.offset span.count
  ascending : spans.Pairwise fun x y => x.2.offset.toNat + x.2.count.toNat ≤ y.2.offset.toNat
  points : List.Forall₂ (fun u r => r.PointsInto spans (s.shown? u))
    c.animations c.contents.animations
  complete : c.contents.tracks.length
    = (spans.map (·.2.count.toNat)).sum + (c.animations.filterMap s.ownTrack?).length

/-- A pattern that passes its check has a track. -/
lemma tracks_ne_nil_of_check {q : Pattern} (h : q.check = .ok ()) : q.tracks ≠ [] := by
  rw [Pattern.check, Check.seq_eq_ok, Check.require_eq_ok] at h
  intro heq
  rw [heq] at h
  exact absurd h.1 (by decide)

/-- The data set of a profile is written in the order in which the profile names what it plays. -/
lemma compile_inOrder {p : Profile} {l : Library} {options : CompileOptions} {c : Compiled}
    (h : compile p l options = .ok c) : c.animations = p.animationRefs
      ∧ ∃ spans, c.HoldsSpans (.ofProfile p l) spans
        ∧ spans.map (·.1) = Profile.firsts (c.animations.filterMap l.shown?) := by
  obtain ⟨f, hcheck, hrules, hemit, hsections, rfl⟩ := compile_cases h
  obtain ⟨-, hrlen⟩ := emitRules_length hemit
  rw [List.length_nil, Nat.zero_add] at hrlen
  have hfits : f.contents.Fits := fits_of_checkSections hsections (by omega)
  obtain ⟨hsound, -⟩ := (Draft.Sound.empty _ f).emitRules hemit (Draft.GrowsInto.refl f)
    hfits (Profile.condition_of_check hcheck) rfl rfl
  obtain ⟨htallied, -, -⟩ := Draft.sizes_of_emitRules hemit
  obtain ⟨horder, hanimations⟩ := (Draft.InOrder.empty _).emitRules hemit hfits.tracks
  have hcount : ∀ v span, (v, span) ∈ f.patterns →
      span.count.toNat = ((Source.ofProfile p l).patternTracks v).length := by
    intro v span hspan
    obtain ⟨q, hq, hshows⟩ := hsound.patterns v span hspan
    have hlength := hshows.each.length_eq
    rw [List.length_take, List.length_drop] at hlength
    have hwithin := hshows.within
    rw [Source.patternTracks, hq, Option.elim_some, hlength]
    omega
  refine ⟨hanimations, f.patterns, ⟨fun v span hspan => ⟨?_, ?_⟩, horder.ascending,
    horder.points, ?_⟩, horder.shown⟩
  · obtain ⟨q, hq, hqcheck⟩ := htallied.tally.showable v (List.mem_map_of_mem hspan)
    rw [hcount v span hspan, Source.patternTracks, hq]
    exact List.length_pos_iff.mpr (tracks_ne_nil_of_check hqcheck)
  · exact hsound.patterns v span hspan
  · obtain ⟨ts, hts, hperm⟩ := htallied.tally.tracks
    have hsum : f.patterns.map (fun x => ((Source.ofProfile p l).patternTracks x.1).length)
        = f.patterns.map (·.2.count.toNat) :=
      List.map_congr_left fun x hx => (hcount x.1 x.2 hx).symm
    change f.contents.tracks.length = _
    rw [hts.length_eq.1, hperm.length_eq, List.length_append, List.length_flatMap, Draft.shown,
      List.map_map, ← hsum]
    rfl

/-- **The dependencies of a profile are what its data set is written from.** A profile with a data
set has dependencies. They are the animations of the data set, in the order of their records,
which is the order in which the profile names them first; and the patterns whose tracks the data
set holds, in the order of their spans, which is the order in which these animations name them
first. A profile without dependencies has no data set, and what else a library holds does not
count. -/
theorem dependencies_exact (p : Profile) (l : Library) (options : CompileOptions) :
    (∀ c, compile p l options = .ok c → ∃ d spans, dependencies p l = .ok d
        ∧ d.animations = c.animations ∧ c.animations = p.animationRefs
        ∧ FirstNamed (p.rules.flatMap fun r => r.actions.filterMap Action.animation?)
          d.animations
        ∧ c.HoldsSpans (.ofProfile p l) spans ∧ d.patterns = spans.map (·.1)
        ∧ FirstNamed (d.animations.filterMap l.shown?) d.patterns
        ∧ d.animations.Nodup ∧ d.patterns.Nodup)
      ∧ (∀ e, dependencies p l = .error e → ∃ e', compile p l options = .error e')
      ∧ ∀ l', (∀ u ∈ p.animationRefs, l.animation? u = l'.animation? u
          ∧ ∀ v, l.shown? u = some v → l.pattern? v = l'.pattern? v) →
        compile p l options = compile p l' options := by
  refine ⟨fun c h => ?_, fun e he => ?_, fun l' hl' => ?_⟩
  · obtain ⟨hanimations, spans, hspans, hpatterns⟩ := compile_inOrder h
    obtain ⟨d, hd⟩ := dependencies_of_compile h
    obtain ⟨-, rfl⟩ := dependencies_eq_ok.mp hd
    rw [hanimations] at hpatterns
    have hplayed := firstNamed_firsts
      (p.rules.flatMap fun r => r.actions.filterMap Action.animation?)
    have hshown := firstNamed_firsts (p.animationRefs.filterMap l.shown?)
    exact ⟨_, spans, hd, hanimations.symm, hanimations, hplayed, hspans, hpatterns.symm, hshown,
      hplayed.nodup, hshown.nodup⟩
  · cases hc : compile p l options with
    | error e' => exact ⟨e', rfl⟩
    | ok c =>
        obtain ⟨d, hd⟩ := dependencies_of_compile hc
        rw [hd] at he
        cases he
  · exact compile_congr ⟨rfl, rfl, rfl, rfl, rfl, rfl⟩
      ⟨rfl, rfl, fun u hu => (hl' u hu).1, fun u hu => (hl' u hu).2⟩

/-- Two animations show one pattern, and one of them is named twice. -/
theorem sample_dependencies : ∃ c, compile Sample.profile Sample.shelf {} = .ok c
    ∧ dependencies Sample.profile Sample.shelf = .ok ⟨[⟨2⟩, ⟨3⟩], [⟨1⟩]⟩
    ∧ c.animations = [⟨2⟩, ⟨3⟩] ∧ FirstNamed [⟨2⟩, ⟨3⟩, ⟨3⟩] c.animations := by
  have hok : (compile Sample.profile Sample.shelf {}).toOption.isSome := by decide +kernel
  have hdependencies : dependencies Sample.profile Sample.shelf = .ok ⟨[⟨2⟩, ⟨3⟩], [⟨1⟩]⟩ := by
    decide +kernel
  cases h : compile Sample.profile Sample.shelf {} with
  | error e =>
      rw [h] at hok
      cases hok
  | ok c =>
      obtain ⟨hwritten, -, -⟩ := dependencies_exact Sample.profile Sample.shelf {}
      obtain ⟨d, -, hd, hanimations, -, hnamed, -⟩ := hwritten c h
      cases hdependencies.symm.trans hd
      exact ⟨c, rfl, hdependencies, hanimations.symm, hanimations ▸ hnamed⟩

end DiceHost.DataSet
