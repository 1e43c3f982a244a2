/-
Drafts that say what they were made from.

* `conditionRecord_shows`: the record of a condition keeps all that the condition says;
* `Draft.Sound`: the tracks, patterns, animations and actions of a draft are shown by the
  draft that it grows into in the end, in which no index has lost a bit;
* `Draft.Sound.emitPattern`, …, `Draft.Sound.emitRules`: **every step of an emission keeps a
  draft sound, and its result is shown**.

The indices are narrowed to 16 bits as they are written, and the capacity is checked at the
end. So every step is judged by the final draft: it fits, and it holds whatever an earlier
draft holds at the same places.
-/
import DiceHost.Proofs.DataSet.Emission

namespace DiceHost.DataSet

open Contents

/-! ### Payloads read back -/

@[simp] lemma word16_payloadBytes (w : UInt16) :
    word16 (Payload.lowByte w) (Payload.highByte w) = w :=
  word16_bytes w

/-! ### Conditions -/

/-- The record of a condition that passes its check keeps all that the condition says. -/
lemma conditionRecord_shows {cond : Condition} (h : cond.check = .ok ()) :
    (conditionRecord cond).Shows cond := by
  cases cond with
  | faceCompare face flags =>
      refine ⟨rfl, rfl, ?_, rfl⟩
      change face.toUInt8.toNat = face.toNat
      rw [UInt32.toNat_toUInt8]
      exact Nat.mod_eq_of_lt (Condition.face_of_check h)
  | rolled | crooked | handling | rolling | idle | batteryState | connectionState
  | helloGoodbye => exact ⟨rfl, rfl, rfl, rfl⟩

/-! ### Sound drafts -/

/-- What a draft has written so far is shown by the draft that it grows into in the end. -/
structure Draft.Sound (s : Source) (f d : Draft) : Prop where
  tracks : ∀ t ∈ d.contents.tracks, ∃ ks, f.contents.ShowsTrack s ks t.ledMask t
  patterns : ∀ u span, (u, span) ∈ d.patterns →
    ∃ p, s.pattern? u = some p ∧ f.contents.ShowsPattern s p span.offset span.count
  animations : List.Forall₂
    (fun u r => ∃ a, s.animation? u = some a ∧ f.contents.ShowsAnimation s a r)
    d.animations d.contents.animations
  actions : ∀ r ∈ d.contents.actions,
    ∃ rule place a, f.contents.ShowsAction s f.animations rule place a r

/-- A number below a count that fits sixteen bits is kept in sixteen bits. -/
lemma toNat_of_isPrefix {α : Type} {xs ys : List α} (h : xs <+: ys) (hy : ys.length < 2 ^ 16) :
    (UInt16.ofNat xs.length).toNat = xs.length :=
  toNat_count (lt_of_le_of_lt h.length_le hy)

/-- A record put at the end of a section stays at its place. -/
lemma getElem?_of_isPrefix {α : Type} {xs ys : List α} {x : α} (h : xs ++ [x] <+: ys) :
    ys[xs.length]? = some x := by
  obtain ⟨zs, rfl⟩ := h
  simp

/-- A record of a section stays at its place while the section grows. -/
lemma getElem?_of_grown {α : Type} {xs ys : List α} {n : ℕ} {x : α} (h : xs <+: ys)
    (hx : xs[n]? = some x) : ys[n]? = some x := by
  obtain ⟨zs, rfl⟩ := h
  obtain ⟨hn, -⟩ := List.getElem?_eq_some_iff.mp hx
  rw [List.getElem?_append_left hn]
  exact hx

/-- The records put at the end of a section are a span of it. -/
lemma Spans.of_isPrefix {α β : Type} {R : β → α → Prop} {ys : List β} {xs new zs : List α}
    (hR : List.Forall₂ R ys new) (h : xs ++ new <+: zs) (hz : zs.length < 2 ^ 16) :
    Spans R ys zs (UInt16.ofNat xs.length).toNat (UInt16.ofNat ys.length).toNat := by
  have hlen := hR.length_eq
  have hle := h.length_le
  rw [List.length_append] at hle
  have hx : (UInt16.ofNat xs.length).toNat = xs.length := toNat_count (by omega)
  have hy : (UInt16.ofNat ys.length).toNat = new.length := by
    rw [hlen]
    exact toNat_count (by omega)
  obtain ⟨post, rfl⟩ := h
  rw [hx, hy]
  exact Spans.of_append hR

namespace Draft.Sound

variable {s : Source} {d e f : Draft}

/-! #### Tracks -/

/-- The track that is added holds the keyframes that are added with it. -/
lemma showsTrack {ks : List Keyframe} {ledMask : UInt32} (hf : f.contents.Fits)
    (hk : ks.length < 2 ^ 8) (hg : (d.addTrack s ks ledMask).GrowsInto f) :
    f.contents.ShowsTrack s ks ledMask
      ⟨UInt16.ofNat d.contents.keyframes.length, UInt8.ofNat ks.length, ledMask⟩ where
  ledMask := rfl
  keyframes := by
    have hcount : (UInt8.ofNat ks.length).toNat = (UInt16.ofNat ks.length).toNat := by
      rw [UInt8.toNat_ofNat_of_lt' hk, toNat_count (by omega)]
    have hall : List.Forall₂ (fun (k : Keyframe) (r : KeyframeRecord) =>
        r.time = quantizeTime k.time ∧ r.color = k.color.scaled s.brightness)
        ks (ks.map s.keyframeRecord) := by
      rw [List.forall₂_map_right_iff, List.forall₂_same]
      exact fun k _ => ⟨rfl, rfl⟩
    rw [hcount]
    exact Spans.of_isPrefix hall hg.keyframes hf.keyframes

lemma addTrack {ks : List Keyframe} {ledMask : UInt32} (hs : Sound s f d)
    (hf : f.contents.Fits) (hk : ks.length < 2 ^ 8)
    (hg : (d.addTrack s ks ledMask).GrowsInto f) : Sound s f (d.addTrack s ks ledMask) where
  tracks := by
    intro t ht
    rcases List.mem_append.mp ht with ht | ht
    · exact hs.tracks t ht
    · obtain rfl := List.mem_singleton.mp ht
      exact ⟨ks, showsTrack hf hk hg⟩
  patterns := hs.patterns
  animations := hs.animations
  actions := hs.actions

/-- The tracks of a pattern are added one after the other, and each of them is shown. -/
lemma addTracks {ts : List PatternTrack} (hs : Sound s f d) (hf : f.contents.Fits)
    (hk : ∀ t ∈ ts, t.keyframes.length < 2 ^ 8) (hg : (d.addTracks s ts).GrowsInto f) :
    Sound s f (d.addTracks s ts)
      ∧ ∃ new, (d.addTracks s ts).contents.tracks = d.contents.tracks ++ new
        ∧ List.Forall₂ (fun (t : PatternTrack) r =>
            f.contents.ShowsTrack s t.keyframes t.ledMask r) ts new := by
  induction ts generalizing d with
  | nil => exact ⟨hs, [], (List.append_nil _).symm, .nil⟩
  | cons t ts ih =>
      have ht := hk t List.mem_cons_self
      have hg₁ : (d.addTrack s t.keyframes t.ledMask).GrowsInto f :=
        (Supplies.addTracks s _ ts).toGrowsInto.trans hg
      obtain ⟨hs', new, heq, hall⟩ :=
        ih (hs.addTrack hf ht hg₁) (fun t' ht' => hk t' (List.mem_cons_of_mem _ ht')) hg
      refine ⟨hs', _ :: new, ?_, .cons (showsTrack hf ht hg₁) hall⟩
      rw [Draft.addTracks, heq]
      exact List.append_assoc _ _ _

/-- The gradient of an animation is shown by its own track. -/
lemma addGradient {g : Gradient} {faceMask : UInt32} (hf : f.contents.Fits)
    (hk : g.keyframes.length < 2 ^ 8)
    (hg : (d.addTrack s g.keyframes faceMask).GrowsInto f) :
    f.contents.ShowsGradient s g faceMask (UInt16.ofNat d.contents.tracks.length) := by
  refine ⟨_, ?_, showsTrack hf hk hg⟩
  have hg' := (Supplies.addTrack s d g.keyframes faceMask).toGrowsInto.trans hg
  rw [toNat_of_isPrefix hg'.tracks hf.tracks]
  exact getElem?_of_isPrefix hg.tracks

/-! #### Patterns and animations -/

lemma emitPattern {u : Uuid} {span : Span} (hs : Sound s f d)
    (h : DataSet.emitPattern s u d = .ok (span, e)) (hg : e.GrowsInto f)
    (hf : f.contents.Fits) :
    Sound s f e
      ∧ ∃ p, s.pattern? u = some p ∧ f.contents.ShowsPattern s p span.offset span.count := by
  obtain ⟨hmem, rfl⟩ | ⟨p, hp, hcheck, rfl, rfl⟩ := emitPattern_cases h
  · exact ⟨hs, hs.patterns u span hmem⟩
  · have hg₁ : (d.addTracks s p.tracks).GrowsInto f :=
      (Supplies.addPattern _ _ _).toGrowsInto.trans hg
    obtain ⟨hs', new, heq, hall⟩ := hs.addTracks hf (Pattern.length_of_check hcheck) hg₁
    have hshow : f.contents.ShowsPattern s p (UInt16.ofNat d.contents.tracks.length)
        (UInt16.ofNat p.tracks.length) :=
      Spans.of_isPrefix hall (heq ▸ hg₁.tracks) hf.tracks
    refine ⟨{ hs' with patterns := ?_ }, p, hp, hshow⟩
    intro v span' hmem
    rcases List.mem_append.mp hmem with hmem | hmem
    · exact hs'.patterns v span' hmem
    · cases List.mem_singleton.mp hmem
      exact ⟨p, hp, hshow⟩

/-- The payload of an animation is shown by any record that has it. -/
lemma emitPayload {a : Animation} {flags : UInt8} {payload : Payload} (hs : Sound s f d)
    (hcheck : a.check = .ok ()) (h : DataSet.emitPayload s a d = .ok ((flags, payload), e))
    (hg : e.GrowsInto f) (hf : f.contents.Fits) :
    Sound s f e ∧ ∀ typeCode duration faceMask, a.kind.typeCode? = some typeCode →
      f.contents.ShowsKind s a.faceMask ⟨typeCode, flags, duration, faceMask, payload⟩ a.kind := by
  have hlen := AnimationKind.length_of_check (Animation.kind_of_check hcheck)
  obtain ⟨u, name, duration, faceMask, kind⟩ := a
  cases kind with
  | simple color count fade =>
      cases h
      exact ⟨hs, fun _ _ _ _ => ⟨rfl, rfl⟩⟩
  | rainbow count fade intensity cycles traveling =>
      cases h
      exact ⟨hs, fun _ _ _ _ => ⟨rfl, rfl⟩⟩
  | keyframed pattern traveling useLedIndices =>
      obtain ⟨span, d₁, h₁, h⟩ := Emit.bind_eq_ok.mp h
      cases h
      obtain ⟨hs', p, hp, hshow⟩ := hs.emitPattern h₁ hg hf
      refine ⟨hs', fun typeCode _ _ _ => ⟨rfl, p, hp, ?_, ?_⟩⟩
      · simpa [AnimationRecord.trackSpan, Payload.keyframed] using hshow
      · simp [AnimationRecord.trackSpan, Payload.keyframed]
  | gradientPattern pattern g override =>
      obtain ⟨span, d₁, h₁, h⟩ := Emit.bind_eq_ok.mp h
      cases h
      have hg₁ := (Supplies.addTrack s d₁ g.keyframes faceMask).toGrowsInto.trans hg
      obtain ⟨hs', p, hp, hshow⟩ := hs.emitPattern h₁ hg₁ hf
      have hk := hlen g rfl
      have hgrad := addGradient hf hk hg
      refine ⟨hs'.addTrack hf hk hg, fun typeCode _ _ htype => ?_⟩
      cases htype
      refine ⟨rfl, p, UInt16.ofNat d₁.contents.tracks.length, hp, ?_, ?_, hgrad, ?_⟩
      · simp [AnimationRecord.gradientTrack?, Payload.gradientPattern]
      · simpa [AnimationRecord.trackSpan, Payload.gradientPattern] using hshow
      · simp [AnimationRecord.trackSpan, Payload.gradientPattern]
  | gradient g =>
      cases h
      have hk := hlen g rfl
      have hgrad := addGradient hf hk hg
      refine ⟨hs.addTrack hf hk hg, fun typeCode _ _ htype => ?_⟩
      cases htype
      refine ⟨rfl, UInt16.ofNat d.contents.tracks.length, ?_, hgrad, rfl⟩
      simp [AnimationRecord.gradientTrack?, Payload.gradient]
  | cycle g count fade intensity cycles =>
      cases h
      have hk := hlen g rfl
      have hgrad := addGradient hf hk hg
      refine ⟨hs.addTrack hf hk hg, fun typeCode _ _ htype => ?_⟩
      cases htype
      refine ⟨rfl, UInt16.ofNat d.contents.tracks.length, ?_, hgrad, rfl⟩
      simp [AnimationRecord.gradientTrack?, Payload.cycle]
  | noise => cases h

/-- The record of an animation shows the animation. -/
lemma emitRecord {a : Animation} {r : AnimationRecord} (hs : Sound s f d)
    (hcheck : a.check = .ok ()) (h : DataSet.emitRecord s a d = .ok (r, e))
    (hg : e.GrowsInto f) (hf : f.contents.Fits) :
    Sound s f e ∧ f.contents.ShowsAnimation s a r := by
  obtain ⟨flags, payload, typeCode, hp, htype, rfl⟩ := emitRecord_cases h
  obtain ⟨hs', hkind⟩ := hs.emitPayload hcheck hp hg hf
  have hduration : a.duration.toUInt16.toNat = a.duration.toNat := by
    rw [UInt32.toNat_toUInt16]
    exact Nat.mod_eq_of_lt (Animation.duration_of_check hcheck)
  exact ⟨hs', htype, hduration, rfl, hkind _ _ _ htype⟩

/-- The number of an animation is that of a record that shows it. -/
lemma emitAnimation {u : Uuid} {i : UInt16} (hs : Sound s f d)
    (h : DataSet.emitAnimation s u d = .ok (i, e)) (hg : e.GrowsInto f)
    (hf : f.contents.Fits) :
    Sound s f e ∧ ∃ a r, s.animation? u = some a ∧ f.animations[i.toNat]? = some u
      ∧ f.contents.animations[i.toNat]? = some r ∧ f.contents.ShowsAnimation s a r := by
  obtain ⟨n, hn, rfl, rfl⟩ | ⟨a, r, d', ha, hcheck, hr, rfl, rfl⟩ := emitAnimation_cases h
  · -- the animation was emitted before: its record stands at the same place
    obtain ⟨hlt, hu⟩ := List.getElem?_eq_some_iff.mp hn
    have hlt' : n < e.contents.animations.length := hs.animations.length_eq ▸ hlt
    obtain ⟨a, ha, hshow⟩ := (List.forall₂_iff_get.mp hs.animations).2 n hlt hlt'
    have hsize := hg.animations.length_le
    have hi : (UInt16.ofNat n).toNat = n := toNat_count (by have := hf.animations; omega)
    rw [List.get_eq_getElem] at ha hshow
    rw [hi]
    exact ⟨hs, a, _, hu ▸ ha, getElem?_of_grown hg.order hn,
      getElem?_of_grown hg.animations (List.getElem?_eq_getElem hlt'), hshow⟩
  · -- the animation is new: its record is put at the end
    have hg₁ : d'.GrowsInto f := (Supplies.addAnimation _ _ _).toGrowsInto.trans hg
    obtain ⟨hs', hshow⟩ := hs.emitRecord hcheck hr hg₁ hf
    have hi := toNat_of_isPrefix hg₁.animations hf.animations
    have hlen := hs'.animations.length_eq
    refine ⟨{ hs' with animations := ?_ }, a, r, ha, ?_, ?_, hshow⟩
    · exact List.rel_append hs'.animations (.cons ⟨a, ha, hshow⟩ .nil)
    · rw [hi, ← hlen]
      exact getElem?_of_isPrefix hg.order
    · rw [hi]
      exact getElem?_of_isPrefix hg.animations

/-! #### Rules -/

lemma addRemote {a : RemoteAction} (hs : Sound s f d) : Sound s f (d.addRemote a) :=
  { hs with }

/-- The record of an action shows the action. -/
lemma emitAction {rule place : ℕ} {a : Action} {r : ActionRecord} (hs : Sound s f d)
    (h : DataSet.emitAction s rule place a d = .ok (r, e)) (hg : e.GrowsInto f)
    (hf : f.contents.Fits) :
    Sound s f e ∧ f.contents.ShowsAction s f.animations rule place a r := by
  cases a with
  | playAnimation u faceMask loopCount =>
      obtain ⟨i, d₁, h₁, h⟩ := Emit.bind_eq_ok.mp h
      cases h
      obtain ⟨hs', a, r, ha, horder, hr, hshow⟩ := hs.emitAnimation h₁ hg hf
      exact ⟨hs', rfl, rfl, rfl, a, r, ha, horder, hr, hshow⟩
  | playAudioClip clip volume loopCount =>
      cases h
      exact ⟨hs.addRemote, rfl, rfl, rfl, rfl⟩
  | makeWebRequest url value format =>
      cases h
      exact ⟨hs.addRemote, rfl, rfl, rfl, rfl⟩
  | speakText text pitch rate =>
      cases h
      exact ⟨hs.addRemote, rfl, rfl, rfl, rfl⟩

lemma addAction {r : ActionRecord} (hs : Sound s f d)
    (hr : ∃ rule place a, f.contents.ShowsAction s f.animations rule place a r) :
    Sound s f (d.addAction r) := by
  refine { hs with actions := ?_ }
  intro r' hr'
  rcases List.mem_append.mp hr' with hr' | hr'
  · exact hs.actions r' hr'
  · obtain rfl := List.mem_singleton.mp hr'
    exact hr

lemma addCondition (hs : Sound s f d) (r : ConditionRecord) : Sound s f (d.addCondition r) :=
  { hs with }

lemma addRule (hs : Sound s f d) (r : RuleRecord) : Sound s f (d.addRule r) :=
  { hs with }

/-- The records of the actions of a rule follow one another, and each shows its action. -/
lemma emitActions {rule place : ℕ} {as : List Action} (hs : Sound s f d)
    (h : DataSet.emitActions s rule place as d = .ok ((), e)) (hg : e.GrowsInto f)
    (hf : f.contents.Fits) :
    Sound s f e ∧ ∃ new, e.contents.actions = d.contents.actions ++ new
      ∧ List.Forall₂ (fun (a : Action × ℕ) r =>
          f.contents.ShowsAction s f.animations rule a.2 a.1 r) (as.zipIdx place) new := by
  induction as generalizing d place with
  | nil =>
      obtain rfl := emitActions_nil h
      exact ⟨hs, [], (List.append_nil _).symm, .nil⟩
  | cons a rest ih =>
      obtain ⟨r, d', h₁, h₂⟩ := emitActions_cons h
      have hg₂ := (GrowsInto.emitActions h₂).trans hg
      obtain ⟨hs', hshow⟩ := hs.emitAction h₁ ((GrowsInto.addAction d' r).trans hg₂) hf
      obtain ⟨hse, new, heq, hall⟩ := ih (hs'.addAction ⟨rule, place, a, hshow⟩) h₂
      refine ⟨hse, r :: new, ?_, ?_⟩
      · rw [heq, Draft.addAction, (Supplies.emitAction h₁).actions_eq]
        exact List.append_assoc _ _ _
      · rw [List.zipIdx_cons]
        exact .cons hshow hall

/-- A rule is shown at its own number. -/
lemma emitRule {limits : Limits} {number : ℕ} {r : Rule} (hs : Sound s f d)
    (h : DataSet.emitRule s limits number r d = .ok ((), e)) (hg : e.GrowsInto f)
    (hf : f.contents.Fits) (hcheck : r.condition.check = .ok ())
    (hc : d.contents.conditions.length = number) (hr : d.contents.rules.length = number) :
    Sound s f e ∧ f.contents.ShowsRule s f.animations number r := by
  obtain ⟨hcond, hrules⟩ := emitRule_frame h
  have hgc := hg.conditions
  have hgr := hg.rules
  rw [hcond] at hgc
  rw [hrules] at hgr
  obtain ⟨d', h', rfl⟩ := emitRule_cases h
  have hg' : d'.GrowsInto f := (GrowsInto.addRule d' _).trans hg
  obtain ⟨hs', new, heq, hall⟩ :=
    (hs.addCondition (conditionRecord r.condition)).emitActions h' hg' hf
  refine ⟨hs'.addRule _, d.ruleRecord r, conditionRecord r.condition, ?_, ?_, ?_,
    conditionRecord_shows hcheck, ?_⟩
  · exact hr ▸ getElem?_of_isPrefix hgr
  · exact hc ▸ getElem?_of_isPrefix hgc
  · have hprefix := (GrowsInto.addCondition d (conditionRecord r.condition)).conditions.trans hgc
    exact (toNat_of_isPrefix hprefix hf.conditions).trans hc
  · have hspan := Spans.of_isPrefix hall (heq ▸ hg'.actions) hf.actions
    rw [List.length_zipIdx] at hspan
    exact hspan

/-- The rules are shown one after the other. -/
lemma emitRules {limits : Limits} {number : ℕ} {rs : List Rule} (hs : Sound s f d)
    (h : DataSet.emitRules s limits number rs d = .ok ((), e)) (hg : e.GrowsInto f)
    (hf : f.contents.Fits) (hcheck : ∀ r ∈ rs, r.condition.check = .ok ())
    (hc : d.contents.conditions.length = number) (hr : d.contents.rules.length = number) :
    Sound s f e
      ∧ ∀ i r, rs[i]? = some r → f.contents.ShowsRule s f.animations (number + i) r := by
  induction rs generalizing d number with
  | nil =>
      cases h
      exact ⟨hs, fun i r hi => by simp at hi⟩
  | cons r rest ih =>
      obtain ⟨d', h₁, h₂⟩ := emitRules_cons h
      obtain ⟨hs', hshow⟩ := hs.emitRule h₁ ((GrowsInto.emitRules h₂).trans hg) hf
        (hcheck r List.mem_cons_self) hc hr
      obtain ⟨hc', hr'⟩ := emitRule_frame h₁
      have hcheck' := fun r' hr' => hcheck r' (List.mem_cons_of_mem _ hr')
      obtain ⟨hse, hrest⟩ := ih hs' h₂ hcheck' (by simp [hc', hc]) (by simp [hr', hr])
      refine ⟨hse, ?_⟩
      intro i r' hi
      cases i with
      | zero =>
          rw [List.getElem?_cons_zero, Option.some_inj] at hi
          exact hi ▸ hshow
      | succ i =>
          rw [List.getElem?_cons_succ] at hi
          have hi' := hrest i r' hi
          rw [Nat.add_right_comm] at hi'
          exact hi'

end Draft.Sound

end DiceHost.DataSet
