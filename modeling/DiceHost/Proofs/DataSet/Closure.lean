/-
Data sets that are closed under their references.

* `View.Describes`, `View.InRange`: the header tells the length of the bytes, and every
  reference of a record lies in its section;
* `View.RuleLeads`, `View.ActionLeads`, `View.AnimationLeads`, `View.TrackLeads`: a record is
  there, with all that it leads to;
* `View.Complete`: the records below the counts are there, and every rule leads to the end;
* `Contents.parse_exact`: **the bytes that are parsed are those that are described by their
  header and have all references in range**; they are complete, and parsing looks at no place
  outside of them.
-/
import DiceHost.Proofs.DataSet.Access

namespace DiceHost.DataSet

/-! ### The check of the references -/

namespace Contents

variable {c : Contents}

/-- The references that are checked are those of the rules, the actions, the animations and the
tracks, each with the place of its record. -/
lemma mem_references {t : Section × ℕ × Reference} : t ∈ c.references ↔
    (∃ r i, c.rules[i]? = some r ∧ ∃ ref ∈ r.references, (.rule, i, ref) = t)
    ∨ (∃ r i, c.actions[i]? = some r ∧ ∃ ref ∈ r.references, (.action, i, ref) = t)
    ∨ (∃ r i, c.animations[i]? = some r ∧ ∃ ref ∈ r.references, (.animation, i, ref) = t)
    ∨ ∃ r i, c.tracks[i]? = some r ∧ ∃ ref ∈ r.references, (.track, i, ref) = t := by
  simp only [references, List.mem_append, List.mem_flatMap, List.mem_map, Prod.exists,
    List.mem_zipIdx_iff_getElem?, or_assoc]

/-- The check of the references passes for closed contents only. -/
lemma checkReferences_eq_ok_iff : c.checkReferences = .ok () ↔ c.Closed := by
  refine ⟨fun h => ?_, checkReferences_of_closed⟩
  have hreach : ∀ t ∈ c.references, t.2.2.reach ≤ c.count t.2.2.target := by
    rintro ⟨s, i, ref⟩ ht
    rw [checkReferences] at h
    split at h
    · next hfind => simpa [isDangling] using List.find?_eq_none.mp hfind _ ht
    · simp at h
  refine ⟨fun r hr ref href => ?_, fun r hr ref href => ?_, fun r hr ref href => ?_,
    fun r hr ref href => ?_⟩ <;> obtain ⟨i, hi⟩ := List.mem_iff_getElem?.mp hr
  · exact hreach (.rule, i, ref) (mem_references.mpr (.inl ⟨r, i, hi, ref, href, rfl⟩))
  · exact hreach (.action, i, ref) (mem_references.mpr (.inr (.inl ⟨r, i, hi, ref, href, rfl⟩)))
  · exact hreach (.animation, i, ref)
      (mem_references.mpr (.inr (.inr (.inl ⟨r, i, hi, ref, href, rfl⟩))))
  · exact hreach (.track, i, ref)
      (mem_references.mpr (.inr (.inr (.inr ⟨r, i, hi, ref, href, rfl⟩))))

lemma ruleReferences_iff {r : RuleRecord} :
    (∀ ref ∈ r.references, ref.reach ≤ c.count ref.target)
      ↔ r.condition.toNat < c.conditions.length
        ∧ r.actionOffset.toNat + r.actionCount.toNat ≤ c.actions.length := by
  simp [RuleRecord.references, Reference.one, Reference.span, count]

lemma actionReferences_iff {r : ActionRecord} :
    (∀ ref ∈ r.references, ref.reach ≤ c.count ref.target)
      ↔ (r.typeCode = 1 → r.index.toNat < c.animations.length) := by
  rw [ActionRecord.references]
  split_ifs with h <;> simp [h, Reference.one, count]

lemma animationReferences_iff {r : AnimationRecord} :
    (∀ ref ∈ r.references, ref.reach ≤ c.count ref.target)
      ↔ (r.typeCode = 3 ∨ r.typeCode = 4 →
          r.trackSpan.1.toNat + r.trackSpan.2.toNat ≤ c.tracks.length)
        ∧ ∀ t, r.gradientTrack? = some t → t.toNat < c.tracks.length := by
  rw [AnimationRecord.references, List.forall_mem_append]
  refine and_congr ?_ ?_
  · split_ifs with h <;> simp [h, Reference.span, count]
  · cases r.gradientTrack? <;> simp [Reference.one, count]

lemma trackReferences_iff {r : TrackRecord} :
    (∀ ref ∈ r.references, ref.reach ≤ c.count ref.target)
      ↔ r.keyframeOffset.toNat + r.keyframeCount.toNat ≤ c.keyframes.length := by
  simp [TrackRecord.references, Reference.span, count]

/-- Closed contents, with the bounds of all kinds of references written out. -/
lemma closed_iff : c.Closed ↔
    (∀ r ∈ c.rules, r.condition.toNat < c.conditions.length
      ∧ r.actionOffset.toNat + r.actionCount.toNat ≤ c.actions.length)
    ∧ (∀ r ∈ c.actions, r.typeCode = 1 → r.index.toNat < c.animations.length)
    ∧ (∀ r ∈ c.animations,
      (r.typeCode = 3 ∨ r.typeCode = 4 →
        r.trackSpan.1.toNat + r.trackSpan.2.toNat ≤ c.tracks.length)
      ∧ ∀ t, r.gradientTrack? = some t → t.toNat < c.tracks.length)
    ∧ ∀ r ∈ c.tracks, r.keyframeOffset.toNat + r.keyframeCount.toNat ≤ c.keyframes.length := by
  simp only [← ruleReferences_iff, ← actionReferences_iff, ← animationReferences_iff,
    ← trackReferences_iff]
  exact ⟨fun h => ⟨h.rules, h.actions, h.animations, h.tracks⟩,
    fun ⟨hr, ha, hn, ht⟩ => ⟨hr, ha, hn, ht⟩⟩

end Contents

namespace View

variable {v : View} {c : Contents}

/-! ### Lengths -/

/-- The bytes begin with the counts of the view, and are as many as these tell. -/
structure Describes (v : View) : Prop where
  long : 12 ≤ v.bytes.length
  conditions : word16At? v.bytes 0 = some v.header.conditions
  actions : word16At? v.bytes 2 = some v.header.actions
  rules : word16At? v.bytes 4 = some v.header.rules
  animations : word16At? v.bytes 6 = some v.header.animations
  tracks : word16At? v.bytes 8 = some v.header.tracks
  keyframes : word16At? v.bytes 10 = some v.header.keyframes
  length : v.bytes.length = 12 + 8 * v.header.conditions.toNat + 8 * v.header.actions.toNat
    + 8 * v.header.rules.toNat + 16 * v.header.animations.toNat + 8 * v.header.tracks.toNat
    + 6 * v.header.keyframes.toNat

lemma decode_header_of_short {bytes : List UInt8} (h : bytes.length < Codec.size Header) :
    (Codec.decode? bytes : Option Header) = none := by
  cases hdec : (Codec.decode? bytes : Option Header) with
  | none => rfl
  | some r =>
      simp only [Codec.decode?] at hdec
      split at hdec
      · simp only [List.length_cons, Codec.size] at h
        omega
      · exact absurd hdec (Option.some_ne_none r).symm

/-- Where the last section ends, as a sum over the counts. -/
lemma stop_eq (h : Header) : h.offsets.stop = 12 + 8 * h.conditions.toNat + 8 * h.actions.toNat
    + 8 * h.rules.toNat + 16 * h.animations.toNat + 8 * h.tracks.toNat
    + 6 * h.keyframes.toNat := by
  simp only [Header.offsets, Codec.size]
  omega

/-- A view describes its bytes when its header is read from them and ends where they do. -/
lemma describes_iff : v.Describes ↔ (Codec.decode? v.bytes : Option Header) = some v.header
    ∧ v.header.offsets.stop = v.bytes.length := by
  by_cases hlong : v.bytes.length < Codec.size Header
  · refine ⟨fun h => absurd h.long (Nat.not_le.mpr hlong), fun h => ?_⟩
    rw [decode_header_of_short hlong] at h
    exact absurd h.1 (Option.some_ne_none _).symm
  · rw [Nat.not_lt] at hlong
    obtain ⟨bytes, header⟩ := v
    obtain ⟨a, a', b, b', c, c', d, d', tail, rfl, htail⟩ := exists_eight (n := 4) hlong
    obtain ⟨e, e', f, f', rest, rfl, -⟩ := exists_four (n := 0) htail
    refine ⟨fun h => ⟨?_, (stop_eq _).trans h.length.symm⟩, ?_⟩
    · have h₀ := h.conditions
      have h₁ := h.actions
      have h₂ := h.rules
      have h₃ := h.animations
      have h₄ := h.tracks
      have h₅ := h.keyframes
      simp only [word16At?, List.getElem?_cons_zero, List.getElem?_cons_succ, Nat.reduceAdd,
        Option.bind_eq_bind, Option.bind_some, Option.pure_def, Option.some.injEq]
        at h₀ h₁ h₂ h₃ h₄ h₅
      simp only [Codec.decode?, h₀, h₁, h₂, h₃, h₄, h₅]
    · rintro ⟨hdec, hstop⟩
      obtain rfl := Option.some.inj hdec
      exact ⟨hlong, rfl, rfl, rfl, rfl, rfl, rfl, hstop.symm.trans (stop_eq _)⟩

/-! ### Ranges -/

/-- Every reference of a record lies in its section: an index below its count, a span up to it. -/
structure InRange (v : View) : Prop where
  conditions : ∀ i r, v.record? RuleRecord i = some r →
    r.condition.toNat < v.header.conditions.toNat
  actions : ∀ i r, v.record? RuleRecord i = some r →
    r.actionOffset.toNat + r.actionCount.toNat ≤ v.header.actions.toNat
  animations : ∀ i r, v.record? ActionRecord i = some r → r.typeCode = 1 →
    r.index.toNat < v.header.animations.toNat
  tracks : ∀ i r, v.record? AnimationRecord i = some r → r.typeCode = 3 ∨ r.typeCode = 4 →
    r.trackSpan.1.toNat + r.trackSpan.2.toNat ≤ v.header.tracks.toNat
  gradients : ∀ i r, v.record? AnimationRecord i = some r →
    r.typeCode = 4 ∨ r.typeCode = 5 ∨ r.typeCode = 6 →
    ∃ t, r.gradientTrack? = some t ∧ t.toNat < v.header.tracks.toNat
  keyframes : ∀ i r, v.record? TrackRecord i = some r →
    r.keyframeOffset.toNat + r.keyframeCount.toNat ≤ v.header.keyframes.toNat

/-- The animations of three types have a gradient. -/
lemma exists_gradientTrack {r : AnimationRecord}
    (h : r.typeCode = 4 ∨ r.typeCode = 5 ∨ r.typeCode = 6) : ∃ t, r.gradientTrack? = some t := by
  rw [AnimationRecord.gradientTrack?]
  split_ifs with h₁ h₂
  · exact ⟨_, rfl⟩
  · exact ⟨_, rfl⟩
  · tauto

/-- No other animations have a gradient. -/
lemma hasGradient_of_track {r : AnimationRecord} {t : UInt16} (h : r.gradientTrack? = some t) :
    r.typeCode = 4 ∨ r.typeCode = 5 ∨ r.typeCode = 6 := by
  rw [AnimationRecord.gradientTrack?] at h
  split_ifs at h with h₁ h₂
  · tauto
  · tauto

/-- The references of the records are in range just when the contents are closed. -/
lemma Shows.inRange_iff (h : v.Shows c) : v.InRange ↔ c.Closed := by
  have hconditions : c.conditions.length = v.header.conditions.toNat := h.conditions.length
  have hactions : c.actions.length = v.header.actions.toNat := h.actions.length
  have hanimations : c.animations.length = v.header.animations.toNat := h.animations.length
  have htracks : c.tracks.length = v.header.tracks.toNat := h.tracks.length
  have hkeyframes : c.keyframes.length = v.header.keyframes.toNat := h.keyframes.length
  rw [Contents.closed_iff, hconditions, hactions, hanimations, htracks, hkeyframes]
  constructor
  · intro hr
    refine ⟨fun r hmem => ?_, fun r hmem => ?_, fun r hmem => ?_, fun r hmem => ?_⟩
    · obtain ⟨i, hi⟩ := (h.rules.mem_iff r).mp hmem
      exact ⟨hr.conditions i r hi, hr.actions i r hi⟩
    · obtain ⟨i, hi⟩ := (h.actions.mem_iff r).mp hmem
      exact hr.animations i r hi
    · obtain ⟨i, hi⟩ := (h.animations.mem_iff r).mp hmem
      refine ⟨hr.tracks i r hi, fun t ht => ?_⟩
      obtain ⟨u, hu, hlt⟩ := hr.gradients i r hi (hasGradient_of_track ht)
      obtain rfl := Option.some.inj (ht.symm.trans hu)
      exact hlt
    · obtain ⟨i, hi⟩ := (h.tracks.mem_iff r).mp hmem
      exact hr.keyframes i r hi
  · rintro ⟨hrules, hacts, hanims, htrs⟩
    have hrule (i r) (hi : v.record? RuleRecord i = some r) :=
      hrules r ((h.rules.mem_iff r).mpr ⟨i, hi⟩)
    have hanim (i r) (hi : v.record? AnimationRecord i = some r) :=
      hanims r ((h.animations.mem_iff r).mpr ⟨i, hi⟩)
    refine ⟨fun i r hi => (hrule i r hi).1, fun i r hi => (hrule i r hi).2,
      fun i r hi => hacts r ((h.actions.mem_iff r).mpr ⟨i, hi⟩),
      fun i r hi => (hanim i r hi).1, fun i r hi hcode => ?_,
      fun i r hi => htrs r ((h.tracks.mem_iff r).mpr ⟨i, hi⟩)⟩
    obtain ⟨t, ht⟩ := exists_gradientTrack hcode
    exact ⟨t, ht, (hanim i r hi).2 t ht⟩

/-! ### Chains -/

/-- A track is there, with all its keyframes. -/
def TrackLeads (v : View) (i : ℕ) : Prop :=
  ∃ t, v.record? TrackRecord i = some t
    ∧ ∀ j < t.keyframeCount.toNat,
      ∃ k, v.record? KeyframeRecord (t.keyframeOffset.toNat + j) = some k

/-- An animation is there, with the tracks of its pattern and the track of its gradient. -/
def AnimationLeads (v : View) (i : ℕ) : Prop :=
  ∃ a, v.record? AnimationRecord i = some a
    ∧ (a.typeCode = 3 ∨ a.typeCode = 4 →
      ∀ j < a.trackSpan.2.toNat, v.TrackLeads (a.trackSpan.1.toNat + j))
    ∧ ∀ t, a.gradientTrack? = some t → v.TrackLeads t.toNat

/-- An action is there, with the animation that it plays. -/
def ActionLeads (v : View) (i : ℕ) : Prop :=
  ∃ a, v.record? ActionRecord i = some a ∧ (a.typeCode = 1 → v.AnimationLeads a.index.toNat)

/-- A rule is there, with its condition and all its actions. -/
def RuleLeads (v : View) (i : ℕ) : Prop :=
  ∃ r, v.record? RuleRecord i = some r
    ∧ (∃ d, v.record? ConditionRecord r.condition.toNat = some d)
    ∧ ∀ j < r.actionCount.toNat, v.ActionLeads (r.actionOffset.toNat + j)

/-- All records below the counts are there, and what they lead to is there as well. -/
structure Complete (v : View) : Prop where
  conditions : ∀ i < v.header.conditions.toNat, ∃ r, v.record? ConditionRecord i = some r
  keyframes : ∀ i < v.header.keyframes.toNat, ∃ r, v.record? KeyframeRecord i = some r
  tracks : ∀ i < v.header.tracks.toNat, v.TrackLeads i
  animations : ∀ i < v.header.animations.toNat, v.AnimationLeads i
  actions : ∀ i < v.header.actions.toNat, v.ActionLeads i
  rules : ∀ i < v.header.rules.toNat, v.RuleLeads i

/-- The records of a view with all references in range are complete: what a record leads to
lies in a section whose records are complete already. -/
lemma Shows.complete (h : v.Shows c) (hr : v.InRange) : v.Complete := by
  have hconditions (i : ℕ) (hi : i < v.header.conditions.toNat) := h.conditions.exists_record hi
  have hkeyframes (i : ℕ) (hi : i < v.header.keyframes.toNat) := h.keyframes.exists_record hi
  have htracks (i : ℕ) (hi : i < v.header.tracks.toNat) : v.TrackLeads i := by
    obtain ⟨t, ht⟩ := h.tracks.exists_record hi
    have hspan := hr.keyframes i t ht
    exact ⟨t, ht, fun j hj => hkeyframes _ (by omega)⟩
  have hanimations (i : ℕ) (hi : i < v.header.animations.toNat) : v.AnimationLeads i := by
    obtain ⟨a, ha⟩ := h.animations.exists_record hi
    refine ⟨a, ha, fun hcode j hj => ?_, fun t ht => ?_⟩
    · have hspan := hr.tracks i a ha hcode
      exact htracks _ (by omega)
    · obtain ⟨u, hu, hlt⟩ := hr.gradients i a ha (hasGradient_of_track ht)
      obtain rfl := Option.some.inj (ht.symm.trans hu)
      exact htracks _ hlt
  have hactions (i : ℕ) (hi : i < v.header.actions.toNat) : v.ActionLeads i := by
    obtain ⟨a, ha⟩ := h.actions.exists_record hi
    exact ⟨a, ha, fun hcode => hanimations _ (hr.animations i a ha hcode)⟩
  refine ⟨hconditions, hkeyframes, htracks, hanimations, hactions, fun i hi => ?_⟩
  obtain ⟨r, hri⟩ := h.rules.exists_record hi
  have hspan := hr.actions i r hri
  exact ⟨r, hri, hconditions _ (hr.conditions i r hri), fun j hj => hactions _ (by omega)⟩

/-! ### Parsing -/

/-- Bytes that are described are parsed by the check of the references alone. -/
lemma Describes.exists_parse (hd : v.Describes) :
    ∃ c, v.Shows c ∧ Contents.parse v.bytes = c.checkReferences.map fun _ => c := by
  obtain ⟨hdec, hstop⟩ := describes_iff.mp hd
  obtain ⟨c, hc, hshows⟩ := exists_shows hstop
  refine ⟨c, hshows, ?_⟩
  rw [Contents.parse, hdec]
  simp only [hstop, hc, ne_eq, not_true_eq_false, if_false]

/-- Bytes that are parsed are described by their counts. -/
lemma describes_of_parse {bytes : List UInt8} (h : Contents.parse bytes = .ok c) :
    ∃ v : View, v.bytes = bytes ∧ v.Describes := by
  rw [Contents.parse] at h
  split at h
  · simp at h
  · next header hdec =>
      split_ifs at h with hstop
      exact ⟨⟨bytes, header⟩, rfl, describes_iff.mpr ⟨hdec, not_not.mp hstop⟩⟩

/-- Bytes that are described are parsed just when all references are in range. -/
lemma Describes.parse_iff (hd : v.Describes) :
    (∃ c, Contents.parse v.bytes = .ok c) ↔ v.InRange := by
  obtain ⟨c, hshows, hparse⟩ := hd.exists_parse
  rw [hshows.inRange_iff, ← Contents.checkReferences_eq_ok_iff, hparse]
  constructor
  · rintro ⟨d, hd⟩
    cases hcheck : c.checkReferences with
    | error e =>
        simp [hcheck, Except.map] at hd
    | ok u => rfl
  · intro hcheck
    exact ⟨c, by rw [hcheck]; rfl⟩

/-- Checking by look-ups comes to the same as parsing, and no look-up misses its bytes. -/
lemma look?_eq (bytes : List UInt8) :
    look? bytes = some ((Contents.parse bytes).map fun c => ⟨bytes, c.header⟩) := by
  by_cases hlong : bytes.length < Codec.size Header
  · rw [look?, if_pos hlong, Contents.parse, decode_header_of_short hlong]
    rfl
  · obtain ⟨header, hat, hdec⟩ :=
      exists_recordAt? Header (show 0 + Codec.size Header ≤ bytes.length by omega)
    rw [look?, if_neg hlong, hat, Option.bind_eq_bind, Option.bind_some]
    rw [List.drop_zero] at hdec
    by_cases hstop : header.offsets.stop = bytes.length
    · obtain ⟨c, hshows, hparse⟩ :=
        Describes.exists_parse (v := ⟨bytes, header⟩) (describes_iff.mpr ⟨hdec, hstop⟩)
      have hheader : c.header = header := hshows.header_eq
      rw [if_neg (not_not.mpr hstop), hshows.contents?_eq, hparse, Option.bind_eq_bind,
        Option.bind_some]
      cases c.checkReferences with
      | error e => rfl
      | ok u => simp [Except.map, hheader]
    · rw [if_pos hstop, Contents.parse, hdec]
      simp [hstop, Except.map]

end View

/-- **Parsing is the check of a closed data set.** It comes to the same as a check that looks up
every word and record at its place, and none of these look-ups falls outside the bytes. It
succeeds just when the counts at the beginning describe the length and every reference is in
range. Then the records found at their places are those of the result, every record below its
count is there, and from a rule over its actions, their animations and the tracks of these to
the keyframes nothing is missing. -/
theorem Contents.parse_exact (bytes : List UInt8) :
    View.look? bytes = some ((parse bytes).map fun c => ⟨bytes, c.header⟩)
    ∧ ((∃ c, parse bytes = .ok c) ↔ ∃ v : View, v.bytes = bytes ∧ v.Describes ∧ v.InRange)
    ∧ ∀ c, parse bytes = .ok c →
        (⟨bytes, c.header⟩ : View).Shows c ∧ (⟨bytes, c.header⟩ : View).Complete := by
  refine ⟨View.look?_eq bytes, ⟨?_, ?_⟩, fun c hc => ?_⟩
  · rintro ⟨c, hc⟩
    obtain ⟨v, rfl, hd⟩ := View.describes_of_parse hc
    exact ⟨v, rfl, hd, hd.parse_iff.mp ⟨c, hc⟩⟩
  · rintro ⟨v, rfl, hd, hr⟩
    exact hd.parse_iff.mpr hr
  · obtain ⟨v, rfl, hd⟩ := View.describes_of_parse hc
    have hr := hd.parse_iff.mp ⟨c, hc⟩
    obtain ⟨d, hshows, hparse⟩ := hd.exists_parse
    have hdc : d = c := by
      rw [hparse] at hc
      cases hcheck : d.checkReferences with
      | error e => simp [hcheck, Except.map] at hc
      | ok u => simpa [hcheck, Except.map] using hc
    subst hdc
    rw [hshows.header_eq]
    exact ⟨hshows, hshows.complete hr⟩

/-- A rule with one action, which plays one animation of one track with one keyframe. -/
def Contents.loneRule : Contents where
  conditions := [⟨1, 0, 0, 0⟩]
  actions := [⟨1, 1, 0, 0⟩]
  rules := [⟨0, 0, 1⟩]
  animations := [⟨3, 0, 1000, 0, .keyframed 0 1⟩]
  tracks := [⟨0, 1, 1⟩]
  keyframes := [⟨0, ⟨255, 0, 0⟩⟩]

theorem Contents.parse_exact_loneRule :
    parse loneRule.encode = .ok loneRule
      ∧ (⟨loneRule.encode, loneRule.header⟩ : View).RuleLeads 0 :=
  ⟨by decide, ((parse_exact loneRule.encode).2.2 loneRule (by decide)).2.rules 0 (by decide)⟩

end DiceHost.DataSet
