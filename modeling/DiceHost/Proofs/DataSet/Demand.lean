/-
What a profile asks of the tables of a die.

* `Source.Showable`, `Source.Playable`: a pattern or an animation that a data set can hold;
* `played`, `Source.tracks`: the animations that some rules play, each once, and the tracks
  that these need, each pattern counted once however many animations show it;
* `Sizes`: the number of records in each section; `demand`: the sizes that a profile asks for;
* `Draft.Holds`: the tracks that a draft holds, in the order in which they were written;
* `emitRules_ok`: **rules with few enough actions that play only what can be played are
  emitted**.
-/
import DiceHost.Proofs.DataSet.Faithful

namespace DiceHost

/-- The track that an animation has of its own: the one of its gradient. -/
def Animation.ownTrack? (a : Animation) : Option PatternTrack :=
  a.kind.gradient?.map fun g => ⟨a.faceMask, g.keyframes⟩

namespace DataSet

/-! ### What is pulled in -/

namespace Source

/-- A pattern that is there and passes its check. -/
def Showable (s : Source) (v : Uuid) : Prop :=
  ∃ q, s.pattern? v = some q ∧ q.check = .ok ()

/-- An animation that is there, passes its check, is of a kind that dice can play, and whose
pattern, if it has one, can be shown. -/
def Playable (s : Source) (u : Uuid) : Prop :=
  ∃ a, s.animation? u = some a ∧ a.check = .ok () ∧ a.kind ≠ .noise
    ∧ ∀ v, a.pattern? = some v → s.Showable v

/-- The tracks of a pattern, none when the pattern is not there. -/
def patternTracks (s : Source) (v : Uuid) : List PatternTrack :=
  (s.pattern? v).elim [] Pattern.tracks

/-- The pattern that the animation of an identifier shows. -/
def shown? (s : Source) (u : Uuid) : Option Uuid :=
  (s.animation? u).bind Animation.pattern?

/-- The track that the animation of an identifier has of its own. -/
def ownTrack? (s : Source) (u : Uuid) : Option PatternTrack :=
  (s.animation? u).bind Animation.ownTrack?

/-- The tracks that some animations need: those of every pattern that one of them shows, and
one for each gradient. -/
def tracks (s : Source) (us : List Uuid) : List PatternTrack :=
  (us.filterMap s.shown?).dedup.flatMap s.patternTracks ++ us.filterMap s.ownTrack?

/-- The tracks that playable animations need have at most 255 keyframes each. -/
lemma length_of_mem_tracks {s : Source} {us : List Uuid} (h : ∀ u ∈ us, s.Playable u) :
    ∀ t ∈ s.tracks us, t.keyframes.length < 2 ^ 8 := by
  intro t ht
  rcases List.mem_append.mp ht with ht | ht
  · obtain ⟨v, hv, ht⟩ := List.mem_flatMap.mp ht
    obtain ⟨u, hu, hshown⟩ := List.mem_filterMap.mp (List.mem_dedup.mp hv)
    obtain ⟨a, ha, -, -, hpattern⟩ := h u hu
    rw [shown?, ha, Option.bind_some] at hshown
    obtain ⟨q, hq, hcheck⟩ := hpattern v hshown
    rw [patternTracks, hq, Option.elim_some] at ht
    exact Pattern.length_of_check hcheck t ht
  · obtain ⟨u, hu, hown⟩ := List.mem_filterMap.mp ht
    obtain ⟨a, ha, hcheck, -, -⟩ := h u hu
    rw [ownTrack?, ha, Option.bind_some, Animation.ownTrack?, Option.map_eq_some_iff] at hown
    obtain ⟨g, hg, rfl⟩ := hown
    exact AnimationKind.length_of_check (Animation.kind_of_check hcheck) g hg

end Source

/-- The animations that some rules play, each once. -/
def played (rs : List Rule) : List Uuid :=
  (rs.flatMap fun r => r.actions.filterMap Action.animation?).dedup

lemma mem_played {rs : List Rule} {u : Uuid} :
    u ∈ played rs ↔ ∃ r ∈ rs, ∃ a ∈ r.actions, a.animation? = some u := by
  simp only [played, List.mem_dedup, List.mem_flatMap, List.mem_filterMap]

/-- The number of records in each section of a data set. -/
structure Sizes where
  conditions : ℕ
  actions : ℕ
  rules : ℕ
  animations : ℕ
  tracks : ℕ
  keyframes : ℕ
deriving DecidableEq

/-- The counts of a header as numbers. -/
def Header.sizes (h : Header) : Sizes :=
  ⟨h.conditions.toNat, h.actions.toNat, h.rules.toNat, h.animations.toNat, h.tracks.toNat,
    h.keyframes.toNat⟩

/-- The lengths of the sections. -/
def Contents.sizes (c : Contents) : Sizes :=
  ⟨c.conditions.length, c.actions.length, c.rules.length, c.animations.length,
    c.tracks.length, c.keyframes.length⟩

/-- What a profile asks for: a condition for each rule, all its actions, and what the
animations that it plays need. -/
def demand (p : Profile) (l : Library) : Sizes :=
  let us := played p.rules
  let ts := (Source.ofProfile p l).tracks us
  ⟨p.rules.length, (p.rules.map (·.actions.length)).sum, p.rules.length, us.length, ts.length,
    (ts.map (·.keyframes.length)).sum⟩

/-! ### The tracks of a draft -/

namespace Draft

variable {s : Source} {d : Draft} {ts : List PatternTrack}

lemma addTracks_append (s : Source) (d : Draft) (ts ts' : List PatternTrack) :
    d.addTracks s (ts ++ ts') = (d.addTracks s ts).addTracks s ts' := by
  induction ts generalizing d with
  | nil => rfl
  | cons t ts ih => exact ih _

lemma length_addTracks (s : Source) (d : Draft) (ts : List PatternTrack) :
    (d.addTracks s ts).contents.tracks.length = d.contents.tracks.length + ts.length
      ∧ (d.addTracks s ts).contents.keyframes.length
        = d.contents.keyframes.length + (ts.map (·.keyframes.length)).sum := by
  induction ts generalizing d with
  | nil => exact ⟨rfl, rfl⟩
  | cons t ts ih =>
      obtain ⟨htracks, hkeyframes⟩ := ih (d.addTrack s t.keyframes t.ledMask)
      rw [addTracks, htracks, hkeyframes]
      simp only [addTrack, List.length_append, List.length_map, List.length_cons,
        List.length_nil, List.map_cons, List.sum_cons]
      omega

/-- The identifiers of the patterns emitted so far. -/
def shown (d : Draft) : List Uuid :=
  d.patterns.map (·.1)

/-- Tracks leave the lists of animations and patterns as they are. -/
lemma addTracks_frame (s : Source) (d : Draft) (ts : List PatternTrack) :
    (d.addTracks s ts).animations = d.animations
      ∧ (d.addTracks s ts).contents.animations = d.contents.animations
      ∧ (d.addTracks s ts).shown = d.shown := by
  induction ts generalizing d with
  | nil => exact ⟨rfl, rfl, rfl⟩
  | cons t ts ih => exact ih (d.addTrack s t.keyframes t.ledMask)

/-- A draft holds some tracks: its tracks and keyframes are what these, written one after the
other, make of an empty draft. -/
structure Holds (s : Source) (d : Draft) (ts : List PatternTrack) : Prop where
  tracks : d.contents.tracks = (addTracks s {} ts).contents.tracks
  keyframes : d.contents.keyframes = (addTracks s {} ts).contents.keyframes

namespace Holds

lemma addTrack (h : d.Holds s ts) (t : PatternTrack) :
    (d.addTrack s t.keyframes t.ledMask).Holds s (ts ++ [t]) := by
  constructor
  · rw [addTracks_append, addTracks, addTracks]
    simp only [Draft.addTrack]
    rw [h.tracks, h.keyframes]
  · rw [addTracks_append, addTracks, addTracks]
    simp only [Draft.addTrack]
    rw [h.keyframes]

lemma addTracks (h : d.Holds s ts) (ts' : List PatternTrack) :
    (d.addTracks s ts').Holds s (ts ++ ts') := by
  induction ts' generalizing d ts with
  | nil => exact (List.append_nil ts).symm ▸ h
  | cons t ts' ih =>
      have hall := ih (h.addTrack t)
      rw [List.append_assoc, List.singleton_append] at hall
      exact hall

lemma length_eq (h : d.Holds s ts) :
    d.contents.tracks.length = ts.length
      ∧ d.contents.keyframes.length = (ts.map (·.keyframes.length)).sum := by
  obtain ⟨htracks, hkeyframes⟩ := length_addTracks s {} ts
  rw [h.tracks, h.keyframes, htracks, hkeyframes]
  exact ⟨Nat.zero_add _, Nat.zero_add _⟩

/-- Where no index has lost a bit, the records of the tracks show them, one for each. -/
lemma shows (h : d.Holds s ts) (hd : d.contents.Fits)
    (hk : ∀ t ∈ ts, t.keyframes.length < 2 ^ 8) :
    List.Forall₂ (fun (t : PatternTrack) r => d.contents.ShowsTrack s t.keyframes t.ledMask r)
      ts d.contents.tracks := by
  have hsame := Supplies.addTracks s {} ts
  have hgrow : (Draft.addTracks s {} ts).GrowsInto d := {
    conditions := hsame.conditions_eq ▸ List.nil_prefix
    actions := hsame.actions_eq ▸ List.nil_prefix
    rules := hsame.rules_eq ▸ List.nil_prefix
    animations := (addTracks_frame s {} ts).2.1 ▸ List.nil_prefix
    tracks := h.tracks ▸ List.prefix_rfl
    keyframes := h.keyframes ▸ List.prefix_rfl
    order := (addTracks_frame s {} ts).1 ▸ List.nil_prefix }
  obtain ⟨-, new, heq, hall⟩ := (Sound.empty s d).addTracks hd hk hgrow
  rw [h.tracks, heq]
  exact hall

end Holds

end Draft

/-! ### How payloads and patterns are emitted -/

variable {s : Source} {d e : Draft}

/-- A pattern that has a span is emitted no more. -/
lemma emitPattern_of_mem {v : Uuid} (h : v ∈ d.shown) :
    ∃ span, (v, span) ∈ d.patterns ∧ emitPattern s v d = .ok (span, d) := by
  obtain ⟨entry, hentry, hv⟩ := List.mem_map.mp h
  have hsome : (d.patterns.find? (·.1 = v)).isSome :=
    List.find?_isSome.mpr ⟨entry, hentry, decide_eq_true hv⟩
  obtain ⟨⟨v', span⟩, hfind⟩ := Option.isSome_iff_exists.mp hsome
  obtain rfl : v' = v := by simpa using List.find?_some hfind
  refine ⟨span, List.mem_of_find?_eq_some hfind, ?_⟩
  rw [emitPattern, Emit.bind_eq_ok]
  refine ⟨d, d, rfl, ?_⟩
  rw [hfind]
  rfl

/-- A pattern that can be shown is emitted. -/
lemma emitPattern_ok {v : Uuid} (h : s.Showable v) :
    ∃ span e, emitPattern s v d = .ok (span, e) := by
  by_cases hmem : v ∈ d.shown
  · obtain ⟨span, -, hspan⟩ := emitPattern_of_mem (s := s) hmem
    exact ⟨span, d, hspan⟩
  · obtain ⟨q, hq, hcheck⟩ := h
    have hnone : d.patterns.find? (·.1 = v) = none := by
      rw [List.find?_eq_none]
      intro entry hentry hv
      exact hmem (List.mem_map.mpr ⟨entry, hentry, of_decide_eq_true hv⟩)
    let span : Span :=
      ⟨UInt16.ofNat d.contents.tracks.length, UInt16.ofNat q.tracks.length⟩
    refine ⟨span, (d.addTracks s q.tracks).addPattern v span, ?_⟩
    rw [emitPattern, Emit.bind_eq_ok]
    refine ⟨d, d, rfl, ?_⟩
    simp only [hnone, hq, hcheck]
    rw [Emit.bind_eq_ok]
    exact ⟨(), _, emitTracks_eq s q.tracks d, rfl⟩

/-- What a payload adds: its pattern, if it has one, and then the track of its own. -/
lemma emitPayload_cases {a : Animation} {r : UInt8 × Payload}
    (h : emitPayload s a d = .ok (r, e)) :
    a.kind ≠ .noise ∧ ∃ d', ((a.pattern? = none ∧ d' = d)
        ∨ ∃ v span, a.pattern? = some v ∧ emitPattern s v d = .ok (span, d'))
      ∧ e = d'.addTracks s a.ownTrack?.toList := by
  obtain ⟨u, name, duration, faceMask, kind⟩ := a
  cases kind with
  | simple color count fade =>
      cases h
      exact ⟨by simp, d, .inl ⟨rfl, rfl⟩, rfl⟩
  | rainbow count fade intensity cycles traveling =>
      cases h
      exact ⟨by simp, d, .inl ⟨rfl, rfl⟩, rfl⟩
  | keyframed pattern traveling useLedIndices =>
      obtain ⟨span, d₁, h₁, h⟩ := Emit.bind_eq_ok.mp h
      cases h
      exact ⟨by simp, e, .inr ⟨pattern, span, rfl, h₁⟩, rfl⟩
  | gradientPattern pattern g override =>
      obtain ⟨span, d₁, h₁, h⟩ := Emit.bind_eq_ok.mp h
      cases h
      exact ⟨by simp, d₁, .inr ⟨pattern, span, rfl, h₁⟩, rfl⟩
  | gradient g =>
      cases h
      exact ⟨by simp, d, .inl ⟨rfl, rfl⟩, rfl⟩
  | cycle g count fade intensity cycles =>
      cases h
      exact ⟨by simp, d, .inl ⟨rfl, rfl⟩, rfl⟩
  | noise => cases h

/-- A payload that dice can play is emitted when its pattern is. -/
lemma emitPayload_ok {a : Animation} (hkind : a.kind ≠ .noise)
    (hpattern : ∀ v, a.pattern? = some v → s.Showable v) :
    ∃ r e, emitPayload s a d = .ok (r, e) := by
  obtain ⟨u, name, duration, faceMask, kind⟩ := a
  cases kind with
  | simple | rainbow | gradient | cycle => exact ⟨_, _, rfl⟩
  | keyframed pattern traveling useLedIndices =>
      obtain ⟨span, e, he⟩ := emitPattern_ok (d := d) (hpattern pattern rfl)
      exact ⟨_, _, Emit.bind_eq_ok.mpr ⟨span, e, he, rfl⟩⟩
  | gradientPattern pattern g override =>
      obtain ⟨span, e, he⟩ := emitPattern_ok (d := d) (hpattern pattern rfl)
      exact ⟨_, _, Emit.bind_eq_ok.mpr ⟨span, e, he, rfl⟩⟩
  | noise => exact absurd rfl hkind

/-- An animation that has a record is emitted no more. -/
lemma emitAnimation_of_mem {u : Uuid} (h : u ∈ d.animations) :
    ∃ i, emitAnimation s u d = .ok (i, d) := by
  have hsome : (d.animations.findIdx? (· = u)).isSome := by
    rw [List.findIdx?_isSome, List.any_eq_true]
    exact ⟨u, h, decide_eq_true rfl⟩
  obtain ⟨n, hn⟩ := Option.isSome_iff_exists.mp hsome
  refine ⟨UInt16.ofNat n, ?_⟩
  rw [emitAnimation, Emit.bind_eq_ok]
  refine ⟨d, d, rfl, ?_⟩
  rw [hn]
  rfl

/-- An animation that can be played is emitted. -/
lemma emitAnimation_ok {u : Uuid} (h : s.Playable u) :
    ∃ i e, emitAnimation s u d = .ok (i, e) := by
  by_cases hmem : u ∈ d.animations
  · obtain ⟨i, hi⟩ := emitAnimation_of_mem (s := s) hmem
    exact ⟨i, d, hi⟩
  · obtain ⟨a, ha, hcheck, hkind, hpattern⟩ := h
    have hnone : d.animations.findIdx? (· = u) = none := by
      rw [List.findIdx?_eq_none_iff]
      intro v hv
      exact decide_eq_false fun heq => hmem (heq ▸ hv)
    obtain ⟨⟨flags, payload⟩, d', hd'⟩ := emitPayload_ok (d := d) hkind hpattern
    have hcode : ∃ code, a.kind.typeCode? = some code := by
      cases hk : a.kind with
      | noise => exact absurd hk hkind
      | simple | rainbow | keyframed | gradientPattern | gradient | cycle => exact ⟨_, rfl⟩
    obtain ⟨code, hcode⟩ := hcode
    let r : AnimationRecord :=
      ⟨code, flags, a.duration.toUInt16, s.narrow a.faceMask, payload⟩
    have hr : emitRecord s a d = .ok (r, d') := by
      rw [emitRecord, Emit.bind_eq_ok]
      refine ⟨_, d', hd', ?_⟩
      simp only [hcode]
      rfl
    refine ⟨UInt16.ofNat d'.contents.animations.length, d'.addAnimation u r, ?_⟩
    rw [emitAnimation, Emit.bind_eq_ok]
    refine ⟨d, d, rfl, ?_⟩
    simp only [hnone, ha, hcheck]
    rw [Emit.bind_eq_ok]
    exact ⟨r, d', hr, rfl⟩

/-- An action is emitted when the animation that it plays, if any, can be played. -/
lemma emitAction_ok (rule place : ℕ) {a : Action}
    (h : ∀ u, a.animation? = some u → s.Playable u) :
    ∃ r e, emitAction s rule place a d = .ok (r, e) := by
  cases a with
  | playAnimation u faceMask loopCount =>
      obtain ⟨i, e, he⟩ := emitAnimation_ok (d := d) (h u rfl)
      exact ⟨_, e, Emit.bind_eq_ok.mpr ⟨i, e, he, rfl⟩⟩
  | playAudioClip | makeWebRequest | speakText => exact ⟨_, _, rfl⟩

lemma emitActions_ok (rule place : ℕ) {as : List Action}
    (h : ∀ a ∈ as, ∀ u, a.animation? = some u → s.Playable u) :
    ∃ e, emitActions s rule place as d = .ok ((), e) := by
  induction as generalizing d place with
  | nil => exact ⟨d, rfl⟩
  | cons a rest ih =>
      obtain ⟨r, d', hd'⟩ := emitAction_ok (d := d) rule place (h a List.mem_cons_self)
      obtain ⟨e, he⟩ := ih (d := d'.addAction r) (place + 1)
        fun a' ha' => h a' (List.mem_cons_of_mem a ha')
      refine ⟨e, ?_⟩
      rw [emitActions, Emit.bind_eq_ok]
      exact ⟨r, d', hd', Emit.bind_eq_ok.mpr ⟨(), d'.addAction r, rfl, he⟩⟩

/-- A rule is emitted when it has few enough actions and all that it plays can be played. -/
lemma emitRule_ok {limits : Limits} (number : ℕ) {r : Rule}
    (hlength : r.actions.length ≤ min limits.actionsPerRule 256)
    (h : ∀ a ∈ r.actions, ∀ u, a.animation? = some u → s.Playable u) :
    ∃ e, emitRule s limits number r d = .ok ((), e) := by
  have hcapacity : checkCapacity .actionsPerRule r.actions.length
      (min limits.actionsPerRule 256) = .ok () := by
    rw [checkCapacity, if_neg (by omega)]
  obtain ⟨d', hd'⟩ := emitActions_ok (d := d.addCondition (conditionRecord r.condition)) number 0 h
  refine ⟨d'.addRule (d.ruleRecord r), ?_⟩
  rw [emitRule, Emit.bind_eq_ok]
  refine ⟨(), d, by rw [hcapacity]; rfl, ?_⟩
  rw [Emit.bind_eq_ok]
  refine ⟨d, d, rfl, ?_⟩
  rw [Emit.bind_eq_ok]
  refine ⟨(), d.addCondition (conditionRecord r.condition), rfl, ?_⟩
  rw [Emit.bind_eq_ok]
  exact ⟨(), d', hd', rfl⟩

/-- Rules with few enough actions that play only what can be played are emitted. -/
lemma emitRules_ok {limits : Limits} (number : ℕ) {rs : List Rule}
    (hlength : ∀ r ∈ rs, r.actions.length ≤ min limits.actionsPerRule 256)
    (h : ∀ u ∈ played rs, s.Playable u) :
    ∃ e, emitRules s limits number rs d = .ok ((), e) := by
  induction rs generalizing d number with
  | nil => exact ⟨d, rfl⟩
  | cons r rest ih =>
      have hfirst : ∀ a ∈ r.actions, ∀ u, a.animation? = some u → s.Playable u :=
        fun a ha u hu => h u (mem_played.mpr ⟨r, List.mem_cons_self, a, ha, hu⟩)
      have hrest : ∀ u ∈ played rest, s.Playable u := by
        intro u hu
        obtain ⟨r', hr', a, ha, hu⟩ := mem_played.mp hu
        exact h u (mem_played.mpr ⟨r', List.mem_cons_of_mem r hr', a, ha, hu⟩)
      obtain ⟨d', hd'⟩ := emitRule_ok (d := d) number (hlength r List.mem_cons_self) hfirst
      obtain ⟨e, he⟩ := ih (d := d') (number + 1)
        (fun r' hr' => hlength r' (List.mem_cons_of_mem r hr')) hrest
      refine ⟨e, ?_⟩
      rw [emitRules, Emit.bind_eq_ok]
      exact ⟨(), d', hd', he⟩

end DataSet

end DiceHost
