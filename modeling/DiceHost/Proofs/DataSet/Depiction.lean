/-
What the records of a data set say.

* `Spans`: the records of a span stand, in their order, for the members of a list;
* `Contents.ShowsTrack`, `Contents.ShowsPattern`, `Contents.ShowsGradient`: a track holds the
  keyframes of a track of a pattern or of a gradient, a span of tracks a whole pattern;
* `Contents.ShowsAnimation`: the record of an animation, with all that its payload points at;
* `ConditionRecord.Shows`, `Contents.ShowsAction`, `Contents.ShowsRule`: the records of a
  rule, of its condition and of its actions;
* `Compiled.Depicts`: **the records of a data set say what the profile says**, rule by rule.

Everything is read off the records by following their indices, as a die does.
-/
import DiceHost.DataSet.Compile
import DiceHost.Proofs.DataSet.RoundTrip

namespace DiceHost.DataSet

/-! ### Spans -/

/-- The records of a span stand, in their order, for the members of a list, one for each,
and the span lies within its section. -/
structure Spans {α β : Type} (R : β → α → Prop) (ys : List β) (xs : List α)
    (offset count : ℕ) : Prop where
  within : offset + count ≤ xs.length
  each : List.Forall₂ R ys ((xs.drop offset).take count)

namespace Spans

variable {α β : Type} {R : β → α → Prop} {ys : List β} {xs : List α} {offset count : ℕ}

/-- The records between two other parts of a section are a span of it. -/
lemma of_append {pre mid post : List α} (h : List.Forall₂ R ys mid) :
    Spans R ys (pre ++ mid ++ post) pre.length mid.length where
  within := by simp
  each := by
    rw [List.append_assoc, List.drop_left, List.take_left]
    exact h

/-- The record at a place of a span stands for the member at that place of the list. -/
lemma get (h : Spans R ys xs offset count) {j : ℕ} {y : β} (hy : ys[j]? = some y) :
    ∃ x, xs[offset + j]? = some x ∧ R y x := by
  obtain ⟨hj, rfl⟩ := List.getElem?_eq_some_iff.mp hy
  have hlen := h.each.length_eq
  have hj' : j < ((xs.drop offset).take count).length := hlen ▸ hj
  refine ⟨((xs.drop offset).take count)[j], ?_, List.forall₂_iff_get.mp h.each |>.2 j hj hj'⟩
  rw [List.getElem_take, List.getElem_drop, List.getElem?_eq_getElem]

end Spans

/-! ### Tracks -/

namespace Contents

/-- A track holds some keyframes, with times in parts of 65535 and colours scaled by the
brightness, for the LEDs of a mask. -/
structure ShowsTrack (s : Source) (c : Contents) (ks : List Keyframe) (ledMask : UInt32)
    (t : TrackRecord) : Prop where
  ledMask : t.ledMask = ledMask
  keyframes : Spans (fun (k : Keyframe) (r : KeyframeRecord) =>
      r.time = quantizeTime k.time ∧ r.color = k.color.scaled s.brightness)
    ks c.keyframes t.keyframeOffset.toNat t.keyframeCount.toNat

/-- A span of tracks holds the tracks of a pattern. -/
def ShowsPattern (s : Source) (c : Contents) (p : Pattern) (offset count : UInt16) : Prop :=
  Spans (fun (t : PatternTrack) r => c.ShowsTrack s t.keyframes t.ledMask r) p.tracks c.tracks
    offset.toNat count.toNat

/-- The track of a number holds the gradient of an animation, for all the faces that the
animation asks for. -/
def ShowsGradient (s : Source) (c : Contents) (g : Gradient) (faceMask : UInt32)
    (track : UInt16) : Prop :=
  ∃ t, c.tracks[track.toNat]? = some t ∧ c.ShowsTrack s g.keyframes faceMask t

/-! ### Animations -/

/-- The flags and the payload of a record say what a kind of animation says, and the tracks
they point at hold its pattern and its gradient. -/
def ShowsKind (s : Source) (c : Contents) (faceMask : UInt32) (r : AnimationRecord) :
    AnimationKind → Prop
  | .simple color count fade =>
    r.flags = 0 ∧ r.payload = .simple (color.scaled s.brightness) count (unitByte fade)
  | .rainbow count fade intensity cycles traveling =>
    r.flags = (if traveling then 1 else 0)
      ∧ r.payload
        = .rainbow count (unitByte fade) (unitByte intensity) (cyclesByte cycles)
  | .keyframed pattern traveling useLedIndices =>
    r.flags = (if traveling then 1 else 0) ||| (if useLedIndices then 2 else 0)
      ∧ ∃ p, s.pattern? pattern = some p
        ∧ c.ShowsPattern s p r.trackSpan.1 r.trackSpan.2
        ∧ r.payload = .keyframed r.trackSpan.1 r.trackSpan.2
  | .gradientPattern pattern g override =>
    r.flags = 0
      ∧ ∃ p track, s.pattern? pattern = some p ∧ r.gradientTrack? = some track
        ∧ c.ShowsPattern s p r.trackSpan.1 r.trackSpan.2
        ∧ c.ShowsGradient s g faceMask track
        ∧ r.payload = .gradientPattern r.trackSpan.1 r.trackSpan.2 track override
  | .gradient g =>
    r.flags = 0
      ∧ ∃ track, r.gradientTrack? = some track ∧ c.ShowsGradient s g faceMask track
        ∧ r.payload = .gradient track
  | .cycle g count fade intensity cycles =>
    r.flags = 0
      ∧ ∃ track, r.gradientTrack? = some track ∧ c.ShowsGradient s g faceMask track
        ∧ r.payload = .cycle count (unitByte fade) (unitByte intensity) (cyclesByte cycles) track
  | .noise => False

/-- The record of an animation: the number of its kind, its duration in full, its faces,
all faces standing for those of the die, and what its kind says. -/
structure ShowsAnimation (s : Source) (c : Contents) (a : Animation) (r : AnimationRecord) :
    Prop where
  typeCode : a.kind.typeCode? = some r.typeCode
  duration : r.duration.toNat = a.duration.toNat
  faceMask : r.faceMask = if a.faceMask = Die.allFaces ∧ s.dieKind.allFaces ≠ 0
    then s.dieKind.allFaces else a.faceMask
  kind : c.ShowsKind s a.faceMask r a.kind

end Contents

/-! ### Rules -/

/-- The record of a condition: its number, its flags, its face and its parameter in full. -/
def ConditionRecord.Shows (r : ConditionRecord) (cond : Condition) : Prop :=
  r.typeCode = cond.typeCode ∧
    match cond with
    | .rolled mask => r.flags = 0 ∧ r.face = 0 ∧ r.param = mask
    | .crooked | .handling => r.flags = 0 ∧ r.face = 0 ∧ r.param = 0
    | .rolling ms | .idle ms => r.flags = 0 ∧ r.face = 0 ∧ r.param = ms
    | .batteryState flags ms => r.flags = flags.bits ∧ r.face = 0 ∧ r.param = ms
    | .connectionState flags => r.flags = flags.bits ∧ r.face = 0 ∧ r.param = 0
    | .helloGoodbye flags => r.flags = flags.bits ∧ r.face = 0 ∧ r.param = 0
    | .faceCompare face flags =>
      r.flags = flags.bits ∧ r.face.toNat = face.toNat ∧ r.param = 0

namespace Contents

/-- The record of an action at a place of a rule. The playing of an animation keeps its faces
and its repetitions and points at the record of that animation; the number of any other
action tells its rule and its place. -/
def ShowsAction (s : Source) (c : Contents) (order : List Uuid) (rule place : ℕ)
    (a : Action) (r : ActionRecord) : Prop :=
  r.typeCode = a.typeCode ∧
    match a with
    | .playAnimation u faceMask loopCount =>
      r.loopCount = loopCount ∧ r.faceMask = faceMask
        ∧ ∃ animation record, s.animation? u = some animation
          ∧ order[r.index.toNat]? = some u ∧ c.animations[r.index.toNat]? = some record
          ∧ c.ShowsAnimation s animation record
    | .playAudioClip _ _ loopCount =>
      r.loopCount = loopCount ∧ r.faceMask = 0 ∧ r.index = remoteActionId rule place
    | .makeWebRequest .. | .speakText .. =>
      r.loopCount = 1 ∧ r.faceMask = 0 ∧ r.index = remoteActionId rule place

/-- The records of the rule of a number: its condition has the same number, and its span
holds its actions, each at its place. -/
def ShowsRule (s : Source) (c : Contents) (order : List Uuid) (number : ℕ) (rule : Rule) :
    Prop :=
  ∃ r cond, c.rules[number]? = some r ∧ c.conditions[number]? = some cond
    ∧ r.condition.toNat = number ∧ cond.Shows rule.condition
    ∧ Spans (fun (a : Action × ℕ) record => c.ShowsAction s order number a.2 a.1 record)
      rule.actions.zipIdx c.actions r.actionOffset.toNat r.actionCount.toNat

end Contents

/-- **The records of a data set say what a profile says**, the entities of the profile being
those of a library: there is a rule and a condition for each rule of the profile, at the same
place, and each says what the rule says. -/
structure Compiled.Depicts (c : Compiled) (p : Profile) (l : Library) : Prop where
  rules : c.contents.rules.length = p.rules.length
  conditions : c.contents.conditions.length = p.rules.length
  rule : ∀ i rule, p.rules[i]? = some rule →
    c.contents.ShowsRule (.ofProfile p l) c.animations i rule

end DiceHost.DataSet
