/-
Data sets as records, their bytes, and the reading of bytes.

* `Contents`: the records of all sections;
* `Contents.encode`: the header and the sections one after the other;
* `Contents.parse`: the records of a byte string, or why it is not a data set. A data
  set has the length that its header tells, and every reference lies in its section.
-/
import DiceHost.DataSet.Layout

namespace DiceHost.DataSet

/-! ### Sections -/

/-- The bytes of some records. -/
def encodeAll {ρ : Type} [Codec ρ] (rs : List ρ) : List UInt8 :=
  rs.flatMap Codec.encode

/-- A number of records, and the bytes after them. -/
def decodeSection (ρ : Type) [Codec ρ] : Nat → List UInt8 → Option (List ρ × List UInt8)
  | 0, bytes => some ([], bytes)
  | n + 1, bytes => do
    let r ← Codec.decode? bytes
    let (rs, rest) ← decodeSection ρ n (bytes.drop (Codec.size ρ))
    return (r :: rs, rest)

/-- Where the sections begin for the counts of a header. -/
def Header.offsets (h : Header) : Offsets :=
  let conditions := Codec.size Header
  let actions := conditions + h.conditions.toNat * Codec.size ConditionRecord
  let rules := actions + h.actions.toNat * Codec.size ActionRecord
  let animations := rules + h.rules.toNat * Codec.size RuleRecord
  let tracks := animations + h.animations.toNat * Codec.size AnimationRecord
  let keyframes := tracks + h.tracks.toNat * Codec.size TrackRecord
  let stop := keyframes + h.keyframes.toNat * Codec.size KeyframeRecord
  { conditions, actions, rules, animations, tracks, keyframes, stop }

/-- The records of all sections. -/
structure Contents where
  conditions : List ConditionRecord := []
  actions : List ActionRecord := []
  rules : List RuleRecord := []
  animations : List AnimationRecord := []
  tracks : List TrackRecord := []
  keyframes : List KeyframeRecord := []
deriving DecidableEq, Repr

namespace Contents

/-- The counts of the sections, as words. -/
def header (c : Contents) : Header where
  conditions := UInt16.ofNat c.conditions.length
  actions := UInt16.ofNat c.actions.length
  rules := UInt16.ofNat c.rules.length
  animations := UInt16.ofNat c.animations.length
  tracks := UInt16.ofNat c.tracks.length
  keyframes := UInt16.ofNat c.keyframes.length

/-- The header and the sections. -/
def encode (c : Contents) : List UInt8 :=
  Codec.encode c.header ++ encodeAll c.conditions ++ encodeAll c.actions
    ++ encodeAll c.rules ++ encodeAll c.animations ++ encodeAll c.tracks
    ++ encodeAll c.keyframes

/-- The records that follow a header. -/
def ofSections? (h : Header) (bytes : List UInt8) : Option Contents := do
  let (conditions, bytes) ← decodeSection ConditionRecord h.conditions.toNat bytes
  let (actions, bytes) ← decodeSection ActionRecord h.actions.toNat bytes
  let (rules, bytes) ← decodeSection RuleRecord h.rules.toNat bytes
  let (animations, bytes) ← decodeSection AnimationRecord h.animations.toNat bytes
  let (tracks, bytes) ← decodeSection TrackRecord h.tracks.toNat bytes
  let (keyframes, _) ← decodeSection KeyframeRecord h.keyframes.toNat bytes
  return { conditions, actions, rules, animations, tracks, keyframes }

end Contents

/-! ### References -/

/-- The sections, as sources and targets of references. -/
inductive Section where
  | condition
  | action
  | rule
  | animation
  | track
  | keyframe
deriving DecidableEq, Repr

/-- The name of a section in messages. -/
def Section.name : Section → String
  | condition => "condition"
  | action => "action"
  | rule => "rule"
  | animation => "animation"
  | track => "track"
  | keyframe => "keyframe"

/-- Why bytes are not a data set. -/
inductive ViewError where
  | tooShort (length : Nat)
  | sizeMismatch (expected actual : Nat)
  /-- The reference reaches up to `value`, the section has `count` records. -/
  | badReference (record : Section) (index : Nat) (target : Section) (value count : Nat)
deriving DecidableEq, Repr

/-- The error in words. -/
def ViewError.message : ViewError → String
  | tooShort length => s!"buffer of {length} bytes is shorter than the header"
  | sizeMismatch expected actual =>
    s!"header describes {expected} bytes but buffer holds {actual}"
  | badReference record index target value count =>
    s!"{record.name} {index} references {target.name} {value} out of {count}"

/-- The error as an object. -/
def ViewError.toJson (e : ViewError) : Json :=
  .failure (match e with
    | tooShort _ => "TooShort"
    | sizeMismatch .. => "SizeMismatch"
    | badReference .. => "BadReference") e.message

/-- A reference of a record: the section it points into, and the place just after the last
record that it points at. -/
structure Reference where
  target : Section
  reach : Nat
deriving DecidableEq, Repr

/-- The reference to one record. -/
def Reference.one (target : Section) (i : UInt16) : Reference := ⟨target, i.toNat + 1⟩

/-- The reference to a span of records. -/
def Reference.span (target : Section) (offset count : Nat) : Reference :=
  ⟨target, offset + count⟩

/-- The references of a rule. -/
def RuleRecord.references (r : RuleRecord) : List Reference :=
  [.one .condition r.condition, .span .action r.actionOffset.toNat r.actionCount.toNat]

/-- The references of an action: only the playing of an animation has one. -/
def ActionRecord.references (r : ActionRecord) : List Reference :=
  if r.typeCode = 1 then [.one .animation r.index] else []

/-- The references of an animation: the tracks of its pattern, the track of its gradient. -/
def AnimationRecord.references (r : AnimationRecord) : List Reference :=
  (if r.typeCode = 3 ∨ r.typeCode = 4 then
    [.span .track r.trackSpan.1.toNat r.trackSpan.2.toNat] else [])
    ++ (r.gradientTrack?.map (Reference.one .track)).toList

/-- The references of a track. -/
def TrackRecord.references (r : TrackRecord) : List Reference :=
  [.span .keyframe r.keyframeOffset.toNat r.keyframeCount.toNat]

namespace Contents

/-- The number of records of a section. -/
def count (c : Contents) : Section → Nat
  | .condition => c.conditions.length
  | .action => c.actions.length
  | .rule => c.rules.length
  | .animation => c.animations.length
  | .track => c.tracks.length
  | .keyframe => c.keyframes.length

/-- All references with the records they belong to, in the order of their checks. -/
def references (c : Contents) : List (Section × Nat × Reference) :=
  let tagged {ρ : Type} (s : Section) (f : ρ → List Reference) (rs : List ρ) :=
    rs.zipIdx.flatMap fun (r, i) => (f r).map fun ref => (s, i, ref)
  tagged .rule RuleRecord.references c.rules
    ++ tagged .action ActionRecord.references c.actions
    ++ tagged .animation AnimationRecord.references c.animations
    ++ tagged .track TrackRecord.references c.tracks

/-- Whether a reference points out of its section. -/
def isDangling (c : Contents) (r : Reference) : Bool :=
  c.count r.target < r.reach

/-- Every reference lies in its section; the first that does not is reported. -/
def checkReferences (c : Contents) : Except ViewError Unit :=
  match c.references.find? fun (_, _, r) => c.isDangling r with
  | none => .ok ()
  | some (record, index, r) =>
    .error (.badReference record index r.target r.reach (c.count r.target))

/-- The records of a byte string. -/
def parse (bytes : List UInt8) : Except ViewError Contents :=
  match (Codec.decode? bytes : Option Header) with
  | none => .error (.tooShort bytes.length)
  | some h =>
    if h.offsets.stop ≠ bytes.length then
      .error (.sizeMismatch h.offsets.stop bytes.length)
    else
      match ofSections? h (bytes.drop (Codec.size Header)) with
      | none => .error (.tooShort bytes.length)
      | some c => c.checkReferences.map fun _ => c

end Contents

end DiceHost.DataSet
