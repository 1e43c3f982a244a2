/-
Data sets as documents.

* `toJson`, `record`: the header, the offsets and every record, written and read;
* `Payload.variants`: the payloads by type of animation;
* `Contents.toJson`: the dump of a data set, all records by section;
* `RemoteAction.toJson`: a host action with its identifier.
-/
import DiceHost.DataSet.Compile

namespace DiceHost.DataSet

open Json

/-- A 16-bit word as a number. -/
def number16 (w : UInt16) : Json := .nat w.toNat

/-- A byte as a number. -/
def number8 (b : UInt8) : Json := .nat b.toNat

/-- A 32-bit word as a number. -/
def number32 (w : UInt32) : Json := .nat w.toNat

/-- The counts of the sections. -/
def Header.toJson (h : Header) : Json :=
  .obj [("conditions", number16 h.conditions), ("actions", number16 h.actions),
    ("rules", number16 h.rules), ("animations", number16 h.animations),
    ("tracks", number16 h.tracks), ("keyframes", number16 h.keyframes)]

/-- Where the sections begin and the last one ends. -/
def Offsets.toJson (o : Offsets) : Json :=
  .obj [("conditions", .nat o.conditions), ("actions", .nat o.actions),
    ("rules", .nat o.rules), ("animations", .nat o.animations), ("tracks", .nat o.tracks),
    ("keyframes", .nat o.keyframes), ("end", .nat o.stop)]

def ConditionRecord.toJson (r : ConditionRecord) : Json :=
  .obj [("type_code", number8 r.typeCode), ("flags", number8 r.flags),
    ("face", number8 r.face), ("param", number32 r.param)]

def ActionRecord.toJson (r : ActionRecord) : Json :=
  .obj [("type_code", number8 r.typeCode), ("loop_count", number8 r.loopCount),
    ("index", number16 r.index), ("face_mask", number32 r.faceMask)]

def RuleRecord.toJson (r : RuleRecord) : Json :=
  .obj [("condition_index", number16 r.condition), ("action_offset", number16 r.actionOffset),
    ("action_count", number16 r.actionCount)]

def AnimationRecord.toJson (r : AnimationRecord) : Json :=
  .obj [("type_code", number8 r.typeCode), ("flags", number8 r.flags),
    ("duration_ms", number16 r.duration), ("face_mask", number32 r.faceMask),
    ("payload", .list number8 r.payload.bytes)]

def TrackRecord.toJson (r : TrackRecord) : Json :=
  .obj [("keyframe_offset", number16 r.keyframeOffset),
    ("keyframe_count", number8 r.keyframeCount), ("led_mask", number32 r.ledMask)]

def KeyframeRecord.toJson (r : KeyframeRecord) : Json :=
  .obj [("time", number16 r.time), ("color", r.color.toJson)]

/-- An animation with what its payload can mean. -/
def AnimationRecord.explained (r : AnimationRecord) : List (String × Json) :=
  [("value", r.toJson), ("simple_color", r.simpleColor.toJson),
    ("track_span", .arr [number16 r.trackSpan.1, number16 r.trackSpan.2]),
    ("gradient_track", .opt number16 r.gradientTrack?)]

/-! ### Reading -/

def Header.record : Json.Record Header :=
  Header.mk <$> .field "conditions" Decoder.word16 <*> .field "actions" Decoder.word16
    <*> .field "rules" Decoder.word16 <*> .field "animations" Decoder.word16
    <*> .field "tracks" Decoder.word16 <*> .field "keyframes" Decoder.word16

def ConditionRecord.record : Json.Record ConditionRecord :=
  ConditionRecord.mk <$> .field "type_code" Decoder.byte <*> .field "flags" Decoder.byte
    <*> .field "face" Decoder.byte <*> .field "param" Decoder.word32

def ActionRecord.record : Json.Record ActionRecord :=
  ActionRecord.mk <$> .field "type_code" Decoder.byte <*> .field "loop_count" Decoder.byte
    <*> .field "index" Decoder.word16 <*> .field "face_mask" Decoder.word32

def RuleRecord.record : Json.Record RuleRecord :=
  RuleRecord.mk <$> .field "condition_index" Decoder.word16
    <*> .field "action_offset" Decoder.word16 <*> .field "action_count" Decoder.word16

/-- A payload from its eight bytes. -/
def Payload.decode : Decoder Payload := fun n => do
  match ← Decoder.list Decoder.byte n with
  | [a, b, c, d, e, f, g, h] => .ok ⟨a, b, c, d, e, f, g, h⟩
  | _ => .error .mistyped

def AnimationRecord.record : Json.Record AnimationRecord :=
  AnimationRecord.mk <$> .field "type_code" Decoder.byte <*> .field "flags" Decoder.byte
    <*> .field "duration_ms" Decoder.word16 <*> .field "face_mask" Decoder.word32
    <*> .field "payload" Payload.decode

def TrackRecord.record : Json.Record TrackRecord :=
  TrackRecord.mk <$> .field "keyframe_offset" Decoder.word16
    <*> .field "keyframe_count" Decoder.byte <*> .field "led_mask" Decoder.word32

def KeyframeRecord.record : Json.Record KeyframeRecord :=
  KeyframeRecord.mk <$> .field "time" Decoder.word16 <*> .field "color" Color.record.decode

/-- The payloads by type of animation, from their parts. -/
def Payload.variants : List (String × Json.Record Payload) :=
  [("simple", (fun r g b => simple ⟨r, g, b⟩) <$> .field "r" Decoder.byte
      <*> .field "g" Decoder.byte <*> .field "b" Decoder.byte
      <*> .field "count" Decoder.byte <*> .field "fade" Decoder.byte),
    ("rainbow", rainbow <$> .field "count" Decoder.byte <*> .field "fade" Decoder.byte
      <*> .field "intensity" Decoder.byte <*> .field "cycles_x10" Decoder.byte),
    ("keyframed", keyframed <$> .field "track_offset" Decoder.word16
      <*> .field "track_count" Decoder.word16),
    ("gradient_pattern", gradientPattern <$> .field "track_offset" Decoder.word16
      <*> .field "track_count" Decoder.word16 <*> .field "gradient_track" Decoder.word16
      <*> .field "override_with_face" Decoder.bool),
    ("gradient", gradient <$> .field "gradient_track" Decoder.word16),
    ("cycle", cycle <$> .field "count" Decoder.byte <*> .field "fade" Decoder.byte
      <*> .field "intensity" Decoder.byte <*> .field "cycles_x10" Decoder.byte
      <*> .field "gradient_track" Decoder.word16)]

/-! ### Whole data sets -/

/-- The records at some place of every section. -/
def Contents.row (c : Contents) (i : Nat) : Json :=
  .obj [("condition", .opt ConditionRecord.toJson c.conditions[i]?),
    ("action", .opt ActionRecord.toJson c.actions[i]?),
    ("rule", .opt RuleRecord.toJson c.rules[i]?),
    ("animation", .opt AnimationRecord.toJson c.animations[i]?),
    ("track", .opt TrackRecord.toJson c.tracks[i]?),
    ("keyframe", .opt KeyframeRecord.toJson c.keyframes[i]?)]

/-- All records by section. -/
def Contents.toJson (c : Contents) : Json :=
  .obj [("header", c.header.toJson), ("conditions", .list ConditionRecord.toJson c.conditions),
    ("actions", .list ActionRecord.toJson c.actions), ("rules", .list RuleRecord.toJson c.rules),
    ("animations", .list AnimationRecord.toJson c.animations),
    ("tracks", .list TrackRecord.toJson c.tracks),
    ("keyframes", .list KeyframeRecord.toJson c.keyframes)]

/-- A host action with its identifier. -/
def RemoteAction.toJson (r : RemoteAction) : Json :=
  .obj [("id", number16 r.id), ("action", r.action.toJson)]

/-- A compiled data set; the form of its bytes is given. -/
def Compiled.fields (c : Compiled) (bytes : List UInt8 → Json) : List (String × Json) :=
  [("profile", c.profile.toJson), ("bytes", bytes c.bytes), ("header", c.header.toJson),
    ("offsets", c.header.offsets.toJson), ("hash", number32 c.hash),
    ("len", .nat c.bytes.length), ("is_empty", .bool c.bytes.isEmpty),
    ("remote_actions", .list RemoteAction.toJson c.remoteActions),
    ("animations", .list Uuid.toJson c.animations)]

end DiceHost.DataSet
