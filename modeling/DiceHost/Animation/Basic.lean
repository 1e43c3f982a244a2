/-
Animations of the LEDs of a die.

* `AnimationKind`: what is shown;
* `Animation`: a kind under a name, with a duration and a mask of faces;
* `Animation.check`: the animations that a library holds;
* `AnimationKind.typeCode?`: the number of a kind on the die, if dice can play it.
-/
import DiceHost.Animation.Track

namespace DiceHost

open Numeric

/-- What an animation shows. -/
inductive AnimationKind where
  /-- Flashes of one colour. -/
  | simple (color : Color) (count : UInt8) (fade : Binary32)
  | gradient (gradient : Gradient)
  /-- The tracks of a pattern give the intensity, a gradient the colour. -/
  | gradientPattern (pattern : Uuid) (gradient : Gradient) (overrideWithFace : Bool)
  | keyframed (pattern : Uuid) (traveling useLedIndices : Bool)
  | rainbow (count : UInt8) (fade intensity cycles : Binary32) (traveling : Bool)
  /-- No die can play this kind. -/
  | noise
  | cycle (gradient : Gradient) (count : UInt8) (fade intensity cycles : Binary32)
deriving DecidableEq, Repr

namespace AnimationKind

/-- The number of a kind on the die. -/
def typeCode? : AnimationKind → Option UInt8
  | simple .. => some 1
  | rainbow .. => some 2
  | keyframed .. => some 3
  | gradientPattern .. => some 4
  | gradient .. => some 5
  | cycle .. => some 6
  | noise => none

/-- The name of a kind. -/
def name : AnimationKind → String
  | simple .. => "simple"
  | gradient .. => "gradient"
  | gradientPattern .. => "gradientPattern"
  | keyframed .. => "keyframed"
  | rainbow .. => "rainbow"
  | noise => "noise"
  | cycle .. => "cycle"

/-- The pattern whose tracks a kind shows. -/
def pattern? : AnimationKind → Option Uuid
  | gradientPattern pattern _ _ => some pattern
  | keyframed pattern _ _ => some pattern
  | _ => none

/-- The gradient that a kind owns. -/
def gradient? : AnimationKind → Option Gradient
  | gradient g => some g
  | gradientPattern _ g _ => some g
  | cycle g _ _ _ _ => some g
  | _ => none

/-- At least one repetition. -/
def checkCount (n : UInt8) : Check :=
  Check.require (n ≠ 0) .count .zeroCount

/-- The highest number of cycles, twenty-five and a half. -/
def maxCycles : Binary32 := .ofBinary64 ((Binary64.ofDecimal? false 255 (-1)).getD ⟨0⟩)

/-- The number of cycles lies between zero and the highest. -/
def checkCycles (x : Binary32) : Check :=
  Check.require (Binary32.zero.le x && x.le maxCycles) .cycles (.outsideCycles x)

/-- The kinds that can be shown. -/
def check : AnimationKind → Check
  | simple _ count fade => do
    checkCount count
    Check.unit .fade fade
  | gradient g => g.check
  | gradientPattern _ g _ => g.check
  | keyframed .. | noise => .ok ()
  | rainbow count fade intensity cycles _ => do
    checkCount count
    Check.unit .fade fade
    Check.unit .intensity intensity
    checkCycles cycles
  | cycle g count fade intensity cycles => do
    g.check
    checkCount count
    Check.unit .fade fade
    Check.unit .intensity intensity
    checkCycles cycles

/-- The entries of a kind. -/
def entries : AnimationKind → List (String × Json)
  | simple color count fade =>
    [("type", .str "simple"), ("color", color.toJson), ("count", .nat count.toNat),
      ("fade", .single fade)]
  | gradient g => [("type", .str "gradient"), ("gradient", g.toJson)]
  | gradientPattern pattern g override =>
    [("type", .str "gradientPattern"), ("pattern", pattern.toJson), ("gradient", g.toJson),
      ("override_with_face", .bool override)]
  | keyframed pattern traveling useLedIndices =>
    [("type", .str "keyframed"), ("pattern", pattern.toJson), ("traveling", .bool traveling),
      ("use_led_indices", .bool useLedIndices)]
  | rainbow count fade intensity cycles traveling =>
    [("type", .str "rainbow"), ("count", .nat count.toNat), ("fade", .single fade),
      ("intensity", .single intensity), ("cycles", .single cycles),
      ("traveling", .bool traveling)]
  | noise => [("type", .str "noise")]
  | cycle g count fade intensity cycles =>
    [("type", .str "cycle"), ("gradient", g.toJson), ("count", .nat count.toNat),
      ("fade", .single fade), ("intensity", .single intensity), ("cycles", .single cycles)]

/-- The shapes of kinds. -/
def variants : List (String × Json.Record AnimationKind) :=
  [("simple",
      simple <$> .field "color" Color.record.decode <*> .field "count" Json.Decoder.byte
        <*> .field "fade" Json.Decoder.single),
    ("gradient", gradient <$> .field "gradient" Gradient.record.decode),
    ("gradientPattern",
      gradientPattern <$> .field "pattern" Uuid.decode
        <*> .field "gradient" Gradient.record.decode
        <*> .field "override_with_face" Json.Decoder.bool),
    ("keyframed",
      keyframed <$> .field "pattern" Uuid.decode <*> .field "traveling" Json.Decoder.bool
        <*> .defaulted "use_led_indices" Json.Decoder.bool false),
    ("rainbow",
      rainbow <$> .field "count" Json.Decoder.byte <*> .field "fade" Json.Decoder.single
        <*> .field "intensity" Json.Decoder.single <*> .field "cycles" Json.Decoder.single
        <*> .defaulted "traveling" Json.Decoder.bool false),
    ("noise", pure noise),
    ("cycle",
      cycle <$> .field "gradient" Gradient.record.decode <*> .field "count" Json.Decoder.byte
        <*> .field "fade" Json.Decoder.single <*> .field "intensity" Json.Decoder.single
        <*> .field "cycles" Json.Decoder.single)]

/-- A kind from an object of its own. -/
def decode : Json.Decoder AnimationKind := Json.tagged "type" variants

end AnimationKind

/-- An animation of the LEDs of some faces. -/
structure Animation where
  uuid : Uuid
  name : String
  duration : UInt32
  faceMask : UInt32
  kind : AnimationKind
deriving DecidableEq, Repr

namespace Animation

/-- A single flash of a colour. -/
def flash (uuid : Uuid) (name : String) (color : Color) (duration faceMask : UInt32) :
    Animation :=
  ⟨uuid, name, duration, faceMask, .simple color 1 .zero⟩

/-- The pattern whose tracks an animation shows. -/
def pattern? (a : Animation) : Option Uuid :=
  a.kind.pattern?

/-- The animations that a library holds. -/
def check (a : Animation) : Check := do
  Check.duration .duration a.duration
  Check.someFace a.faceMask
  a.kind.check

/-- An animation that passes its check. -/
def checked (a : Animation) : Except EntityError Animation := do
  a.check
  return a

/-- An animation as an object, the entries of its kind after its own. -/
def toJson (a : Animation) : Json :=
  .obj <|
    [("uuid", a.uuid.toJson), ("name", .str a.name), ("duration_ms", .nat a.duration.toNat),
      ("face_mask", .nat a.faceMask.toNat)] ++ a.kind.entries

/-- The entries of an animation beside those of its kind. -/
def head : Json.Record (AnimationKind → Animation) :=
  Animation.mk <$> .field "uuid" Uuid.decode <*> .field "name" Json.Decoder.string
    <*> .field "duration_ms" Json.Decoder.word32 <*> .field "face_mask" Json.Decoder.word32

/-- An animation from an object. The entries beside its own are those of its kind, which
is told by its name or its number. -/
def decode : Json.Decoder Animation
  | .obj es => do
    let own := es.filter fun (k, _) => head.names.contains k
    let rest := es.filter fun (k, _) => !head.names.contains k
    let make ← head.ofEntries (.named own)
    if Json.Node.allEntriesUsable rest then
      return make (← Json.taggedEntries "type"
        (Json.variantOrNumber? AnimationKind.variants) rest)
    else .error .malformed
  | n => Json.Decoder.refuse n

end Animation

end DiceHost
