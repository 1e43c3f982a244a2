/-
Keyframes, tracks and patterns.

* `Keyframe`: a colour at a time between zero and one;
* `Gradient`: the keyframes of a colour gradient;
* `PatternTrack`: keyframes for a set of LEDs;
* `Pattern`: tracks under a name, shared by animations.
-/
import DiceHost.Animation.Color
import DiceHost.Invalid
import DiceHost.Uuid

namespace DiceHost

open Numeric

/-- A colour at a time between zero and one. -/
structure Keyframe where
  time : Binary32
  color : Color
deriving DecidableEq, Repr

namespace Keyframe

/-- The time lies between zero and one. -/
def check (k : Keyframe) : Check :=
  Check.unit .keyframeTime k.time

/-- A keyframe that passes its check. -/
def checked (k : Keyframe) : Except EntityError Keyframe := do
  k.check
  return k

/-- A track has at least one and at most 255 keyframes, all of them in time. -/
def checkAll (ks : List Keyframe) : Check := do
  Check.require (!ks.isEmpty) .keyframes .noKeyframes
  Check.require (ks.length ≤ maxTrackKeyframes) .keyframes (.tooManyKeyframes ks.length)
  Check.each check ks

/-- A keyframe as an object. -/
def toJson (k : Keyframe) : Json :=
  .obj [("time", .single k.time), ("color", k.color.toJson)]

/-- A keyframe from an object. -/
def record : Json.Record Keyframe :=
  Keyframe.mk <$> .field "time" Json.Decoder.single <*> .field "color" Color.record.decode

end Keyframe

/-- A colour gradient. -/
structure Gradient where
  keyframes : List Keyframe
deriving DecidableEq, Repr

namespace Gradient

/-- A gradient of two keyframes. -/
def linear (first last : Color) : Gradient :=
  ⟨[⟨.zero, first⟩, ⟨.one, last⟩]⟩

/-- The keyframes pass their check. -/
def check (g : Gradient) : Check :=
  Keyframe.checkAll g.keyframes

/-- A gradient that passes its check. -/
def checked (g : Gradient) : Except EntityError Gradient := do
  g.check
  return g

/-- A gradient as an object. -/
def toJson (g : Gradient) : Json :=
  .obj [("keyframes", .list Keyframe.toJson g.keyframes)]

/-- A gradient from an object. -/
def record : Json.Record Gradient :=
  Gradient.mk <$> .field "keyframes" (Json.Decoder.list Keyframe.record.decode)

end Gradient

/-- Keyframes for the LEDs of a mask. -/
structure PatternTrack where
  ledMask : UInt32
  keyframes : List Keyframe
deriving DecidableEq, Repr

namespace PatternTrack

/-- Some LED is selected, and the keyframes pass their check. -/
def check (t : PatternTrack) : Check := do
  Check.require (t.ledMask ≠ 0) .ledMask .noLed
  Keyframe.checkAll t.keyframes

/-- A track as an object. -/
def toJson (t : PatternTrack) : Json :=
  .obj [("led_mask", .nat t.ledMask.toNat), ("keyframes", .list Keyframe.toJson t.keyframes)]

/-- A track from an object. -/
def record : Json.Record PatternTrack :=
  PatternTrack.mk <$> .field "led_mask" Json.Decoder.word32
    <*> .field "keyframes" (Json.Decoder.list Keyframe.record.decode)

end PatternTrack

/-- Tracks under a name. -/
structure Pattern where
  uuid : Uuid
  name : String
  tracks : List PatternTrack
deriving DecidableEq, Repr

namespace Pattern

/-- There is a track, and all tracks pass their check. -/
def check (p : Pattern) : Check := do
  Check.require (!p.tracks.isEmpty) .tracks .noTracks
  Check.each PatternTrack.check p.tracks

/-- A pattern that passes its check. -/
def checked (p : Pattern) : Except EntityError Pattern := do
  p.check
  return p

/-- A pattern as an object. -/
def toJson (p : Pattern) : Json :=
  .obj [("uuid", p.uuid.toJson), ("name", .str p.name),
    ("tracks", .list PatternTrack.toJson p.tracks)]

/-- A pattern from an object. -/
def record : Json.Record Pattern :=
  Pattern.mk <$> .field "uuid" Uuid.decode <*> .field "name" Json.Decoder.string
    <*> .field "tracks" (Json.Decoder.list PatternTrack.record.decode)

end Pattern

end DiceHost
