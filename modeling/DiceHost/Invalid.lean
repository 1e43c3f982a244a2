/-
Why an entity of a library is refused.

* `Field`: the fields that are checked;
* `Defect`: what can be wrong with the value of a field;
* `EntityError`: a defect of a field, or a face without a mask;
* the checks that several entities share.
-/
import DiceHost.Die.Faces
import DiceHost.Json.Value

namespace DiceHost

open Numeric

/-- A field that is checked. -/
inductive Field where
  | faceMask
  | flags
  | repeatPeriod
  | period
  | duration
  | loopCount
  | volume
  | url
  | pitch
  | rate
  | brightness
  | keyframeTime
  | keyframes
  | ledMask
  | tracks
  | count
  | fade
  | intensity
  | cycles
deriving DecidableEq, Repr

/-- The name of a field in messages. -/
def Field.name : Field → String
  | faceMask => "face_mask"
  | flags => "flags"
  | repeatPeriod => "repeat_period_ms"
  | period => "period_ms"
  | duration => "duration_ms"
  | loopCount => "loop_count"
  | volume => "volume"
  | url => "url"
  | pitch => "pitch"
  | rate => "rate"
  | brightness => "brightness"
  | keyframeTime => "keyframe.time"
  | keyframes => "keyframes"
  | ledMask => "led_mask"
  | tracks => "tracks"
  | count => "count"
  | fade => "fade"
  | intensity => "intensity"
  | cycles => "cycles"

/-- What is wrong with a value. -/
inductive Defect where
  | noFace
  | bitAboveFaces (mask : UInt32)
  | noComparison
  | tooLong (ms : UInt32)
  | neverPlays
  | abovePercent (n : UInt8)
  | emptyUrl
  | notPositive (x : Binary32)
  | negative (x : Binary32)
  | outsideUnit (x : Binary32)
  | outsideCycles (x : Binary32)
  | noKeyframes
  | tooManyKeyframes (n : Nat)
  | noLed
  | noTracks
  | zeroCount
deriving DecidableEq, Repr

/-- The longest duration in milliseconds. -/
def maxDuration : UInt32 := 65535

/-- The most keyframes of a track. -/
def maxTrackKeyframes : Nat := 255

/-- The defect in words. -/
def Defect.reason : Defect → String
  | noFace => "no face selected"
  | bitAboveFaces mask =>
    "0x" ++ String.ofList (Text.Hex.lower 8 mask.toNat) ++ " sets a bit above face 31"
  | noComparison => "no comparison selected"
  | tooLong ms => s!"{ms.toNat} ms exceeds the maximum of 65535 ms"
  | neverPlays => "must play at least once"
  | abovePercent n => s!"{n.toNat} is above 100 percent"
  | emptyUrl => "empty url"
  | notPositive x => x.display ++ " is not a positive number"
  | negative x => x.display ++ " is not a non-negative number"
  | outsideUnit x => x.display ++ " is outside [0, 1]"
  | outsideCycles x => x.display ++ " is outside [0, 25.5]"
  | noKeyframes => "track has no keyframes"
  | tooManyKeyframes n => s!"{n} keyframes, a track holds at most 255"
  | noLed => "no LED selected"
  | noTracks => "pattern has no tracks"
  | zeroCount => "must be at least 1"

/-- Why an entity is refused. -/
inductive EntityError where
  | invalid (field : Field) (defect : Defect)
  | face (e : Die.FaceError)
deriving DecidableEq, Repr

namespace EntityError

/-- The error in words. -/
def message : EntityError → String
  | invalid field defect =>
    "invalid entity field " ++ "\x60" ++ field.name ++ "\x60: " ++ defect.reason
  | face e => e.message

/-- The name of the field that is wrong. -/
def field : EntityError → String
  | invalid field _ => field.name
  | face _ => "faces"

/-- The kind of an error. -/
def kind : EntityError → String
  | invalid .. => "InvalidEntity"
  | face _ => "RangeError"

/-- The error as an object. -/
def toJson (e : EntityError) : Json :=
  .failure e.kind e.message [("field", .str e.field)]

end EntityError

/-- The outcome of a check. -/
abbrev Check := Except EntityError Unit

namespace Check

/-- Passes exactly when the condition holds. -/
def require (ok : Bool) (field : Field) (defect : Defect) : Check :=
  if ok then .ok () else .error (.invalid field defect)

/-- A duration fits sixteen bits. -/
def duration (field : Field) (ms : UInt32) : Check :=
  require (ms ≤ maxDuration) field (.tooLong ms)

/-- A face has a mask. -/
def face (f : UInt32) : Check :=
  match Die.faceMask f with
  | .ok _ => .ok ()
  | .error e => .error (.face e)

/-- A mask has no bit above the highest face. -/
def withinFaces (mask : UInt32) : Check :=
  require (!Die.exceedsFaces mask) .faceMask (.bitAboveFaces mask)

/-- A mask selects a face and has no bit above the highest. -/
def someFace (mask : UInt32) : Check := do
  require (mask ≠ 0) .faceMask .noFace
  withinFaces mask

/-- A number is finite and not below zero. -/
def nonNegative (field : Field) (x : Binary32) : Check :=
  require (x.isFinite && !x.lt .zero) field (.negative x)

/-- A number is finite and above zero. -/
def positive (field : Field) (x : Binary32) : Check :=
  require (x.isFinite && !x.le .zero) field (.notPositive x)

/-- A number lies between zero and one. -/
def unit (field : Field) (x : Binary32) : Check :=
  require (Binary32.zero.le x && x.le .one) field (.outsideUnit x)

/-- All members of a list pass, the first failure being reported. -/
def each {α : Type} (f : α → Check) : List α → Check
  | [] => .ok ()
  | x :: xs => do f x; each f xs

end Check

end DiceHost
