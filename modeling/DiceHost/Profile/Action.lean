/-
What a rule does.

* `Action`: the actions; only `playAnimation` runs on the die, the others are carried
  out by the host;
* `Action.check`: the actions that can be carried out;
* `Action.typeCode`: the number of an action on the die.
-/
import DiceHost.Invalid
import DiceHost.Uuid

namespace DiceHost

open Numeric

/-- The encoding of the body of a web request. -/
inductive WebRequestFormat where
  | parameters
  | json
  | discord
deriving DecidableEq, Repr

namespace WebRequestFormat

/-- The name of an encoding. -/
def name : WebRequestFormat → String
  | parameters => "parameters"
  | json => "json"
  | discord => "discord"

/-- The encoding of a name. -/
def ofName? : String → Option WebRequestFormat
  | "parameters" => some parameters
  | "json" => some json
  | "discord" => some discord
  | _ => none

/-- An encoding from its name. -/
def decode : Json.Decoder WebRequestFormat := Json.Decoder.word ofName?

end WebRequestFormat

/-- What a rule does. -/
inductive Action where
  /-- Plays an animation; an empty mask stands for the face that triggered the rule. -/
  | playAnimation (animation : Uuid) (faceMask : UInt32) (loopCount : UInt8)
  /-- Plays a sound at a volume in percent. -/
  | playAudioClip (clip : Uuid) (volume loopCount : UInt8)
  | makeWebRequest (url value : String) (format : WebRequestFormat)
  | speakText (text : String) (pitch rate : Binary32)
deriving DecidableEq, Repr

namespace Action

/-- An action is carried out at least once. -/
def checkLoopCount (n : UInt8) : Check :=
  Check.require (n ≠ 0) .loopCount .neverPlays

/-- The actions that can be carried out. -/
def check : Action → Check
  | playAnimation _ mask loopCount => do
    Check.withinFaces mask
    checkLoopCount loopCount
  | playAudioClip _ volume loopCount => do
    Check.require (volume ≤ 100) .volume (.abovePercent volume)
    checkLoopCount loopCount
  | makeWebRequest url _ _ =>
    Check.require (!(Text.trim url.toList).isEmpty) .url .emptyUrl
  | speakText _ pitch rate => do
    Check.positive .pitch pitch
    Check.positive .rate rate

/-- An action that passes its check. -/
def checked (a : Action) : Except EntityError Action := do
  a.check
  return a

/-- The playing of an animation on a list of faces. -/
def playOnFaces (animation : Uuid) (faces : List UInt32) (loopCount : UInt8) :
    Except EntityError Action := do
  let mask ← (Die.maskOfFaces faces).mapError .face
  checked (playAnimation animation mask loopCount)

/-- The number of an action on the die. -/
def typeCode : Action → UInt8
  | playAnimation .. => 1
  | playAudioClip .. => 2
  | makeWebRequest .. => 3
  | speakText .. => 4

/-- The animation that an action plays. -/
def animation? : Action → Option Uuid
  | playAnimation animation _ _ => some animation
  | _ => none

/-- Whether the host, not the die, carries out the action. -/
def isRemote : Action → Bool
  | playAnimation .. => false
  | _ => true

/-- An action as an object. -/
def toJson : Action → Json
  | playAnimation animation mask loopCount =>
    .obj [("type", .str "playAnimation"), ("animation", animation.toJson),
      ("face_mask", .nat mask.toNat), ("loop_count", .nat loopCount.toNat)]
  | playAudioClip clip volume loopCount =>
    .obj [("type", .str "playAudioClip"), ("clip", clip.toJson),
      ("volume", .nat volume.toNat), ("loop_count", .nat loopCount.toNat)]
  | makeWebRequest url value format =>
    .obj [("type", .str "makeWebRequest"), ("url", .str url), ("value", .str value),
      ("format", .str format.name)]
  | speakText text pitch rate =>
    .obj [("type", .str "speakText"), ("text", .str text), ("pitch", .single pitch),
      ("rate", .single rate)]

/-- The shapes of actions. -/
def variants : List (String × Json.Record Action) :=
  [("playAnimation",
      playAnimation <$> .field "animation" Uuid.decode
        <*> .field "face_mask" Json.Decoder.word32
        <*> .field "loop_count" Json.Decoder.byte),
    ("playAudioClip",
      playAudioClip <$> .field "clip" Uuid.decode <*> .field "volume" Json.Decoder.byte
        <*> .field "loop_count" Json.Decoder.byte),
    ("makeWebRequest",
      makeWebRequest <$> .field "url" Json.Decoder.string
        <*> .field "value" Json.Decoder.string
        <*> .defaulted "format" WebRequestFormat.decode .parameters),
    ("speakText",
      speakText <$> .field "text" Json.Decoder.string <*> .field "pitch" Json.Decoder.single
        <*> .field "rate" Json.Decoder.single)]

/-- An action from an object. -/
def decode : Json.Decoder Action := Json.tagged "type" variants

end Action

end DiceHost
