/-
What a rule waits for.

* `Condition`: the conditions, with what each of them needs;
* `Condition.check`: the conditions that a die can hold;
* `Condition.rolled`, `rolling`, `idle`, `battery`, `faceCompare`: checked conditions;
* `Condition.typeCode`: the number of a condition on the die.
-/
import DiceHost.Invalid
import DiceHost.Profile.Flags

namespace DiceHost

/-- What a rule waits for. -/
inductive Condition where
  /-- The die landed on a face of the mask. -/
  | rolled (faceMask : UInt32)
  /-- The die landed but does not lie flat. -/
  | crooked
  /-- The die is picked up. -/
  | handling
  /-- The die rolls; the condition may hold again after each period. -/
  | rolling (repeatPeriod : UInt32)
  /-- The die has not moved for a while. -/
  | idle (period : UInt32)
  | batteryState (flags : Flags .battery) (repeatPeriod : UInt32)
  | connectionState (flags : Flags .connection)
  | helloGoodbye (flags : Flags .helloGoodbye)
  /-- The rolled face is compared with a face. -/
  | faceCompare (face : UInt32) (flags : Flags .faceCompare)
deriving DecidableEq, Repr

namespace Condition

/-- The conditions that a die can hold. -/
def check : Condition → Check
  | rolled mask => Check.someFace mask
  | rolling ms => Check.duration .repeatPeriod ms
  | idle ms => Check.duration .period ms
  | batteryState _ ms => Check.duration .repeatPeriod ms
  | faceCompare face flags => do
    Check.face face
    Check.require (!flags.isEmpty) .flags .noComparison
  | crooked | handling | connectionState _ | helloGoodbye _ => .ok ()

/-- A condition that passes its check. -/
def checked (c : Condition) : Except EntityError Condition := do
  c.check
  return c

/-- The condition that one of the faces is rolled. -/
def ofFaces (faces : List UInt32) : Except EntityError Condition := do
  let mask ← (Die.maskOfFaces faces).mapError .face
  checked (rolled mask)

/-- The number of a condition on the die. -/
def typeCode : Condition → UInt8
  | helloGoodbye _ => 1
  | handling => 2
  | rolling _ => 3
  | faceCompare _ _ => 4
  | crooked => 5
  | connectionState _ => 6
  | batteryState _ _ => 7
  | idle _ => 8
  | rolled _ => 9

/-- A condition as an object. -/
def toJson : Condition → Json
  | rolled mask => .obj [("type", .str "rolled"), ("face_mask", .nat mask.toNat)]
  | crooked => .obj [("type", .str "crooked")]
  | handling => .obj [("type", .str "handling")]
  | rolling ms => .obj [("type", .str "rolling"), ("repeat_period_ms", .nat ms.toNat)]
  | idle ms => .obj [("type", .str "idle"), ("period_ms", .nat ms.toNat)]
  | batteryState flags ms =>
    .obj [("type", .str "batteryState"), ("flags", flags.toJson),
      ("repeat_period_ms", .nat ms.toNat)]
  | connectionState flags => .obj [("type", .str "connectionState"), ("flags", flags.toJson)]
  | helloGoodbye flags => .obj [("type", .str "helloGoodbye"), ("flags", flags.toJson)]
  | faceCompare face flags =>
    .obj [("type", .str "faceCompare"), ("face", .nat face.toNat), ("flags", flags.toJson)]

/-- The shapes of conditions. -/
def variants : List (String × Json.Record Condition) :=
  [("rolled", rolled <$> .field "face_mask" Json.Decoder.word32),
    ("crooked", pure crooked),
    ("handling", pure handling),
    ("rolling", rolling <$> .field "repeat_period_ms" Json.Decoder.word32),
    ("idle", idle <$> .field "period_ms" Json.Decoder.word32),
    ("batteryState",
      batteryState <$> .field "flags" Flags.decode
        <*> .field "repeat_period_ms" Json.Decoder.word32),
    ("connectionState", connectionState <$> .field "flags" Flags.decode),
    ("helloGoodbye", helloGoodbye <$> .field "flags" Flags.decode),
    ("faceCompare",
      faceCompare <$> .field "face" Json.Decoder.word32 <*> .field "flags" Flags.decode)]

/-- A condition from an object. -/
def decode : Json.Decoder Condition := Json.tagged "type" variants

end Condition

end DiceHost
