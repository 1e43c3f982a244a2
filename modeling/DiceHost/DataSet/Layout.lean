/-
The records of a data set and their bytes.

* `Header`: the number of records of each section;
* `ConditionRecord`, `ActionRecord`, `RuleRecord`, `AnimationRecord`, `TrackRecord`,
  `KeyframeRecord`: records of fixed width, words little-endian;
* `Codec`: the width, writer and reader of a record;
* `Payload`: the eight bytes that belong to the type of an animation.

Byte 3 of a condition, bytes 6 and 7 of a rule, byte 3 of a track and byte 5 of a
keyframe are reserved: they are written as zero, and readers pass over them.
-/
import DiceHost.Animation.Color
import DiceHost.DataSet.Words

namespace DiceHost.DataSet

open Numeric

/-- The width, writer and reader of a record. Readers pass over what follows a record. -/
class Codec (ρ : Type) where
  size : Nat
  encode : ρ → List UInt8
  decode? : List UInt8 → Option ρ

/-! ### The header -/

/-- The number of records of each section. -/
structure Header where
  conditions : UInt16
  actions : UInt16
  rules : UInt16
  animations : UInt16
  tracks : UInt16
  keyframes : UInt16
deriving DecidableEq, Repr

/-- Where each section begins, and where the last one ends. -/
structure Offsets where
  conditions : Nat
  actions : Nat
  rules : Nat
  animations : Nat
  tracks : Nat
  keyframes : Nat
  stop : Nat
deriving DecidableEq, Repr

instance : Codec Header where
  size := 12
  encode h :=
    bytes16 h.conditions ++ bytes16 h.actions ++ bytes16 h.rules ++ bytes16 h.animations
      ++ bytes16 h.tracks ++ bytes16 h.keyframes
  decode?
    | a₀ :: a₁ :: b₀ :: b₁ :: c₀ :: c₁ :: d₀ :: d₁ :: e₀ :: e₁ :: f₀ :: f₁ :: _ =>
      some ⟨word16 a₀ a₁, word16 b₀ b₁, word16 c₀ c₁, word16 d₀ d₁, word16 e₀ e₁,
        word16 f₀ f₁⟩
    | _ => none

/-! ### Records -/

/-- A condition on the die. -/
structure ConditionRecord where
  typeCode : UInt8
  flags : UInt8
  face : UInt8
  /-- A mask of faces, or a period in milliseconds. -/
  param : UInt32
deriving DecidableEq, Repr

instance : Codec ConditionRecord where
  size := 8
  encode r := [r.typeCode, r.flags, r.face, 0] ++ bytes32 r.param
  decode?
    | t :: f :: n :: _ :: p₀ :: p₁ :: p₂ :: p₃ :: _ => some ⟨t, f, n, word32 p₀ p₁ p₂ p₃⟩
    | _ => none

/-- An action on the die. -/
structure ActionRecord where
  typeCode : UInt8
  loopCount : UInt8
  /-- The number of an animation, or the identifier of an action of the host. -/
  index : UInt16
  faceMask : UInt32
deriving DecidableEq, Repr

instance : Codec ActionRecord where
  size := 8
  encode r := [r.typeCode, r.loopCount] ++ bytes16 r.index ++ bytes32 r.faceMask
  decode?
    | t :: l :: i₀ :: i₁ :: m₀ :: m₁ :: m₂ :: m₃ :: _ =>
      some ⟨t, l, word16 i₀ i₁, word32 m₀ m₁ m₂ m₃⟩
    | _ => none

/-- A rule: a condition and a span of actions. -/
structure RuleRecord where
  condition : UInt16
  actionOffset : UInt16
  actionCount : UInt16
deriving DecidableEq, Repr

instance : Codec RuleRecord where
  size := 8
  encode r := bytes16 r.condition ++ bytes16 r.actionOffset ++ bytes16 r.actionCount ++ [0, 0]
  decode?
    | c₀ :: c₁ :: o₀ :: o₁ :: n₀ :: n₁ :: _ :: _ :: _ =>
      some ⟨word16 c₀ c₁, word16 o₀ o₁, word16 n₀ n₁⟩
    | _ => none

/-- The eight bytes that belong to the type of an animation. -/
structure Payload where
  b₀ : UInt8
  b₁ : UInt8
  b₂ : UInt8
  b₃ : UInt8
  b₄ : UInt8
  b₅ : UInt8
  b₆ : UInt8
  b₇ : UInt8
deriving DecidableEq, Repr

/-- The bytes of a payload. -/
def Payload.bytes (p : Payload) : List UInt8 :=
  [p.b₀, p.b₁, p.b₂, p.b₃, p.b₄, p.b₅, p.b₆, p.b₇]

/-- An animation on the die. -/
structure AnimationRecord where
  typeCode : UInt8
  flags : UInt8
  duration : UInt16
  faceMask : UInt32
  payload : Payload
deriving DecidableEq, Repr

instance : Codec AnimationRecord where
  size := 16
  encode r :=
    [r.typeCode, r.flags] ++ bytes16 r.duration ++ bytes32 r.faceMask ++ r.payload.bytes
  decode?
    | t :: f :: d₀ :: d₁ :: m₀ :: m₁ :: m₂ :: m₃
        :: p₀ :: p₁ :: p₂ :: p₃ :: p₄ :: p₅ :: p₆ :: p₇ :: _ =>
      some ⟨t, f, word16 d₀ d₁, word32 m₀ m₁ m₂ m₃, ⟨p₀, p₁, p₂, p₃, p₄, p₅, p₆, p₇⟩⟩
    | _ => none

/-- A span of keyframes for a set of LEDs. -/
structure TrackRecord where
  keyframeOffset : UInt16
  keyframeCount : UInt8
  ledMask : UInt32
deriving DecidableEq, Repr

instance : Codec TrackRecord where
  size := 8
  encode r := bytes16 r.keyframeOffset ++ [r.keyframeCount, 0] ++ bytes32 r.ledMask
  decode?
    | o₀ :: o₁ :: n :: _ :: m₀ :: m₁ :: m₂ :: m₃ :: _ =>
      some ⟨word16 o₀ o₁, n, word32 m₀ m₁ m₂ m₃⟩
    | _ => none

/-- A colour at a time, the whole duration being 65535. -/
structure KeyframeRecord where
  time : UInt16
  color : Color
deriving DecidableEq, Repr

instance : Codec KeyframeRecord where
  size := 6
  encode r := bytes16 r.time ++ [r.color.r, r.color.g, r.color.b, 0]
  decode?
    | t₀ :: t₁ :: r :: g :: b :: _ :: _ => some ⟨word16 t₀ t₁, ⟨r, g, b⟩⟩
    | _ => none

/-- A time between zero and one as a part of 65535; an undefined time counts as zero. -/
def quantizeTime (x : Binary32) : UInt16 :=
  let clamped := if x.lt .zero then .zero else if Binary32.one.lt x then .one else x
  UInt16.ofNat ((clamped.mul (.ofInt 65535)).toNearestNat 65535)

/-! ### Payloads -/

namespace Payload

def simple (color : Color) (count fade : UInt8) : Payload :=
  ⟨color.r, color.g, color.b, count, fade, 0, 0, 0⟩

def rainbow (count fade intensity cycles : UInt8) : Payload :=
  ⟨count, fade, intensity, cycles, 0, 0, 0, 0⟩

/-- The low byte of a word. -/
def lowByte (w : UInt16) : UInt8 := w.toUInt8

/-- The high byte of a word. -/
def highByte (w : UInt16) : UInt8 := (w >>> 8).toUInt8

def keyframed (offset count : UInt16) : Payload :=
  ⟨lowByte offset, highByte offset, lowByte count, highByte count, 0, 0, 0, 0⟩

def gradientPattern (offset count gradient : UInt16) (override : Bool) : Payload :=
  ⟨lowByte offset, highByte offset, lowByte count, highByte count, lowByte gradient,
    highByte gradient, if override then 1 else 0, 0⟩

def gradient (gradient : UInt16) : Payload :=
  ⟨lowByte gradient, highByte gradient, 0, 0, 0, 0, 0, 0⟩

def cycle (count fade intensity cycles : UInt8) (gradient : UInt16) : Payload :=
  ⟨count, fade, intensity, cycles, lowByte gradient, highByte gradient, 0, 0⟩

end Payload

namespace AnimationRecord

/-- The tracks of a pattern travel across the faces. -/
def travelingFlag : UInt8 := 1

/-- The masks of tracks select LEDs and not faces. -/
def ledIndicesFlag : UInt8 := 2

/-- The colour of a simple animation. -/
def simpleColor (r : AnimationRecord) : Color :=
  ⟨r.payload.b₀, r.payload.b₁, r.payload.b₂⟩

/-- The tracks of an animation that shows a pattern: their offset and number. -/
def trackSpan (r : AnimationRecord) : UInt16 × UInt16 :=
  (word16 r.payload.b₀ r.payload.b₁, word16 r.payload.b₂ r.payload.b₃)

/-- The track of the gradient of an animation that has one. -/
def gradientTrack? (r : AnimationRecord) : Option UInt16 :=
  if r.typeCode = 4 ∨ r.typeCode = 6 then some (word16 r.payload.b₄ r.payload.b₅)
  else if r.typeCode = 5 then some (word16 r.payload.b₀ r.payload.b₁)
  else none

end AnimationRecord

end DiceHost.DataSet
