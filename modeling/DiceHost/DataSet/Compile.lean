/-
The compilation of profiles to data sets.

* `Limits`, `CompileOptions`: the sizes of the tables of a die;
* `compile`: the data set of a profile. Rules are taken in order; each gives one condition
  and a span of actions. An animation is emitted where it is first played, a pattern where
  it is first shown, and a gradient with the animation that owns it. Colours are scaled by
  the brightness of the profile;
* `CompileError`: why a profile has no data set;
* `dependencies`: the animations and patterns that a profile pulls in.
-/
import DiceHost.DataSet.Hash
import DiceHost.DataSet.View
import DiceHost.Library.Basic

namespace DiceHost.DataSet

open Numeric

/-! ### Options -/

/-- The sizes of the tables of a die. -/
structure Limits where
  conditions : Nat := 64
  actions : Nat := 64
  actionsPerRule : Nat := 32
  rules : Nat := 32
  animations : Nat := 64
  tracks : Nat := 256
  keyframes : Nat := 1024
deriving DecidableEq, Repr

/-- What a compilation depends on beside the profile and the library. -/
structure CompileOptions where
  limits : Limits := {}
deriving DecidableEq, Repr

namespace Limits

/-- The limits as an object. -/
def toJson (l : Limits) : Json :=
  .obj [("max_conditions", .nat l.conditions), ("max_actions", .nat l.actions),
    ("max_actions_per_rule", .nat l.actionsPerRule), ("max_rules", .nat l.rules),
    ("max_animations", .nat l.animations), ("max_tracks", .nat l.tracks),
    ("max_keyframes", .nat l.keyframes)]

/-- The limits from an object; those left out keep their defaults. -/
def record : Json.Record Limits :=
  let field (name : String) (default : Nat) := .defaulted name Json.Decoder.size default
  let d : Limits := {}
  Limits.mk <$> field "max_conditions" d.conditions <*> field "max_actions" d.actions
    <*> field "max_actions_per_rule" d.actionsPerRule <*> field "max_rules" d.rules
    <*> field "max_animations" d.animations <*> field "max_tracks" d.tracks
    <*> field "max_keyframes" d.keyframes

end Limits

namespace CompileOptions

/-- The options as an object. -/
def toJson (o : CompileOptions) : Json := .obj [("limits", o.limits.toJson)]

/-- The options from an object. -/
def record : Json.Record CompileOptions :=
  CompileOptions.mk <$> .defaulted "limits" Limits.record.decode {}

end CompileOptions

/-! ### Errors -/

/-- What a limit counts. -/
inductive Capacity where
  | rules
  | actionsPerRule
  | conditions
  | actions
  | animations
  | tracks
  | keyframes
deriving DecidableEq, Repr

/-- The name of what a limit counts. -/
def Capacity.name : Capacity → String
  | rules => "rules"
  | actionsPerRule => "actions per rule"
  | conditions => "conditions"
  | actions => "actions"
  | animations => "animations"
  | tracks => "tracks"
  | keyframes => "keyframes"

/-- Why a profile has no data set. -/
inductive CompileError where
  | dangling (kind : EntryKind) (uuid : Uuid)
  | capacity (what : Capacity) (count limit : Nat)
  | entity (e : EntityError)
  | unplayable (uuid : Uuid) (kind : String)
deriving DecidableEq, Repr

/-- The error in words. -/
def CompileError.message : CompileError → String
  | dangling kind uuid => s!"{kind.name} {uuid.text} is referenced but not in the library"
  | capacity what count limit =>
    s!"{what.name}: {count} exceeds the firmware limit of {limit}"
  | entity e => e.message
  | unplayable uuid kind =>
    s!"animation {uuid.text} is of type {kind}, which firmware cannot play"

/-- The error as an object. -/
def CompileError.toJson (e : CompileError) : Json :=
  match e with
  | dangling .. => .failure "DanglingReference" e.message
  | capacity .. => .failure "CapacityExceeded" e.message
  | entity e => e.toJson
  | unplayable .. => .failure "UnsupportedAnimation" e.message

/-! ### The result -/

/-- An action of the host, by the identifier under which the die reports it. -/
structure RemoteAction where
  id : UInt16
  action : Action
deriving DecidableEq, Repr

/-- The identifier of an action: the number of its rule and its place in the rule, a byte
each. -/
def remoteActionId (rule action : Nat) : UInt16 :=
  (UInt16.ofNat rule <<< 8) ||| (UInt16.ofNat action &&& 0xff)

/-- The data set of a profile. -/
structure Compiled where
  profile : Uuid
  contents : Contents
  bytes : List UInt8
  hash : UInt32
  remoteActions : List RemoteAction
  /-- The animations, in the order of their records. -/
  animations : List Uuid
deriving DecidableEq, Repr

namespace Compiled

/-- The counts of the sections. -/
def header (c : Compiled) : Header := c.contents.header

/-- The host action of an identifier. -/
def remoteAction? (c : Compiled) (id : UInt16) : Option Action :=
  (c.remoteActions.find? (·.id = id)).map (·.action)

end Compiled

/-! ### Records of conditions and settings -/

/-- The record of a condition. -/
def conditionRecord (c : Condition) : ConditionRecord :=
  let (flags, face, param) : UInt8 × UInt8 × UInt32 := match c with
    | .rolled mask => (0, 0, mask)
    | .crooked | .handling => (0, 0, 0)
    | .rolling ms => (0, 0, ms)
    | .idle ms => (0, 0, ms)
    | .batteryState flags ms => (flags.bits, 0, ms)
    | .connectionState flags => (flags.bits, 0, 0)
    | .helloGoodbye flags => (flags.bits, 0, 0)
    | .faceCompare face flags => (flags.bits, face.toUInt8, 0)
  ⟨c.typeCode, flags, face, param⟩

/-- A part of one as a part of 255. -/
def unitByte (x : Binary32) : UInt8 :=
  UInt8.ofNat ((x.mul (.ofInt 255)).toNearestNat 255)

/-- A number of cycles in tenths. -/
def cyclesByte (x : Binary32) : UInt8 :=
  UInt8.ofNat ((x.mul (.ofInt 10)).toNearestNat 255)

/-! ### Emission -/

/-- A span of tracks. -/
structure Span where
  offset : UInt16
  count : UInt16
deriving DecidableEq, Repr

/-- A data set that is being written. -/
structure Draft where
  contents : Contents := {}
  /-- The animations emitted so far, in the order of their records. -/
  animations : List Uuid := []
  /-- The spans of the patterns emitted so far. -/
  patterns : List (Uuid × Span) := []
  remoteActions : List RemoteAction := []

/-- What an emission reads: the scale of colours, the shape of the die, and the entities
of the library. -/
structure Source where
  brightness : Binary32
  dieKind : DieKind
  animation? : Uuid → Option Animation
  pattern? : Uuid → Option Pattern

namespace Source

/-- What the emission of a profile reads. -/
def ofProfile (p : Profile) (l : Library) : Source :=
  ⟨p.brightness, p.dieKind, l.animation?, l.pattern?⟩

/-- All faces that a mask can hold stand for the faces that the die has. -/
def narrow (s : Source) (mask : UInt32) : UInt32 :=
  if mask = Die.allFaces ∧ s.dieKind.allFaces ≠ 0 then s.dieKind.allFaces else mask

/-- The record of a keyframe. -/
def keyframeRecord (s : Source) (k : Keyframe) : KeyframeRecord :=
  ⟨quantizeTime k.time, k.color.scaled s.brightness⟩

end Source

/-- A step of an emission that adds to a draft. -/
abbrev Emit (α : Type) := StateT Draft (Except CompileError) α

/-- A track and its keyframes, giving the number of the track. -/
def emitTrack (s : Source) (keyframes : List Keyframe) (ledMask : UInt32) : Emit UInt16 :=
  fun d =>
    let c := d.contents
    let record : TrackRecord :=
      ⟨UInt16.ofNat c.keyframes.length, UInt8.ofNat keyframes.length, ledMask⟩
    .ok (UInt16.ofNat c.tracks.length,
      { d with contents :=
        { c with
          tracks := c.tracks ++ [record]
          keyframes := c.keyframes ++ keyframes.map s.keyframeRecord } })

/-- The tracks of a pattern, one after the other. -/
def emitTracks (s : Source) : List PatternTrack → Emit Unit
  | [] => pure ()
  | t :: ts => do
    let _ ← emitTrack s t.keyframes t.ledMask
    emitTracks s ts

/-- A pattern, emitted at its first use, giving the span of its tracks. -/
def emitPattern (s : Source) (u : Uuid) : Emit Span := do
  let d ← get
  match d.patterns.find? (·.1 = u) with
  | some (_, span) => return span
  | none =>
    match s.pattern? u with
    | none => throw (.dangling .pattern u)
    | some p =>
      match p.check with
      | .error e => throw (.entity e)
      | .ok () =>
        emitTracks s p.tracks
        let span : Span :=
          ⟨UInt16.ofNat d.contents.tracks.length, UInt16.ofNat p.tracks.length⟩
        modify fun d => { d with patterns := d.patterns ++ [(u, span)] }
        return span

/-- The tracks of an animation, giving its flags and its payload. -/
def emitPayload (s : Source) (a : Animation) : Emit (UInt8 × Payload) := do
  let traveling (b : Bool) : UInt8 := if b then AnimationRecord.travelingFlag else 0
  let gradientTrack (g : Gradient) := emitTrack s g.keyframes a.faceMask
  match a.kind with
  | .simple color count fade =>
    return (0, .simple (color.scaled s.brightness) count (unitByte fade))
  | .rainbow count fade intensity cycles t =>
    return (traveling t,
      .rainbow count (unitByte fade) (unitByte intensity) (cyclesByte cycles))
  | .keyframed pattern t useLedIndices =>
    let span ← emitPattern s pattern
    let flags := traveling t ||| (if useLedIndices then AnimationRecord.ledIndicesFlag else 0)
    return (flags, .keyframed span.offset span.count)
  | .gradientPattern pattern g override =>
    let span ← emitPattern s pattern
    return (0, .gradientPattern span.offset span.count (← gradientTrack g) override)
  | .gradient g => return (0, .gradient (← gradientTrack g))
  | .cycle g count fade intensity cycles =>
    return (0, .cycle count (unitByte fade) (unitByte intensity) (cyclesByte cycles)
      (← gradientTrack g))
  | .noise => throw (.unplayable a.uuid a.kind.name)

/-- The record of an animation, after its tracks. -/
def emitRecord (s : Source) (a : Animation) : Emit AnimationRecord := do
  let (flags, payload) ← emitPayload s a
  match a.kind.typeCode? with
  | none => throw (.unplayable a.uuid a.kind.name)
  | some typeCode => return ⟨typeCode, flags, a.duration.toUInt16, s.narrow a.faceMask, payload⟩

/-- An animation, emitted at its first use, giving its number. -/
def emitAnimation (s : Source) (u : Uuid) : Emit UInt16 := do
  match (← get).animations.findIdx? (· = u) with
  | some i => return UInt16.ofNat i
  | none =>
    match s.animation? u with
    | none => throw (.dangling .animation u)
    | some a =>
      match a.check with
      | .error e => throw (.entity e)
      | .ok () =>
        let record ← emitRecord s a
        let d ← get
        set { d with
          contents := { d.contents with animations := d.contents.animations ++ [record] }
          animations := d.animations ++ [u] }
        return UInt16.ofNat d.contents.animations.length

/-- The record of an action of the host. -/
def emitRemote (rule place : Nat) (a : Action) (loopCount : UInt8) : Emit ActionRecord := do
  let id := remoteActionId rule place
  modify fun d => { d with remoteActions := d.remoteActions ++ [⟨id, a⟩] }
  return ⟨a.typeCode, loopCount, id, 0⟩

/-- The record of an action, after the animation that it plays. -/
def emitAction (s : Source) (rule place : Nat) (a : Action) : Emit ActionRecord :=
  match a with
  | .playAnimation animation faceMask loopCount => do
    return ⟨a.typeCode, loopCount, ← emitAnimation s animation, faceMask⟩
  | .playAudioClip _ _ loopCount => emitRemote rule place a loopCount
  | .makeWebRequest .. | .speakText .. => emitRemote rule place a 1

/-- The actions of a rule from a place on. -/
def emitActions (s : Source) (rule : Nat) : Nat → List Action → Emit Unit
  | _, [] => pure ()
  | place, a :: rest => do
    let record ← emitAction s rule place a
    modify fun d =>
      { d with contents := { d.contents with actions := d.contents.actions ++ [record] } }
    emitActions s rule (place + 1) rest

/-- A count stays within a limit, and within the range of a 16-bit word. -/
def checkCapacity (what : Capacity) (count limit : Nat) : Except CompileError Unit :=
  let limit := min limit 65535
  if limit < count then .error (.capacity what count limit) else .ok ()

/-- A rule: its condition, its actions, and the record that joins them. -/
def emitRule (s : Source) (limits : Limits) (number : Nat) (r : Rule) : Emit Unit := do
  checkCapacity .actionsPerRule r.actions.length (min limits.actionsPerRule 256)
  let c := (← get).contents
  modify fun d =>
    { d with contents :=
      { d.contents with conditions := c.conditions ++ [conditionRecord r.condition] } }
  emitActions s number 0 r.actions
  let record : RuleRecord :=
    ⟨UInt16.ofNat c.conditions.length, UInt16.ofNat c.actions.length,
      UInt16.ofNat r.actions.length⟩
  modify fun d =>
    { d with contents := { d.contents with rules := d.contents.rules ++ [record] } }

/-- The rules of a profile from a number on. -/
def emitRules (s : Source) (limits : Limits) : Nat → List Rule → Emit Unit
  | _, [] => pure ()
  | number, r :: rest => do
    emitRule s limits number r
    emitRules s limits (number + 1) rest

/-- The sections stay within the limits. -/
def checkSections (limits : Limits) (c : Contents) : Except CompileError Unit := do
  checkCapacity .conditions c.conditions.length limits.conditions
  checkCapacity .actions c.actions.length limits.actions
  checkCapacity .animations c.animations.length limits.animations
  checkCapacity .tracks c.tracks.length limits.tracks
  checkCapacity .keyframes c.keyframes.length limits.keyframes

/-- The data set of a draft. -/
def Draft.finish (d : Draft) (profile : Uuid) : Compiled :=
  let bytes := d.contents.encode
  ⟨profile, d.contents, bytes, hash bytes, d.remoteActions, d.animations⟩

/-- The data set of a profile. -/
def compile (p : Profile) (l : Library) (options : CompileOptions) :
    Except CompileError Compiled := do
  p.check.mapError .entity
  let limits := options.limits
  checkCapacity .rules p.rules.length (min limits.rules 256)
  let ((), d) ← (emitRules (.ofProfile p l) limits 0 p.rules).run {}
  checkSections limits d.contents
  return d.finish p.uuid

/-- The data set of a profile of the library. -/
def compileProfile (u : Uuid) (l : Library) (options : CompileOptions) :
    Except CompileError Compiled :=
  match l.profile? u with
  | none => .error (.dangling .profile u)
  | some p => compile p l options

/-! ### Dependencies -/

/-- The animations and patterns that a profile pulls in, in first-reference order. -/
structure Dependencies where
  animations : List Uuid := []
  patterns : List Uuid := []
deriving DecidableEq, Repr

/-- The dependencies with those of one more animation. -/
def Dependencies.add (l : Library) (d : Dependencies) (u : Uuid) :
    Except CompileError Dependencies :=
  match l.animation? u with
  | none => .error (.dangling .animation u)
  | some a =>
    let animations := d.animations ++ [u]
    match a.pattern? with
    | none => .ok { d with animations }
    | some pattern =>
      if (l.pattern? pattern).isNone then .error (.dangling .pattern pattern)
      else if pattern ∈ d.patterns then .ok { d with animations }
      else .ok ⟨animations, d.patterns ++ [pattern]⟩

/-- What a profile pulls in. -/
def dependencies (p : Profile) (l : Library) : Except CompileError Dependencies :=
  p.animationRefs.foldlM (Dependencies.add l) {}

end DiceHost.DataSet
