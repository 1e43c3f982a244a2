/-
Profiles: what a die does and when.

* `Rule`: a condition and the actions that it triggers, in order;
* `Profile`: the rules for a shape of die, with a brightness;
* `Profile.animationRefs`: the animations that the rules play, in first-reference order;
* `Profile.setBrightness`: a new brightness, which also counts as a change.
-/
import DiceHost.Die.Kind
import DiceHost.Profile.Action
import DiceHost.Profile.Condition
import DiceHost.Timestamp

namespace DiceHost

open Numeric

/-- A condition and the actions that it triggers. -/
structure Rule where
  condition : Condition
  actions : List Action
deriving DecidableEq, Repr

namespace Rule

/-- The condition and all actions pass their checks. -/
def check (r : Rule) : Check := do
  r.condition.check
  Check.each Action.check r.actions

/-- A rule as an object. -/
def toJson (r : Rule) : Json :=
  .obj [("condition", r.condition.toJson), ("actions", .list Action.toJson r.actions)]

/-- A rule from an object. -/
def record : Json.Record Rule :=
  Rule.mk <$> .field "condition" Condition.decode
    <*> .field "actions" (Json.Decoder.list Action.decode)

end Rule

/-- The rules for a die. -/
structure Profile where
  uuid : Uuid
  name : String
  description : String
  dieKind : DieKind
  rules : List Rule
  /-- The factor by which every colour is scaled. -/
  brightness : Binary32
  created : Timestamp
  modified : Timestamp
deriving DecidableEq, Repr

namespace Profile

/-- A profile without description, at full brightness. -/
def new (uuid : Uuid) (name : String) (dieKind : DieKind) (rules : List Rule)
    (now : Timestamp) : Profile :=
  ⟨uuid, name, "", dieKind, rules, .one, now, now⟩

/-- A brightness is finite and not below zero. -/
def checkBrightness (x : Binary32) : Check :=
  Check.nonNegative .brightness x

/-- The brightness and all rules pass their checks. -/
def check (p : Profile) : Check := do
  checkBrightness p.brightness
  Check.each Rule.check p.rules

/-- A profile that counts as changed at `now`. -/
def touch (now : Timestamp) (p : Profile) : Profile :=
  { p with modified := now }

/-- The profile with a new brightness, changed at `now`. -/
def setBrightness (p : Profile) (x : Binary32) (now : Timestamp) :
    Except EntityError Profile := do
  checkBrightness x
  return { p with brightness := x }.touch now

/-- A list without the members that occur before. -/
def firsts {α : Type} [DecidableEq α] (xs : List α) : List α :=
  xs.foldl (fun seen x => if x ∈ seen then seen else seen ++ [x]) []

/-- The animations that the rules play, each where it is first named. -/
def animationRefs (p : Profile) : List Uuid :=
  firsts (p.rules.flatMap fun r => r.actions.filterMap Action.animation?)

/-- A profile as an object. -/
def toJson (p : Profile) : Json :=
  .obj [("uuid", p.uuid.toJson), ("name", .str p.name), ("description", .str p.description),
    ("die_type", p.dieKind.toJson), ("rules", .list Rule.toJson p.rules),
    ("brightness", .single p.brightness), ("created", p.created.toJson),
    ("modified", p.modified.toJson)]

/-- A profile from an object. -/
def record : Json.Record Profile :=
  Profile.mk <$> .field "uuid" Uuid.decode <*> .field "name" Json.Decoder.string
    <*> .defaulted "description" Json.Decoder.string ""
    <*> .defaulted "die_type" DieKind.decode .d20
    <*> .field "rules" (Json.Decoder.list Rule.record.decode)
    <*> .field "brightness" Json.Decoder.single <*> .field "created" Timestamp.decode
    <*> .field "modified" Timestamp.decode

end Profile

end DiceHost
