/-
The library: profiles, animations and patterns, by their identifiers.

* `Table`: the values of one kind in an arena, with an index by which each is found;
* `EntryKind`: profiles, animations and patterns, each with its check;
* `Library`: a table for each kind; whatever is put in passes its check;
* `LibraryEvent`: what a change tells; every change that succeeds gives one event, and
  every other leaves the library as it is;
* `Library.ofContents`: the library of a list of entities.
-/
import DiceHost.Animation.Basic
import DiceHost.Library.Arena
import DiceHost.Profile.Basic

namespace DiceHost

/-! ### Tables -/

/-- The values that have an identifier of their own. -/
class Identified (α : Type) where
  uuid : α → Uuid

instance : Identified Profile := ⟨Profile.uuid⟩
instance : Identified Animation := ⟨Animation.uuid⟩
instance : Identified Pattern := ⟨Pattern.uuid⟩

/-- The values of one kind, and an index of their handles by identifier. -/
structure Table (α : Type) where
  arena : Arena α := {}
  index : List (Uuid × Handle) := []

namespace Table

variable {α : Type} [Identified α]

/-- The handle of an identifier. -/
def handle? (t : Table α) (u : Uuid) : Option Handle :=
  (t.index.find? (·.1 = u)).map (·.2)

/-- The value of an identifier. -/
def get? (t : Table α) (u : Uuid) : Option α :=
  (t.handle? u).bind t.arena.get?

/-- All values, in slot order. -/
def toList (t : Table α) : List α :=
  t.arena.toList.map (·.2)

/-- A value takes the place of the one with its identifier, or a new place. -/
def put (t : Table α) (x : α) : Table α × Handle :=
  let u := Identified.uuid x
  match (t.handle? u).filter fun h => (t.arena.get? h).isSome with
  | some h => ({ t with arena := t.arena.set h x }, h)
  | none =>
    let (arena, h) := t.arena.insert x
    (⟨arena, (u, h) :: t.index.filter (·.1 ≠ u)⟩, h)

/-- The value of an identifier leaves the table. -/
def remove (t : Table α) (u : Uuid) : Table α :=
  match t.handle? u with
  | some h => ⟨(t.arena.remove h).1, t.index.filter (·.1 ≠ u)⟩
  | none => t

end Table

/-! ### Kinds -/

/-- The kinds of entities. -/
inductive EntryKind where
  | profile
  | animation
  | pattern
deriving DecidableEq, Repr

namespace EntryKind

/-- The name of a kind. -/
def name : EntryKind → String
  | profile => "profile"
  | animation => "animation"
  | pattern => "pattern"

/-- The kind of a name. -/
def ofName? : String → Option EntryKind
  | "profile" => some profile
  | "animation" => some animation
  | "pattern" => some pattern
  | _ => none

/-- A kind from its name. -/
def decode : Json.Decoder EntryKind := Json.Decoder.word ofName?

/-- The entities of a kind. -/
def Entity : EntryKind → Type
  | profile => Profile
  | animation => Animation
  | pattern => Pattern

instance : (k : EntryKind) → Identified k.Entity
  | profile => inferInstanceAs (Identified Profile)
  | animation => inferInstanceAs (Identified Animation)
  | pattern => inferInstanceAs (Identified Pattern)

/-- The check of the entities of a kind. -/
def check : (k : EntryKind) → k.Entity → Check
  | profile => Profile.check
  | animation => Animation.check
  | pattern => Pattern.check

/-- An entity under another identifier. -/
def identify : (k : EntryKind) → Uuid → k.Entity → k.Entity
  | profile, u, (p : Profile) => { p with uuid := u }
  | animation, u, (a : Animation) => { a with uuid := u }
  | pattern, u, (p : Pattern) => { p with uuid := u }

end EntryKind

/-! ### Events -/

/-- What happened to an entity. -/
inductive Change where
  | added
  | changed
  | removed
deriving DecidableEq, Repr

/-- The name of a change. -/
def Change.name : Change → String
  | added => "added"
  | changed => "changed"
  | removed => "removed"

/-- A change of the library. -/
structure LibraryEvent where
  change : Change
  kind : EntryKind
  uuid : Uuid
deriving DecidableEq, Repr

namespace LibraryEvent

/-- An event as an object. -/
def toJson (e : LibraryEvent) : Json :=
  .obj [("change", .str e.change.name), ("kind", .str e.kind.name), ("uuid", e.uuid.toJson)]

/-- The events of one change. -/
def shape (c : Change) : Json.Record LibraryEvent :=
  LibraryEvent.mk c <$> .field "kind" EntryKind.decode <*> .field "uuid" Uuid.decode

/-- An event from an object. -/
def decode : Json.Decoder LibraryEvent :=
  Json.tagged "change" <|
    [Change.added, Change.changed, Change.removed].map fun c => (c.name, shape c)

end LibraryEvent

/-! ### The library -/

/-- Profiles, animations and patterns. -/
structure Library where
  profiles : Table Profile := {}
  animations : Table Animation := {}
  patterns : Table Pattern := {}

/-- Why a change of the library is refused. -/
inductive LibraryError where
  | notFound (kind : EntryKind) (uuid : Uuid)
  | entity (e : EntityError)

/-- The error in words. -/
def LibraryError.message : LibraryError → String
  | notFound kind uuid => s!"{kind.name} {uuid.text} not found"
  | entity e => e.message

/-- The error as an object. -/
def LibraryError.toJson (e : LibraryError) : Json :=
  match e with
  | notFound .. => .failure "NotFound" e.message
  | entity e => e.toJson

namespace Library

/-- The table of a kind. -/
def table (l : Library) : (k : EntryKind) → Table k.Entity
  | .profile => l.profiles
  | .animation => l.animations
  | .pattern => l.patterns

/-- The library with another table of a kind. -/
def withTable (l : Library) : (k : EntryKind) → Table k.Entity → Library
  | .profile, t => { l with profiles := t }
  | .animation, t => { l with animations := t }
  | .pattern, t => { l with patterns := t }

/-- The entity of a kind and an identifier. -/
def entity? (l : Library) (k : EntryKind) (u : Uuid) : Option k.Entity := (l.table k).get? u

/-- The profile of an identifier. -/
def profile? (l : Library) (u : Uuid) : Option Profile := l.profiles.get? u

/-- The animation of an identifier. -/
def animation? (l : Library) (u : Uuid) : Option Animation := l.animations.get? u

/-- The pattern of an identifier. -/
def pattern? (l : Library) (u : Uuid) : Option Pattern := l.patterns.get? u

/-! ### Changes -/

/-- A library after a change, what the change tells, and the handle of the entity. -/
structure Update where
  library : Library
  handle : Handle
  event : LibraryEvent

/-- What an entity put into a table tells: it is new, or it replaces another. -/
def putEvent (k : EntryKind) (t : Table k.Entity) (x : k.Entity) : LibraryEvent :=
  let u := Identified.uuid x
  ⟨if (t.get? u).isSome then .changed else .added, k, u⟩

/-- An entity that passes its check is put in. -/
def put (l : Library) (k : EntryKind) (x : k.Entity) : Except EntityError Update := do
  k.check x
  let (t, handle) := (l.table k).put x
  return ⟨l.withTable k t, handle, putEvent k (l.table k) x⟩

/-- An entity is edited; it keeps its identifier. -/
def edit (l : Library) (k : EntryKind) (u : Uuid) (f : k.Entity → k.Entity) :
    Except LibraryError Update :=
  match l.entity? k u with
  | none => .error (.notFound k u)
  | some x => (l.put k (k.identify u (f x))).mapError .entity

/-- An entity leaves the library; none when there is none. -/
def remove (l : Library) (k : EntryKind) (u : Uuid) : Option (Library × LibraryEvent) :=
  (l.entity? k u).map fun _ => (l.withTable k ((l.table k).remove u), ⟨.removed, k, u⟩)

/-- A profile that passes its check is put in. -/
def putProfile (l : Library) (p : Profile) : Except EntityError Update := l.put .profile p

/-- An animation that passes its check is put in. -/
def putAnimation (l : Library) (a : Animation) : Except EntityError Update := l.put .animation a

/-- A pattern that passes its check is put in. -/
def putPattern (l : Library) (p : Pattern) : Except EntityError Update := l.put .pattern p

/-- A profile is edited; it keeps its identifier and counts as modified now. -/
def editProfile (l : Library) (u : Uuid) (edit : Profile → Profile) (now : Timestamp) :
    Except LibraryError Update :=
  l.edit .profile u fun p => Profile.touch now (edit p)

/-- An animation is edited; it keeps its identifier. -/
def editAnimation (l : Library) (u : Uuid) (edit : Animation → Animation) :
    Except LibraryError Update :=
  l.edit .animation u edit

/-- A pattern is edited; it keeps its identifier. -/
def editPattern (l : Library) (u : Uuid) (edit : Pattern → Pattern) :
    Except LibraryError Update :=
  l.edit .pattern u edit

/-- A profile leaves the library; none when there is none. -/
def removeProfile (l : Library) (u : Uuid) : Option (Library × LibraryEvent) :=
  l.remove .profile u

/-- An animation leaves the library; none when there is none. -/
def removeAnimation (l : Library) (u : Uuid) : Option (Library × LibraryEvent) :=
  l.remove .animation u

/-- A pattern leaves the library; none when there is none. -/
def removePattern (l : Library) (u : Uuid) : Option (Library × LibraryEvent) :=
  l.remove .pattern u

/-- The profiles with an action that plays an animation. -/
def profilesUsing (l : Library) (animation : Uuid) : List Uuid :=
  (l.profiles.toList.filter fun p => animation ∈ p.animationRefs).map (·.uuid)

/-! ### Contents -/

/-- The entities of a library, in their orders. -/
structure Contents where
  profiles : List Profile := []
  animations : List Animation := []
  patterns : List Pattern := []

/-- The entities of a library. -/
def contents (l : Library) : Contents :=
  ⟨l.profiles.toList, l.animations.toList, l.patterns.toList⟩

/-- The library with some entities of a kind put in, one after the other. -/
def putAll (l : Library) (k : EntryKind) (xs : List k.Entity) : Except EntityError Library :=
  xs.foldlM (fun l x => (l.put k x).map (·.library)) l

/-- The library of some entities: patterns first, then animations, then profiles. -/
def ofContents (c : Contents) : Except EntityError Library := do
  let l ← putAll {} .pattern c.patterns
  let l ← l.putAll .animation c.animations
  l.putAll .profile c.profiles

end Library

end DiceHost
