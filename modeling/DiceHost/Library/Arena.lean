/-
Arenas: values in slots that are reused, named by handles that are not.

* `Handle`: a slot and the generation in which its value was put there;
* `Arena`: the slots, the stack of the free ones, and the number of values;
* `insert`, `get?`, `set`, `remove`, `toList`: the operations. Removing a value begins a
  new generation of its slot, so the handles of that value stay without meaning.
-/
import DiceHost.Json.Record

namespace DiceHost

/-- The name of a value: its slot and the generation of the slot. -/
structure Handle where
  index : UInt32
  generation : UInt32
deriving DecidableEq, Repr

namespace Handle

/-- A handle as an object. -/
def toJson (h : Handle) : Json :=
  .obj [("index", .nat h.index.toNat), ("generation", .nat h.generation.toNat)]

/-- A handle from an object. -/
def record : Json.Record Handle :=
  Handle.mk <$> .field "index" Json.Decoder.word32
    <*> .field "generation" Json.Decoder.word32

end Handle

/-- A place for a value. -/
structure Slot (α : Type) where
  generation : UInt32
  value : Option α
deriving Repr

/-- Slots, and the free ones among them, the last freed first. -/
structure Arena (α : Type) where
  slots : List (Slot α) := []
  free : List UInt32 := []
  /-- The number of values. -/
  len : Nat := 0
deriving Repr

namespace Arena

variable {α : Type}

/-- The slot that a handle names, if its generation is the current one. -/
def slot? (a : Arena α) (h : Handle) : Option (Slot α) :=
  (a.slots[h.index.toNat]?).filter (·.generation = h.generation)

/-- The value that a handle names. -/
def get? (a : Arena α) (h : Handle) : Option α :=
  (a.slot? h).bind (·.value)

/-- The arena with the value of a slot replaced. -/
def put (a : Arena α) (index : UInt32) (s : Slot α) : Arena α :=
  { a with slots := a.slots.set index.toNat s }

/-- A new value takes the slot freed last, or a slot of its own. -/
def insert (a : Arena α) (x : α) : Arena α × Handle :=
  match a.free with
  | index :: free =>
    let generation := (a.slots[index.toNat]?).elim 0 (·.generation)
    ({ a.put index ⟨generation, some x⟩ with free, len := a.len + 1 }, ⟨index, generation⟩)
  | [] =>
    ({ a with slots := a.slots ++ [⟨0, some x⟩], len := a.len + 1 },
      ⟨UInt32.ofNat a.slots.length, 0⟩)

/-- The value that a handle names is replaced; a handle without value changes nothing. -/
def set (a : Arena α) (h : Handle) (x : α) : Arena α :=
  if (a.get? h).isSome then a.put h.index ⟨h.generation, some x⟩ else a

/-- The value that a handle names leaves the arena; a handle without value changes nothing. -/
def remove (a : Arena α) (h : Handle) : Arena α × Option α :=
  match a.get? h with
  | some x =>
    ({ a.put h.index ⟨h.generation + 1, none⟩ with
        free := h.index :: a.free, len := a.len - 1 }, some x)
  | none => (a, none)

/-- The handle and value of a slot at a place. -/
def entry? (i : Nat) (s : Slot α) : Option (Handle × α) :=
  s.value.map (⟨UInt32.ofNat i, s.generation⟩, ·)

/-- The values with their handles, in slot order. -/
def toList (a : Arena α) : List (Handle × α) :=
  a.slots.zipIdx.filterMap fun (s, i) => entry? i s

end Arena

end DiceHost
