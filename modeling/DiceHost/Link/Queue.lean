/-
The queue of dice that wait for a connection.

* `Priority`: the two levels;
* `Queue`: the dice of each level, the first to be served at the front;
* `enqueue`, `remove`, `popWhere`: the operations. A request at the high level moves a die
  up, none moves it down, and `popWhere` serves the first eligible die of the high level,
  or else of the low one.
-/
import DiceHost.Die.Name

namespace DiceHost.Link

/-- The urgency of a request. -/
inductive Priority where
  | low
  | high
deriving DecidableEq, Repr

namespace Priority

/-- The name of a level. -/
def name : Priority → String
  | low => "low"
  | high => "high"

/-- The level of a name. -/
def ofName? : String → Option Priority
  | "low" => some low
  | "high" => some high
  | _ => none

/-- A level as its name. -/
def toJson (p : Priority) : Json := .str p.name

/-- A level from its name. -/
def decode : Json.Decoder Priority := Json.Decoder.word ofName?

/-- The more urgent of two levels. -/
def max : Priority → Priority → Priority
  | low, p => p
  | high, _ => high

end Priority

/-- What a request changed. -/
inductive Enqueued where
  | added
  | promoted
  | unchanged
deriving DecidableEq, Repr

/-- The name of a change. -/
def Enqueued.name : Enqueued → String
  | added => "added"
  | promoted => "promoted"
  | unchanged => "unchanged"

/-- The dice that wait, by level. -/
structure Queue where
  high : List PixelId := []
  low : List PixelId := []
deriving DecidableEq, Repr

namespace Queue

/-- The level at which a die waits. -/
def priority? (q : Queue) (p : PixelId) : Option Priority :=
  if p ∈ q.high then some .high else if p ∈ q.low then some .low else none

/-- A die waits at a level, unless it waits there or above already. -/
def enqueue (q : Queue) (p : PixelId) (level : Priority) : Queue × Enqueued :=
  match q.priority? p, level with
  | none, .high => ({ q with high := q.high ++ [p] }, .added)
  | none, .low => ({ q with low := q.low ++ [p] }, .added)
  | some .low, .high => (⟨q.high ++ [p], q.low.filter (· ≠ p)⟩, .promoted)
  | some _, _ => (q, .unchanged)

/-- A die no longer waits. -/
def remove (q : Queue) (p : PixelId) : Queue :=
  ⟨q.high.filter (· ≠ p), q.low.filter (· ≠ p)⟩

/-- The first eligible die is served; those passed over keep their places. -/
def popWhere (q : Queue) (eligible : PixelId → Bool) : Option ((PixelId × Priority) × Queue) :=
  match q.high.find? eligible with
  | some p => some ((p, .high), { q with high := q.high.erase p })
  | none =>
    match q.low.find? eligible with
    | some p => some ((p, .low), { q with low := q.low.erase p })
    | none => none

/-- The number of dice that wait. -/
def length (q : Queue) : Nat :=
  q.high.length + q.low.length

/-- The dice of each level. -/
def toJson (q : Queue) : Json :=
  .obj [("high", .list PixelId.toJson q.high), ("low", .list PixelId.toJson q.low)]

end Queue

end DiceHost.Link
