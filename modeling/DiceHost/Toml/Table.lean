/-
The tables of a configuration file while it is read.

* `Item`: a value that is complete, a table, or a list of tables; a table remembers what
  made it, since that decides how it may be extended;
* `Entries.descend`: a change of the table that a path leads to;
* `Entries.assign`, `Entries.open?`, `Entries.append?`: what a line does: a value under a
  key, a header of a table, a header of one more table of a list;
* `Entries.toNode`: the tables as a document.
-/
import DiceHost.Json.Node

namespace DiceHost.Toml

open Json

/-- What made a table. -/
inductive Origin where
  /-- A header of its own, or braces. -/
  | header
  /-- A header of a table inside it. -/
  | parent
  /-- A key of several parts. -/
  | dotted
deriving DecidableEq, Repr

/-- What stands under a key. -/
inductive Item where
  | value (n : Node)
  | table (origin : Origin) (entries : List (String × Item))
  /-- A list of tables, the last one first. -/
  | tables (all : List (List (String × Item)))

/-- The entries of a table, in their order. -/
abbrev Entries := List (String × Item)

namespace Entries

/-- The item of a key. -/
def get? (es : Entries) (k : String) : Option Item :=
  (es.find? (·.1 = k)).map (·.2)

/-- An item put in, in place of any other of the key. -/
def put (k : String) (x : Item) : Entries → Entries
  | [] => [(k, x)]
  | (k', y) :: es => if k = k' then (k, x) :: es else (k', y) :: put k x es

/-- The entries after a change of the table that a path leads to; a list stands for its
last table. Tables that are missing on the way are made. The parts of a key, `byKey`, do
not lead into a table with a header. -/
def descend (byKey : Bool) (f : Origin → Entries → Option Entries) :
    List String → Origin → Entries → Option Entries
  | [], origin, es => f origin es
  | k :: ks, _, es =>
    match get? es k with
    | none =>
      let origin := if byKey then .dotted else .parent
      (descend byKey f ks origin []).map fun inner => put k (.table origin inner) es
    | some (.value _) => none
    | some (.table origin inner) =>
      if byKey ∧ origin = .header then none
      else (descend byKey f ks origin inner).map fun inner => put k (.table origin inner) es
    | some (.tables []) => none
    | some (.tables (t :: ts)) =>
      (descend byKey f ks .header t).map fun t => put k (.tables (t :: ts)) es

/-- A value under a key that is new. A key of several parts leads only into tables made by
such keys. -/
def assign (path : List String) (n : Node) (es : Entries) : Option Entries :=
  let parents := path.dropLast
  path.getLast?.bind fun k =>
    descend true (fun origin es =>
      if (parents.isEmpty ∨ origin = .dotted) ∧ (get? es k).isNone then
        some (put k (.value n) es)
      else none) parents .header es

/-- A change of the table of a header. -/
def inTable (header : List String) (f : Entries → Option Entries) (es : Entries) :
    Option Entries :=
  descend false (fun _ es => f es) header .header es

/-- A header of a table: it is new, or known only from headers of tables inside it. -/
def open? (path : List String) (es : Entries) : Option Entries :=
  path.getLast?.bind fun k =>
    inTable path.dropLast (fun es =>
      match get? es k with
      | none => some (put k (.table .header []) es)
      | some (.table .parent inner) => some (put k (.table .header inner) es)
      | some _ => none) es

/-- A header of one more table of a list. -/
def append? (path : List String) (es : Entries) : Option Entries :=
  path.getLast?.bind fun k =>
    inTable path.dropLast (fun es =>
      match get? es k with
      | none => some (put k (.tables [[]]) es)
      | some (.tables ts) => some (put k (.tables ([] :: ts)) es)
      | some _ => none) es

end Entries

mutual

/-- An item as a value. -/
def Item.toNode : Item → Node
  | .value n => n
  | .table _ entries => .obj (entriesToNodes entries)
  | .tables all => .arr (tablesToNodes all [])

/-- The entries of a table as those of an object. -/
def entriesToNodes : List (String × Item) → List (String × Node)
  | [] => []
  | (k, x) :: es => (k, x.toNode) :: entriesToNodes es

/-- The tables of a list before some others, in their order. -/
def tablesToNodes : List (List (String × Item)) → List Node → List Node
  | [], done => done
  | es :: all, done => tablesToNodes all (.obj (entriesToNodes es) :: done)

end

/-- The entries of a table as an object. -/
def Entries.toNode (es : Entries) : Node := .obj (entriesToNodes es)

end DiceHost.Toml
