/-
A written document is read as it was.

* `Json.node`: what is read where a document was written;
* `Json.Legible`: plain documents in which every number is written as one;
* `Json.Readable`: the numbers of a document are read back from their texts;
* `Json.Modest`: documents that are nested no deeper than a bound, with naturals of 64 bits;
* `Node.value_prettyAt`: **the indented text of a document is read as that document, wherever it
  stands**;
* `Node.read_pretty`: so is the text of a whole document.

The fuel of the reader is compared with the length of the text: each array, object, item and entry
has a mark or a line break of its own, and takes up one unit.
-/
import Mathlib.Data.List.DropRight
import DiceHost.Proofs.Json.Compact
import DiceHost.Proofs.Json.Numeral

namespace DiceHost.Json

open Numeric

/-! ### What is read -/

/-- What is read where a number was written. -/
def numberNode (cs : List Char) : Node :=
  (Node.number? cs).elim (.fault .malformed) (·.1)

mutual

/-- What is read where a document was written. -/
def node : Json → Node
  | .null => .null
  | .bool b => .bool b
  | .int n => .int n
  | .single x => numberNode x.text
  | .double x => numberNode x.text
  | .str s => .str s
  | .arr items => .arr (nodeItems items)
  | .obj entries => .obj (nodeEntries entries)

/-- What is read where items were written. -/
def nodeItems : List Json → List Node
  | [] => []
  | j :: js => j.node :: nodeItems js

/-- What is read where entries were written. -/
def nodeEntries : List (String × Json) → List (String × Node)
  | [] => []
  | (k, j) :: es => (k, j.node) :: nodeEntries es

end

lemma nodeItems_eq (items : List Json) : nodeItems items = items.map node := by
  induction items with
  | nil => rfl
  | cons j js ih => rw [nodeItems, ih, List.map_cons]

lemma nodeEntries_eq (entries : List (String × Json)) :
    nodeEntries entries = entries.map fun e => (e.1, e.2.node) := by
  induction entries with
  | nil => rfl
  | cons e es ih => rw [nodeEntries, ih, List.map_cons]

/-! ### Documents that can be read back -/

/-- A plain document in which no number is written as `null`. -/
inductive Legible : Json → Prop
  | null : Legible .null
  | bool (b : Bool) : Legible (.bool b)
  | int (n : ℤ) : Legible (.int n)
  | single {x : Binary32} (h : x.isFinite = true) : Legible (.single x)
  | str (s : String) : Legible (.str s)
  | arr {items : List Json} (h : ∀ j ∈ items, Legible j) : Legible (.arr items)
  | obj {entries : List (String × Json)} (h : ∀ e ∈ entries, Legible e.2) :
      Legible (.obj entries)

lemma Definite.legible {j : Json} (h : j.Definite) : j.Legible := by
  induction h with
  | bool b => exact .bool b
  | int n => exact .int n
  | single hx => exact .single hx
  | str s => exact .str s
  | arr _ ih => exact .arr ih
  | obj _ ih => exact .obj ih

lemma legible_opt {α : Type} {f : α → Json} {o : Option α} (h : ∀ x ∈ o, (f x).Legible) :
    (opt f o).Legible := by
  cases o with
  | none => exact .null
  | some x => exact h x rfl

/-! ### The numbers of a document -/

mutual

/-- The numbers of the 32-bit format in a document. -/
def singles : Json → List Binary32
  | .single x => [x]
  | .arr items => singlesItems items
  | .obj entries => singlesEntries entries
  | _ => []

/-- The numbers in items. -/
def singlesItems : List Json → List Binary32
  | [] => []
  | j :: js => j.singles ++ singlesItems js

/-- The numbers in entries. -/
def singlesEntries : List (String × Json) → List Binary32
  | [] => []
  | (_, j) :: es => j.singles ++ singlesEntries es

end

/-- Each number of a document is read back from its text. -/
def Readable (j : Json) : Prop :=
  ∀ x ∈ j.singles, Binary32.read? x.text = some x

instance (j : Json) : Decidable j.Readable :=
  inferInstanceAs (Decidable (∀ x ∈ j.singles, Binary32.read? x.text = some x))

@[simp] lemma readable_single {x : Binary32} :
    (single x).Readable ↔ Binary32.read? x.text = some x := by
  simp [Readable, singles]

@[simp] lemma readable_arr {items : List Json} :
    (arr items).Readable ↔ ∀ j ∈ items, j.Readable := by
  simp only [Readable, singles]
  induction items with
  | nil => simp [singlesItems]
  | cons j js ih => simp [singlesItems, or_imp, forall_and, ih]

@[simp] lemma readable_obj {entries : List (String × Json)} :
    (obj entries).Readable ↔ ∀ e ∈ entries, e.2.Readable := by
  simp only [Readable, singles]
  induction entries with
  | nil => simp [singlesEntries]
  | cons e es ih =>
      rw [singlesEntries, List.forall_mem_cons, List.forall_mem_append, ih]

@[simp] lemma readable_list {α : Type} {f : α → Json} {xs : List α} :
    (list f xs).Readable ↔ ∀ x ∈ xs, (f x).Readable := by
  rw [list, readable_arr, List.forall_mem_map]

lemma readable_opt {α : Type} {f : α → Json} {o : Option α} (h : ∀ x ∈ o, (f x).Readable) :
    (opt f o).Readable := by
  cases o with
  | none => exact List.forall_mem_nil _
  | some x => exact h x rfl

/-! ### Nesting -/

/-- A document nested at most `d` deep, whose integers are naturals of 64 bits. -/
inductive Modest : ℕ → Json → Prop
  | null {d : ℕ} : Modest d .null
  | bool {d : ℕ} (b : Bool) : Modest d (.bool b)
  | nat {d n : ℕ} (h : n < UInt64.size) : Modest d (.int n)
  | single {d : ℕ} (x : Binary32) : Modest d (.single x)
  | str {d : ℕ} (s : String) : Modest d (.str s)
  | arr {d : ℕ} {items : List Json} (h : ∀ j ∈ items, Modest d j) : Modest (d + 1) (.arr items)
  | obj {d : ℕ} {entries : List (String × Json)} (h : ∀ e ∈ entries, Modest d e.2) :
      Modest (d + 1) (.obj entries)

/-! ### The first character -/

lemma prettyAt_arr {items : List Json} (level : ℕ) (h : items ≠ []) :
    (Json.arr items).prettyAt level
      = '[' :: (prettyItems (level + 1) items ++ (newline level ++ [']'])) := by
  cases items with
  | nil => exact absurd rfl h
  | cons j js => rfl

lemma prettyAt_obj {entries : List (String × Json)} (level : ℕ) (h : entries ≠ []) :
    (Json.obj entries).prettyAt level
      = '\x7b' :: (prettyEntries (level + 1) entries ++ (newline level ++ ['\x7d'])) := by
  cases entries with
  | nil => exact absurd rfl h
  | cons e es => rfl

/-- The indented text of a document begins as the compact one does. -/
lemma head_prettyAt {j : Json} (h : j.Legible) (level : ℕ) :
    ∃ c cs, j.prettyAt level = c :: cs ∧ j.Opens c := by
  cases h with
  | null => exact head_compact .null
  | bool b => exact head_compact (.bool b)
  | int n => exact head_compact (.int n)
  | single _ => exact head_compact (.single _)
  | str s => exact head_compact (.str s)
  | @arr items _ =>
      cases items <;> exact ⟨_, _, rfl, rfl⟩
  | @obj entries _ =>
      cases entries <;> exact ⟨_, _, rfl, rfl⟩

lemma prettyAt_ne_nil {j : Json} (h : j.Legible) (level : ℕ) : j.prettyAt level ≠ [] := by
  obtain ⟨c, cs, htext, -⟩ := head_prettyAt h level
  rw [htext]
  exact List.cons_ne_nil c cs

lemma isSpace_of_number {c : Char} (h : c = '-' ∨ c.isDigit = true) : Node.isSpace c = false := by
  rcases h with rfl | hd
  · rfl
  · by_contra hspace
    simp only [Node.isSpace, Bool.not_eq_false, Bool.or_eq_true, decide_eq_true_eq] at hspace
    rcases hspace with ((rfl | rfl) | rfl) | rfl <;> cases hd

/-- A document does not begin with white space or a closing mark. -/
lemma Opens.ne {j : Json} {c : Char} (hj : j.Legible) (h : j.Opens c) :
    Node.isSpace c = false ∧ c ≠ ']' := by
  have hnumber (hc : c = '-' ∨ c.isDigit = true) : Node.isSpace c = false ∧ c ≠ ']' := by
    refine ⟨isSpace_of_number hc, ?_⟩
    rintro rfl
    rcases hc with h | h <;> cases h
  cases hj with
  | bool b => cases b <;> cases h <;> decide
  | int n => exact hnumber h
  | single hx =>
      rw [Opens, if_pos hx] at h
      exact hnumber h
  | null | str | arr | obj =>
      cases h
      decide

namespace Node

/-! ### White space -/

lemma skip_cons {c : Char} (h : isSpace c = false) (cs : List Char) : skip (c :: cs) = c :: cs :=
  List.dropWhile_cons_of_neg (by rw [h]; decide)

lemma skip_newline (level : ℕ) (cs : List Char) : skip (newline level ++ cs) = skip cs := by
  have hspace : ∀ c ∈ newline level, isSpace c = true := by
    intro c hc
    rcases List.mem_cons.mp hc with rfl | hc
    · rfl
    · rw [(List.mem_replicate.mp hc).2]
      rfl
  exact List.dropWhile_append_of_pos hspace

lemma skip_prettyAt {j : Json} (hj : j.Legible) (level : ℕ) (r : List Char) :
    skip (j.prettyAt level ++ r) = j.prettyAt level ++ r := by
  obtain ⟨c, cs, htext, hc⟩ := head_prettyAt hj level
  rw [htext, List.cons_append, skip_cons (hc.ne hj).1]

/-- White space before a value does not matter. -/
lemma value_of_skip {cs cs' : List Char} (h : skip cs = skip cs') (fuel : ℕ) :
    value fuel cs = value fuel cs' := by
  cases fuel with
  | zero => rfl
  | succ fuel => rw [value, value, h]

lemma items_of_skip {cs cs' : List Char} (h : skip cs = skip cs') (fuel : ℕ) :
    items fuel cs = items fuel cs' := by
  cases fuel with
  | zero => rfl
  | succ fuel => rw [items, items, value_of_skip h]

lemma entries_of_skip {cs cs' : List Char} (h : skip cs = skip cs') (fuel : ℕ) :
    entries fuel cs = entries fuel cs' := by
  cases fuel with
  | zero => rfl
  | succ fuel => rw [entries, entries, h]

/-! ### Values without parts -/

lemma value_null (fuel : ℕ) (r : List Char) :
    value (fuel + 1) (scalar .null ++ r) = (.null, some r) := rfl

lemma value_bool (b : Bool) (fuel : ℕ) (r : List Char) :
    value (fuel + 1) (scalar (.bool b) ++ r) = (.bool b, some r) := by
  cases b <;> rfl

lemma value_str (s : String) (fuel : ℕ) (r : List Char) :
    value (fuel + 1) (quote s ++ r) = (.str s, some r) := by
  have hstring : stringOrStop (s.toList.flatMap escape ++ '"' :: r) = (.str s, some r) := by
    rw [stringOrStop, pieces?_flatMap_escape]
    dsimp only
    rw [join?_map_piece]
    dsimp only
    rw [String.ofList_toList]
  rw [← hstring, quote, List.cons_append, List.append_assoc]
  rfl

/-- What begins as a number is read as one. -/
lemma value_of_number {cs : List Char} {n : Node} (hcs : ∃ c cs', cs = c :: cs' ∧
    (c = '-' ∨ c.isDigit = true)) (hn : number? cs = some (n, [])) (fuel : ℕ) {r : List Char}
    (hr : Ends r) : value (fuel + 1) (cs ++ r) = (n, some r) := by
  obtain ⟨c, cs', rfl, hc⟩ := hcs
  have hread : numberOrStop (c :: cs' ++ r) = (n, some r) := by
    rw [numberOrStop, number?_append hr, hn]
    rfl
  rw [← hread, List.cons_append]
  generalize cs' ++ r = ds
  rw [value, skip_cons (isSpace_of_number hc)]
  split
  case h_7 => rfl
  -- no other value begins with a sign or a digit
  all_goals
    next heq =>
      cases heq
      rcases hc with h | h <;> cases h

lemma number?_of_read? {x : Binary32} (h : Binary32.read? x.text = some x) :
    number? x.text = some (numberNode x.text, []) := by
  obtain ⟨n, hn, -⟩ := Binary32.read?_eq_some.mp h
  rw [numberNode, hn]
  rfl

/-! ### Items and entries -/

section Parts

variable {fuel : ℕ} {cs rest r r' : List Char} {n : Node} {k : String}

lemma items_last (hv : value fuel cs = (n, some rest)) (hrest : skip rest = ']' :: r) :
    items (fuel + 1) cs = ([n], some r) := by
  rw [items, hv]
  dsimp only
  rw [hrest]
  rfl

lemma items_more (hv : value fuel cs = (n, some (',' :: r))) :
    items (fuel + 1) cs = (n :: (items fuel r).1, (items fuel r).2) := by
  rw [items, hv]
  rfl

lemma key?_quote (k : String) (r : List Char) : key? (quote k ++ ':' :: r) = some (k, r) := by
  rw [quote, List.cons_append, List.append_assoc, List.singleton_append, key?,
    pieces?_flatMap_escape]
  simp only [Option.bind_eq_bind, Option.bind_some, join?_map_piece]
  rw [String.ofList_toList]
  rfl

lemma entries_last (hk : key? (skip cs) = some (k, r')) (hv : value fuel r' = (n, some rest))
    (hrest : skip rest = '\x7d' :: r) : entries (fuel + 1) cs = ([(k, n)], some r) := by
  rw [entries, hk]
  dsimp only
  rw [hv]
  dsimp only
  rw [hrest]
  rfl

lemma entries_more (hk : key? (skip cs) = some (k, r'))
    (hv : value fuel r' = (n, some (',' :: r))) :
    entries (fuel + 1) cs = ((k, n) :: (entries fuel r).1, (entries fuel r).2) := by
  rw [entries, hk]
  dsimp only
  rw [hv]
  rfl

end Parts

/-- A text is read as a value wherever it stands. -/
def Gives (cs : List Char) (n : Node) : Prop :=
  ∀ fuel r, cs.length ≤ fuel → Ends r → value fuel (cs ++ r) = (n, some r)

lemma gives_of_succ {cs : List Char} {n : Node} (hne : cs ≠ [])
    (h : ∀ fuel r, cs.length ≤ fuel + 1 → Ends r → value (fuel + 1) (cs ++ r) = (n, some r)) :
    Gives cs n := by
  intro fuel r hfuel hr
  have hpos := List.length_pos_iff.mpr hne
  obtain ⟨fuel, rfl⟩ : ∃ f, fuel = f + 1 := ⟨fuel - 1, by omega⟩
  exact h fuel r hfuel hr

lemma length_newline (level : ℕ) : (newline level).length = 2 * level + 1 := by
  rw [newline, List.length_cons, List.length_replicate]

lemma prettyItems_cons_cons (level : ℕ) (j j' : Json) (js : List Json) :
    prettyItems level (j :: j' :: js)
      = newline level ++ (j.prettyAt level ++ ',' :: prettyItems level (j' :: js)) := rfl

lemma prettyEntries_cons_cons (level : ℕ) (k : String) (j : Json) (e : String × Json)
    (es : List (String × Json)) : prettyEntries level ((k, j) :: e :: es)
      = newline level ++ (quote k ++ ':' :: ' ' ::
        (j.prettyAt level ++ ',' :: prettyEntries level (e :: es))) := rfl

/-- Items on lines of their own are read one after the other. -/
lemma items_prettyItems {level : ℕ} {js : List Json} (hne : js ≠ [])
    (hjs : ∀ j ∈ js, Gives (j.prettyAt level) j.node) {close r : List Char} (hends : Ends close)
    (hclose : skip close = ']' :: r) {fuel : ℕ} (hfuel : (prettyItems level js).length ≤ fuel) :
    items fuel (prettyItems level js ++ close) = (nodeItems js, some r) := by
  induction js generalizing fuel with
  | nil => exact absurd rfl hne
  | cons j js ih =>
      have hnewline := length_newline level
      have hj := hjs j List.mem_cons_self
      cases js with
      | nil =>
          rw [prettyItems, List.length_append] at hfuel
          obtain ⟨fuel, rfl⟩ : ∃ f, fuel = f + 1 := ⟨fuel - 1, by omega⟩
          rw [prettyItems, List.append_assoc, items_of_skip (skip_newline level _)]
          exact items_last (hj fuel close (by omega) hends) hclose
      | cons j' js =>
          rw [prettyItems_cons_cons, List.length_append, List.length_append,
            List.length_cons] at hfuel
          obtain ⟨fuel, rfl⟩ : ∃ f, fuel = f + 1 := ⟨fuel - 1, by omega⟩
          rw [prettyItems_cons_cons, List.append_assoc, items_of_skip (skip_newline level _),
            List.append_assoc, List.cons_append,
            items_more (hj fuel _ (by omega) (ends_comma _)),
            ih (List.cons_ne_nil j' js) (fun i hi => hjs i (List.mem_cons_of_mem _ hi)) (by omega)]
          rfl

/-- Entries on lines of their own are read one after the other. -/
lemma entries_prettyEntries {level : ℕ} {es : List (String × Json)} (hne : es ≠ [])
    (hes : ∀ e ∈ es, Gives (e.2.prettyAt level) e.2.node) {close r : List Char}
    (hends : Ends close) (hclose : skip close = '\x7d' :: r) {fuel : ℕ}
    (hfuel : (prettyEntries level es).length ≤ fuel) :
    entries fuel (prettyEntries level es ++ close) = (nodeEntries es, some r) := by
  have hkey (k : String) (cs : List Char) :
      key? (skip (newline level ++ (quote k ++ ':' :: cs))) = some (k, cs) := by
    rw [skip_newline, quote, List.cons_append, skip_cons rfl, ← List.cons_append, ← quote,
      key?_quote]
  induction es generalizing fuel with
  | nil => exact absurd rfl hne
  | cons e es ih =>
      obtain ⟨k, j⟩ := e
      have hnewline := length_newline level
      have hj (fuel : ℕ) (r : List Char) (hfuel : (j.prettyAt level).length ≤ fuel)
          (hr : Ends r) : value fuel (' ' :: (j.prettyAt level ++ r)) = (j.node, some r) := by
        rw [value_of_skip (List.dropWhile_cons_of_pos rfl : skip _ = skip _)]
        exact hes (k, j) List.mem_cons_self fuel r hfuel hr
      cases es with
      | nil =>
          rw [prettyEntries, List.length_append, List.length_append, List.length_cons,
            List.length_cons] at hfuel
          obtain ⟨fuel, rfl⟩ : ∃ f, fuel = f + 1 := ⟨fuel - 1, by omega⟩
          simp only [prettyEntries, List.append_assoc, List.cons_append]
          exact entries_last (hkey k _) (hj fuel close (by omega) hends) hclose
      | cons e' es =>
          simp only [prettyEntries_cons_cons, List.length_append, List.length_cons] at hfuel
          obtain ⟨fuel, rfl⟩ : ∃ f, fuel = f + 1 := ⟨fuel - 1, by omega⟩
          simp only [prettyEntries_cons_cons, List.append_assoc, List.cons_append]
          rw [entries_more (hkey k _) (hj fuel _ (by omega) (ends_comma _)),
            ih (List.cons_ne_nil e' es) (fun i hi => hes i (List.mem_cons_of_mem _ hi)) (by omega)]
          rfl

/-! ### Documents -/

lemma skip_skip (cs : List Char) : skip (skip cs) = skip cs :=
  List.dropWhile_idempotent isSpace cs

/-- An array that does not close at once is read item by item. -/
lemma value_arr {cs : List Char} (h : ∀ rest, skip cs ≠ ']' :: rest) (fuel : ℕ) :
    value (fuel + 1) ('[' :: cs) = (.arr (items fuel cs).1, (items fuel cs).2) := by
  rw [value, skip_cons rfl]
  -- by `h` the array does not close
  simp only
  rw [items_of_skip (skip_skip cs)]

/-- An object that does not close at once is read entry by entry. -/
lemma value_obj {cs : List Char} (h : ∀ rest, skip cs ≠ '\x7d' :: rest) (fuel : ℕ) :
    value (fuel + 1) ('\x7b' :: cs) = (.obj (entries fuel cs).1, (entries fuel cs).2) := by
  rw [value, skip_cons rfl]
  -- by `h` the object does not close
  simp only
  rw [entries_of_skip (skip_skip cs)]

lemma prettyItems_cons (level : ℕ) (j : Json) (js : List Json) :
    ∃ cs, prettyItems level (j :: js) = newline level ++ (j.prettyAt level ++ cs) := by
  cases js with
  | nil => exact ⟨[], by rw [prettyItems, List.append_nil]⟩
  | cons j' js => exact ⟨',' :: prettyItems level (j' :: js), rfl⟩

lemma prettyEntries_cons (level : ℕ) (e : String × Json) (es : List (String × Json)) :
    ∃ cs, prettyEntries level (e :: es) = newline level ++ '"' :: cs := by
  cases es with
  | nil => exact ⟨_, rfl⟩
  | cons e' es => exact ⟨_, rfl⟩

/-- An array is read when its items are. -/
lemma gives_arr {items : List Json} (hitems : ∀ j ∈ items, j.Legible) (level : ℕ)
    (h : ∀ j ∈ items, Gives (j.prettyAt (level + 1)) j.node) :
    Gives ((Json.arr items).prettyAt level) (Json.arr items).node := by
  refine gives_of_succ (prettyAt_ne_nil (.arr hitems) level) fun fuel r hfuel _ => ?_
  cases items with
  | nil => rfl
  | cons i is =>
      have hopen (cs rest : List Char) :
          skip (prettyItems (level + 1) (i :: is) ++ cs) ≠ ']' :: rest := by
        obtain ⟨ds, hds⟩ := prettyItems_cons (level + 1) i is
        have hi := hitems i List.mem_cons_self
        obtain ⟨c, cs', htext, hc⟩ := head_prettyAt hi (level + 1)
        rw [hds, List.append_assoc, skip_newline, List.append_assoc, skip_prettyAt hi, htext]
        exact fun heq => (hc.ne hi).2 (List.cons.inj heq).1
      rw [prettyAt_arr level (List.cons_ne_nil i is)] at hfuel ⊢
      simp only [List.length_cons, List.length_append] at hfuel
      have hparts : Node.items fuel
          (prettyItems (level + 1) (i :: is) ++ (newline level ++ ']' :: r))
          = (nodeItems (i :: is), some r) :=
        items_prettyItems (List.cons_ne_nil i is) h (ends_newline _) (skip_newline level _)
          (by omega)
      rw [List.cons_append, List.append_assoc, List.append_assoc, List.singleton_append,
        value_arr (hopen _), hparts]
      rfl

/-- An object is read when its entries are. -/
lemma gives_obj {entries : List (String × Json)} (hentries : ∀ e ∈ entries, e.2.Legible)
    (level : ℕ) (h : ∀ e ∈ entries, Gives (e.2.prettyAt (level + 1)) e.2.node) :
    Gives ((Json.obj entries).prettyAt level) (Json.obj entries).node := by
  refine gives_of_succ (prettyAt_ne_nil (.obj hentries) level) fun fuel r hfuel _ => ?_
  cases entries with
  | nil => rfl
  | cons e es =>
      have hopen (cs rest : List Char) :
          skip (prettyEntries (level + 1) (e :: es) ++ cs) ≠ '\x7d' :: rest := by
        obtain ⟨ds, hds⟩ := prettyEntries_cons (level + 1) e es
        rw [hds, List.append_assoc, skip_newline, List.cons_append, skip_cons rfl]
        nofun
      rw [prettyAt_obj level (List.cons_ne_nil e es)] at hfuel ⊢
      simp only [List.length_cons, List.length_append] at hfuel
      have hparts : Node.entries fuel
          (prettyEntries (level + 1) (e :: es) ++ (newline level ++ '\x7d' :: r))
          = (nodeEntries (e :: es), some r) :=
        entries_prettyEntries (List.cons_ne_nil e es) h (ends_newline _) (skip_newline level _)
          (by omega)
      rw [List.cons_append, List.append_assoc, List.append_assoc, List.singleton_append,
        value_obj (hopen _), hparts]
      rfl

/-- **The indented text of a document is read as that document, wherever it stands.** -/
theorem value_prettyAt {j : Json} (hj : j.Legible) {d : ℕ} (hm : j.Modest d) (hread : j.Readable)
    (level : ℕ) : Gives (j.prettyAt level) j.node := by
  induction hj generalizing d level with
  | null => exact gives_of_succ (prettyAt_ne_nil .null level) fun fuel r _ _ => value_null fuel r
  | bool b =>
      exact gives_of_succ (prettyAt_ne_nil (.bool b) level) fun fuel r _ _ => value_bool b fuel r
  | int n =>
      refine gives_of_succ (prettyAt_ne_nil (.int n) level) fun fuel r _ hr => ?_
      cases hm with
      | nat hn => exact value_of_number (head_integer _) (number?_nat hn) fuel hr
  | @single x hx =>
      refine gives_of_succ (prettyAt_ne_nil (.single hx) level) fun fuel r _ hr => ?_
      have htext : (single x).prettyAt level = x.text := if_pos hx
      rw [htext]
      exact value_of_number (Binary32.head_text x) (number?_of_read? (readable_single.mp hread))
        fuel hr
  | str s =>
      exact gives_of_succ (prettyAt_ne_nil (.str s) level) fun fuel r _ _ => value_str s fuel r
  | arr hitems ih =>
      cases hm with
      | arr hmodest =>
          exact gives_arr hitems level fun j hj =>
            ih j hj (hmodest j hj) (readable_arr.mp hread j hj) (level + 1)
  | obj hentries ih =>
      cases hm with
      | obj hmodest =>
          exact gives_obj hentries level fun e he =>
            ih e he (hmodest e he) (readable_obj.mp hread e he) (level + 1)

/-! ### Whole texts -/

/-- What is read as a number is a value without parts. -/
lemma eq_of_single {n : Node} {x : Binary32} (h : Decoder.single n = .ok x) :
    (∃ i, n = .int i) ∨ ∃ y, n = .float y := by
  cases n with
  | int i => exact .inl ⟨i, rfl⟩
  | float y => exact .inr ⟨y, rfl⟩
  | null | bool | str | arr | obj | fault => cases h

/-- A number that is read back is read from what stands for it. -/
lemma single_numberNode {x : Binary32} (h : Binary32.read? x.text = some x) :
    Decoder.single (numberNode x.text) = .ok x := by
  obtain ⟨n, hn, hd⟩ := Binary32.read?_eq_some.mp h
  rw [numberNode, hn]
  exact hd

lemma limitItems_eq (depth : ℕ) (ns : List Node) :
    limitItems depth ns = ns.map (limitDepth depth) := by
  induction ns with
  | nil => rfl
  | cons n ns ih => rw [limitItems, ih, List.map_cons]

lemma limitEntries_eq (depth : ℕ) (es : List (String × Node)) :
    limitEntries depth es = es.map fun e => (e.1, limitDepth depth e.2) := by
  induction es with
  | nil => rfl
  | cons e es ih => rw [limitEntries, ih, List.map_cons]

lemma allUsable_iff {ns : List Node} :
    allUsable ns = true ↔ ∀ n ∈ ns, n.isUsable = true := by
  induction ns with
  | nil => simp [allUsable]
  | cons n ns ih => rw [allUsable, Bool.and_eq_true, ih, List.forall_mem_cons]

lemma allEntriesUsable_iff {es : List (String × Node)} :
    allEntriesUsable es = true ↔ ∀ e ∈ es, e.2.isUsable = true := by
  induction es with
  | nil => simp [allEntriesUsable]
  | cons e es ih => rw [allEntriesUsable, Bool.and_eq_true, ih, List.forall_mem_cons]

/-- A document within the bound is not cut off. -/
lemma limitDepth_node {d : ℕ} {j : Json} (hm : j.Modest d) (hread : j.Readable) :
    limitDepth d j.node = j.node := by
  induction hm with
  | null | bool | nat | str => simp only [node, limitDepth]
  | single x =>
      rw [node]
      obtain ⟨i, hi⟩ | ⟨y, hy⟩ := eq_of_single (single_numberNode (readable_single.mp hread))
      · rw [hi, limitDepth]
        all_goals nofun
      · rw [hy, limitDepth]
        all_goals nofun
  | @arr d items h ih =>
      rw [node, limitDepth, limitItems_eq, nodeItems_eq, List.map_map]
      exact congrArg _ (List.map_congr_left fun j hj => ih j hj (readable_arr.mp hread j hj))
  | @obj d entries h ih =>
      rw [node, limitDepth, limitEntries_eq, nodeEntries_eq, List.map_map]
      exact congrArg _ (List.map_congr_left fun e he =>
        Prod.ext rfl (ih e he (readable_obj.mp hread e he)))

/-- Every part of a document that was written can be used. -/
lemma isUsable_node {d : ℕ} {j : Json} (hm : j.Modest d) (hread : j.Readable) :
    j.node.isUsable = true := by
  induction hm with
  | null | bool | nat | str => simp only [node, isUsable]
  | single x =>
      rw [node]
      obtain ⟨i, hi⟩ | ⟨y, hy⟩ := eq_of_single (single_numberNode (readable_single.mp hread))
      · rw [hi, isUsable]
        all_goals nofun
      · rw [hy, isUsable]
        all_goals nofun
  | @arr d items h ih =>
      rw [node, isUsable, allUsable_iff, nodeItems_eq, List.forall_mem_map]
      exact fun j hj => ih j hj (readable_arr.mp hread j hj)
  | @obj d entries h ih =>
      rw [node, isUsable, allEntriesUsable_iff, nodeEntries_eq, List.forall_mem_map]
      exact fun e he => ih e he (readable_obj.mp hread e he)

/-- **The indented text of a document is read as that document.** -/
theorem read_pretty {j : Json} (hj : j.Legible) (hm : j.Modest maxDepth) (hread : j.Readable) :
    Node.read j.pretty = ⟨j.node, true⟩ := by
  have hvalue := value_prettyAt hj hm hread 0 (2 * j.pretty.length + 2) []
    (by rw [pretty]; omega) ends_nil
  rw [List.append_nil, ← pretty] at hvalue
  rw [Node.read, hvalue]
  dsimp only
  rw [limitDepth_node hm hread]
  rfl

end Node

end DiceHost.Json
