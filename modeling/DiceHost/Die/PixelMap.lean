/-
Values kept for dice.

* `PixelMap`: values by die, in the ascending order of the dice's numbers;
* `get?`, `insert`, `modify`, `erase`: look-up and change;
* `get?_insert`, `get?_modify`, `get?_erase`: a change is seen at its die only.
-/
import DiceHost.Die.Name

namespace DiceHost

/-- Values by die, each die once, in ascending order. -/
structure PixelMap (α : Type) where
  entries : List (PixelId × α) := []
  ascending : entries.Pairwise (fun x y => x.1.id < y.1.id) := by simp
deriving DecidableEq, Repr

namespace PixelMap

variable {α : Type}

/-- The value of a die. -/
def get? (m : PixelMap α) (p : PixelId) : Option α :=
  (m.entries.find? (·.1 = p)).map (·.2)

/-- All values in the order of their dice. -/
def values (m : PixelMap α) : List α :=
  m.entries.map (·.2)

/-! ### Insertion -/

/-- An entry put in at its place, instead of any other of its die. -/
def insertInto (p : PixelId) (x : α) : List (PixelId × α) → List (PixelId × α)
  | [] => [(p, x)]
  | e :: es =>
    if p.id < e.1.id then (p, x) :: e :: es
    else if p = e.1 then (p, x) :: es
    else e :: insertInto p x es

theorem mem_insertInto {p : PixelId} {x : α} {e : PixelId × α} {es : List (PixelId × α)}
    (h : e ∈ insertInto p x es) : e = (p, x) ∨ e ∈ es := by
  induction es with
  | nil => simpa [insertInto] using h
  | cons d es ih =>
    simp only [insertInto] at h
    split at h
    · simpa using h
    · split at h
      · rcases List.mem_cons.1 h with h | h
        · exact .inl h
        · exact .inr (List.mem_cons_of_mem _ h)
      · rcases List.mem_cons.1 h with h | h
        · exact .inr (h ▸ List.mem_cons_self)
        · exact (ih h).imp_right (List.mem_cons_of_mem _)

theorem ascending_insertInto {p : PixelId} {x : α} {es : List (PixelId × α)}
    (h : es.Pairwise (fun x y => x.1.id < y.1.id)) :
    (insertInto p x es).Pairwise (fun x y => x.1.id < y.1.id) := by
  induction es with
  | nil => simp [insertInto]
  | cons d es ih =>
    obtain ⟨hd, hes⟩ := List.pairwise_cons.1 h
    simp only [insertInto]
    split
    · rename_i hp
      refine List.pairwise_cons.2 ⟨fun e he => ?_, h⟩
      rcases List.mem_cons.1 he with he | he
      · exact he ▸ hp
      · exact UInt32.lt_trans hp (hd e he)
    · split
      · rename_i hp
        exact List.pairwise_cons.2 ⟨fun e he => by simpa [hp] using hd e he, hes⟩
      · rename_i h₁ h₂
        refine List.pairwise_cons.2 ⟨fun e he => ?_, ih hes⟩
        rcases mem_insertInto he with he | he
        · subst he
          refine UInt32.lt_of_le_of_ne (UInt32.not_lt.1 h₁) fun hid => h₂ ?_
          cases p; cases hq : d.1; simp_all
        · exact hd e he

/-- The map with a value for a die. -/
def insert (m : PixelMap α) (p : PixelId) (x : α) : PixelMap α where
  entries := insertInto p x m.entries
  ascending := ascending_insertInto m.ascending

/-! ### Modification and erasure -/

/-- The map with the value of a die changed; a die without a value stays without. -/
def modify (m : PixelMap α) (p : PixelId) (f : α → α) : PixelMap α where
  entries := m.entries.map fun e => (e.1, if e.1 = p then f e.2 else e.2)
  ascending := List.pairwise_map.2 m.ascending

/-- The map without the value of a die. -/
def erase (m : PixelMap α) (p : PixelId) : PixelMap α where
  entries := m.entries.filter (·.1 ≠ p)
  ascending := m.ascending.filter _

/-- The map of some values, each under a key of its own; of several values under one key
the last is kept. -/
def ofList (key : α → PixelId) (xs : List α) : PixelMap α :=
  xs.foldl (fun m x => m.insert (key x) x) {}

/-! ### Look-up after a change -/

theorem get?_erase (m : PixelMap α) (p q : PixelId) :
    (m.erase p).get? q = if q = p then none else m.get? q := by
  simp only [get?, erase, List.find?_filter]
  split
  · rename_i h
    subst h
    simp
  · rename_i h
    congr 2
    funext e
    by_cases he : e.1 = q <;> simp_all

theorem get?_modify (m : PixelMap α) (p q : PixelId) (f : α → α) :
    (m.modify p f).get? q = if q = p then (m.get? q).map f else m.get? q := by
  simp only [get?, modify, List.find?_map, Function.comp_def]
  cases h : m.entries.find? (fun e => decide (e.1 = q)) with
  | none => simp
  | some e =>
    have hq : e.1 = q := by simpa using List.find?_some h
    by_cases hp : q = p <;> simp [hq, hp]

theorem find?_insertInto (p q : PixelId) (x : α) (es : List (PixelId × α)) :
    (insertInto p x es).find? (·.1 = q)
      = if q = p then some (p, x) else es.find? (·.1 = q) := by
  induction es with
  | nil => by_cases h : q = p <;> simp [insertInto, h, eq_comm]
  | cons d es ih =>
    simp only [insertInto]
    split
    · by_cases h : q = p <;> simp [h, eq_comm]
    · split
      · rename_i h
        subst h
        by_cases h : q = d.1 <;> simp [h, eq_comm]
      · rename_i h₁ h₂
        rw [List.find?_cons, ih, List.find?_cons]
        by_cases h : q = p
        · subst h
          simp [Ne.symm h₂]
        · simp [h]

theorem get?_insert (m : PixelMap α) (p q : PixelId) (x : α) :
    (m.insert p x).get? q = if q = p then some x else m.get? q := by
  simp only [get?, insert, find?_insertInto]
  split <;> simp

end PixelMap

end DiceHost
