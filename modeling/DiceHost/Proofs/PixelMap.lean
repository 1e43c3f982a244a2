/-
Values kept for dice, after several changes.

* `PixelMap.ext_get?`: a map is what is looked up in it;
* `PixelMap.map`: all values of a map changed;
* `PixelMap.modify_modify`, `PixelMap.modify_of_get?`: changes at one die merge, and a change
  to the value that is there changes nothing;
* `PixelMap.mem_of_get?_ofList`, `PixelMap.key_of_get?_ofList`: the values of a map made of a
  list, and their keys;
* `PixelMap.isSome_get?_ofList`, `PixelMap.values_ofList`: such a map has the keys of the list, and
  lists it as it is when it is ascending.
-/
import Mathlib.Tactic
import DiceHost.Die.PixelMap

namespace DiceHost.PixelMap

variable {α : Type}

/-- Two maps with the same entries are the same. -/
lemma ext_entries {m n : PixelMap α} (h : m.entries = n.entries) : m = n := by
  cases m
  cases n
  cases h
  rfl

/-- Two changes at one die are one change. -/
lemma modify_modify (m : PixelMap α) (p : PixelId) (f g : α → α) :
    (m.modify p f).modify p g = m.modify p (fun x => g (f x)) := by
  apply ext_entries
  simp only [modify, List.map_map]
  congr 1
  funext e
  by_cases he : e.1 = p <;> simp [he]

/-- A die has one entry. -/
lemma get?_of_mem {m : PixelMap α} {e : PixelId × α} (h : e ∈ m.entries) :
    m.get? e.1 = some e.2 := by
  rw [get?, Option.map_eq_some_iff]
  refine ⟨e, ?_, rfl⟩
  obtain ⟨pre, post, heq⟩ := List.append_of_mem h
  have hasc := m.ascending
  rw [heq, List.pairwise_append] at hasc
  rw [heq, List.find?_append, Option.or_eq_some_iff]
  refine .inr ⟨?_, by simp⟩
  rw [List.find?_eq_none]
  intro x hx hxe
  have hlt := hasc.2.2 x hx e List.mem_cons_self
  rw [of_decide_eq_true hxe] at hlt
  exact UInt32.lt_irrefl _ hlt

/-- The entries of a map are what is looked up. -/
lemma mem_entries_iff {m : PixelMap α} {e : PixelId × α} :
    e ∈ m.entries ↔ m.get? e.1 = some e.2 := by
  refine ⟨get?_of_mem, fun h => ?_⟩
  obtain ⟨e', he', hvalue⟩ := Option.map_eq_some_iff.mp h
  have hkey : e'.1 = e.1 := by simpa using List.find?_some he'
  exact Prod.ext hkey hvalue ▸ List.mem_of_find?_eq_some he'

lemma mem_values_iff {m : PixelMap α} {x : α} : x ∈ m.values ↔ ∃ p, m.get? p = some x := by
  rw [values, List.mem_map]
  constructor
  · rintro ⟨e, he, rfl⟩
    exact ⟨e.1, get?_of_mem he⟩
  · rintro ⟨p, hp⟩
    exact ⟨(p, x), mem_entries_iff.mpr hp, rfl⟩

/-- Two maps in which every die has the same value are the same. -/
lemma ext_get? {m n : PixelMap α} (h : ∀ p, m.get? p = n.get? p) : m = n := by
  have : Std.Irrefl fun x y : PixelId × α => x.1.id < y.1.id := ⟨fun x => UInt32.lt_irrefl x.1.id⟩
  have : Std.Antisymm fun x y : PixelId × α => x.1.id < y.1.id :=
    ⟨fun _ _ hlt hgt => (UInt32.lt_asymm hlt hgt).elim⟩
  refine ext_entries (m.ascending.eq_of_mem_iff n.ascending fun e => ?_)
  rw [mem_entries_iff, mem_entries_iff, h]

/-- The map with every value changed. -/
def map {β : Type} (f : α → β) (m : PixelMap α) : PixelMap β where
  entries := m.entries.map fun e => (e.1, f e.2)
  ascending := List.pairwise_map.mpr m.ascending

lemma get?_map {β : Type} (f : α → β) (m : PixelMap α) (p : PixelId) :
    (m.map f).get? p = (m.get? p).map f := by
  rw [get?, get?, map, List.find?_map, Option.map_map, Option.map_map]
  rfl

/-- A change to the value that is there changes nothing. -/
lemma modify_of_get? {m : PixelMap α} {p : PixelId} {x : α} (h : m.get? p = some x) :
    m.modify p (fun _ => x) = m := by
  have hentries : ∀ e ∈ m.entries, (e.1, if e.1 = p then x else e.2) = e := by
    intro e he
    by_cases hp : e.1 = p
    · have hx := get?_of_mem he
      rw [hp, h, Option.some_inj] at hx
      rw [if_pos hp, hx]
    · rw [if_neg hp]
  apply ext_entries
  calc m.entries.map (fun e => (e.1, if e.1 = p then x else e.2)) = m.entries.map id :=
        List.map_congr_left hentries
    _ = m.entries := List.map_id _

/-- What a map of some values holds is among them. -/
lemma mem_of_get?_ofList {key : α → PixelId} {xs : List α} {p : PixelId} {x : α}
    (h : (ofList key xs).get? p = some x) : x ∈ xs := by
  have hfold : ∀ (m : PixelMap α), (xs.foldl (fun m x => m.insert (key x) x) m).get? p = some x →
      x ∈ xs ∨ m.get? p = some x := by
    clear h
    induction xs with
    | nil => exact fun m h => .inr h
    | cons y ys ih =>
        intro m h
        rcases ih _ h with h | h
        · exact .inl (List.mem_cons_of_mem _ h)
        · rw [get?_insert] at h
          by_cases hp : p = key y
          · rw [if_pos hp, Option.some_inj] at h
            exact .inl (h ▸ List.mem_cons_self)
          · rw [if_neg hp] at h
            exact .inr h
  rcases hfold {} h with h | h
  · exact h
  · cases h

/-- A value of a map made of a list is kept under its own key. -/
lemma key_of_get?_ofList {key : α → PixelId} {xs : List α} {p : PixelId} {x : α}
    (h : (ofList key xs).get? p = some x) : key x = p := by
  have hfold : ∀ (m : PixelMap α), (∀ y, m.get? p = some y → key y = p) →
      ∀ y, (xs.foldl (fun m x => m.insert (key x) x) m).get? p = some y → key y = p := by
    clear h
    induction xs with
    | nil => exact fun m hm => hm
    | cons z zs ih =>
        intro m hm
        refine ih _ fun y hy => ?_
        rw [get?_insert] at hy
        by_cases hp : p = key z
        · rw [if_pos hp, Option.some_inj] at hy
          rw [← hy, hp]
        · rw [if_neg hp] at hy
          exact hm y hy
  exact hfold {} (fun y hy => by cases hy) x h

/-- A map made of a list has its keys. -/
lemma isSome_get?_ofList {key : α → PixelId} {xs : List α} {p : PixelId} :
    ((ofList key xs).get? p).isSome = true ↔ p ∈ xs.map key := by
  induction xs using List.reverseRecOn with
  | nil => simp [ofList, get?]
  | append_singleton xs x ih =>
      rw [ofList, List.foldl_append, List.foldl_cons, List.foldl_nil, ← ofList, get?_insert,
        List.map_append, List.mem_append, List.map_singleton, List.mem_singleton]
      by_cases hp : p = key x
      · simp [hp]
      · simp [hp, ih]

/-- An entry whose die is above all others is put in last. -/
lemma insertInto_of_lt {p : PixelId} {x : α} {es : List (PixelId × α)}
    (h : ∀ e ∈ es, e.1.id < p.id) : insertInto p x es = es ++ [(p, x)] := by
  induction es with
  | nil => rfl
  | cons d es ih =>
      obtain ⟨hd, hes⟩ := List.forall_mem_cons.mp h
      have hne : p ≠ d.1 := by
        rintro rfl
        exact UInt32.lt_irrefl _ hd
      rw [insertInto, if_neg (UInt32.lt_asymm hd), if_neg hne, ih hes]
      rfl

/-- Values in the order of their dice are listed as they are. -/
lemma values_ofList {key : α → PixelId} {xs : List α}
    (h : xs.Pairwise fun x y => (key x).id < (key y).id) : (ofList key xs).values = xs := by
  have hentries : (ofList key xs).entries = xs.map fun x => (key x, x) := by
    induction xs using List.reverseRecOn with
    | nil => rfl
    | append_singleton xs x ih =>
        obtain ⟨hxs, -, hlt⟩ := List.pairwise_append.mp h
        rw [ofList, List.foldl_append, List.map_append, ← ih hxs]
        refine insertInto_of_lt ?_
        rw [← ofList, ih hxs, List.forall_mem_map]
        exact fun y hy => hlt y hy x (List.mem_singleton_self x)
  rw [values, hentries, List.map_map]
  exact List.map_id _

end DiceHost.PixelMap
