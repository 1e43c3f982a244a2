/-
Tables under any use.

* `Table.Sound`: the arena is sound, every identifier of the index leads to its value, and every
  value of the arena is in the index;
* `Table.Roomy`: no more slots than there are indices; the slots only become more;
* `handle?_put`, `handle?_remove`, `get?_put`, `get?_remove`: what is found after a change;
* `Sound.put`, `Sound.remove`: **a change keeps a table sound**;
* `mem_toList`, `nodup_toList`: a sound table lists just what is found, each once.
-/
import DiceHost.Library.Basic
import DiceHost.Proofs.Library.Arena

namespace DiceHost.Table

variable {α : Type} {t : Table α} {u v : Uuid} {g h : Handle} {x y : α}

/-- No more slots than there are indices. -/
def Roomy (t : Table α) : Prop := t.arena.slots.length ≤ 2 ^ 32

/-! ### The index -/

/-- The handle of an identifier names what is found under it. -/
lemma get?_arena (hh : t.handle? u = some h) : t.arena.get? h = t.get? u := by
  rw [get?, hh, Option.bind_some]

lemma get?_eq_some :
    t.get? u = some x ↔ ∃ h, t.handle? u = some h ∧ t.arena.get? h = some x :=
  Option.bind_eq_some_iff

/-- An index without one identifier has the others. -/
lemma find?_filter_ne (index : List (Uuid × Handle)) :
    (index.filter (·.1 ≠ v)).find? (·.1 = u)
      = if u = v then none else index.find? (·.1 = u) := by
  rw [List.find?_filter]
  split_ifs with huv
  · simp [huv]
  · congr 1
    funext p
    by_cases hp : p.1 = u
    · simp [hp, huv]
    · simp [hp]

lemma remove_of_some (hh : t.handle? u = some h) :
    t.remove u = ⟨(t.arena.remove h).1, t.index.filter (·.1 ≠ u)⟩ := by
  rw [remove, hh]

lemma remove_of_none (hh : t.handle? u = none) : t.remove u = t := by
  rw [remove, hh]

lemma handle?_remove : (t.remove u).handle? v = if v = u then none else t.handle? v := by
  cases hh : t.handle? u with
  | none =>
      rw [remove_of_none hh]
      split_ifs with hv
      · exact hv ▸ hh
      · rfl
  | some h =>
      rw [remove_of_some hh, handle?, find?_filter_ne]
      split_ifs with hv
      · rfl
      · rfl

variable [Identified α]

/-- A value whose identifier is not there takes a place of its own. -/
lemma put_of_none (hh : t.handle? (Identified.uuid x) = none) :
    t.put x = (⟨(t.arena.insert x).1,
      (Identified.uuid x, (t.arena.insert x).2)
        :: t.index.filter (·.1 ≠ Identified.uuid x)⟩, (t.arena.insert x).2) := by
  rw [put, hh]
  rfl

/-! ### Soundness -/

/-- The index and the arena fit together. -/
structure Sound (t : Table α) : Prop where
  arena : t.arena.Sound
  found : ∀ u h, t.handle? u = some h → ∃ x, t.arena.get? h = some x ∧ Identified.uuid x = u
  indexed : ∀ h x, t.arena.get? h = some x → t.handle? (Identified.uuid x) = some h

lemma Sound.empty : ({} : Table α).Sound where
  arena := .empty
  found _ _ h := by cases h
  indexed h x hx := by
    have hslot := Arena.get?_eq_some.mp hx
    cases hslot

lemma Sound.get?_eq_none (hs : t.Sound) : t.get? u = none ↔ t.handle? u = none := by
  rw [get?]
  cases hh : t.handle? u with
  | none => simp
  | some h =>
      obtain ⟨x, hx, -⟩ := hs.found u h hh
      simp [hx]

/-- What is found under an identifier has it. -/
lemma Sound.uuid_of_get? (hs : t.Sound) (hx : t.get? u = some x) : Identified.uuid x = u := by
  obtain ⟨h, hh, hx⟩ := get?_eq_some.mp hx
  obtain ⟨y, hy, hu⟩ := hs.found u h hh
  cases hx.symm.trans hy
  exact hu

/-- A handle is that of one identifier. -/
lemma Sound.handle_inj (hs : t.Sound) (hu : t.handle? u = some h) (hv : t.handle? v = some h) :
    u = v := by
  obtain ⟨x, hx, hxu⟩ := hs.found u h hu
  obtain ⟨y, hy, hyv⟩ := hs.found v h hv
  cases hx.symm.trans hy
  exact hxu.symm.trans hyv

/-- A value whose identifier is there takes the place of the one that has it. -/
lemma Sound.put_of_some (hs : t.Sound) (hh : t.handle? (Identified.uuid x) = some h) :
    t.put x = ({ t with arena := t.arena.set h x }, h) := by
  obtain ⟨y, hy, -⟩ := hs.found _ h hh
  have hfilter : (t.handle? (Identified.uuid x)).filter (fun h => (t.arena.get? h).isSome)
      = some h := by
    rw [hh, Option.filter_some, hy]
    rfl
  rw [put, hfilter]

/-! ### A value is put in -/

section Put

variable (hs : t.Sound) (hroomy : (t.put x).1.Roomy)

include hs

lemma handle?_put : (t.put x).1.handle? u
    = if u = Identified.uuid x then some (t.put x).2 else t.handle? u := by
  cases hh : t.handle? (Identified.uuid x) with
  | some h =>
      rw [hs.put_of_some hh]
      split_ifs with hu
      · exact hu ▸ hh
      · rfl
  | none =>
      rw [put_of_none hh, handle?, List.find?_cons]
      dsimp only
      split_ifs with hu
      · simp [hu]
      · rw [decide_eq_false (Ne.symm hu)]
        dsimp only
        rw [find?_filter_ne, if_neg hu]
        rfl

include hroomy

lemma get?_arena_put : (t.put x).1.arena.get? g
    = if g = (t.put x).2 then some x else t.arena.get? g := by
  cases hh : t.handle? (Identified.uuid x) with
  | some h =>
      obtain ⟨y, hy, -⟩ := hs.found _ h hh
      rw [hs.put_of_some hh, Arena.get?_set hy]
  | none =>
      rw [put_of_none hh] at hroomy ⊢
      exact Arena.get?_insert hs.arena hroomy

lemma generation_put (i : ℕ) : (t.put x).1.arena.generation i = t.arena.generation i := by
  cases hh : t.handle? (Identified.uuid x) with
  | some h =>
      obtain ⟨y, hy, -⟩ := hs.found _ h hh
      rw [hs.put_of_some hh]
      exact Arena.generation_set hy x i
  | none =>
      rw [put_of_none hh] at hroomy ⊢
      exact Arena.generation_insert hs.arena hroomy i

/-- What the handle of a value named before had the identifier of the value. -/
lemma uuid_of_get?_handle (hy : t.arena.get? (t.put x).2 = some y) :
    Identified.uuid y = Identified.uuid x := by
  cases hh : t.handle? (Identified.uuid x) with
  | some h =>
      obtain ⟨z, hz, hzu⟩ := hs.found _ h hh
      rw [hs.put_of_some hh] at hy
      cases hz.symm.trans hy
      exact hzu
  | none =>
      rw [put_of_none hh] at hroomy hy
      rw [Arena.get?_handle hs.arena hroomy] at hy
      cases hy

/-- The handle of a value is not that of another identifier. -/
lemma ne_handle (hh : t.handle? u = some h) (hu : u ≠ Identified.uuid x) : h ≠ (t.put x).2 := by
  obtain ⟨y, hy, hyu⟩ := hs.found u h hh
  rintro rfl
  exact hu (hyu.symm.trans (uuid_of_get?_handle hs hroomy hy))

lemma get?_put : (t.put x).1.get? u = if u = Identified.uuid x then some x else t.get? u := by
  rw [get?, handle?_put hs]
  split_ifs with hu
  · rw [Option.bind_some, get?_arena_put hs hroomy, if_pos rfl]
  · cases hh : t.handle? u with
    | none => rw [get?, hh, Option.bind_none, Option.bind_none]
    | some h =>
        rw [Option.bind_some, get?_arena_put hs hroomy, if_neg (ne_handle hs hroomy hh hu),
          get?_arena hh]

lemma Sound.put : (t.put x).1.Sound := by
  have harena : (t.put x).1.arena.Sound := by
    cases hh : t.handle? (Identified.uuid x) with
    | some h =>
        obtain ⟨y, hy, -⟩ := hs.found _ h hh
        rw [hs.put_of_some hh]
        exact hs.arena.set hy x
    | none =>
        rw [put_of_none hh] at hroomy ⊢
        exact hs.arena.insert hroomy
  refine ⟨harena, fun u h hh => ?_, fun h y hy => ?_⟩
  · rw [handle?_put hs] at hh
    rw [get?_arena_put hs hroomy]
    split_ifs at hh with hu
    · cases hh
      exact ⟨x, if_pos rfl, hu.symm⟩
    · rw [if_neg (ne_handle hs hroomy hh hu)]
      exact hs.found u h hh
  · rw [get?_arena_put hs hroomy] at hy
    rw [handle?_put hs]
    split_ifs at hy with hg
    · cases hy
      rw [if_pos rfl, hg]
    · have hh := hs.indexed h y hy
      rw [if_neg, hh]
      -- the value of the same identifier would have been put in with its handle
      intro hu
      rw [hu] at hh
      exact hg (congrArg Prod.snd (hs.put_of_some hh)).symm

end Put

/-! ### A value leaves -/

section Remove

variable (hs : t.Sound)

include hs

lemma get?_arena_remove (hh : t.handle? u = some h) :
    (t.remove u).arena.get? g = if g = h then none else t.arena.get? g := by
  obtain ⟨x, hx, -⟩ := hs.found u h hh
  rw [remove_of_some hh]
  exact Arena.get?_remove hx

/-- The slot of a value that leaves begins a new generation. -/
lemma generation_remove (hh : t.handle? u = some h) (i : ℕ) :
    (t.remove u).arena.generation i
      = if i = h.index.toNat then t.arena.generation i + 1 else t.arena.generation i := by
  obtain ⟨x, hx, -⟩ := hs.found u h hh
  rw [remove_of_some hh]
  exact Arena.generation_remove hx i

lemma Sound.remove (u : Uuid) : (t.remove u).Sound := by
  cases hh : t.handle? u with
  | none => rwa [remove_of_none hh]
  | some h =>
      obtain ⟨x, hx, hxu⟩ := hs.found u h hh
      refine ⟨?_, fun v g hg => ?_, fun g y hy => ?_⟩
      · rw [remove_of_some hh]
        exact hs.arena.remove hx
      · rw [handle?_remove] at hg
        split_ifs at hg with hv
        rw [get?_arena_remove hs hh, if_neg]
        · exact hs.found v g hg
        · rintro rfl
          exact hv (hs.handle_inj hg hh)
      · rw [get?_arena_remove hs hh] at hy
        split_ifs at hy with hgh
        have hg := hs.indexed g y hy
        rw [handle?_remove, if_neg, hg]
        intro hu
        rw [hu] at hg
        exact hgh (Option.some_inj.mp (hg.symm.trans hh))

lemma get?_remove : (t.remove u).get? v = if v = u then none else t.get? v := by
  rw [get?, handle?_remove]
  split_ifs with hv
  · rfl
  · cases hh : t.handle? v with
    | none => rw [get?, hh, Option.bind_none, Option.bind_none]
    | some g =>
        rw [Option.bind_some]
        cases hu : t.handle? u with
        | none => rw [remove_of_none hu, get?_arena hh]
        | some h =>
            rw [get?_arena_remove hs hu, if_neg, get?_arena hh]
            rintro rfl
            exact hv (hs.handle_inj hh hu)

end Remove

/-! ### The slots -/

lemma length_le_put (t : Table α) (x : α) :
    t.arena.slots.length ≤ (t.put x).1.arena.slots.length := by
  rw [put]
  split
  · rw [Arena.set]
    split_ifs
    · exact (List.length_set ..).ge
    · exact le_rfl
  · dsimp only
    rw [Arena.insert]
    split
    · exact (List.length_set ..).ge
    · rw [List.length_append]
      exact Nat.le_add_right _ _

omit [Identified α] in
lemma length_remove (t : Table α) (u : Uuid) :
    (t.remove u).arena.slots.length = t.arena.slots.length := by
  rw [remove]
  split
  · rw [Arena.remove]
    split
    · exact List.length_set ..
    · rfl
  · rfl

/-! ### The listing -/

section Listing

variable (hs : t.Sound)

include hs

/-- What is listed is what is found. -/
lemma mem_toList : x ∈ t.toList ↔ t.get? (Identified.uuid x) = some x := by
  rw [toList, List.mem_map, get?_eq_some]
  constructor
  · rintro ⟨⟨h, y⟩, hmem, rfl⟩
    have hy := (Arena.mem_toList hs.arena).mp hmem
    exact ⟨h, hs.indexed h y hy, hy⟩
  · rintro ⟨h, -, hx⟩
    exact ⟨(h, x), (Arena.mem_toList hs.arena).mpr hx, rfl⟩

/-- What is listed is listed once. -/
lemma nodup_toList : (t.toList.map Identified.uuid).Nodup := by
  rw [toList, List.map_map, List.Nodup, List.pairwise_map]
  refine (Arena.ascending_toList hs.arena).imp_of_mem fun {p q} hp hq hlt heq => ?_
  have hp' := hs.indexed _ _ ((Arena.mem_toList hs.arena).mp hp)
  have hq' := hs.indexed _ _ ((Arena.mem_toList hs.arena).mp hq)
  rw [show Identified.uuid p.2 = Identified.uuid q.2 from heq, hq'] at hp'
  rw [Option.some_inj.mp hp'] at hlt
  exact (UInt32.lt_irrefl _) hlt

end Listing

end DiceHost.Table
