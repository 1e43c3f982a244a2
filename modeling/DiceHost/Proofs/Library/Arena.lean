/-
Arenas under any use.

* `Arena.generation`: the generation of a slot;
* `Arena.Sound`: no more slots than indices, the free slots are the empty ones, each once, and the
  values are counted;
* `getElem?_insert`, `getElem?_set`, `getElem?_remove`: the slots after an operation differ in
  the slot of the handle only;
* `get?_insert`, `get?_set`, `get?_remove`: what a handle names after an operation;
* `generation_insert`, `generation_set`, `generation_remove`: **a new generation begins with a
  removal only, and only for the slot that it frees**;
* `handle_insert_of_full`: beyond that many slots handles are no longer told apart;
* `mem_toList`, `ascending_toList`: the listing has what the handles name, in the order of the
  slots; `length_toList`: its length is the count.
-/
import Mathlib.Tactic
import DiceHost.Library.Arena

namespace DiceHost.Arena

variable {α : Type} {a : Arena α} {g h : Handle} {x y : α}

/-- The generation of a slot; a slot that is still to come begins with the first. -/
def generation (a : Arena α) (i : ℕ) : UInt32 := (a.slots[i]?).elim 0 (·.generation)

/-- No more slots than there are indices, the free slots are the empty ones, each once, and the
count is that of the others. -/
structure Sound (a : Arena α) : Prop where
  roomy : a.slots.length ≤ 2 ^ 32
  once : a.free.Nodup
  mem_free : ∀ i : UInt32, i ∈ a.free ↔ ∃ s, a.slots[i.toNat]? = some s ∧ s.value = none
  counted : a.len = a.slots.countP (·.value.isSome)

lemma Sound.empty : ({} : Arena α).Sound :=
  ⟨Nat.zero_le _, List.nodup_nil, fun i => by simp, rfl⟩

/-! ### Handles -/

/-- A handle names the value of its slot in its generation. -/
lemma get?_eq_some :
    a.get? h = some x ↔ a.slots[h.index.toNat]? = some ⟨h.generation, some x⟩ := by
  rw [get?, slot?, Option.bind_eq_some_iff]
  constructor
  · rintro ⟨⟨generation, value⟩, hs, rfl⟩
    obtain ⟨hslot, hgeneration⟩ := Option.filter_eq_some_iff.mp hs
    have hg : generation = h.generation := of_decide_eq_true hgeneration
    rw [hslot, hg]
  · intro hslot
    exact ⟨_, Option.filter_eq_some_iff.mpr ⟨hslot, decide_eq_true rfl⟩, rfl⟩

lemma generation_of_get? (hx : a.get? h = some x) : a.generation h.index.toNat = h.generation := by
  rw [generation, get?_eq_some.mp hx]
  rfl

/-- A handle of another generation than that of its slot names nothing. -/
lemma get?_eq_none_of_generation (hne : a.generation h.index.toNat ≠ h.generation) :
    a.get? h = none :=
  Option.eq_none_iff_forall_ne_some.mpr fun _ hx => hne (generation_of_get? hx)

lemma isSome_get? : (a.get? h).isSome = true ↔ ∃ x, a.get? h = some x :=
  Option.isSome_iff_exists

/-- A slot of another handle is of another index, or names nothing through that handle. -/
lemma get?_eq_none_of_index {s : Slot α} (hindex : g.index = h.index) (hne : g ≠ h)
    (hslot : a.slots[h.index.toNat]? = some s) (hgeneration : s.generation = h.generation) :
    a.get? g = none := by
  refine get?_eq_none_of_generation fun hg => hne ?_
  rw [generation, hindex, hslot] at hg
  cases g
  cases h
  exact congr (congrArg Handle.mk hindex) (hg.symm.trans hgeneration)

/-! ### Operations on slots -/

/-- A value takes an empty slot that was freed, or a new one. -/
lemma insert_cases (hs : a.Sound) (x : α) :
    (∃ i free s, a.free = i :: free ∧ a.slots[i.toNat]? = some s ∧ s.value = none
      ∧ a.insert x
        = (⟨a.slots.set i.toNat ⟨s.generation, some x⟩, free, a.len + 1⟩, ⟨i, s.generation⟩))
    ∨ (a.free = []
      ∧ a.insert x
        = (⟨a.slots ++ [⟨0, some x⟩], [], a.len + 1⟩, ⟨UInt32.ofNat a.slots.length, 0⟩)) := by
  cases hfree : a.free with
  | nil =>
      refine .inr ⟨rfl, ?_⟩
      rw [insert, hfree]
  | cons i free =>
      obtain ⟨s, hslot, hvalue⟩ := (hs.mem_free i).mp (hfree ▸ List.mem_cons_self)
      refine .inl ⟨i, free, s, rfl, hslot, hvalue, ?_⟩
      rw [insert, hfree]
      simp only [hslot, Option.elim_some, put]

section Insert

variable (hs : a.Sound) (hroomy : (a.insert x).1.slots.length ≤ 2 ^ 32)

include hs hroomy

/-- What the slot of a value that is put in was before: empty, or not there. -/
lemma vacant_insert {s : Slot α} (hslot : a.slots[(a.insert x).2.index.toNat]? = some s) :
    s.value = none := by
  obtain ⟨i, free, s', -, hi, hvalue, hinsert⟩ | ⟨-, hinsert⟩ := insert_cases hs x
  · rw [hinsert] at hslot
    cases hi.symm.trans hslot
    exact hvalue
  · rw [hinsert, List.length_append, List.length_singleton] at hroomy
    rw [hinsert, UInt32.toNat_ofNat_of_lt' (show a.slots.length < UInt32.size from hroomy),
      List.getElem?_eq_none le_rfl] at hslot
    cases hslot

/-- A value is put into the slot of its handle. -/
lemma getElem?_insert (i : ℕ) : (a.insert x).1.slots[i]?
    = if i = (a.insert x).2.index.toNat then some ⟨(a.insert x).2.generation, some x⟩
      else a.slots[i]? := by
  obtain ⟨j, free, s, -, hj, -, hinsert⟩ | ⟨-, hinsert⟩ := insert_cases hs x
  · rw [hinsert]
    have hlt : j.toNat < a.slots.length := (List.getElem?_eq_some_iff.mp hj).1
    simp only [List.getElem?_set, hlt, eq_comm (a := i), if_true]
  · rw [hinsert, List.length_append, List.length_singleton] at hroomy
    rw [hinsert]
    simp only [UInt32.toNat_ofNat_of_lt' (show a.slots.length < UInt32.size from hroomy),
      List.getElem?_append]
    split_ifs with hlt heq heq
    · omega
    · rfl
    · rw [heq, Nat.sub_self]
      rfl
    · rw [List.getElem?_eq_none (by simp; omega), List.getElem?_eq_none (by omega)]

/-- A value is put in with the generation of its slot. -/
lemma generation_handle : (a.insert x).2.generation
    = a.generation (a.insert x).2.index.toNat := by
  obtain ⟨j, free, s, -, hj, -, hinsert⟩ | ⟨-, hinsert⟩ := insert_cases hs x
  · rw [hinsert, generation, hj]
    rfl
  · rw [hinsert, List.length_append, List.length_singleton] at hroomy
    rw [hinsert, generation,
      UInt32.toNat_ofNat_of_lt' (show a.slots.length < UInt32.size from hroomy),
      List.getElem?_eq_none le_rfl]
    rfl

/-- The handle of a value that is put in named nothing before. -/
lemma get?_handle : a.get? (a.insert x).2 = none := by
  refine Option.eq_none_iff_forall_ne_some.mpr fun y hy => ?_
  cases vacant_insert hs hroomy (get?_eq_some.mp hy)

lemma get?_insert : (a.insert x).1.get? g = if g = (a.insert x).2 then some x else a.get? g := by
  refine Option.ext fun y => ?_
  rw [get?_eq_some, getElem?_insert hs hroomy]
  by_cases hg : g = (a.insert x).2
  · rw [if_pos (by rw [hg]), if_pos hg, hg]
    simp
  · rw [if_neg hg]
    by_cases hindex : g.index = (a.insert x).2.index
    · -- the slot is the same, but the generation is not, and the slot was empty
      rw [if_pos (by rw [hindex])]
      constructor
      · intro hy
        cases g
        cases Option.some_inj.mp hy
        exact absurd (congrArg (Handle.mk · _) hindex) hg
      · intro hy
        rw [get?_eq_some, hindex] at hy
        cases vacant_insert hs hroomy hy
    · rw [if_neg fun h => hindex (UInt32.toNat_inj.mp h), get?_eq_some]

/-- No generation begins when a value is put in. -/
lemma generation_insert (i : ℕ) : (a.insert x).1.generation i = a.generation i := by
  rw [generation, getElem?_insert hs hroomy]
  split_ifs with hi
  · rw [hi, ← generation_handle hs hroomy]
    rfl
  · rfl

lemma Sound.insert : (a.insert x).1.Sound := by
  refine ⟨hroomy, ?_, fun i => ?_, ?_⟩
  · obtain ⟨j, free, s, hfree, -, -, hinsert⟩ | ⟨-, hinsert⟩ := insert_cases hs x
    · rw [hinsert]
      exact (List.nodup_cons.mp (hfree ▸ hs.once)).2
    · rw [hinsert]
      exact List.nodup_nil
  · rw [getElem?_insert hs hroomy]
    obtain ⟨j, free, s, hfree, -, -, hinsert⟩ | ⟨hfree, hinsert⟩ := insert_cases hs x
    · have hmem := hs.mem_free i
      have hnotMem := (List.nodup_cons.mp (hfree ▸ hs.once)).1
      rw [hfree, List.mem_cons] at hmem
      rw [hinsert]
      dsimp only
      split_ifs with hi
      · rw [UInt32.toNat_inj.mp hi]
        simp [hnotMem]
      · rw [← hmem, or_iff_right fun h => hi (congrArg _ h)]
    · have hmem := hs.mem_free i
      rw [hfree] at hmem
      rw [hinsert]
      dsimp only
      split_ifs with hi
      · simp
      · exact hmem
  · obtain ⟨j, free, s, -, hj, hvalue, hinsert⟩ | ⟨-, hinsert⟩ := insert_cases hs x
    · obtain ⟨hlt, hj⟩ := List.getElem?_eq_some_iff.mp hj
      rw [hinsert, hs.counted, List.countP_set hlt, hj, hvalue]
      rfl
    · rw [hinsert, hs.counted, List.countP_append]
      rfl

end Insert

/-! ### Handles that name nothing -/

lemma set_of_none (hnone : a.get? h = none) (x : α) : a.set h x = a := by
  rw [set, hnone, Option.isSome_none, if_neg Bool.false_ne_true]

lemma remove_of_none (hnone : a.get? h = none) : a.remove h = (a, none) := by
  rw [remove, hnone]

section Live

/-! A handle that names a value. -/

variable (hx : a.get? h = some x)

include hx

lemma length_set (y : α) : (a.set h y).slots.length = a.slots.length := by
  rw [set, if_pos (isSome_get?.mpr ⟨x, hx⟩), put, List.length_set]

lemma remove_of_some : a.remove h = (⟨a.slots.set h.index.toNat ⟨h.generation + 1, none⟩,
    h.index :: a.free, a.len - 1⟩, some x) := by
  rw [remove, hx]
  rfl

lemma length_remove : (a.remove h).1.slots.length = a.slots.length := by
  rw [remove_of_some hx, List.length_set]

/-- The slot of the value is among those that are counted. -/
lemma countP_pos : 0 < a.slots.countP (·.value.isSome) := by
  obtain ⟨hlt, hslot⟩ := List.getElem?_eq_some_iff.mp (get?_eq_some.mp hx)
  exact List.countP_pos_iff.mpr ⟨_, List.getElem_mem hlt, by rw [hslot]; rfl⟩

/-- The slot of the value is counted no more, and the one in its place is. -/
lemma countP_set (s : Slot α) : (a.slots.set h.index.toNat s).countP (·.value.isSome)
    = a.slots.countP (·.value.isSome) - 1 + if s.value.isSome then 1 else 0 := by
  obtain ⟨hlt, hslot⟩ := List.getElem?_eq_some_iff.mp (get?_eq_some.mp hx)
  rw [List.countP_set hlt, hslot]
  rfl

lemma getElem?_set (y : α) (i : ℕ) : (a.set h y).slots[i]?
    = if i = h.index.toNat then some ⟨h.generation, some y⟩ else a.slots[i]? := by
  have hlt := (List.getElem?_eq_some_iff.mp (get?_eq_some.mp hx)).1
  rw [set, if_pos (isSome_get?.mpr ⟨x, hx⟩), put]
  simp only [List.getElem?_set, hlt, eq_comm (a := i), if_true]

lemma getElem?_remove (i : ℕ) : (a.remove h).1.slots[i]?
    = if i = h.index.toNat then some ⟨h.generation + 1, none⟩ else a.slots[i]? := by
  have hlt := (List.getElem?_eq_some_iff.mp (get?_eq_some.mp hx)).1
  rw [remove_of_some hx]
  simp only [List.getElem?_set, hlt, eq_comm (a := i), if_true]

lemma get?_set (y : α) : (a.set h y).get? g = if g = h then some y else a.get? g := by
  refine Option.ext fun z => ?_
  rw [get?_eq_some, getElem?_set hx]
  by_cases hg : g = h
  · rw [if_pos (by rw [hg]), if_pos hg, hg]
    simp
  · rw [if_neg hg]
    by_cases hindex : g.index = h.index
    · rw [if_pos (by rw [hindex]),
        get?_eq_none_of_index hindex hg (get?_eq_some.mp hx) rfl]
      refine ⟨fun hz => ?_, nofun⟩
      cases g
      cases Option.some_inj.mp hz
      exact absurd (congrArg (Handle.mk · _) hindex) hg
    · rw [if_neg fun h => hindex (UInt32.toNat_inj.mp h), get?_eq_some]

lemma get?_remove : (a.remove h).1.get? g = if g = h then none else a.get? g := by
  refine Option.ext fun z => ?_
  rw [get?_eq_some, getElem?_remove hx]
  by_cases hindex : g.index = h.index
  · rw [if_pos (by rw [hindex])]
    have hnone : (if g = h then none else a.get? g) = none := by
      split_ifs with hg
      · rfl
      · exact get?_eq_none_of_index hindex hg (get?_eq_some.mp hx) rfl
    rw [hnone]
    simp
  · rw [if_neg fun h => hindex (UInt32.toNat_inj.mp h),
      if_neg fun hg => hindex (congrArg _ hg), get?_eq_some]

lemma generation_set (y : α) (i : ℕ) : (a.set h y).generation i = a.generation i := by
  rw [generation, getElem?_set hx]
  split_ifs with hi
  · rw [hi, generation_of_get? hx]
    rfl
  · rfl

/-- The slot of a value that is removed begins a new generation. -/
lemma generation_remove (i : ℕ) : (a.remove h).1.generation i
    = if i = h.index.toNat then a.generation i + 1 else a.generation i := by
  rw [generation, getElem?_remove hx]
  split_ifs with hi
  · rw [hi, generation_of_get? hx]
    rfl
  · rfl

lemma Sound.set (hs : a.Sound) (y : α) : (a.set h y).Sound := by
  have hset : a.set h y = a.put h.index ⟨h.generation, some y⟩ := by
    rw [Arena.set, if_pos (isSome_get?.mpr ⟨x, hx⟩)]
  have hfree : (a.set h y).free = a.free := by rw [hset, put]
  refine ⟨(length_set hx y).trans_le hs.roomy, hfree ▸ hs.once, fun i => ?_, ?_⟩
  · rw [hfree, getElem?_set hx, hs.mem_free]
    split_ifs with hi
    · rw [hi, get?_eq_some.mp hx]
      simp
    · rfl
  · rw [hset, put, hs.counted, countP_set hx]
    exact (Nat.sub_add_cancel (countP_pos hx)).symm

lemma Sound.remove (hs : a.Sound) : (a.remove h).1.Sound := by
  have hnotMem : h.index ∉ a.free := by
    rw [hs.mem_free, get?_eq_some.mp hx]
    simp
  refine ⟨(length_remove hx).trans_le hs.roomy, ?_, fun i => ?_, ?_⟩
  · rw [remove_of_some hx]
    exact List.nodup_cons.mpr ⟨hnotMem, hs.once⟩
  · rw [getElem?_remove hx, remove_of_some hx, List.mem_cons, hs.mem_free]
    split_ifs with hi
    · simp [UInt32.toNat_inj.mp hi]
    · rw [or_iff_right fun h => hi (congrArg _ h)]
  · rw [remove_of_some hx, hs.counted, countP_set hx]
    rfl

/-- The count does not go below zero. -/
lemma len_remove (hs : a.Sound) : (a.remove h).1.len + 1 = a.len := by
  have hpos := countP_pos hx
  rw [← hs.counted] at hpos
  rw [remove_of_some hx]
  exact Nat.sub_add_cancel hpos

end Live

/-- An arena that has no index left gives the first one again. -/
lemma handle_insert_of_full (hfree : a.free = []) (hfull : a.slots.length = 2 ^ 32) (x : α) :
    (a.insert x).2 = ⟨0, 0⟩ := by
  rw [insert, hfree, hfull]
  rfl

/-! ### The listing -/

/-- What is listed in slot order. -/
lemma mem_toList_iff {p : Handle × α} :
    p ∈ a.toList ↔ ∃ i s, a.slots[i]? = some s ∧ entry? i s = some p := by
  rw [toList, List.mem_filterMap]
  constructor
  · rintro ⟨⟨s, i⟩, hmem, hentry⟩
    exact ⟨i, s, List.mk_mem_zipIdx_iff_getElem?.mp hmem, hentry⟩
  · rintro ⟨i, s, hslot, hentry⟩
    exact ⟨(s, i), List.mk_mem_zipIdx_iff_getElem?.mpr hslot, hentry⟩

/-- The listing has just what handles name. -/
lemma mem_toList (hs : a.Sound) : (h, x) ∈ a.toList ↔ a.get? h = some x := by
  rw [mem_toList_iff, get?_eq_some]
  constructor
  · rintro ⟨i, ⟨generation, value⟩, hslot, hentry⟩
    have hlt : i < UInt32.size := (List.getElem?_eq_some_iff.mp hslot).1.trans_le hs.roomy
    obtain ⟨v, rfl, hv⟩ := Option.map_eq_some_iff.mp hentry
    cases hv
    rwa [UInt32.toNat_ofNat_of_lt' hlt]
  · intro hslot
    refine ⟨h.index.toNat, _, hslot, ?_⟩
    rw [ entry?, Option.map_some, UInt32.ofNat_toNat]

/-- The listing is in the order of the slots. -/
lemma ascending_toList (hs : a.Sound) :
    a.toList.Pairwise fun p q => p.1.index < q.1.index := by
  have hplaces : a.slots.zipIdx.Pairwise fun p q => p.2 < q.2 := by
    rw [← List.pairwise_map, List.zipIdx_map_snd]
    exact List.pairwise_lt_range'
  rw [toList, List.pairwise_filterMap]
  refine hplaces.imp_of_mem fun {p q} hp hq hlt v hv w hw => ?_
  have hbound {p : Slot α × ℕ} (hp : p ∈ a.slots.zipIdx) : p.2 < UInt32.size :=
    (List.getElem?_eq_some_iff.mp (List.mk_mem_zipIdx_iff_getElem?.mp hp)).1.trans_le hs.roomy
  obtain ⟨-, -, rfl⟩ := Option.map_eq_some_iff.mp hv
  obtain ⟨-, -, rfl⟩ := Option.map_eq_some_iff.mp hw
  rw [UInt32.lt_iff_toNat_lt, UInt32.toNat_ofNat_of_lt' (hbound hp),
    UInt32.toNat_ofNat_of_lt' (hbound hq)]
  exact hlt

/-- The count is the length of the listing. -/
lemma length_toList (hs : a.Sound) : a.toList.length = a.len := by
  have hentry (p : Slot α × ℕ) : ( entry? p.2 p.1).isSome = p.1.value.isSome :=
    Option.isSome_map
  rw [toList, List.length_filterMap_eq_countP, hs.counted]
  simp only [hentry]
  conv_rhs => rw [← List.zipIdx_map_fst 0 a.slots, List.countP_map]
  rfl

/-- In an arena without a free slot a new value is listed last. -/
lemma toList_insert (hfree : a.free = []) (x : α) :
    (a.insert x).1.free = []
      ∧ (a.insert x).1.toList = a.toList ++ [(⟨UInt32.ofNat a.slots.length, 0⟩, x)] := by
  have hinsert : a.insert x
      = (⟨a.slots ++ [⟨0, some x⟩], a.free, a.len + 1⟩, ⟨UInt32.ofNat a.slots.length, 0⟩) := by
    rw [insert, hfree]
  rw [hinsert]
  refine ⟨hfree, ?_⟩
  rw [toList, toList, List.zipIdx_append, List.filterMap_append, Nat.zero_add]
  rfl

end DiceHost.Arena
