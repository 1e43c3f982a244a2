/-
Handles over any history of an arena.

* `Arena.Operation`, `Arena.Answer`, `Arena.operate`: the operations with their answers;
  `Arena.after`, `Arena.history`: a history of them, and what was asked and answered in it;
* `Arena.returned`, `Arena.freed`, `Arena.balance`: the handles that were returned in a history, how
  often a slot was freed, and the values put in less those taken out;
* `Arena.Names`: by a history a handle names a value: an insertion returned the handle, its value
  has not been removed since, and the value is the one that was written last;
* `Arena.Traced`: an arena is what its history says; `Traced.operate`: **an operation keeps it so**;
* `Arena.handles_after`: **over any history handles are never confused**, as long as there is an
  index for each slot and a generation for each time that a slot is freed.

The generation of a slot counts how often it was freed. A handle that was returned is of this
generation exactly as long as its value is there, so the next one for the slot is a new one.
-/
import DiceHost.Proofs.Library.Arena

namespace DiceHost.Arena

variable {α : Type}

/-! ### Histories -/

/-- An operation on an arena. -/
inductive Operation (α : Type) where
  | insert (x : α)
  /-- Another value is written through a handle. -/
  | set (h : Handle) (x : α)
  | remove (h : Handle)

/-- The answer to an operation. -/
inductive Answer (α : Type) where
  | inserted (h : Handle)
  /-- Whether the handle named a value to be replaced. -/
  | written (done : Bool)
  /-- The value that was there. -/
  | removed (x : Option α)

/-- An operation, with its answer. -/
def operate (a : Arena α) : Operation α → Answer α × Arena α
  | .insert x => (.inserted (a.insert x).2, (a.insert x).1)
  | .set h x => (.written (a.get? h).isSome, a.set h x)
  | .remove h => (.removed (a.remove h).2, (a.remove h).1)

/-- The arena after some operations, the first one first. -/
def after (a : Arena α) (os : List (Operation α)) : Arena α :=
  os.foldl (fun a o => (a.operate o).2) a

/-- What was asked and answered. -/
abbrev Log (α : Type) := List (Operation α × Answer α)

/-- Some operations with their answers. -/
def history (a : Arena α) : List (Operation α) → Log α
  | [] => []
  | o :: os => (o, (a.operate o).1) :: history (a.operate o).2 os

/-- The handles that were returned. -/
def returned (log : Log α) : List Handle :=
  log.filterMap fun e => match e.2 with
    | .inserted h => some h
    | _ => none

/-- A removal that takes a value out of a slot. -/
def frees (i : UInt32) : Operation α × Answer α → Bool
  | (.remove h, .removed (some _)) => h.index = i
  | _ => false

/-- How often a slot was freed. -/
def freed (log : Log α) (i : UInt32) : ℕ :=
  log.countP (frees i)

/-- The values put in less those taken out. -/
def balance (log : Log α) : ℤ :=
  (log.map fun e => match e.2 with
    | .inserted _ => 1
    | .removed (some _) => -1
    | _ => 0).sum

/-- The value that an operation writes through a handle. -/
def writes? (h : Handle) : Operation α × Answer α → Option α
  | (.set g x, _) => if g = h then some x else none
  | _ => none

/-- The value written last through a handle, or the one that was put in. -/
def lastWritten (h : Handle) (x : α) (log : Log α) : α :=
  (log.filterMap (writes? h)).getLastD x

/-- By a history a handle names a value: an insertion returned it, its value has not been removed
since, and the value is the one that was written last. -/
def Names (log : Log α) (h : Handle) (v : α) : Prop :=
  ∃ pre x post, log = pre ++ (.insert x, .inserted h) :: post
    ∧ (∀ e ∈ post, e.1 ≠ .remove h) ∧ lastWritten h x post = v

section Concat

variable {log : Log α} {a : Arena α} {o : Operation α} {e : Operation α × Answer α} {h : Handle}
  {v : α}

lemma after_append (a : Arena α) (os ps : List (Operation α)) :
    a.after (os ++ ps) = (a.after os).after ps :=
  List.foldl_append

lemma history_append (a : Arena α) (os ps : List (Operation α)) :
    a.history (os ++ ps) = a.history os ++ (a.after os).history ps := by
  induction os generalizing a with
  | nil => rfl
  | cons o os ih => exact congrArg (_ :: ·) (ih _)

lemma returned_concat (log : Log α) (e : Operation α × Answer α) :
    returned (log ++ [e]) = returned log ++ returned [e] :=
  List.filterMap_append

lemma freed_append (log log' : Log α) (i : UInt32) :
    freed (log ++ log') i = freed log i + freed log' i :=
  List.countP_append

/-- A slot is freed at most once by an operation. -/
lemma freed_le_length (log : Log α) (i : UInt32) : freed log i ≤ log.length :=
  List.countP_le_length

lemma balance_concat (log : Log α) (e : Operation α × Answer α) :
    balance (log ++ [e]) = balance log + balance [e] := by
  rw [balance, List.map_append, List.sum_append]
  rfl

lemma lastWritten_concat (h : Handle) (x : α) (log : Log α) (e : Operation α × Answer α) :
    lastWritten h x (log ++ [e]) = (writes? h e).getD (lastWritten h x log) := by
  rw [lastWritten, List.filterMap_append]
  cases hw : writes? h e with
  | none => rw [List.filterMap_cons_none hw, List.filterMap_nil, List.append_nil]; rfl
  | some y => rw [List.filterMap_cons_some hw, List.filterMap_nil, List.getLastD_concat]; rfl

/-- What a handle names after one more operation: the value that was put in, or one written
since. -/
lemma names_concat : Names (log ++ [e]) h v ↔ e = (.insert v, .inserted h)
    ∨ e.1 ≠ .remove h ∧ ∃ u, Names log h u ∧ (writes? h e).getD u = v := by
  constructor
  · rintro ⟨pre, x, post, hlog, hkept, rfl⟩
    induction post using List.reverseRecOn with
    | nil =>
        obtain ⟨-, he⟩ := List.append_inj' hlog rfl
        exact .inl (List.singleton_inj.mp he)
    | append_singleton post d _ =>
        rw [← List.cons_append, ← List.append_assoc] at hlog
        obtain ⟨rfl, he⟩ := List.append_inj' hlog rfl
        obtain rfl := List.singleton_inj.mp he
        refine .inr ⟨hkept e (by simp), _, ⟨pre, x, post, rfl, ?_, rfl⟩, ?_⟩
        · exact fun d hd => hkept d (List.mem_append_left _ hd)
        · exact (lastWritten_concat h x post e).symm
  · rintro (rfl | ⟨hne, u, ⟨pre, x, post, rfl, hkept, rfl⟩, rfl⟩)
    · exact ⟨log, v, [], rfl, by simp, rfl⟩
    · refine ⟨pre, x, post ++ [e], by simp, fun d hd => ?_, lastWritten_concat h x post e⟩
      rcases List.mem_append.mp hd with hd | hd
      · exact hkept d hd
      · exact List.mem_singleton.mp hd ▸ hne

/-- An operation that neither puts a value in nor concerns a handle leaves what it names. -/
lemma names_concat_of_other (hinsert : e ≠ (.insert v, .inserted h)) (hremove : e.1 ≠ .remove h)
    (hwrites : writes? h e = none) : Names (log ++ [e]) h v ↔ Names log h v := by
  rw [names_concat, or_iff_right hinsert, and_iff_right hremove, hwrites]
  simp

end Concat

/-! ### Operations -/

/-- A value that is put in is counted. -/
lemma len_insert (a : Arena α) (x : α) : (a.insert x).1.len = a.len + 1 := by
  rw [insert]
  cases a.free <;> rfl

lemma len_set (a : Arena α) (h : Handle) (x : α) : (a.set h x).len = a.len := by
  rw [set]
  split_ifs <;> rfl

/-- No slot is given up. -/
lemma length_le_operate (a : Arena α) (o : Operation α) :
    a.slots.length ≤ (a.operate o).2.slots.length := by
  cases o with
  | insert x =>
      rw [operate, insert]
      cases a.free with
      | nil => exact List.length_append ▸ Nat.le_add_right ..
      | cons i free => exact (List.length_set ..).ge
  | set h x =>
      cases hx : a.get? h with
      | none => exact (congrArg (·.slots.length) (set_of_none hx x)).ge
      | some y => exact (length_set hx x).ge
  | remove h =>
      cases hx : a.get? h with
      | none => exact (congrArg (·.1.slots.length) (remove_of_none hx)).ge
      | some y => exact (length_remove hx).ge

lemma length_le_after (a : Arena α) (os : List (Operation α)) :
    a.slots.length ≤ (a.after os).slots.length := by
  induction os generalizing a with
  | nil => exact le_rfl
  | cons o os ih => exact (length_le_operate a o).trans (ih _)

/-! ### Arenas as their histories say -/

/-- An arena is what its history says: the generation of a slot counts how often it was freed, and
a handle that was returned is of this generation only as long as its value is there. -/
structure Traced (a : Arena α) (log : Log α) : Prop where
  sound : a.Sound
  generation : ∀ i : UInt32, a.generation i.toNat = UInt32.ofNat (freed log i)
  names : ∀ h v, a.get? h = some v ↔ Names log h v
  past : ∀ h ∈ returned log, h.generation.toNat ≤ freed log h.index
  current : ∀ h ∈ returned log, h.generation.toNat = freed log h.index →
    (a.get? h).isSome = true
  once : (returned log).Nodup
  len : (a.len : ℤ) = balance log

namespace Traced

variable {a b : Arena α} {log : Log α} {e : Operation α × Answer α} {h : Handle} {x y : α}

lemma empty : Traced ({} : Arena α) [] where
  sound := .empty
  generation _ := rfl
  names h v := by simp [get?, slot?, Names]
  past := nofun
  current := nofun
  once := List.nodup_nil
  len := rfl

/-- A handle that names a value is of the generation of its slot. -/
lemma generation_of_live (ht : Traced a log) (hfreed : ∀ i, freed log i < 2 ^ 32)
    (hx : a.get? h = some x) : h.generation.toNat = freed log h.index := by
  rw [← generation_of_get? hx, ht.generation, UInt32.toNat_ofNat_of_lt' (hfreed _)]

/-- An operation that returns no handle and frees no slot, as far as the handles name what the
history says. -/
lemma concat (ht : Traced a log) (hsound : b.Sound)
    (hgeneration : ∀ i, b.generation i = a.generation i)
    (hnames : ∀ h v, b.get? h = some v ↔ Names (log ++ [e]) h v)
    (hlive : ∀ h, (a.get? h).isSome = true → (b.get? h).isSome = true)
    (hlen : b.len = a.len) (hreturned : returned [e] = []) (hfrees : ∀ i, frees i e = false)
    (hbalance : balance [e] = 0) : Traced b (log ++ [e]) := by
  have hfreed (i : UInt32) : freed (log ++ [e]) i = freed log i := by
    rw [freed_append, freed, freed, List.countP_singleton, hfrees]
    rfl
  have hsame : returned (log ++ [e]) = returned log := by
    rw [returned_concat, hreturned, List.append_nil]
  refine ⟨hsound, fun i => ?_, hnames, ?_, ?_, ?_, ?_⟩
  · rw [hgeneration, hfreed, ht.generation]
  · rw [hsame]
    exact fun h hh => (ht.past h hh).trans_eq (hfreed _).symm
  · rw [hsame]
    exact fun h hh hg => hlive h (ht.current h hh (hg.trans (hfreed _)))
  · exact hsame ▸ ht.once
  · rw [hlen, ht.len, balance_concat, hbalance, add_zero]

section Insert

variable (ht : Traced a log) (hroomy : (a.insert x).1.slots.length ≤ 2 ^ 32)
  (hfreed : ∀ i, freed log i < 2 ^ 32)

include ht hroomy hfreed

/-- The handle of a value that is put in is of the generation of its slot. -/
lemma generation_new : (a.insert x).2.generation.toNat = freed log (a.insert x).2.index := by
  rw [generation_handle ht.sound hroomy, ht.generation, UInt32.toNat_ofNat_of_lt' (hfreed _)]

/-- The handle of a value that is put in was not returned before. -/
lemma new_not_mem : (a.insert x).2 ∉ returned log := by
  intro hmem
  have hlive := ht.current _ hmem (ht.generation_new hroomy hfreed)
  rw [get?_handle ht.sound hroomy] at hlive
  cases hlive

lemma insert : Traced (a.insert x).1 (log ++ [(.insert x, .inserted (a.insert x).2)]) := by
  have hsame (i : UInt32) :
      freed (log ++ [(.insert x, .inserted (a.insert x).2)]) i = freed log i :=
    freed_append ..
  have hreturned : returned (log ++ [(.insert x, .inserted (a.insert x).2)])
      = returned log ++ [(a.insert x).2] :=
    returned_concat ..
  refine ⟨ht.sound.insert hroomy, fun i => ?_, fun h v => ?_, ?_, ?_, ?_, ?_⟩
  · rw [generation_insert ht.sound hroomy, hsame, ht.generation]
  · rw [get?_insert ht.sound hroomy]
    split_ifs with hh
    · have hnone (u : α) : ¬ Names log h u := by
        rw [← ht.names, hh, get?_handle ht.sound hroomy]
        exact nofun
      rw [names_concat, or_iff_left fun ⟨_, u, hu, _⟩ => hnone u hu, hh]
      simp
    · rw [ht.names, Iff.comm]
      refine names_concat_of_other (fun he => hh ?_) nofun rfl
      exact (Answer.inserted.inj (congrArg Prod.snd he)).symm
  · rw [hreturned]
    intro h hh
    rw [hsame]
    rcases List.mem_append.mp hh with hh | hh
    · exact ht.past h hh
    · exact List.mem_singleton.mp hh ▸ (ht.generation_new hroomy hfreed).le
  · rw [hreturned]
    intro h hh hg
    rw [hsame] at hg
    rw [get?_insert ht.sound hroomy]
    split_ifs with hnew
    · rfl
    · exact ht.current h ((List.mem_append.mp hh).resolve_right
        fun h => hnew (List.mem_singleton.mp h)) hg
  · rw [hreturned]
    exact List.nodup_append.mpr ⟨ht.once, List.nodup_singleton _, fun g hg h hh hgh =>
      ht.new_not_mem hroomy hfreed (List.mem_singleton.mp hh ▸ hgh ▸ hg)⟩
  · rw [len_insert, balance_concat, ← ht.len]
    rfl

end Insert

lemma set (ht : Traced a log) (h : Handle) (y : α) :
    Traced (a.set h y) (log ++ [(.set h y, .written (a.get? h).isSome)]) := by
  cases hx : a.get? h with
  | none =>
      rw [set_of_none hx]
      refine ht.concat ht.sound (fun _ => rfl) (fun g v => ?_) (fun _ => id) rfl rfl
        (fun _ => rfl) rfl
      by_cases hg : h = g
      · rw [← hg, hx, names_concat]
        refine ⟨nofun, ?_⟩
        rintro (he | ⟨-, u, hu, -⟩)
        · cases he
        · rw [← ht.names, hx] at hu
          cases hu
      · rw [ht.names, Iff.comm]
        exact names_concat_of_other nofun nofun (if_neg hg)
  | some x =>
      refine ht.concat (ht.sound.set hx y) (generation_set hx y) (fun g v => ?_)
        (fun g hg => ?_) (len_set a h y) rfl (fun _ => rfl) rfl
      · rw [get?_set hx]
        by_cases hg : g = h
        · rw [if_pos hg, names_concat, or_iff_right nofun, and_iff_right nofun, writes?,
            if_pos hg.symm]
          exact ⟨fun hv => ⟨x, (ht.names g x).mp (hg ▸ hx), Option.some_inj.mp hv⟩,
            fun ⟨_, _, hv⟩ => congrArg some hv⟩
        · rw [if_neg hg, ht.names, Iff.comm]
          exact names_concat_of_other nofun nofun (if_neg (Ne.symm hg))
      · rw [get?_set hx]
        split_ifs
        · rfl
        · exact hg

lemma remove (ht : Traced a log) (h : Handle) :
    Traced (a.remove h).1 (log ++ [(.remove h, .removed (a.remove h).2)]) := by
  have hnames (r : Option α) (g : Handle) (v : α) :
      Names (log ++ [(.remove h, .removed r)]) g v ↔ g ≠ h ∧ a.get? g = some v := by
    rw [names_concat, or_iff_right nofun, ht.names]
    simp [writes?, eq_comm]
  cases hx : a.get? h with
  | none =>
      rw [remove_of_none hx]
      refine ht.concat ht.sound (fun _ => rfl) (fun g v => ?_) (fun _ => id) rfl rfl
        (fun _ => rfl) rfl
      rw [hnames, iff_and_self]
      rintro hg rfl
      cases hx.symm.trans hg
  | some x =>
      have hremoved : (a.remove h).2 = some x := by rw [remove_of_some hx]
      rw [hremoved]
      have hcount (i : UInt32) : freed (log ++ [(.remove h, .removed (some x))]) i
          = freed log i + if h.index = i then 1 else 0 := by
        rw [freed_append, freed, freed, List.countP_singleton]
        simp [frees]
      have hreturned : returned (log ++ [(.remove h, .removed (some x))]) = returned log :=
        (returned_concat ..).trans (List.append_nil _)
      refine ⟨ht.sound.remove hx, fun i => ?_, fun g v => ?_, ?_, ?_, ?_, ?_⟩
      · rw [generation_remove hx, hcount, ht.generation]
        simp only [UInt32.toNat_inj, eq_comm (a := i)]
        split_ifs
        · rw [UInt32.ofNat_add]
          rfl
        · rfl
      · rw [hnames, get?_remove hx]
        split_ifs with hg
        · simp [hg]
        · rw [and_iff_right hg]
      · rw [hreturned]
        exact fun g hg => (ht.past g hg).trans ((Nat.le_add_right ..).trans_eq (hcount _).symm)
      · rw [hreturned]
        intro g hg heq
        have hpast := ht.past g hg
        rw [hcount] at heq
        -- a handle for the slot that is freed is of an earlier generation
        split_ifs at heq with hindex
        · omega
        · rw [get?_remove hx, if_neg fun hgh => hindex (congrArg _ hgh.symm)]
          exact ht.current g hg heq
      · exact hreturned ▸ ht.once
      · rw [balance_concat, ← ht.len, ← len_remove hx ht.sound]
        simp [balance]

/-- **An operation keeps the arena what its history says**, as long as there is an index for each
slot and a generation for each time that a slot is freed. -/
lemma operate (ht : Traced a log) (o : Operation α)
    (hroomy : (a.operate o).2.slots.length ≤ 2 ^ 32) (hfreed : ∀ i, freed log i < 2 ^ 32) :
    Traced (a.operate o).2 (log ++ [(o, (a.operate o).1)]) :=
  match o with
  | .insert _ => ht.insert hroomy hfreed
  | .set h y => ht.set h y
  | .remove h => ht.remove h

end Traced

/-! ### Any history -/

section Any

variable {os pre post : List (Operation α)} {h : Handle} {x v : α}

/-- An arena is what its history says. -/
lemma traced_after (os : List (Operation α)) (hroomy : (after {} os).slots.length ≤ 2 ^ 32)
    (hfreed : ∀ i, freed (history {} os) i < 2 ^ 32) : Traced (after {} os) (history {} os) := by
  induction os using List.reverseRecOn with
  | nil => exact .empty
  | append_singleton os o ih =>
      rw [history_append] at hfreed ⊢
      rw [after_append] at hroomy ⊢
      have hbefore (i : UInt32) : freed (history {} os) i < 2 ^ 32 :=
        (Nat.le_add_right ..).trans_lt (freed_append (history {} os) _ i ▸ hfreed i)
      exact (ih ((length_le_after _ _).trans hroomy) hbefore).operate o hroomy hbefore

/-- So it was after each part of its history. -/
lemma traced_before (hroomy : (after {} (pre ++ post)).slots.length ≤ 2 ^ 32)
    (hfreed : ∀ i, freed (history ({} : Arena α) (pre ++ post)) i < 2 ^ 32) :
    Traced (after {} pre) (history {} pre) := by
  rw [after_append] at hroomy
  refine traced_after pre ((length_le_after _ _).trans hroomy) fun i => ?_
  have hi := hfreed i
  rw [history_append, freed_append] at hi
  exact (Nat.le_add_right ..).trans_lt hi

/-- A handle whose value was removed names nothing again. -/
lemma get?_of_removed (hroomy : (after {} (pre ++ .remove h :: post)).slots.length ≤ 2 ^ 32)
    (hfreed : ∀ i, freed (history {} (pre ++ .remove h :: post)) i < 2 ^ 32)
    (hv : (after {} pre).get? h = some v) :
    (after {} (pre ++ .remove h :: post)).get? h = none := by
  have hbefore := traced_before hroomy hfreed
  have hafter := traced_after _ hroomy hfreed
  have hcount : freed (history {} pre) h.index
      < freed (history {} (pre ++ .remove h :: post)) h.index := by
    have hfrees : frees h.index (.remove h, ((after {} pre).operate (.remove h)).1) = true := by
      rw [Arena.operate, remove_of_some hv]
      exact decide_eq_true rfl
    rw [history_append, freed_append, history]
    exact Nat.lt_add_of_pos_right (List.countP_pos_iff.mpr ⟨_, List.mem_cons_self, hfrees⟩)
  cases hnow : (after {} (pre ++ .remove h :: post)).get? h with
  | none => rfl
  | some u =>
      have hbelow (i : UInt32) : freed (history {} pre) i < 2 ^ 32 := by
        have hi := hfreed i
        rw [history_append, freed_append] at hi
        omega
      exact absurd ((hbefore.generation_of_live hbelow hv).symm.trans
        (hafter.generation_of_live hfreed hnow)) hcount.ne

end Any

/-- **Handles are never confused.** Over any history with an index for each slot and a generation
for each time that a slot is freed, a handle names a value just if an insertion returned it, its
value has not been removed since, and the value is the one written last; a removal gives the value
that its handle names, which then names nothing again, and any other one gives none and changes
nothing; no handle is returned twice, and an insertion leaves what other handles name; the listing
has just what handles name, in the order of the slots, and the count that the arena keeps is its
length, which is the insertions less the removals that gave a value. -/
theorem handles_after (os : List (Operation α)) (hroomy : (after {} os).slots.length ≤ 2 ^ 32)
    (hfreed : ∀ i, freed (history {} os) i < 2 ^ 32) :
    (∀ h v, (after {} os).get? h = some v ↔ Names (history {} os) h v)
    ∧ (∀ pre h post, os = pre ++ .remove h :: post →
        (∀ v, Names (history {} pre) h v →
          (after {} pre).remove h = (((after {} pre).remove h).1, some v)
          ∧ (∀ g, ((after {} pre).remove h).1.get? g
              = if g = h then none else (after {} pre).get? g)
          ∧ (after {} os).get? h = none)
        ∧ ((∀ v, ¬ Names (history {} pre) h v) →
          (after {} pre).remove h = (after {} pre, none)))
    ∧ (returned (history {} os)).Nodup
    ∧ (∀ pre x post, os = pre ++ .insert x :: post →
        ∀ g v, (after {} pre).get? g = some v → ((after {} pre).insert x).1.get? g = some v)
    ∧ (∀ h v, (h, v) ∈ (after {} os).toList ↔ (after {} os).get? h = some v)
    ∧ (after {} os).toList.Pairwise (fun p q => p.1.index < q.1.index)
    ∧ (after {} os).len = (after {} os).toList.length
    ∧ (after {} os).len = balance (history {} os) := by
  have hafter := traced_after os hroomy hfreed
  refine ⟨hafter.names, ?removal, hafter.once, ?insertion, fun h v => mem_toList hafter.sound,
    ascending_toList hafter.sound, (length_toList hafter.sound).symm, hafter.len⟩
  case removal =>
    rintro pre h post rfl
    have hbefore := traced_before hroomy hfreed
    constructor
    · intro v hv
      have hget := (hbefore.names h v).mpr hv
      refine ⟨?_, fun g => get?_remove hget, get?_of_removed hroomy hfreed hget⟩
      rw [remove_of_some hget]
    · intro hnone
      have hget : (after {} pre).get? h = none :=
        Option.eq_none_iff_forall_ne_some.mpr fun v hv => hnone v ((hbefore.names h v).mp hv)
      exact remove_of_none hget
  case insertion =>
    rintro pre x post rfl g v hv
    have hroom : ((after {} pre).insert x).1.slots.length ≤ 2 ^ 32 := by
      rw [after_append] at hroomy
      exact (length_le_after _ post).trans hroomy
    have hsound := (traced_before hroomy hfreed).sound
    rw [get?_insert hsound hroom, if_neg, hv]
    rintro rfl
    cases hv.symm.trans (get?_handle hsound hroom)

/-- Two values, one of them in the slot of a third: a handle of that one removes nothing. -/
theorem handles_after_reuse :
    let os : List (Operation ℕ) := [.insert 10, .remove ⟨0, 0⟩, .insert 20, .insert 30,
      .set ⟨0, 1⟩ 25, .remove ⟨0, 0⟩]
    (after {} os).slots.length ≤ 2 ^ 32 ∧ (∀ i, freed (history {} os) i < 2 ^ 32)
      ∧ returned (history {} os) = [⟨0, 0⟩, ⟨0, 1⟩, ⟨1, 0⟩]
      ∧ (after {} os).toList = [(⟨0, 1⟩, 25), (⟨1, 0⟩, 30)]
      ∧ (∀ v, ¬ Names (history {} os) ⟨0, 0⟩ v) ∧ Names (history {} os) ⟨0, 1⟩ 25
      ∧ balance (history {} os) = 2 := by
  intro os
  have hroomy : (after {} os).slots.length ≤ 2 ^ 32 := by decide
  have hfreed (i : UInt32) : freed (history {} os) i < 2 ^ 32 :=
    (freed_le_length _ i).trans_lt (by decide)
  obtain ⟨hnames, -, -, -, -, -, -, hbalance⟩ := handles_after os hroomy hfreed
  refine ⟨hroomy, hfreed, rfl, rfl, fun v hv => ?_, (hnames _ _).mp rfl, hbalance.symm⟩
  cases (hnames _ v).mpr hv

end DiceHost.Arena
