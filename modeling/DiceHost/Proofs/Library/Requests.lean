/-
What is asked of a library, and what it answers.

* `Library.Request`: an entity is put in, edited or removed; `Library.answer`: the library after
  a request, what it tells, and the handle of what was put in;
* `Library.run`, `Library.told`, `Library.freed`: some requests one after the other, the events
  that they tell, and the slots that they free;
* `Library.Register`: what is kept under each identifier of each kind; `Request.leaves?`,
  `Register.after`: what a request leaves there; `Register.Checked`: what is kept passes its check;
* `Library.Sound`: every table is sound; `Library.Roomy`: every table has an index for each slot;
* `answer_answers`: **how a request is answered**; `events_answer`: what it tells;
* `entity?_answer`, `Sound.answer`, `entity?_run`, `Sound.run`: **a run keeps a library sound, and
  the library agrees with the register after it**.
-/
import DiceHost.Proofs.Library.Table

namespace DiceHost

/-! ### Kinds -/

namespace EntryKind

/-- An entity that is edited at a time: a profile counts as changed then. -/
def touch : (k : EntryKind) → Timestamp → k.Entity → k.Entity
  | profile, now => Profile.touch now
  | animation, _ | pattern, _ => id

lemma uuid_identify (k : EntryKind) (u : Uuid) (x : k.Entity) :
    Identified.uuid (k.identify u x) = u := by
  cases k <;> rfl

end EntryKind

namespace Library

variable {l : Library} {k k' : EntryKind} {u v : Uuid}

@[simp] lemma table_withTable (l : Library) (t : Table k.Entity) :
    (l.withTable k t).table k = t := by
  cases k <;> rfl

lemma table_withTable_of_ne (l : Library) (t : Table k.Entity) (h : k' ≠ k) :
    (l.withTable k t).table k' = l.table k' := by
  cases k <;> cases k' <;> first | rfl | exact absurd rfl h

/-! ### Requests -/

/-- What is asked of a library. An edit may make anything of the entity. -/
inductive Request where
  | put (k : EntryKind) (x : k.Entity)
  | edit (k : EntryKind) (u : Uuid) (f : k.Entity → k.Entity) (now : Timestamp)
  | remove (k : EntryKind) (u : Uuid)

namespace Request

/-- The kind of entities that a request is about. -/
def kind : Request → EntryKind
  | put k _ | edit k .. | remove k _ => k

/-- The identifier that a request is about. -/
def uuid : Request → Uuid
  | put _ x => Identified.uuid x
  | edit _ u .. | remove _ u => u

end Request

/-- What a request ends with: the library after it, what it tells, and the handle of what was
put in. -/
structure Outcome where
  library : Library
  events : List LibraryEvent := []
  handle? : Option Handle := none

/-- The answer to a request. A request that is refused changes nothing and tells nothing. -/
def answer (l : Library) : Request → Outcome
  | .put k x =>
    match l.put k x with
    | .ok y => ⟨y.library, [y.event], some y.handle⟩
    | .error _ => ⟨l, [], none⟩
  | .edit k u f now =>
    match l.edit k u (k.touch now ∘ f) with
    | .ok y => ⟨y.library, [y.event], none⟩
    | .error _ => ⟨l, [], none⟩
  | .remove k u =>
    match l.remove k u with
    | some (l', e) => ⟨l', [e], none⟩
    | none => ⟨l, [], none⟩

/-- The library after some requests. -/
def run : Library → List Request → Library
  | l, [] => l
  | l, r :: rs => run (l.answer r).library rs

/-- What some requests tell. -/
def told : Library → List Request → List LibraryEvent
  | _, [] => []
  | l, r :: rs => (l.answer r).events ++ told (l.answer r).library rs

/-- The slot that a request frees, if it removes what is there. -/
def freedBy? (l : Library) : Request → Option (EntryKind × UInt32)
  | .remove k u =>
    (l.entity? k u).bind fun _ => ((l.table k).handle? u).map fun h => (k, h.index)
  | .put .. | .edit .. => none

/-- The slots that some requests free, each as often as it is freed. -/
def freed : Library → List Request → List (EntryKind × UInt32)
  | _, [] => []
  | l, r :: rs => (l.freedBy? r).toList ++ freed (l.answer r).library rs

lemma run_append (l : Library) (rs qs : List Request) : l.run (rs ++ qs) = (l.run rs).run qs := by
  induction rs generalizing l with
  | nil => rfl
  | cons r rs ih => exact ih _

lemma freed_append (l : Library) (rs qs : List Request) :
    l.freed (rs ++ qs) = l.freed rs ++ (l.run rs).freed qs := by
  induction rs generalizing l with
  | nil => rfl
  | cons r rs ih => rw [List.cons_append, freed, freed, ih, List.append_assoc, run]

/-! ### Registers -/

/-- What is kept under each identifier of each kind. -/
abbrev Register := (k : EntryKind) → Uuid → Option k.Entity

/-- What is kept of an entity that is put in: the entity, if it passes its check. -/
def Request.offer (k : EntryKind) (x : k.Entity) : Option (Option k.Entity) :=
  (k.check x).toOption.map fun _ => some x

/-- What a request leaves under its identifier; none when it is refused. -/
def Request.leaves? (m : Register) : (r : Request) → Option (Option r.kind.Entity)
  | put k x => offer k x
  | edit k u f now => (m k u).bind fun x => offer k (k.identify u (k.touch now (f x)))
  | remove k u => (m k u).map fun _ => none

/-- The change that a request makes under its identifier. -/
def change {α : Type} : (old new : Option α) → Change
  | _, none => .removed
  | none, some _ => .added
  | some _, some _ => .changed

/-- The event of a request that is not refused. -/
def Request.event? (m : Register) (r : Request) : Option LibraryEvent :=
  (r.leaves? m).map fun x => ⟨change (m r.kind r.uuid) x, r.kind, r.uuid⟩

namespace Register

/-- A register with another entry under an identifier. -/
def set (m : Register) (k : EntryKind) (u : Uuid) (x : Option k.Entity) : Register :=
  Function.update m k (Function.update (m k) u x)

/-- The register after a request. -/
def after (m : Register) (r : Request) : Register :=
  (r.leaves? m).elim m (m.set r.kind r.uuid)

end Register

/-- What is kept after some requests: under each identifier what the last request left that was
granted. -/
def kept (rs : List Request) : Register :=
  rs.foldl Register.after fun _ _ => none

/-- An entity that a request leaves passes its check and has the identifier of the request. -/
lemma Request.checked_of_leaves? {m : Register} {r : Request} {x : r.kind.Entity}
    (h : r.leaves? m = some (some x)) : r.kind.check x = .ok () ∧ Identified.uuid x = r.uuid := by
  have hoffer {k : EntryKind} {x y : k.Entity} (h : offer k x = some (some y)) :
      k.check x = .ok () ∧ x = y := by
    rw [offer] at h
    cases hcheck : k.check x with
    | error e =>
        rw [hcheck] at h
        cases h
    | ok _ =>
        rw [hcheck] at h
        exact ⟨rfl, Option.some_inj.mp (Option.some_inj.mp h)⟩
  cases r with
  | put k y =>
      obtain ⟨hcheck, rfl⟩ := hoffer h
      exact ⟨hcheck, rfl⟩
  | edit k u f now =>
      obtain ⟨y, -, hy⟩ := Option.bind_eq_some_iff.mp h
      obtain ⟨hcheck, rfl⟩ := hoffer hy
      exact ⟨hcheck, k.uuid_identify u _⟩
  | remove k u =>
      obtain ⟨y, -, hy⟩ := Option.map_eq_some_iff.mp h
      cases hy

namespace Register

variable {m : Register} {r : Request}

lemma set_self (m : Register) (x : Option k.Entity) :
    m.set k u x k v = if v = u then x else m k v := by
  rw [set, Function.update_self, Function.update_apply]

lemma set_of_ne (m : Register) (x : Option k.Entity) (h : k' ≠ k) : m.set k u x k' = m k' := by
  rw [set, Function.update_of_ne h]

lemma after_of_none (h : r.leaves? m = none) : m.after r = m := by
  rw [after, h, Option.elim_none]

lemma after_of_some {x : Option r.kind.Entity} (h : r.leaves? m = some x) :
    m.after r = m.set r.kind r.uuid x := by
  rw [after, h, Option.elim_some]

/-- What is kept passes its check and has the identifier under which it is kept. -/
def Checked (m : Register) : Prop :=
  ∀ k u x, m k u = some x → k.check x = .ok () ∧ Identified.uuid x = u

lemma Checked.after (h : m.Checked) (r : Request) : (m.after r).Checked := by
  intro k u x hx
  cases hleaves : r.leaves? m with
  | none =>
      rw [after_of_none hleaves] at hx
      exact h k u x hx
  | some y =>
      rw [after_of_some hleaves] at hx
      by_cases hk : k = r.kind
      · subst hk
        rw [set_self] at hx
        split_ifs at hx with hu
        · rw [hx] at hleaves
          exact hu ▸ Request.checked_of_leaves? hleaves
        · exact h _ u x hx
      · rw [set_of_ne _ _ hk] at hx
        exact h k u x hx

lemma Checked.foldl (h : m.Checked) (rs : List Request) : (rs.foldl Register.after m).Checked := by
  induction rs generalizing m with
  | nil => exact h
  | cons r rs ih => exact ih (h.after r)

end Register

lemma checked_kept (rs : List Request) : (kept rs).Checked :=
  Register.Checked.foldl (fun _ _ _ h => by cases h) rs

/-! ### Soundness -/

/-- Every table is sound. -/
def Sound (l : Library) : Prop := ∀ k, (l.table k).Sound

/-- No table has more slots than there are indices. -/
def Roomy (l : Library) : Prop := ∀ k, (l.table k).Roomy

lemma Sound.empty : ({} : Library).Sound
  | .profile => Table.Sound.empty (α := Profile)
  | .animation => Table.Sound.empty (α := Animation)
  | .pattern => Table.Sound.empty (α := Pattern)

lemma entity?_empty : ({} : Library).entity? = fun _ _ => none := by
  funext k u
  cases k <;> rfl

/-! ### Answers -/

/-- How a request is answered: it is refused, or an entity is stored, or one leaves. -/
inductive Answers (l : Library) (r : Request) : Outcome → Prop
  | refused (h : r.leaves? l.entity? = none) (hfreed : l.freedBy? r = none) :
      Answers l r ⟨l, [], none⟩
  | stored (x : r.kind.Entity) (h : r.leaves? l.entity? = some (some x)) (handle? : Option Handle)
      (hhandle : ∀ g, handle? = some g → g = ((l.table r.kind).put x).2)
      (hfreed : l.freedBy? r = none) :
      Answers l r ⟨l.withTable r.kind ((l.table r.kind).put x).1,
        [⟨change (l.entity? r.kind r.uuid) (some x), r.kind, r.uuid⟩], handle?⟩
  | removed (h : r.leaves? l.entity? = some none) (hsome : (l.entity? r.kind r.uuid).isSome)
      (hfreed : l.freedBy? r
        = ((l.table r.kind).handle? r.uuid).map fun h => (r.kind, h.index)) :
      Answers l r ⟨l.withTable r.kind ((l.table r.kind).remove r.uuid),
        [⟨.removed, r.kind, r.uuid⟩], none⟩

lemma change_some {α : Type} (old : Option α) (x : α) :
    change old (some x) = if old.isSome then .changed else .added := by
  cases old <;> rfl

lemma put_of_check {x : k.Entity} (hcheck : k.check x = .ok ()) :
    l.put k x = .ok ⟨l.withTable k ((l.table k).put x).1, ((l.table k).put x).2,
      ⟨change (l.entity? k (Identified.uuid x)) (some x), k, Identified.uuid x⟩⟩ := by
  rw [change_some, put, hcheck]
  rfl

lemma put_of_error {x : k.Entity} {e : EntityError} (hcheck : k.check x = .error e) :
    l.put k x = .error e := by
  rw [put, hcheck]
  rfl

lemma answer_answers (l : Library) (r : Request) : l.Answers r (l.answer r) := by
  cases r with
  | put k x =>
      rw [answer]
      have hleaves : (Request.put k x).leaves? l.entity?
          = (k.check x).toOption.map fun _ => some x := rfl
      cases hcheck : k.check x with
      | error e =>
          rw [hcheck] at hleaves
          rw [put_of_error hcheck]
          exact .refused hleaves rfl
      | ok _ =>
          rw [hcheck] at hleaves
          rw [put_of_check hcheck]
          exact .stored (r := .put k x) x hleaves _ (fun g hg => (Option.some_inj.mp hg).symm) rfl
  | edit k u f now =>
      rw [answer, edit]
      cases hx : l.entity? k u with
      | none =>
          refine .refused ?_ rfl
          rw [Request.leaves?, hx]
          rfl
      | some x =>
          dsimp only [Function.comp_apply]
          have hu := k.uuid_identify u (k.touch now (f x))
          have hleaves : (Request.edit k u f now).leaves? l.entity?
              = (k.check (k.identify u (k.touch now (f x)))).toOption.map
                fun _ => some (k.identify u (k.touch now (f x))) := by
            rw [Request.leaves?, hx]
            rfl
          cases hcheck : k.check (k.identify u (k.touch now (f x))) with
          | error e =>
              rw [hcheck] at hleaves
              rw [put_of_error hcheck]
              exact .refused hleaves rfl
          | ok _ =>
              rw [hcheck] at hleaves
              rw [put_of_check hcheck, hu]
              exact .stored (r := .edit k u f now) _ hleaves none nofun rfl
  | remove k u =>
      rw [answer, remove]
      have hleaves : (Request.remove k u).leaves? l.entity? = (l.entity? k u).map fun _ => none :=
        rfl
      have hfreed : l.freedBy? (.remove k u)
          = (l.entity? k u).bind fun _ => ((l.table k).handle? u).map fun h => (k, h.index) := rfl
      cases hx : l.entity? k u with
      | none =>
          rw [hx] at hleaves hfreed
          exact .refused hleaves hfreed
      | some x =>
          rw [hx] at hleaves hfreed
          exact .removed (r := .remove k u) hleaves (hx ▸ rfl) hfreed

/-- A put returns a handle just when it is granted. -/
lemma isSome_handle?_put (l : Library) (x : k.Entity) :
    (l.answer (.put k x)).handle?.isSome = true ↔ k.check x = .ok () := by
  rw [answer]
  cases hcheck : k.check x with
  | error e =>
      rw [put_of_error hcheck]
      exact ⟨nofun, nofun⟩
  | ok _ =>
      rw [put_of_check hcheck]
      exact ⟨fun _ => rfl, fun _ => rfl⟩

section Answer

variable {r : Request} (hs : l.Sound) (hroomy : (l.answer r).library.Roomy)

/-- The event of a request that is not refused tells what becomes of its identifier. -/
lemma events_answer (l : Library) (r : Request) :
    (l.answer r).events = (r.event? l.entity?).toList := by
  rw [Request.event?]
  generalize l.answer r = o, l.answer_answers r = ho
  cases ho with
  | refused h => rw [h]; rfl
  | stored x h => rw [h]; rfl
  | removed h hsome =>
      obtain ⟨x, hx⟩ := Option.isSome_iff_exists.mp hsome
      rw [h, hx]
      rfl

/-- A request that is refused changes nothing. -/
lemma library_answer_of_refused (h : r.leaves? l.entity? = none) : (l.answer r).library = l := by
  generalize l.answer r = o, l.answer_answers r = ho
  cases ho with
  | refused => rfl
  | stored x hx | removed hx =>
      rw [h] at hx
      cases hx

/-- The slots only become more. -/
lemma length_le_answer (l : Library) (r : Request) (k : EntryKind) :
    (l.table k).arena.slots.length ≤ ((l.answer r).library.table k).arena.slots.length := by
  generalize l.answer r = o, l.answer_answers r = ho
  by_cases hk : k = r.kind
  · subst hk
    cases ho with
    | refused => exact le_rfl
    | stored x =>
        rw [table_withTable]
        exact Table.length_le_put _ x
    | removed =>
        rw [table_withTable, Table.length_remove]
  · cases ho with
    | refused => exact le_rfl
    | stored | removed => rw [table_withTable_of_ne _ _ hk]

include hs hroomy

/-- A library agrees with the register after a request. -/
lemma entity?_answer : (l.answer r).library.entity? = Register.after l.entity? r := by
  funext k v
  generalize l.answer r = o, l.answer_answers r = ho at hroomy
  cases ho with
  | refused h => rw [Register.after_of_none h]
  | stored x h =>
      have hput := hroomy r.kind
      rw [table_withTable] at hput
      rw [Register.after_of_some h, entity?]
      by_cases hk : k = r.kind
      · subst hk
        rw [table_withTable, Table.get?_put (hs _) hput, Register.set_self,
          (Request.checked_of_leaves? h).2]
        rfl
      · rw [table_withTable_of_ne _ _ hk, Register.set_of_ne _ _ hk]
        rfl
  | removed h =>
      rw [Register.after_of_some h, entity?]
      by_cases hk : k = r.kind
      · subst hk
        rw [table_withTable, Table.get?_remove (hs _), Register.set_self]
        rfl
      · rw [table_withTable_of_ne _ _ hk, Register.set_of_ne _ _ hk]
        rfl

/-- A request leaves alone what its event does not name. -/
lemma entity?_answer_of_untold (h : ∀ c, ⟨c, k, u⟩ ∉ (l.answer r).events) :
    (l.answer r).library.entity? k u = l.entity? k u := by
  rw [entity?_answer hs hroomy]
  rw [events_answer, Request.event?] at h
  cases hleaves : r.leaves? l.entity? with
  | none => rw [Register.after_of_none hleaves]
  | some y =>
      rw [hleaves] at h
      rw [Register.after_of_some hleaves]
      by_cases hk : k = r.kind
      · subst hk
        rw [Register.set_self, if_neg]
        rintro rfl
        exact h _ (List.mem_cons_self)
      · rw [Register.set_of_ne _ _ hk]

/-- A request keeps a library sound. -/
lemma Sound.answer : (l.answer r).library.Sound := by
  intro k
  generalize l.answer r = o, l.answer_answers r = ho at hroomy
  by_cases hk : k = r.kind
  · subst hk
    have hroomy := hroomy r.kind
    cases ho with
    | refused => exact hs _
    | stored x =>
        rw [table_withTable] at hroomy ⊢
        exact (hs _).put hroomy
    | removed =>
        rw [table_withTable]
        exact (hs _).remove _
  · cases ho with
    | refused => exact hs k
    | stored | removed =>
        rw [table_withTable_of_ne _ _ hk]
        exact hs k

end Answer

/-! ### Runs -/

section Run

lemma length_le_run (l : Library) (rs : List Request) (k : EntryKind) :
    (l.table k).arena.slots.length ≤ ((l.run rs).table k).arena.slots.length := by
  induction rs generalizing l with
  | nil => exact le_rfl
  | cons r rs ih => exact (l.length_le_answer r k).trans (ih _)

/-- A library that still has room had room before. -/
lemma Roomy.of_run (rs : List Request) (h : (l.run rs).Roomy) : l.Roomy :=
  fun k => (l.length_le_run rs k).trans (h k)

variable {rs : List Request} (hs : l.Sound) (hroomy : (l.run rs).Roomy)

include hs hroomy

/-- **A run keeps a library sound.** -/
theorem Sound.run : (l.run rs).Sound := by
  induction rs generalizing l with
  | nil => exact hs
  | cons r rs ih => exact ih (hs.answer (Roomy.of_run rs hroomy)) hroomy

/-- **A library agrees with the register after a run.** -/
theorem entity?_run : (l.run rs).entity? = rs.foldl Register.after l.entity? := by
  induction rs generalizing l with
  | nil => rfl
  | cons r rs ih =>
      have hroomy' : (l.answer r).library.Roomy := Roomy.of_run rs hroomy
      rw [List.foldl_cons, ← entity?_answer hs hroomy']
      exact ih (hs.answer hroomy') hroomy

end Run

end Library

end DiceHost
