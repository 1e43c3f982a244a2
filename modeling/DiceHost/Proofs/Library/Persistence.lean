/-
A library is read back from its text.

* `Table.fill`: values put into a table one after the other; `Filled.put`, `filled_fill`: **values
  with identifiers of their own are listed in the order in which they were put in**;
* `Table.get?_congr`: two sound tables with the same listing find the same;
* `Contents.decode_node`: the entities of a library are decoded as they were written;
* `ofContents_eq`: the library of entities that pass their checks;
* `load_save_of_sound`: **a sound library is read back from its text**;
* `load_save`: so is every library that requests lead to.

The library that is read has no free slots, so handles are not kept, but the listings are.
-/
import DiceHost.Library.File
import DiceHost.Proofs.Json.Restoration
import DiceHost.Proofs.Library.Integrity

namespace DiceHost

/-! ### Values put in one after the other -/

namespace Table

variable {α : Type} [Identified α] {t t' : Table α} {x : α} {xs : List α} {u : Uuid}

/-- Values put in one after the other. -/
def fill (t : Table α) (xs : List α) : Table α := xs.foldl (fun t x => (t.put x).1) t

/-- A sound table with no slot but those of the values that it lists. -/
structure Filled (t : Table α) (xs : List α) : Prop where
  sound : t.Sound
  packed : t.arena.free = []
  length : t.arena.slots.length = xs.length
  listed : t.toList = xs

lemma Filled.empty : ({} : Table α).Filled [] := ⟨.empty, rfl, rfl, rfl⟩

/-- A value that is not there is listed last. -/
lemma Filled.put (h : t.Filled xs) (hx : ∀ y ∈ xs, Identified.uuid y ≠ Identified.uuid x)
    (hroom : xs.length < 2 ^ 32) : (t.put x).1.Filled (xs ++ [x]) := by
  have hhandle : t.handle? (Identified.uuid x) = none := by
    rw [← h.sound.get?_eq_none, Option.eq_none_iff_forall_ne_some]
    intro y hy
    have hyu := h.sound.uuid_of_get? hy
    refine hx y ?_ hyu
    rw [← h.listed, mem_toList h.sound, hyu, hy]
  obtain ⟨hfree, hlist⟩ := Arena.toList_insert h.packed x
  have hlength : (t.arena.insert x).1.slots.length = xs.length + 1 := by
    rw [Arena.insert, h.packed]
    dsimp only
    rw [List.length_append, List.length_singleton, h.length]
  have hput := congrArg Prod.fst (put_of_none hhandle)
  refine ⟨h.sound.put ?_, ?_, ?_, ?_⟩
  · rw [Roomy, hput, hlength]
    exact hroom
  · rw [hput, hfree]
  · rw [hput, hlength, List.length_append, List.length_singleton]
  · rw [hput, toList, hlist, List.map_append, ← toList, h.listed]
    rfl

/-- Values with identifiers of their own are listed in the order in which they were put in. -/
lemma Filled.fill {ys : List α} (h : t.Filled xs)
    (hnodup : ((xs ++ ys).map Identified.uuid).Nodup) (hroom : (xs ++ ys).length ≤ 2 ^ 32) :
    (t.fill ys).Filled (xs ++ ys) := by
  induction ys generalizing t xs with
  | nil => rwa [List.append_nil]
  | cons y ys ih =>
      rw [List.append_cons] at hnodup hroom ⊢
      have hne : ∀ x ∈ xs, Identified.uuid x ≠ Identified.uuid y := by
        rw [List.map_append, List.map_append] at hnodup
        have happart := (List.nodup_append.mp (List.nodup_append.mp hnodup).1).2.2
        exact fun x hx => happart _ (List.mem_map_of_mem hx) _ (List.mem_singleton_self _)
      have hlt : xs.length < 2 ^ 32 := by
        rw [List.length_append, List.length_append, List.length_singleton] at hroom
        omega
      exact ih (h.put hne hlt) hnodup hroom

/-- Sound tables with the same listing find the same. -/
lemma get?_congr (hs : t.Sound) (hs' : t'.Sound) (h : t.toList = t'.toList) :
    t.get? u = t'.get? u := by
  have hmem {t : Table α} (hs : t.Sound) (x : α) :
      t.get? u = some x ↔ x ∈ t.toList ∧ Identified.uuid x = u := by
    constructor
    · intro hx
      have hu := hs.uuid_of_get? hx
      exact ⟨(mem_toList hs).mpr (hu ▸ hx), hu⟩
    · rintro ⟨hx, rfl⟩
      exact (mem_toList hs).mp hx
  refine Option.ext fun x => ?_
  rw [hmem hs, hmem hs', h]

omit [Identified α] in
/-- No more values are listed than there are slots. -/
lemma length_toList_le (t : Table α) : t.toList.length ≤ t.arena.slots.length := by
  rw [toList, List.length_map, Arena.toList]
  exact (List.length_filterMap_le _ _).trans_eq List.length_zipIdx

end Table

namespace Library

variable {l : Library} {c : Contents}

/-! ### Contents -/

/-- The entities of a kind. -/
def Contents.entities (c : Contents) : (k : EntryKind) → List k.Entity
  | .profile => c.profiles
  | .animation => c.animations
  | .pattern => c.patterns

lemma entities_contents (l : Library) (k : EntryKind) :
    l.contents.entities k = (l.table k).toList := by
  cases k <;> rfl

lemma contents_congr {l l' : Library} (h : ∀ k, (l.table k).toList = (l'.table k).toList) :
    l.contents = l'.contents := by
  have hprofiles : l.profiles.toList = l'.profiles.toList := h .profile
  have hanimations : l.animations.toList = l'.animations.toList := h .animation
  have hpatterns : l.patterns.toList = l'.patterns.toList := h .pattern
  rw [contents, contents, hprofiles, hanimations, hpatterns]

namespace Contents

open Json

lemma modest_toJson {d : ℕ} (c : Contents) : c.toJson.Modest (d + 8) := by
  refine .obj ?_
  simp [Profile.modest_toJson, Animation.modest_toJson, Pattern.modest_toJson]

lemma definite_toJson (h : ∀ k, ∀ x ∈ c.entities k, k.check x = .ok ()) : c.toJson.Definite := by
  refine .obj ?_
  simp only [List.forall_mem_cons, List.not_mem_nil, false_implies, implies_true, and_true]
  exact ⟨definite_list fun p hp => Profile.definite_toJson (h .profile p hp),
    definite_list fun a ha => Animation.definite_toJson (h .animation a ha),
    definite_list fun p hp => Pattern.definite_toJson (h .pattern p hp)⟩

/-- The entities of a library are decoded as they were written. -/
lemma decode_node (h : c.toJson.Readable) (htimes : ∀ p ∈ c.profiles,
    Timestamp.parse? p.created.text = some p.created
      ∧ Timestamp.parse? p.modified.text = some p.modified) :
    record.decode c.toJson.node = .ok c := by
  have hprofiles := readable_obj.mp h ("profiles", .list Profile.toJson c.profiles) (by simp)
  have hanimations := readable_obj.mp h ("animations", .list Animation.toJson c.animations)
    (by simp)
  have hpatterns := readable_obj.mp h ("patterns", .list Pattern.toJson c.patterns) (by simp)
  exact Record.decode_node rfl
    ((Record.Restores.defaulted (by simp) (Decoder.list_node fun p hp =>
        Profile.decode_node (readable_list.mp hprofiles p hp) (htimes p hp).1
          (htimes p hp).2)).map Contents.mk
      |>.seq (.defaulted (by simp) (Decoder.list_node fun a ha =>
        Animation.decode_node (readable_list.mp hanimations a ha)))
      |>.seq (.defaulted (by simp) (Decoder.list_node fun p hp =>
        Pattern.decode_node (readable_list.mp hpatterns p hp))))

end Contents

/-! ### The library of some entities -/

lemma withTable_table (l : Library) (k : EntryKind) : l.withTable k (l.table k) = l := by
  cases k <;> rfl

lemma withTable_withTable (l : Library) {k : EntryKind} (t t' : Table k.Entity) :
    (l.withTable k t).withTable k t' = l.withTable k t' := by
  cases k <;> rfl

lemma putAll_eq {k : EntryKind} {xs : List k.Entity} (h : ∀ x ∈ xs, k.check x = .ok ()) :
    l.putAll k xs = .ok (l.withTable k ((l.table k).fill xs)) := by
  induction xs generalizing l with
  | nil =>
      rw [Table.fill, List.foldl_nil, withTable_table]
      rfl
  | cons x xs ih =>
      rw [putAll, List.foldlM_cons, put_of_check (h x List.mem_cons_self)]
      have hrest := ih (l := l.withTable k ((l.table k).put x).1)
        fun y hy => h y (List.mem_cons_of_mem x hy)
      rw [table_withTable, withTable_withTable] at hrest
      exact hrest

/-- Entities that pass their checks make a library. -/
lemma ofContents_eq (h : ∀ k, ∀ x ∈ c.entities k, k.check x = .ok ()) :
    ∃ l, ofContents c = .ok l ∧ ∀ k, l.table k = Table.fill {} (c.entities k) := by
  refine ⟨⟨Table.fill {} c.profiles, Table.fill {} c.animations, Table.fill {} c.patterns⟩, ?_,
    fun k => by cases k <;> rfl⟩
  have hsteps : ofContents c = (putAll {} .pattern (c.entities .pattern)).bind fun l =>
      (l.putAll .animation (c.entities .animation)).bind fun l =>
        l.putAll .profile (c.entities .profile) := rfl
  rw [hsteps, putAll_eq (h .pattern), Except.bind, putAll_eq (h .animation), Except.bind,
    putAll_eq (h .profile)]
  rfl

/-! ### Saving and loading -/

/-- The entities of a text that was saved. -/
lemma decodeText_save (hchecked : ∀ k, ∀ x ∈ l.contents.entities k, k.check x = .ok ())
    (hnumbers : l.contents.toJson.Readable) (htimes : ∀ p ∈ l.contents.profiles,
      Timestamp.parse? p.created.text = some p.created
        ∧ Timestamp.parse? p.modified.text = some p.modified) :
    Json.decodeText Contents.record.decode l.save.toList = .ok l.contents := by
  have hread := Json.Node.read_pretty (Contents.definite_toJson hchecked).legible
    l.contents.modest_toJson hnumbers
  rw [Json.decodeText, save, String.toList_ofList, hread]
  dsimp only
  rw [Contents.decode_node hnumbers htimes]
  rfl

/-- **A sound library is read back from its text.** -/
theorem load_save_of_sound (hs : l.Sound) (hroomy : l.Roomy)
    (hchecked : Register.Checked l.entity?) (hnumbers : l.contents.toJson.Readable)
    (htimes : ∀ p ∈ l.contents.profiles, Timestamp.parse? p.created.text = some p.created
      ∧ Timestamp.parse? p.modified.text = some p.modified) :
    ∃ l', load l.save = .ok l' ∧ l'.Sound ∧ ∀ k, (l'.table k).toList = (l.table k).toList := by
  have hpass : ∀ k, ∀ x ∈ l.contents.entities k, k.check x = .ok () := by
    intro k x hx
    rw [entities_contents, Table.mem_toList (hs k)] at hx
    exact (hchecked k _ x hx).1
  obtain ⟨l', hl', htable⟩ := ofContents_eq hpass
  have hfilled (k : EntryKind) : (l'.table k).Filled (l.table k).toList := by
    rw [htable, entities_contents]
    exact Table.Filled.empty.fill (Table.nodup_toList (hs k))
      ((l.table k).length_toList_le.trans (hroomy k))
  refine ⟨l', ?_, fun k => (hfilled k).sound, fun k => (hfilled k).listed⟩
  rw [load, decodeText_save hpass hnumbers htimes]
  dsimp only
  rw [hl']
  rfl

/-- **Every library that requests lead to is read back from its text**, as long as there are
indices for its slots: the library that is read finds the same entities, lists them in the same
order, and is saved as the same text. Its numbers and times have to be read back from theirs. -/
theorem load_save (rs : List Request) (hroomy : (run {} rs).Roomy)
    (hnumbers : ∀ x ∈ (run {} rs).contents.toJson.singles,
      Numeric.Binary32.read? x.text = some x)
    (htimes : ∀ p ∈ (run {} rs).contents.profiles,
      Timestamp.parse? p.created.text = some p.created
        ∧ Timestamp.parse? p.modified.text = some p.modified) :
    ∃ l, load (run {} rs).save = .ok l
      ∧ (∀ k u, l.entity? k u = (run {} rs).entity? k u)
      ∧ (∀ k, (l.table k).toList = ((run {} rs).table k).toList)
      ∧ l.save = (run {} rs).save := by
  have hs := Sound.empty.run hroomy
  have hkept : (run {} rs).entity? = kept rs := by
    rw [entity?_run Sound.empty hroomy, entity?_empty, kept]
  obtain ⟨l, hload, hsound, hlist⟩ :=
    load_save_of_sound hs hroomy (hkept ▸ checked_kept rs) hnumbers htimes
  refine ⟨l, hload, fun k u => Table.get?_congr (hsound k) (hs k) (hlist k), hlist, ?_⟩
  rw [save, save, contents_congr hlist]

namespace Sample

/-- A name with characters that are escaped, a set of flags with bits that have no name, and a
number with a fraction. -/
def odd : Profile :=
  .new ⟨4⟩ "\"ünï\\\n\x01" .d20
    [⟨.connectionState ⟨0xf1⟩, [.speakText "tschüss" .one (.ofParts false 0x3fc00000)]⟩] default

/-- The first of two animations leaves a hole. -/
def holed : List Request :=
  [.put .animation glow, .put .animation blink, .put .profile odd, .remove .animation glow.uuid]

end Sample

/-- The profile is read back, and the animation after the hole. -/
theorem load_save_holed : ∃ l, load (run {} Sample.holed).save = .ok l
    ∧ l.profile? Sample.odd.uuid = some Sample.odd ∧ l.animations.toList = [Sample.blink] := by
  have hroomy : (run {} Sample.holed).Roomy := by
    intro k
    change ((run {} Sample.holed).table k).arena.slots.length ≤ 2 ^ 32
    cases k <;> decide +kernel
  have hodd : (run {} Sample.holed).profile? Sample.odd.uuid = some Sample.odd := by
    decide +kernel
  have hblink : (run {} Sample.holed).animations.toList = [Sample.blink] := by decide +kernel
  obtain ⟨l, hload, hfound, hlisted, -⟩ :=
    load_save Sample.holed hroomy (by decide +kernel) (by decide +kernel)
  exact ⟨l, hload, (hfound .profile _).trans hodd, (hlisted .animation).trans hblink⟩

end Library

end DiceHost
