/-
A store of paired dice over any history of its operations.

* `PairingStore.Operation`, `PairingStore.Desk`: records put in and taken out, the store saved to
  its file and loaded from it again;
* `PairingStore.Effects`: the operations whose effects the store holds, and those whose effects the
  file holds; `PairingStore.inForce`: the former;
* `PairingStore.Leaves`: a record is the one that was put in last for its die, and was not taken
  out since;
* `PairingStore.Maps`: a store is the map of the records that some operations leave;
* `PairingStore.Desk.Sound`: store and file are what the history says; `Sound.operate`: **an
  operation succeeds and keeps them so**;
* `PairingStore.Saving`, `PairingStore.inForce_of_saving`: when nothing is put in or taken out
  between a save and a load, all operations are in force;
* `PairingStore.maps_after`: **over any history the store is the map of the records that are in
  force, and is loaded as it was saved**.
-/
import DiceHost.Proofs.PairingStore
import Mathlib.Data.Set.Card

namespace DiceHost.PairingStore

open Json

/-! ### Histories -/

/-- What is done with a store and its file. -/
inductive Operation where
  | upsert (r : Peripheral)
  | remove (p : PixelId)
  | save
  /-- The store of the file takes the place of the store; without a file it is an empty one. -/
  | load
deriving DecidableEq

/-- The die whose record an operation puts in or takes out. -/
def Operation.pixel? : Operation → Option PixelId
  | upsert r => some r.pixel
  | remove p => some p
  | save | load => none

/-- The times of a record that is put in are read back from their texts. -/
def Operation.Retold : Operation → Prop
  | upsert r => r.Retold
  | remove _ | save | load => True

/-- A store, and the text of its file if there is one. -/
structure Desk where
  store : PairingStore := {}
  file : Option String := none

namespace Desk

/-- Store and file after an operation. -/
def operate (d : Desk) : Operation → Except DecodeError Desk
  | .upsert r => .ok { d with store := d.store.upsert r }
  | .remove p => .ok { d with store := d.store.remove p }
  | .save => .ok { d with file := some d.store.save }
  | .load => (d.file.elim (.ok {}) PairingStore.load).map fun store => { d with store }

/-- Store and file after some operations, the first one first. -/
def run (d : Desk) (os : List Operation) : Except DecodeError Desk :=
  os.foldlM operate d

lemma run_concat (d : Desk) (os : List Operation) (o : Operation) :
    d.run (os ++ [o]) = d.run os >>= (operate · o) := by
  rw [run, List.foldlM_append, ← run]
  simp only [List.foldlM_cons, List.foldlM_nil, bind_pure]

end Desk

/-- The operations whose effects a store holds, and those whose effects its file holds. -/
structure Effects where
  held : List Operation := []
  filed : List Operation := []

namespace Effects

/-- A load brings back the effects that were saved. -/
def operate (e : Effects) : Operation → Effects
  | .upsert r => { e with held := e.held ++ [.upsert r] }
  | .remove p => { e with held := e.held ++ [.remove p] }
  | .save => { e with filed := e.held }
  | .load => { e with held := e.filed }

/-- The effects of some operations. -/
def of (os : List Operation) : Effects := os.foldl operate {}

lemma of_concat (os : List Operation) (o : Operation) : of (os ++ [o]) = (of os).operate o :=
  List.foldl_concat _ _ _ _

end Effects

/-- The operations that put in and take out what a store holds: those since the last load, after
those that had been saved by then. -/
def inForce (os : List Operation) : List Operation := (Effects.of os).held

/-- A record has been put in, and since then none was put in or taken out for its die. -/
def Leaves (os : List Operation) (r : Peripheral) : Prop :=
  ∃ pre post, os = pre ++ Operation.upsert r :: post ∧ ∀ o ∈ post, o.pixel? ≠ some r.pixel

variable {s : PairingStore} {os : List Operation} {o : Operation} {r : Peripheral} {p : PixelId}
  {k : String} {es : List (String × Peripheral)} {d : Desk} {e : Effects}

lemma not_leaves_nil (r : Peripheral) : ¬ Leaves [] r := by
  rintro ⟨pre, post, h, -⟩
  simp at h

/-- A place in a history with one more operation is its end, or a place in the history. -/
lemma split_concat {pre post : List Operation} {o' : Operation}
    (h : os ++ [o] = pre ++ o' :: post) :
    (os = pre ∧ o = o' ∧ post = []) ∨ ∃ post', post = post' ++ [o] ∧ os = pre ++ o' :: post' := by
  rcases List.eq_nil_or_concat post with rfl | ⟨post', last, rfl⟩
  · obtain ⟨hos, ho⟩ := List.append_inj' h rfl
    exact .inl ⟨hos, List.singleton_inj.mp ho, rfl⟩
  · rw [List.concat_eq_append, ← List.cons_append, ← List.append_assoc] at h
    obtain ⟨hos, ho⟩ := List.append_inj' h rfl
    exact .inr ⟨post', by rw [List.concat_eq_append, ho], hos⟩

/-- What one more operation leaves: the record that it puts in, and those of other dice. -/
lemma leaves_concat :
    Leaves (os ++ [o]) r ↔ o = .upsert r ∨ o.pixel? ≠ some r.pixel ∧ Leaves os r := by
  constructor
  · rintro ⟨pre, post, h, hpost⟩
    rcases split_concat h with ⟨-, rfl, -⟩ | ⟨post, rfl, rfl⟩
    · exact .inl rfl
    · obtain ⟨hpost, ho⟩ := List.forall_mem_append.mp hpost
      exact .inr ⟨ho o (List.mem_singleton_self o), pre, post, rfl, hpost⟩
  · rintro (rfl | ⟨ho, pre, post, rfl, hpost⟩)
    · exact ⟨os, [], rfl, List.forall_mem_nil _⟩
    · refine ⟨pre, post ++ [o], by rw [List.append_assoc, List.cons_append], ?_⟩
      exact List.forall_mem_append.mpr ⟨hpost, List.forall_mem_singleton.mpr ho⟩

/-! ### Look-up -/

/-- A record that is put in is found under its key, and the others under theirs. -/
lemma find?_insertAt (k' : String) : (insertAt k r es).find? (·.1 = k')
    = if k' = k then some (k, r) else es.find? (·.1 = k') := by
  induction es with
  | nil =>
      rw [insertAt, List.find?_singleton]
      simp [eq_comm]
  | cons d es ih =>
      rw [insertAt]
      by_cases hk : k' = k
      · -- the new record stands before all others of its key
        subst hk
        rw [if_pos rfl] at ih ⊢
        split_ifs with heq
        · simp
        · simp
        · rw [List.find?_cons_of_neg (by simpa using Ne.symm heq), ih]
      · rw [if_neg hk] at ih ⊢
        split_ifs with heq
        · rw [List.find?_cons_of_neg (by simpa using Ne.symm hk),
            List.find?_cons_of_neg (by simpa [← heq] using Ne.symm hk)]
        · rw [List.find?_cons_of_neg (by simpa using Ne.symm hk)]
        · rw [List.find?_cons, List.find?_cons, ih]

lemma get?_upsert (s : PairingStore) (r : Peripheral) (p : PixelId) :
    (s.upsert r).get? p = if p = r.pixel then some r else s.get? p := by
  rw [get?, upsert, find?_insertAt]
  simp only [PixelId.display_injective.eq_iff]
  split_ifs
  · rfl
  · rfl

lemma get?_remove (s : PairingStore) (q p : PixelId) :
    (s.remove q).get? p = if p = q then none else s.get? p := by
  rw [get?, remove, List.find?_filter]
  split_ifs with h
  · simp [h]
  · have hne : p.display ≠ q.display := PixelId.display_injective.ne h
    have hkept (e : String × Peripheral) :
        (e.1 ≠ q.display ∧ e.1 = p.display) ↔ e.1 = p.display :=
      and_iff_right_of_imp fun he => he.trans_ne hne
    simp only [decide_eq_true_eq, hkept]
    rfl

/-- A record is found where its key stands. -/
lemma find?_of_ascending {e : String × Peripheral} (h : es.Pairwise (·.1 < ·.1)) (he : e ∈ es) :
    es.find? (·.1 = e.1) = some e := by
  induction es with
  | nil => exact absurd he List.not_mem_nil
  | cons d es ih =>
      obtain ⟨hd, hes⟩ := List.pairwise_cons.mp h
      obtain rfl | he := List.mem_cons.mp he
      · exact List.find?_cons_of_pos (by simp)
      · rw [List.find?_cons_of_neg (by simpa using String.ne_of_lt (hd e he)), ih hes he]

lemma Keyed.pixel_of_get? (h : s.Keyed) (hr : s.get? p = some r) : r.pixel = p := by
  obtain ⟨e, he, rfl⟩ := Option.map_eq_some_iff.mp hr
  have hkey : e.1 = p.display := by simpa using List.find?_some he
  exact PixelId.display_injective ((h.digits e (List.mem_of_find?_eq_some he)).symm.trans hkey)

/-- A store lists the records that it finds. -/
lemma Keyed.mem_toList_iff (h : s.Keyed) : r ∈ s.toList ↔ s.get? r.pixel = some r := by
  constructor
  · intro hr
    obtain ⟨e, he, rfl⟩ := List.mem_map.mp hr
    rw [get?, ← h.digits e he, find?_of_ascending h.ascending he]
    rfl
  · intro hr
    obtain ⟨e, he, rfl⟩ := Option.map_eq_some_iff.mp hr
    exact List.mem_map_of_mem (List.mem_of_find?_eq_some he)

/-- The size of a store is the number of dice whose records it finds. -/
lemma Keyed.size_eq_ncard (h : s.Keyed) : s.size = {p | ∃ r, s.get? p = some r}.ncard := by
  have hdice : {p | ∃ r, s.get? p = some r}
      = ((s.toList.map (·.pixel)).toFinset : Set PixelId) := by
    ext p
    simp only [Set.mem_ofPred_eq, List.coe_toFinset, List.mem_map]
    constructor
    · rintro ⟨r, hr⟩
      obtain rfl := h.pixel_of_get? hr
      exact ⟨r, h.mem_toList_iff.mpr hr, rfl⟩
    · rintro ⟨r, hr, rfl⟩
      exact ⟨r, h.mem_toList_iff.mp hr⟩
  have hnodup : (s.toList.map (·.pixel)).Nodup :=
    List.pairwise_map.mpr <|
      (ascending_toList h).imp fun hlt heq => absurd (heq ▸ hlt) (UInt32.lt_irrefl _)
  rw [hdice, Set.ncard_coe_finset, List.toFinset_card_of_nodup hnodup, List.length_map, toList,
    List.length_map, size]

/-! ### What a store is after some operations -/

/-- A store finds the records that some operations leave, and their times are read back. -/
structure Reflects (s : PairingStore) (os : List Operation) : Prop where
  keyed : s.Keyed
  retold : ∀ r ∈ s.toList, r.Retold
  get?_iff : ∀ p r, s.get? p = some r ↔ r.pixel = p ∧ Leaves os r

namespace Reflects

lemma empty : ({} : PairingStore).Reflects [] where
  keyed := .empty
  retold := List.forall_mem_nil _
  get?_iff := fun _ r =>
    ⟨fun h => absurd h (Option.some_ne_none r).symm, fun h => absurd h.2 (not_leaves_nil r)⟩

/-- The record of one die is put in or taken out. -/
lemma get?_iff_concat {s' : PairingStore} {q : PixelId} {x : Option Peripheral}
    (h : s.Reflects os) (hpixel : o.pixel? = some q)
    (hget : ∀ p, s'.get? p = if p = q then x else s.get? p)
    (hx : ∀ r, x = some r ↔ o = .upsert r) (p : PixelId) (r : Peripheral) :
    s'.get? p = some r ↔ r.pixel = p ∧ Leaves (os ++ [o]) r := by
  have hput : o = .upsert r → r.pixel = q := by
    rintro rfl
    exact Option.some.inj hpixel
  rw [hget, leaves_concat, hpixel, Ne, Option.some_inj]
  split_ifs with hp
  · rw [hx, hp]
    constructor
    · exact fun heq => ⟨hput heq, .inl heq⟩
    · rintro ⟨hr, heq | ⟨hne, -⟩⟩
      · exact heq
      · exact absurd hr.symm hne
  · rw [h.get?_iff]
    constructor
    · rintro ⟨rfl, hl⟩
      exact ⟨rfl, .inr ⟨Ne.symm hp, hl⟩⟩
    · rintro ⟨rfl, heq | ⟨-, hl⟩⟩
      · exact absurd (hput heq) hp
      · exact ⟨rfl, hl⟩

lemma upsert (h : s.Reflects os) (hr : r.Retold) : (s.upsert r).Reflects (os ++ [.upsert r]) where
  keyed := h.keyed.upsert r
  retold := by
    intro r' hr'
    obtain ⟨e, he, rfl⟩ := List.mem_map.mp hr'
    obtain rfl | he := mem_insertAt he
    · exact hr
    · exact h.retold _ (List.mem_map_of_mem he)
  get?_iff := h.get?_iff_concat rfl (get?_upsert s r) fun r' => by
    rw [Option.some_inj, Operation.upsert.injEq]

lemma remove (h : s.Reflects os) (q : PixelId) : (s.remove q).Reflects (os ++ [.remove q]) where
  keyed := h.keyed.remove q
  retold := by
    intro r hr
    obtain ⟨e, he, rfl⟩ := List.mem_map.mp hr
    exact h.retold _ (List.mem_map_of_mem (List.mem_of_mem_filter he))
  get?_iff := h.get?_iff_concat rfl (get?_remove s q) fun r => by simp

end Reflects

/-- A store is the map of the records that some operations leave. -/
structure Maps (s : PairingStore) (os : List Operation) : Prop where
  get?_iff : ∀ p r, s.get? p = some r ↔ r.pixel = p ∧ Leaves os r
  mem_toList_iff : ∀ r, r ∈ s.toList ↔ Leaves os r
  /-- No record is listed twice, and the dice are in the order of their numbers. -/
  ascending : s.toList.Pairwise (·.pixel.id < ·.pixel.id)
  size_eq : s.size = {p | ∃ r, s.get? p = some r}.ncard
  load_save : load s.save = .ok s

lemma Reflects.maps (h : s.Reflects os) : s.Maps os where
  get?_iff := h.get?_iff
  mem_toList_iff := fun r => by
    rw [h.keyed.mem_toList_iff, h.get?_iff]
    exact and_iff_right rfl
  ascending := ascending_toList h.keyed
  size_eq := h.keyed.size_eq_ncard
  load_save := load_retold h.keyed h.retold

lemma Maps.congr {os' : List Operation} (h : s.Maps os) (heq : ∀ r, Leaves os r ↔ Leaves os' r) :
    s.Maps os' where
  get?_iff := fun p r => (h.get?_iff p r).trans (and_congr_right' (heq r))
  mem_toList_iff := fun r => (h.mem_toList_iff r).trans (heq r)
  ascending := h.ascending
  size_eq := h.size_eq
  load_save := h.load_save

/-! ### Steps -/

namespace Desk

/-- Store and file are what the effects say. -/
structure Sound (d : Desk) (e : Effects) : Prop where
  store : d.store.Reflects e.held
  /-- Without a file nothing has been saved. -/
  unsaved : d.file = none → e.filed = []
  file : ∀ text ∈ d.file, ∃ s, text = save s ∧ s.Reflects e.filed

lemma Sound.start : ({} : Desk).Sound {} := ⟨.empty, fun _ => rfl, nofun⟩

/-- **An operation succeeds, and store and file stay what the effects say.** -/
theorem Sound.operate (h : d.Sound e) (ho : o.Retold) :
    ∃ d', d.operate o = .ok d' ∧ d'.Sound (e.operate o) := by
  cases o with
  | upsert r => exact ⟨_, rfl, h.store.upsert ho, h.unsaved, h.file⟩
  | remove p => exact ⟨_, rfl, h.store.remove p, h.unsaved, h.file⟩
  | save =>
      refine ⟨_, rfl, h.store, nofun, fun text htext => ⟨d.store, ?_, h.store⟩⟩
      exact (Option.mem_some.mp htext).symm
  | load =>
      cases hfile : d.file with
      | none =>
          refine ⟨{ d with store := {} }, by rw [Desk.operate, hfile]; rfl, ?_, h.unsaved, h.file⟩
          rw [Effects.operate, h.unsaved hfile]
          exact .empty
      | some text =>
          obtain ⟨s, rfl, hs⟩ := h.file text hfile
          refine ⟨{ d with store := s }, ?_, hs, h.unsaved, h.file⟩
          rw [Desk.operate, hfile, Option.elim, load_retold hs.keyed hs.retold]
          rfl

/-- After any operations store and file are what their effects say. -/
theorem sound_run (h : ∀ o ∈ os, o.Retold) :
    ∃ d, run {} os = .ok d ∧ d.Sound (.of os) := by
  induction os using List.reverseRecOn with
  | nil => exact ⟨{}, rfl, .start⟩
  | append_singleton os o ih =>
      obtain ⟨hos, ho⟩ := List.forall_mem_append.mp h
      obtain ⟨d, hd, hs⟩ := ih hos
      obtain ⟨d', hd', hs'⟩ := hs.operate (ho o List.mem_cons_self)
      refine ⟨d', ?_, Effects.of_concat os o ▸ hs'⟩
      rw [run_concat, hd]
      exact hd'

end Desk

/-! ### Loads that lose nothing -/

/-- Between a load and what is put in or taken out before it the store is saved. -/
def Saving (os : List Operation) : Prop :=
  ∀ pre o mid post, os = pre ++ o :: mid ++ Operation.load :: post → o.pixel? ≠ none →
    Operation.save ∈ mid

/-- The operations that put in or take out. -/
def edits (os : List Operation) : List Operation := os.filter (·.pixel?.isSome)

lemma leaves_edits (os : List Operation) (r : Peripheral) : Leaves (edits os) r ↔ Leaves os r := by
  induction os using List.reverseRecOn with
  | nil => rfl
  | append_singleton os o ih =>
      rw [edits, List.filter_append, ← edits, leaves_concat]
      cases ho : o.pixel? with
      | some p =>
          rw [List.filter_cons_of_pos (by simp [ho]), List.filter_nil, leaves_concat, ih, ho]
      | none =>
          rw [List.filter_cons_of_neg (by simp [ho]), List.filter_nil, List.append_nil, ih]
          have hne : o ≠ .upsert r := by rintro rfl; exact nomatch ho
          simp [hne]

lemma Saving.of_concat (h : Saving (os ++ [o])) : Saving os := by
  rintro pre o' mid post rfl ho'
  exact h pre o' mid (post ++ [o]) (by simp) ho'

lemma saving_of_no_load (h : Operation.load ∉ os) : Saving os := by
  rintro pre o mid post rfl
  simp at h

lemma Saving.concat (h : Saving os) (hload : o ≠ .load) : Saving (os ++ [o]) := by
  intro pre o' mid post heq ho
  rcases split_concat heq with ⟨-, rfl, -⟩ | ⟨post, rfl, hos⟩
  · exact absurd rfl hload
  · exact h pre o' mid post hos ho

/-- A store may be loaded when it has just been saved. -/
lemma Saving.reload (h : Saving os) : Saving (os ++ [Operation.save] ++ [Operation.load]) := by
  have hsave : Saving (os ++ [.save]) := h.concat nofun
  intro pre o mid post heq ho
  rcases split_concat heq with ⟨hos, -, -⟩ | ⟨post, rfl, hos⟩
  · rcases split_concat hos with ⟨-, rfl, -⟩ | ⟨mid, rfl, -⟩
    · exact absurd rfl ho
    · exact List.mem_append_right _ (List.mem_singleton_self _)
  · exact hsave pre o mid post hos ho

/-- The file holds the effects of all operations unless one of them has not been saved since. -/
lemma effects_of_saving (h : Saving os) : (Effects.of os).held = edits os ∧
    ((Effects.of os).filed = edits os ∨
      ∃ pre o mid, os = pre ++ o :: mid ∧ o.pixel? ≠ none ∧ Operation.save ∉ mid) := by
  induction os using List.reverseRecOn with
  | nil => exact ⟨rfl, .inl rfl⟩
  | append_singleton os o ih =>
      obtain ⟨hheld, hfiled⟩ := ih h.of_concat
      rw [Effects.of_concat]
      cases o with
      | upsert _ | remove _ =>
          exact ⟨by simp [Effects.operate, edits, hheld, Operation.pixel?],
            .inr ⟨os, _, [], rfl, Option.some_ne_none _, List.not_mem_nil⟩⟩
      | save =>
          have hedits : edits (os ++ [.save]) = edits os := by simp [edits, Operation.pixel?]
          rw [hedits]
          exact ⟨hheld, .inl hheld⟩
      | load =>
          have hedits : edits (os ++ [.load]) = edits os := by simp [edits, Operation.pixel?]
          rw [hedits]
          have hfiled : (Effects.of os).filed = edits os := by
            refine hfiled.resolve_right ?_
            rintro ⟨pre, o, mid, rfl, ho, hmid⟩
            exact hmid (h pre o mid [] (by simp) ho)
          exact ⟨hfiled, .inl hfiled⟩

/-- When all that is put in and taken out is saved before the next load, it is in force. -/
lemma inForce_of_saving (h : Saving os) : inForce os = edits os := (effects_of_saving h).1

/-! ### Any history -/

/-- **Over any history the store is the map of the records in force.** -/
theorem maps_after (os : List Operation) (h : ∀ o ∈ os, o.Retold) :
    ∃ d, Desk.run {} os = .ok d ∧ d.store.Maps (inForce os) ∧ (Saving os → d.store.Maps os) := by
  obtain ⟨d, hd, hs⟩ := Desk.sound_run h
  refine ⟨d, hd, hs.store.maps, fun hsaving => ?_⟩
  have hheld : (Effects.of os).held = edits os := inForce_of_saving hsaving
  exact (hheld ▸ hs.store.maps).congr (leaves_edits os)

/-- A die just paired. -/
def newcomer : Peripheral := .new "sys-7" ⟨7⟩ .d20 default

/-- A die with a name of its own that holds a data set. -/
def regular : Peripheral :=
  { newcomer with systemId := "sys-3", pixel := ⟨3⟩, name := "Würfel", profileHash := some 9 }

lemma newcomer_dated : newcomer.Dated := ⟨⟨by decide, by decide, by decide⟩, nofun⟩

/-- Two dice are put in, one of them is taken out again, and the store is saved and loaded. -/
def reloaded : List Operation :=
  [.upsert newcomer, .upsert regular, .remove newcomer.pixel, .save, .load]

theorem maps_after_reloaded : (∀ o ∈ reloaded, o.Retold) ∧ Saving reloaded ∧
    ∃ d, Desk.run {} reloaded = .ok d ∧ d.store.Maps reloaded := by
  have hregular : regular.Dated := ⟨newcomer_dated.paired, newcomer_dated.built⟩
  have hretold : ∀ o ∈ reloaded, o.Retold := by
    simp [reloaded, Operation.Retold, newcomer_dated.retold, hregular.retold]
  have hputs : Saving [.upsert newcomer, .upsert regular, .remove newcomer.pixel] :=
    saving_of_no_load (by simp)
  obtain ⟨d, hd, -, hmaps⟩ := maps_after reloaded hretold
  exact ⟨hretold, hputs.reload, d, hd, hmaps hputs.reload⟩

/-- A die is taken out after the store was saved, and the store is loaded. -/
def restored : List Operation := [.upsert newcomer, .save, .remove newcomer.pixel, .load]

/-- A load brings back what was taken out since the store was saved. -/
theorem removal_undone_by_load : (∀ o ∈ restored, o.Retold) ∧
    ∃ d, Desk.run {} restored = .ok d ∧ d.store.get? newcomer.pixel = some newcomer ∧
      ¬ Leaves restored newcomer := by
  have hretold : ∀ o ∈ restored, o.Retold := by
    simp [restored, Operation.Retold, newcomer_dated.retold]
  have hsplit : restored = [Operation.upsert newcomer, .save] ++ [Operation.remove newcomer.pixel]
      ++ [Operation.load] := rfl
  have hgone : ¬ Leaves restored newcomer := by
    rw [hsplit, leaves_concat, leaves_concat]
    rintro (h | ⟨-, h | ⟨h, -⟩⟩)
    · exact nomatch h
    · exact nomatch h
    · exact h rfl
  obtain ⟨d, hd, hs⟩ := Desk.sound_run hretold
  have hheld : Leaves (Effects.of restored).held newcomer := ⟨[], [], rfl, List.forall_mem_nil _⟩
  have hget : d.store.get? newcomer.pixel = some newcomer :=
    (hs.store.get?_iff newcomer.pixel newcomer).mpr ⟨rfl, hheld⟩
  exact ⟨hretold, d, hd, hget, hgone⟩

end DiceHost.PairingStore
