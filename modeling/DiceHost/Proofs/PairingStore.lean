/-
Records of paired dice are loaded as they were saved.

* `PixelId.display_lt_display`: the digits of dice are ordered as the dice are;
* `Peripheral.Dated`, `Peripheral.Retold`: the times of a record are times of the calendar, and are
  read back from their texts;
* `Peripheral.decode_node`: a record is decoded as it was written;
* `PairingStore.Keyed`: every record stands under the digits of its die, in their order;
  `Keyed.empty`, `Keyed.upsert` and `Keyed.remove`: **all stores are so**;
* `PairingStore.load_retold`, `PairingStore.load_saved`: **such a store is loaded as it was saved**;
* `PairingStore.ascending_toList`, `PairingStore.toList_of_ascending`: a store lists its records in
  the order of their dice, and records that are put in so are listed as they were.
-/
import DiceHost.Die.Peripheral
import DiceHost.Proofs.Json.Restoration
import DiceHost.Proofs.Timestamp

namespace DiceHost

open Json

/-! ### Dice -/

namespace PixelId

lemma decode_node (p : PixelId) : decode p.toJson.node = .ok p := by
  rw [decode, toJson, Decoder.word32_node, Except.map]

/-- The digits of dice are ordered as the dice are. -/
lemma display_lt_display {p q : PixelId} : p.display < q.display ↔ p.id < q.id := by
  have hmono {p q : PixelId} (h : p.id < q.id) : p.display < q.display := by
    rw [String.lt_iff, display, display, String.toList_ofList, String.toList_ofList]
    exact Text.Hex.upper_lt_upper q.id.toNat_lt h
  refine ⟨fun h => ?_, hmono⟩
  by_contra hle
  by_cases heq : q.id = p.id
  · have hpq : q = p := congrArg mk heq
    exact String.lt_irrefl _ (hpq ▸ h)
  · exact String.lt_asymm h (hmono (UInt32.lt_of_le_of_ne (UInt32.not_lt.mp hle) heq))

/-- No two dice have the same digits. -/
lemma display_injective : Function.Injective display := by
  have hle {p q : PixelId} (h : p.display = q.display) : p.id ≤ q.id :=
    UInt32.not_lt.mp fun hlt => String.lt_irrefl _ (h ▸ display_lt_display.mpr hlt)
  intro p q h
  exact congrArg mk (UInt32.le_antisymm (hle h) (hle h.symm))

end PixelId

/-! ### Records -/

namespace Peripheral

/-- The times of a record are times of the calendar. -/
structure Dated (r : Peripheral) : Prop where
  paired : r.pairedAt.Valid
  built : ∀ t ∈ r.firmware, t.Valid

/-- The times of a record are read back from their texts. -/
structure Retold (r : Peripheral) : Prop where
  paired : Timestamp.parse? r.pairedAt.text = some r.pairedAt
  built : ∀ t ∈ r.firmware, Timestamp.parse? t.text = some t

lemma Dated.retold {r : Peripheral} (h : r.Dated) : r.Retold :=
  ⟨Timestamp.parse?_text h.paired, fun t ht => Timestamp.parse?_text (h.built t ht)⟩

lemma legible_toJson (r : Peripheral) : r.toJson.Legible := by
  refine .obj ?_
  simp only [List.forall_mem_cons, List.not_mem_nil, false_implies, implies_true, and_true]
  exact ⟨.str _, .int _, .str _, .str _, legible_opt fun _ _ => .str _,
    legible_opt fun _ _ => .int _, legible_opt fun _ _ => .str _, .str _⟩

lemma modest_toJson {d : ℕ} (r : Peripheral) : r.toJson.Modest (d + 1) := by
  refine .obj ?_
  simp only [List.forall_mem_cons, List.not_mem_nil, false_implies, implies_true, and_true]
  exact ⟨.str _, modest_word _, .str _, .str _, modest_opt fun _ _ => .str _,
    modest_opt fun w _ => modest_word w, modest_opt fun _ _ => .str _, .str _⟩

/-- No number of a record has a fraction. -/
lemma readable_toJson (r : Peripheral) : r.toJson.Readable := by
  have hnone {j : Json} (h : j.singles = []) : j.Readable := by
    rw [Readable, h]
    exact List.forall_mem_nil _
  refine readable_obj.mpr ?_
  simp only [List.forall_mem_cons, List.not_mem_nil, false_implies, implies_true, and_true]
  exact ⟨hnone rfl, hnone rfl, hnone rfl, hnone rfl, readable_opt fun _ _ => hnone rfl,
    readable_opt fun _ _ => hnone rfl, readable_opt fun _ _ => hnone rfl, hnone rfl⟩

/-- **A record is decoded as it was written.** -/
theorem decode_node {r : Peripheral} (h : r.Retold) : record.decode r.toJson.node = .ok r :=
  Record.decode_node rfl
    ((Record.Restores.field (by simp) (Decoder.string_node r.systemId)).map Peripheral.mk
      |>.seq (.field (by simp) r.pixel.decode_node)
      |>.seq (.field (by simp) (Decoder.string_node r.name))
      |>.seq (.field (by simp) r.dieKind.decode_node)
      |>.seq (.optional (by simp) rfl fun u _ => u.decode_node)
      |>.seq (.optional (by simp) rfl fun w _ => Decoder.word32_node w)
      |>.seq (.optional (by simp) rfl fun t ht => Timestamp.decode_node (h.built t ht))
      |>.seq (.field (by simp) (Timestamp.decode_node h.paired)))

end Peripheral

/-! ### Stores -/

namespace PairingStore

variable {s : PairingStore} {k : String} {r : Peripheral} {es : List (String × Peripheral)}

/-- Every record of a store stands under the digits of its die, in the order of the digits. -/
structure Keyed (s : PairingStore) : Prop where
  ascending : s.entries.Pairwise (·.1 < ·.1)
  digits : ∀ e ∈ s.entries, e.1 = e.2.pixel.display

lemma mem_insertAt {e : String × Peripheral} (h : e ∈ insertAt k r es) : e = (k, r) ∨ e ∈ es := by
  induction es with
  | nil => exact .inl (List.mem_singleton.mp h)
  | cons d es ih =>
      rw [insertAt] at h
      split_ifs at h
      · exact (List.mem_cons.mp h).imp_right (List.mem_cons_of_mem _)
      · exact List.mem_cons.mp h
      · obtain rfl | h := List.mem_cons.mp h
        · exact .inr List.mem_cons_self
        · exact (ih h).imp_right (List.mem_cons_of_mem _)

lemma ascending_insertAt (h : es.Pairwise (·.1 < ·.1)) :
    (insertAt k r es).Pairwise (·.1 < ·.1) := by
  induction es with
  | nil => exact List.pairwise_singleton _ _
  | cons d es ih =>
      obtain ⟨hd, hes⟩ := List.pairwise_cons.mp h
      rw [insertAt]
      split_ifs with heq hlt
      · exact List.pairwise_cons.mpr ⟨heq ▸ hd, hes⟩
      · refine List.pairwise_cons.mpr ⟨fun e he => ?_, h⟩
        obtain rfl | he := List.mem_cons.mp he
        · exact hlt
        · exact String.lt_trans hlt (hd e he)
      · refine List.pairwise_cons.mpr ⟨fun e he => ?_, ih hes⟩
        obtain rfl | he := mem_insertAt he
        · exact Std.lt_of_le_of_ne hlt (Ne.symm heq)
        · exact hd e he

/-- A record whose key is above all others is put in last. -/
lemma insertAt_of_lt (h : ∀ e ∈ es, e.1 < k) : insertAt k r es = es ++ [(k, r)] := by
  induction es with
  | nil => rfl
  | cons d es ih =>
      obtain ⟨hd, hes⟩ := List.forall_mem_cons.mp h
      rw [insertAt, if_neg (String.ne_of_lt hd).symm, if_neg (String.lt_asymm hd), ih hes]
      rfl

/-! #### The stores -/

lemma Keyed.empty : ({} : PairingStore).Keyed := ⟨.nil, List.forall_mem_nil _⟩

lemma Keyed.upsert (h : s.Keyed) (r : Peripheral) : (s.upsert r).Keyed where
  ascending := ascending_insertAt h.ascending
  digits := by
    intro e he
    obtain rfl | he := mem_insertAt he
    · rfl
    · exact h.digits e he

lemma Keyed.remove (h : s.Keyed) (p : PixelId) : (s.remove p).Keyed where
  ascending := h.ascending.filter _
  digits := fun e he => h.digits e (List.mem_of_mem_filter he)

lemma Keyed.foldl_upsert (h : s.Keyed) (rs : List Peripheral) :
    (rs.foldl PairingStore.upsert s).Keyed := by
  induction rs generalizing s with
  | nil => exact h
  | cons r rs ih => exact ih (h.upsert r)

/-- The records of a store are in the order of their dice. -/
lemma ascending_toList (h : s.Keyed) : s.toList.Pairwise (·.pixel.id < ·.pixel.id) := by
  rw [toList, List.pairwise_map]
  refine h.ascending.imp_of_mem fun he hf hlt => ?_
  rw [h.digits _ he, h.digits _ hf] at hlt
  exact PixelId.display_lt_display.mp hlt

/-- Records put in one after the other in the order of their dice are listed as they were. -/
lemma toList_of_ascending {rs : List Peripheral} (h : rs.Pairwise (·.pixel.id < ·.pixel.id)) :
    (rs.foldl upsert {}).toList = rs := by
  have hentries : (rs.foldl upsert {}).entries = rs.map fun r => (r.pixel.display, r) := by
    induction rs using List.reverseRecOn with
    | nil => rfl
    | append_singleton rs r ih =>
        obtain ⟨hrs, -, hlt⟩ := List.pairwise_append.mp h
        rw [List.foldl_append, List.map_append, ← ih hrs]
        refine insertAt_of_lt ?_
        rw [ih hrs, List.forall_mem_map]
        exact fun r' hr' =>
          PixelId.display_lt_display.mpr (hlt r' hr' r (List.mem_singleton_self r))
  rw [toList, hentries, List.map_map]
  exact List.map_id _

/-! #### Saving and loading -/

lemma legible_toJson (s : PairingStore) : s.toJson.Legible := by
  refine .obj ?_
  simp only [List.forall_mem_cons, List.not_mem_nil, false_implies, implies_true, and_true]
  exact ⟨.str _, .obj (List.forall_mem_map.mpr fun e _ => e.2.legible_toJson)⟩

lemma modest_toJson {d : ℕ} (s : PairingStore) : s.toJson.Modest (d + 3) := by
  refine .obj ?_
  simp only [List.forall_mem_cons, List.not_mem_nil, false_implies, implies_true, and_true]
  exact ⟨.str _, .obj (List.forall_mem_map.mpr fun e _ => e.2.modest_toJson)⟩

lemma readable_toJson (s : PairingStore) : s.toJson.Readable := by
  have hentries : (Json.obj (s.entries.map fun e => (e.1, e.2.toJson))).Readable :=
    readable_obj.mpr (List.forall_mem_map.mpr fun e _ => e.2.readable_toJson)
  refine readable_obj.mpr ?_
  simp only [List.forall_mem_cons, List.not_mem_nil, false_implies, implies_true, and_true]
  exact ⟨List.forall_mem_nil _, hentries⟩

/-- A record whose key is above those of all others is decoded, and put in last. -/
lemma decode_insertAt {e : String × Peripheral} (hd : e.2.Retold) (h : ∀ d ∈ es, d.1 < e.1) :
    (Peripheral.record.decode e.2.toJson.node).map (insertAt e.1 · es) = .ok (es ++ [e]) := by
  rw [Peripheral.decode_node hd, Except.map, insertAt_of_lt h]

/-- Records under ascending keys are decoded one after the other. -/
lemma decodeEntries_node (hasc : es.Pairwise (·.1 < ·.1)) (hd : ∀ e ∈ es, e.2.Retold) :
    decodeEntries (Json.obj (es.map fun e => (e.1, e.2.toJson))).node = .ok es := by
  have hfold (rest done : List (String × Peripheral))
      (hasc : (done ++ rest).Pairwise (·.1 < ·.1)) (hd : ∀ e ∈ rest, e.2.Retold) :
      (nodeEntries (rest.map fun e => (e.1, e.2.toJson))).foldlM
        (fun done e => (Peripheral.record.decode e.2).map (insertAt e.1 · done)) done
        = .ok (done ++ rest) := by
    induction rest generalizing done with
    | nil => rw [List.append_nil]; rfl
    | cons e rest ih =>
        obtain ⟨he, hrest⟩ := List.forall_mem_cons.mp hd
        have hlt := (List.pairwise_append.mp hasc).2.2
        have hput := decode_insertAt he fun d hd' => hlt d hd' e List.mem_cons_self
        rw [List.append_cons] at hasc ⊢
        rw [List.map_cons, nodeEntries, List.foldlM_cons]
        dsimp only
        rw [hput]
        exact ih (done ++ [e]) hasc hrest
  exact hfold es [] hasc hd

/-- A store whose times are read back from their texts is loaded as it was saved. -/
lemma load_retold (h : s.Keyed) (hd : ∀ r ∈ s.toList, r.Retold) : load s.save = .ok s := by
  have hread := Node.read_pretty s.legible_toJson s.modest_toJson s.readable_toJson
  have hentries := decodeEntries_node h.ascending fun e he => hd e.2 (List.mem_map_of_mem he)
  have hdecode : record.decode s.toJson.node = .ok s :=
    Record.decode_node rfl
      ((Record.Restores.defaulted (by simp) (Decoder.string_node s.version)).map PairingStore.mk
        |>.seq (.defaulted (by simp) hentries))
  rw [load, save, decodeText, String.toList_ofList, hread]
  dsimp only
  rw [hdecode]
  rfl

/-- **A store is loaded as it was saved.** -/
theorem load_saved (h : s.Keyed) (hd : ∀ r ∈ s.toList, r.Dated) : load s.save = .ok s :=
  load_retold h fun r hr => (hd r hr).retold

end PairingStore

end DiceHost
