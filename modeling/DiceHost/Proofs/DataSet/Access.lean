/-
Data sets looked up record by record.

* `SteadyCodec`: any bytes that are as many as a record is wide hold a record;
* `View.record?`: the record of a number in its section, looked up at its place;
* `View.Shows`: the records that are looked up are those of some contents;
* `View.exists_shows`: **bytes that are as long as their header says hold the records of all
  sections**, and reading them one after the other comes to the same as looking them up;
* `View.look?`: the check of a data set by such look-ups only.

A look-up gives nothing when one of its places holds no byte, so what is found by look-ups is
found without a look at a place outside the bytes.
-/
import DiceHost.Proofs.DataSet.Places

namespace DiceHost.DataSet

/-! ### Records at their places -/

/-- The record of the bytes from a place on: nothing when they are too few. -/
def recordAt? (ρ : Type) [Codec ρ] (bytes : List UInt8) (place : ℕ) : Option ρ :=
  (slice? bytes place (Codec.size ρ)).bind Codec.decode?

/-- A codec that reads a record from any bytes that are as many as the record is wide, and looks
at nothing that follows them. -/
class SteadyCodec (ρ : Type) [Codec ρ] : Prop where
  exists_decode : ∀ bytes : List UInt8, Codec.size ρ ≤ bytes.length →
    ∃ r : ρ, ∀ rest, Codec.decode? (bytes.take (Codec.size ρ) ++ rest) = some r

/-- The first two of some bytes. -/
lemma exists_two {n : ℕ} {bytes : List UInt8} (h : n + 2 ≤ bytes.length) :
    ∃ a b rest, bytes = a :: b :: rest ∧ n ≤ rest.length := by
  rcases bytes with _ | ⟨a, _ | ⟨b, rest⟩⟩
  · simp at h
  · simp at h
  · exact ⟨a, b, rest, rfl, Nat.le_of_succ_le_succ (Nat.le_of_succ_le_succ h)⟩

/-- The first four of some bytes. -/
lemma exists_four {n : ℕ} {bytes : List UInt8} (h : n + 4 ≤ bytes.length) :
    ∃ a b c d rest, bytes = a :: b :: c :: d :: rest ∧ n ≤ rest.length := by
  obtain ⟨a, b, tail, rfl, htail⟩ := exists_two (n := n + 2) h
  obtain ⟨c, d, rest, rfl, hrest⟩ := exists_two htail
  exact ⟨a, b, c, d, rest, rfl, hrest⟩

/-- The first eight of some bytes. -/
lemma exists_eight {n : ℕ} {bytes : List UInt8} (h : n + 8 ≤ bytes.length) :
    ∃ a b c d a' b' c' d' rest, bytes = a :: b :: c :: d :: a' :: b' :: c' :: d' :: rest
      ∧ n ≤ rest.length := by
  obtain ⟨a, b, c, d, tail, rfl, htail⟩ := exists_four (n := n + 4) h
  obtain ⟨a', b', c', d', rest, rfl, hrest⟩ := exists_four htail
  exact ⟨a, b, c, d, a', b', c', d', rest, rfl, hrest⟩

instance : SteadyCodec Header where
  exists_decode bytes h := by
    obtain ⟨_, _, _, _, _, _, _, _, tail, rfl, htail⟩ := exists_eight (n := 4) h
    obtain ⟨_, _, _, _, _, rfl, -⟩ := exists_four (n := 0) htail
    exact ⟨_, fun _ => rfl⟩

instance : SteadyCodec ConditionRecord where
  exists_decode bytes h := by
    obtain ⟨_, _, _, _, _, _, _, _, _, rfl, -⟩ := exists_eight (n := 0) h
    exact ⟨_, fun _ => rfl⟩

instance : SteadyCodec ActionRecord where
  exists_decode bytes h := by
    obtain ⟨_, _, _, _, _, _, _, _, _, rfl, -⟩ := exists_eight (n := 0) h
    exact ⟨_, fun _ => rfl⟩

instance : SteadyCodec RuleRecord where
  exists_decode bytes h := by
    obtain ⟨_, _, _, _, _, _, _, _, _, rfl, -⟩ := exists_eight (n := 0) h
    exact ⟨_, fun _ => rfl⟩

instance : SteadyCodec AnimationRecord where
  exists_decode bytes h := by
    obtain ⟨_, _, _, _, _, _, _, _, tail, rfl, htail⟩ := exists_eight (n := 8) h
    obtain ⟨_, _, _, _, _, _, _, _, _, rfl, -⟩ := exists_eight (n := 0) htail
    exact ⟨_, fun _ => rfl⟩

instance : SteadyCodec TrackRecord where
  exists_decode bytes h := by
    obtain ⟨_, _, _, _, _, _, _, _, _, rfl, -⟩ := exists_eight (n := 0) h
    exact ⟨_, fun _ => rfl⟩

instance : SteadyCodec KeyframeRecord where
  exists_decode bytes h := by
    obtain ⟨_, _, _, _, tail, rfl, htail⟩ := exists_four (n := 2) h
    obtain ⟨_, _, _, rfl, -⟩ := exists_two (n := 0) htail
    exact ⟨_, fun _ => rfl⟩

section Sections

variable {ρ : Type} [Codec ρ] [SteadyCodec ρ]

variable (ρ) in
/-- Where there are bytes enough there is a record, and it is the one that is read from there. -/
lemma exists_recordAt? {bytes : List UInt8} {place : ℕ}
    (h : place + Codec.size ρ ≤ bytes.length) :
    ∃ r : ρ, recordAt? ρ bytes place = some r ∧ Codec.decode? (bytes.drop place) = some r := by
  have hlen : Codec.size ρ ≤ (bytes.drop place).length := by
    rw [List.length_drop]
    omega
  obtain ⟨r, hr⟩ : ∃ r : ρ, _ := SteadyCodec.exists_decode _ hlen
  refine ⟨r, ?_, ?_⟩
  · rw [recordAt?, slice?_eq_some h, Option.bind_some]
    simpa using hr []
  · simpa using hr ((bytes.drop place).drop (Codec.size ρ))

variable (ρ) in
/-- The records that are read one after the other are those that are looked up at their
places. -/
lemma decodeSection_drop {bytes : List UInt8} (n : ℕ) {place : ℕ}
    (h : place + n * Codec.size ρ ≤ bytes.length) :
    ∃ rs, decodeSection ρ n (bytes.drop place)
        = some (rs, bytes.drop (place + n * Codec.size ρ))
      ∧ rs.length = n ∧ ∀ i < n, recordAt? ρ bytes (place + i * Codec.size ρ) = rs[i]? := by
  induction n generalizing place with
  | zero =>
      refine ⟨[], ?_, rfl, fun i hi => absurd hi (Nat.not_lt_zero i)⟩
      rw [Nat.zero_mul, Nat.add_zero, decodeSection]
  | succ n ih =>
      rw [Nat.succ_mul] at h
      obtain ⟨r, hat, hr⟩ :=
        exists_recordAt? ρ (show place + Codec.size ρ ≤ bytes.length by omega)
      obtain ⟨rs, hrs, hlen, hall⟩ := @ih (place + Codec.size ρ) (by omega)
      have hplace (i : ℕ) : place + Codec.size ρ + i * Codec.size ρ
          = place + (i + 1) * Codec.size ρ := by
        rw [Nat.succ_mul]
        omega
      refine ⟨r :: rs, ?_, by rw [List.length_cons, hlen], ?_⟩
      · rw [decodeSection, hr, List.drop_drop, Option.bind_eq_bind, Option.bind_some, hrs, hplace]
        rfl
      · intro i hi
        cases i with
        | zero => simpa using hat
        | succ i =>
            rw [← hplace, hall i (Nat.lt_of_succ_lt_succ hi), List.getElem?_cons_succ]

end Sections

/-! ### Views -/

/-- Where the records of a type stand: the place of the first one, their number, and the section
of some contents that holds them. -/
class Placed (ρ : Type) [Codec ρ] where
  first : Offsets → ℕ
  count : Header → UInt16
  records : Contents → List ρ

instance : Placed ConditionRecord := ⟨Offsets.conditions, Header.conditions, Contents.conditions⟩
instance : Placed ActionRecord := ⟨Offsets.actions, Header.actions, Contents.actions⟩
instance : Placed RuleRecord := ⟨Offsets.rules, Header.rules, Contents.rules⟩
instance : Placed AnimationRecord := ⟨Offsets.animations, Header.animations, Contents.animations⟩
instance : Placed TrackRecord := ⟨Offsets.tracks, Header.tracks, Contents.tracks⟩
instance : Placed KeyframeRecord := ⟨Offsets.keyframes, Header.keyframes, Contents.keyframes⟩

/-- Bytes with the counts of their sections. -/
structure View where
  bytes : List UInt8
  header : Header
deriving DecidableEq, Repr

namespace View

/-- The record of a number in its section. -/
def record? (v : View) (ρ : Type) [Codec ρ] [Placed ρ] (i : ℕ) : Option ρ :=
  if i < (Placed.count ρ v.header).toNat then
    recordAt? ρ v.bytes (Placed.first ρ v.header.offsets + i * Codec.size ρ)
  else none

/-- The records of a section, looked up one after the other. -/
def records? (v : View) (ρ : Type) [Codec ρ] [Placed ρ] : Option (List ρ) :=
  (List.range (Placed.count ρ v.header).toNat).mapM (v.record? ρ)

/-- The records of all sections. -/
def contents? (v : View) : Option Contents := do
  return {
    conditions := ← v.records? ConditionRecord
    actions := ← v.records? ActionRecord
    rules := ← v.records? RuleRecord
    animations := ← v.records? AnimationRecord
    tracks := ← v.records? TrackRecord
    keyframes := ← v.records? KeyframeRecord }

/-- The check of a data set, with all records looked up at their places: nothing if one of the
places held no byte. -/
def look? (bytes : List UInt8) : Option (Except ViewError View) :=
  if bytes.length < Codec.size Header then some (.error (.tooShort bytes.length))
  else do
    let h ← recordAt? Header bytes 0
    if h.offsets.stop ≠ bytes.length then
      return .error (.sizeMismatch h.offsets.stop bytes.length)
    let c ← contents? ⟨bytes, h⟩
    return c.checkReferences.map fun _ => ⟨bytes, h⟩

variable {v : View} {c : Contents}

/-- The records of a type that are looked up are those of some contents. -/
structure Reads (v : View) (c : Contents) (ρ : Type) [Codec ρ] [Placed ρ] : Prop where
  length : (Placed.records c : List ρ).length = (Placed.count ρ v.header).toNat
  record : ∀ i, v.record? ρ i = (Placed.records c : List ρ)[i]?

namespace Reads

variable {ρ : Type} [Codec ρ] [Placed ρ]

/-- Records that are read one after the other from their place. -/
lemma of_section {rs : List ρ} (hrs : Placed.records c = rs)
    (hlen : rs.length = (Placed.count ρ v.header).toNat)
    (hall : ∀ i < (Placed.count ρ v.header).toNat,
      recordAt? ρ v.bytes (Placed.first ρ v.header.offsets + i * Codec.size ρ) = rs[i]?) :
    v.Reads c ρ where
  length := by rw [hrs, hlen]
  record := by
    intro i
    rw [record?, hrs]
    split_ifs with hi
    · exact hall i hi
    · exact (List.getElem?_eq_none (by omega)).symm

/-- Every record below the count of its section is there. -/
lemma exists_record (h : v.Reads c ρ) {i : ℕ} (hi : i < (Placed.count ρ v.header).toNat) :
    ∃ r, v.record? ρ i = some r := by
  rw [← h.length] at hi
  exact ⟨_, (h.record i).trans (List.getElem?_eq_getElem hi)⟩

/-- The records that are looked up are just those of the contents. -/
lemma mem_iff (h : v.Reads c ρ) (r : ρ) :
    r ∈ (Placed.records c : List ρ) ↔ ∃ i, v.record? ρ i = some r := by
  rw [List.mem_iff_getElem?]
  simp only [h.record]

/-- Looked up one after the other they are the section. -/
lemma records?_eq (h : v.Reads c ρ) : v.records? ρ = some (Placed.records c) := by
  have htake : ∀ n ≤ (Placed.records c : List ρ).length,
      (List.range n).mapM (v.record? ρ) = some ((Placed.records c).take n) := by
    intro n hn
    induction n with
    | zero => rfl
    | succ n ih =>
        have hr : v.record? ρ n = some ((Placed.records c)[n]) :=
          (h.record n).trans (List.getElem?_eq_getElem hn)
        rw [List.range_succ, List.mapM_append, ih (Nat.le_of_succ_le hn), List.mapM_cons,
          List.mapM_nil, hr, List.take_add_one, List.getElem?_eq_getElem hn]
        rfl
  rw [records?, ← h.length, htake _ le_rfl, List.take_length]

end Reads

/-- The records of all sections that are looked up are those of some contents. -/
structure Shows (v : View) (c : Contents) : Prop where
  conditions : v.Reads c ConditionRecord
  actions : v.Reads c ActionRecord
  rules : v.Reads c RuleRecord
  animations : v.Reads c AnimationRecord
  tracks : v.Reads c TrackRecord
  keyframes : v.Reads c KeyframeRecord

namespace Shows

/-- The contents have the counts of the view. -/
lemma header_eq (h : v.Shows c) : c.header = v.header := by
  have hcount {n : ℕ} {w : UInt16} (hn : n = w.toNat) : UInt16.ofNat n = w := by
    rw [hn, UInt16.ofNat_toNat]
  rw [Contents.header]
  congr
  · exact hcount h.conditions.length
  · exact hcount h.actions.length
  · exact hcount h.rules.length
  · exact hcount h.animations.length
  · exact hcount h.tracks.length
  · exact hcount h.keyframes.length

/-- Looked up section by section they are the contents. -/
lemma contents?_eq (h : v.Shows c) : v.contents? = some c := by
  rw [contents?, h.conditions.records?_eq, h.actions.records?_eq, h.rules.records?_eq,
    h.animations.records?_eq, h.tracks.records?_eq, h.keyframes.records?_eq]
  rfl

end Shows

/-- A section that ends among the bytes is read from its place up to its end. -/
lemma exists_section (ρ : Type) [Codec ρ] [SteadyCodec ρ] [Placed ρ] {stop : ℕ}
    (hlen : stop ≤ v.bytes.length)
    (hstop : Placed.first ρ v.header.offsets + (Placed.count ρ v.header).toNat * Codec.size ρ
      = stop) :
    ∃ rs, decodeSection ρ (Placed.count ρ v.header).toNat
        (v.bytes.drop (Placed.first ρ v.header.offsets)) = some (rs, v.bytes.drop stop)
      ∧ ∀ c : Contents, Placed.records c = rs → v.Reads c ρ := by
  subst hstop
  obtain ⟨rs, hrs, hrsLen, hall⟩ := decodeSection_drop ρ _ hlen
  exact ⟨rs, hrs, fun c hc => .of_section hc hrsLen hall⟩

/-- Bytes that are as long as their header says hold the records of all sections. -/
lemma exists_shows (hstop : v.header.offsets.stop = v.bytes.length) :
    ∃ c, Contents.ofSections? v.header (v.bytes.drop (Codec.size Header)) = some c
      ∧ v.Shows c := by
  -- every section ends where the next one begins, and the last one where the bytes end
  have hkeyframes : v.header.offsets.keyframes ≤ v.bytes.length :=
    le_trans (Nat.le_add_right _ _) hstop.le
  have htracks : v.header.offsets.tracks ≤ v.bytes.length :=
    le_trans (Nat.le_add_right _ _) hkeyframes
  have hanimations : v.header.offsets.animations ≤ v.bytes.length :=
    le_trans (Nat.le_add_right _ _) htracks
  have hrules : v.header.offsets.rules ≤ v.bytes.length :=
    le_trans (Nat.le_add_right _ _) hanimations
  have hactions : v.header.offsets.actions ≤ v.bytes.length :=
    le_trans (Nat.le_add_right _ _) hrules
  obtain ⟨cs, hcs, hcsReads⟩ := v.exists_section ConditionRecord hactions rfl
  obtain ⟨as, has, hasReads⟩ := v.exists_section ActionRecord hrules rfl
  obtain ⟨rs, hrs, hrsReads⟩ := v.exists_section RuleRecord hanimations rfl
  obtain ⟨ns, hns, hnsReads⟩ := v.exists_section AnimationRecord htracks rfl
  obtain ⟨ts, hts, htsReads⟩ := v.exists_section TrackRecord hkeyframes rfl
  obtain ⟨ks, hks, hksReads⟩ := v.exists_section KeyframeRecord hstop.le rfl
  refine ⟨⟨cs, as, rs, ns, ts, ks⟩, ?_, hcsReads _ rfl, hasReads _ rfl, hrsReads _ rfl,
    hnsReads _ rfl, htsReads _ rfl, hksReads _ rfl⟩
  refine Option.bind_eq_some_iff.mpr ⟨_, hcs, ?_⟩
  refine Option.bind_eq_some_iff.mpr ⟨_, has, ?_⟩
  refine Option.bind_eq_some_iff.mpr ⟨_, hrs, ?_⟩
  refine Option.bind_eq_some_iff.mpr ⟨_, hns, ?_⟩
  refine Option.bind_eq_some_iff.mpr ⟨_, hts, ?_⟩
  exact Option.bind_eq_some_iff.mpr ⟨_, hks, rfl⟩

end View

end DiceHost.DataSet
