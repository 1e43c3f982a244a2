/-
Writing records and reading them back.

* `word16_bytes`, `word32_bytes`: a word is the word of its bytes;
* `LawfulCodec`: a record is read back from its bytes, whatever follows them, and its bytes
  have the width of the codec; every record of a data set has such a codec;
* `decodeSection_encodeAll`: the same for the records of a section;
* `Contents.Fits`, `Contents.Closed`: the counts fit sixteen bits, and no reference points
  out of its section;
* `Contents.parse_encode`: **contents that fit and are closed are read back from their
  bytes**, and `Contents.length_encode` gives the number of bytes.
-/
import Mathlib.Tactic
import DiceHost.DataSet.View

namespace DiceHost.DataSet

/-! ### Words -/

/-- A low part beside a shifted high part. -/
lemma or_shiftLeft {a i : ℕ} (h : a < 2 ^ i) (b : ℕ) : a ||| b <<< i = a + b * 2 ^ i := by
  rw [Nat.or_comm, ← Nat.shiftLeft_add_eq_or_of_lt h, Nat.shiftLeft_eq, Nat.add_comm]

/-- A byte loses nothing when it becomes the high byte of a word. -/
lemma toNat_shiftLeft16 (b : UInt8) : (b.toUInt16 <<< 8).toNat = b.toNat <<< 8 := by
  have hb := b.toNat_lt
  rw [UInt16.toNat_shiftLeft, UInt8.toNat_toUInt16]
  refine Nat.mod_eq_of_lt ?_
  rw [Nat.shiftLeft_eq]
  exact Nat.lt_of_lt_of_le (Nat.mul_lt_mul_of_pos_right hb (by decide)) (by decide)

/-- A byte loses nothing when it is shifted within a word of 32 bits. -/
lemma toNat_shiftLeft32 (b : UInt8) (i : UInt32) (h : i.toNat ≤ 24) :
    (b.toUInt32 <<< i).toNat = b.toNat <<< i.toNat := by
  have hb := b.toNat_lt
  rw [UInt32.toNat_shiftLeft, UInt8.toNat_toUInt32, Nat.mod_eq_of_lt (a := i.toNat) (by omega)]
  refine Nat.mod_eq_of_lt ?_
  rw [Nat.shiftLeft_eq]
  calc b.toNat * 2 ^ i.toNat < 2 ^ 8 * 2 ^ i.toNat :=
        Nat.mul_lt_mul_of_pos_right hb (Nat.two_pow_pos _)
    _ ≤ 2 ^ 8 * 2 ^ 24 := Nat.mul_le_mul_left _ (Nat.pow_le_pow_right (by decide) h)

/-- The number of a word of two bytes. -/
lemma toNat_word16 (a b : UInt8) : (word16 a b).toNat = a.toNat + b.toNat * 2 ^ 8 := by
  rw [word16, UInt16.toNat_or, UInt8.toNat_toUInt16, toNat_shiftLeft16]
  exact or_shiftLeft a.toNat_lt _

/-- The number of a word of four bytes. -/
lemma toNat_word32 (a b c d : UInt8) : (word32 a b c d).toNat
    = a.toNat + b.toNat * 2 ^ 8 + c.toNat * 2 ^ 16 + d.toNat * 2 ^ 24 := by
  have ha := a.toNat_lt
  have hb := b.toNat_lt
  have hc := c.toNat_lt
  rw [word32, UInt32.toNat_or, UInt32.toNat_or, UInt32.toNat_or, UInt8.toNat_toUInt32,
    toNat_shiftLeft32 b 8 (by decide), toNat_shiftLeft32 c 16 (by decide),
    toNat_shiftLeft32 d 24 (by decide)]
  change ((a.toNat ||| b.toNat <<< 8) ||| c.toNat <<< 16) ||| d.toNat <<< 24 = _
  rw [or_shiftLeft ha, or_shiftLeft (i := 16) (by omega), or_shiftLeft (by omega)]

/-- A word of 16 bits is the word of its bytes. -/
lemma word16_bytes (w : UInt16) : word16 w.toUInt8 (w >>> 8).toUInt8 = w := by
  have hw := w.toNat_lt
  apply UInt16.toNat_inj.mp
  rw [toNat_word16]
  simp only [UInt16.toNat_toUInt8, UInt16.toNat_shiftRight, Nat.shiftRight_eq_div_pow,
    UInt16.reduceToNat, Nat.reduceMod]
  omega

/-- A word of 32 bits is the word of its bytes. -/
lemma word32_bytes (w : UInt32) :
    word32 w.toUInt8 (w >>> 8).toUInt8 (w >>> 16).toUInt8 (w >>> 24).toUInt8 = w := by
  have hw := w.toNat_lt
  apply UInt32.toNat_inj.mp
  rw [toNat_word32]
  simp only [UInt32.toNat_toUInt8, UInt32.toNat_shiftRight, Nat.shiftRight_eq_div_pow,
    UInt32.reduceToNat, Nat.reduceMod]
  omega

/-! ### Records -/

/-- A codec that reads back what it writes: a record has the width of the codec, and is
read from its bytes whatever follows them. -/
class LawfulCodec (ρ : Type) [Codec ρ] : Prop where
  length_encode : ∀ r : ρ, (Codec.encode r).length = Codec.size ρ
  decode_encode : ∀ (r : ρ) (rest : List UInt8), Codec.decode? (Codec.encode r ++ rest) = some r

instance : LawfulCodec Header where
  length_encode _ := rfl
  decode_encode r rest := by simp [Codec.encode, Codec.decode?, bytes16, word16_bytes]

instance : LawfulCodec ConditionRecord where
  length_encode _ := rfl
  decode_encode r rest := by simp [Codec.encode, Codec.decode?, bytes32, word32_bytes]

instance : LawfulCodec ActionRecord where
  length_encode _ := rfl
  decode_encode r rest := by
    simp [Codec.encode, Codec.decode?, bytes16, bytes32, word16_bytes, word32_bytes]

instance : LawfulCodec RuleRecord where
  length_encode _ := rfl
  decode_encode r rest := by simp [Codec.encode, Codec.decode?, bytes16, word16_bytes]

instance : LawfulCodec AnimationRecord where
  length_encode _ := rfl
  decode_encode r rest := by
    simp [Codec.encode, Codec.decode?, Payload.bytes, bytes16, bytes32, word16_bytes,
      word32_bytes]

instance : LawfulCodec TrackRecord where
  length_encode _ := rfl
  decode_encode r rest := by
    simp [Codec.encode, Codec.decode?, bytes16, bytes32, word16_bytes, word32_bytes]

instance : LawfulCodec KeyframeRecord where
  length_encode _ := rfl
  decode_encode r rest := by simp [Codec.encode, Codec.decode?, bytes16, word16_bytes]

/-! ### Sections -/

section Sections

variable {ρ : Type} [Codec ρ]

@[simp] lemma encodeAll_nil : encodeAll ([] : List ρ) = [] := rfl

lemma encodeAll_cons (r : ρ) (rs : List ρ) :
    encodeAll (r :: rs) = Codec.encode r ++ encodeAll rs := rfl

variable [LawfulCodec ρ]

/-- A section has the width of its records times their number. -/
lemma length_encodeAll (rs : List ρ) : (encodeAll rs).length = rs.length * Codec.size ρ := by
  induction rs with
  | nil => simp
  | cons r rs ih =>
      rw [encodeAll_cons, List.length_append, ih, LawfulCodec.length_encode, List.length_cons,
        Nat.succ_mul, Nat.add_comm]

/-- The records of a section are read back from its bytes, and what follows is left. -/
lemma decodeSection_encodeAll (rs : List ρ) (rest : List UInt8) :
    decodeSection ρ rs.length (encodeAll rs ++ rest) = some (rs, rest) := by
  induction rs with
  | nil => rfl
  | cons r rs ih =>
      have hdrop : (Codec.encode r ++ (encodeAll rs ++ rest)).drop (Codec.size ρ)
          = encodeAll rs ++ rest := by
        rw [← LawfulCodec.length_encode r, List.drop_left]
      rw [encodeAll_cons, List.append_assoc, List.length_cons, decodeSection,
        LawfulCodec.decode_encode, Option.bind_eq_bind, Option.bind_some, hdrop, ih]
      rfl

end Sections

/-! ### Contents -/

namespace Contents

/-- The number of records of every section fits sixteen bits. -/
structure Fits (c : Contents) : Prop where
  conditions : c.conditions.length < 2 ^ 16
  actions : c.actions.length < 2 ^ 16
  rules : c.rules.length < 2 ^ 16
  animations : c.animations.length < 2 ^ 16
  tracks : c.tracks.length < 2 ^ 16
  keyframes : c.keyframes.length < 2 ^ 16

/-- Every reference of a record lies in its section. -/
structure Closed (c : Contents) : Prop where
  rules : ∀ r ∈ c.rules, ∀ ref ∈ r.references, ref.reach ≤ c.count ref.target
  actions : ∀ r ∈ c.actions, ∀ ref ∈ r.references, ref.reach ≤ c.count ref.target
  animations : ∀ r ∈ c.animations, ∀ ref ∈ r.references, ref.reach ≤ c.count ref.target
  tracks : ∀ r ∈ c.tracks, ∀ ref ∈ r.references, ref.reach ≤ c.count ref.target

/-- A count that fits sixteen bits is kept by the header. -/
lemma toNat_count {n : ℕ} (h : n < 2 ^ 16) : (UInt16.ofNat n).toNat = n :=
  UInt16.toNat_ofNat_of_lt' h

/-- The header of contents that fit describes their bytes. -/
lemma length_encode {c : Contents} (h : c.Fits) : c.encode.length = c.header.offsets.stop := by
  simp only [encode, List.length_append, length_encodeAll, LawfulCodec.length_encode,
    Header.offsets, header, toNat_count h.conditions, toNat_count h.actions,
    toNat_count h.rules, toNat_count h.animations, toNat_count h.tracks,
    toNat_count h.keyframes]

/-- The header is read back from the bytes of some contents. -/
lemma decode_header (c : Contents) : Codec.decode? c.encode = some c.header := by
  simp only [encode, List.append_assoc]
  exact LawfulCodec.decode_encode _ _

/-- The records of contents that fit are read back from their sections. -/
lemma ofSections_encode {c : Contents} (h : c.Fits) :
    ofSections? c.header (c.encode.drop (Codec.size Header)) = some c := by
  have hdrop : c.encode.drop (Codec.size Header)
      = encodeAll c.conditions ++ (encodeAll c.actions ++ (encodeAll c.rules
        ++ (encodeAll c.animations ++ (encodeAll c.tracks ++ (encodeAll c.keyframes ++ []))))) := by
    simp only [encode, List.append_assoc, List.append_nil]
    rw [← LawfulCodec.length_encode c.header, List.drop_left]
  rw [hdrop, ofSections?]
  simp only [header, toNat_count h.conditions, toNat_count h.actions, toNat_count h.rules,
    toNat_count h.animations, toNat_count h.tracks, toNat_count h.keyframes,
    decodeSection_encodeAll, Option.bind_eq_bind, Option.bind_some]
  rfl

/-- Closed contents pass the check of their references. -/
lemma checkReferences_of_closed {c : Contents} (h : c.Closed) : c.checkReferences = .ok () := by
  rw [checkReferences]
  split
  · rfl
  · next s i ref hfind =>
      have hmem := List.mem_of_find?_eq_some hfind
      -- a dangling reference would belong to a record of one of the four sections
      have hreach : ref.reach ≤ c.count ref.target := by
        simp only [references, List.mem_append, List.mem_flatMap, List.mem_map, Prod.mk.injEq]
          at hmem
        rcases hmem with ((⟨⟨r, j⟩, hr, _, href, -, -, rfl⟩ | ⟨⟨r, j⟩, hr, _, href, -, -, rfl⟩)
          | ⟨⟨r, j⟩, hr, _, href, -, -, rfl⟩) | ⟨⟨r, j⟩, hr, _, href, -, -, rfl⟩
        · exact h.rules r (List.fst_mem_of_mem_zipIdx hr) _ href
        · exact h.actions r (List.fst_mem_of_mem_zipIdx hr) _ href
        · exact h.animations r (List.fst_mem_of_mem_zipIdx hr) _ href
        · exact h.tracks r (List.fst_mem_of_mem_zipIdx hr) _ href
      have hdangling := List.find?_some hfind
      simp [isDangling, Nat.not_lt.mpr hreach] at hdangling

/-- **Reading back**: contents that fit and are closed are the contents of their bytes. -/
theorem parse_encode {c : Contents} (hf : c.Fits) (hc : c.Closed) :
    parse c.encode = .ok c := by
  have hstop : c.header.offsets.stop = c.encode.length := (length_encode hf).symm
  rw [parse, decode_header]
  simp only [hstop, ne_eq, not_true_eq_false, if_false, ofSections_encode hf,
    checkReferences_of_closed hc]
  rfl

end Contents

end DiceHost.DataSet
