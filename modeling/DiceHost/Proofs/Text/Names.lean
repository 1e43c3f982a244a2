/-
Identifiers, sets of flags and names are read back from their texts.

* `injective_of_readBack`: what is read back from its text is told by it;
* `Uuid.parse?_text`, `Flags.parse?_text`: **identifiers and sets of flags are read back**;
* `DieKind.ofName?_name`, `WebRequestFormat.ofName?_name`: so are the words for shapes and
  encodings.

The texts of all sets of a kind are checked one by one, with the names of the bits as characters.
-/
import DiceHost.Die.Kind
import DiceHost.Profile.Action
import DiceHost.Profile.Flags
import DiceHost.Proofs.Text.Hex

namespace DiceHost

/-- What is read back from its text is told by it. -/
lemma Text.injective_of_readBack {α : Type} {text : α → String} {read : String → Option α}
    (h : ∀ x, read (text x) = some x) : Function.Injective text := by
  intro x y hxy
  have hread := congrArg read hxy
  rwa [h, h, Option.some_inj] at hread

/-! ### Identifiers -/

namespace Uuid

/-- The groups of the digits of an identifier. -/
lemma append_groups (ds : List Char) : ds.take 8 ++ ((ds.drop 8).take 4
    ++ ((ds.drop 12).take 4 ++ ((ds.drop 16).take 4 ++ ds.drop 20))) = ds := by
  have hstep (n m : ℕ) : (ds.drop n).take m ++ ds.drop (n + m) = ds.drop n := by
    rw [← List.drop_drop, List.take_append_drop]
  rw [hstep 16 4, hstep 12 4, hstep 8 4, List.take_append_drop]

lemma ofHyphenated?_hyphenate {ds : List Char} (h : ds.length = 32) :
    ofHyphenated? (hyphenate ds) = ofDigits? ds := by
  have hdigits : (hyphenate ds).take 8 ++ ((hyphenate ds).drop 9).take 4
      ++ ((hyphenate ds).drop 14).take 4 ++ ((hyphenate ds).drop 19).take 4
      ++ (hyphenate ds).drop 24 = ds := by
    conv_rhs => rw [← append_groups ds]
    simp [hyphenate, List.drop_append, h, List.drop_take]
  rw [ofHyphenated?, hdigits, if_pos]
  simp [hyphenate, List.getElem?_append, h]

/-- **An identifier is read back from its text.** -/
theorem parse?_text (u : Uuid) : parse? u.text = some u := by
  have hlength := Text.Hex.length_lower 32 u.value.toNat
  have hdigits : ofDigits? (Text.Hex.lower 32 u.value.toNat) = some u := by
    rw [ofDigits?, if_pos hlength,
      Text.Hex.nat?_lower (by decide) (u.value.isLt.trans_le (by decide)), Option.map_some, ofNat,
      BitVec.ofNat_toNat, BitVec.setWidth_eq]
  have hhyphenated : (hyphenate (Text.Hex.lower 32 u.value.toNat)).length = 36 := by
    simp [hyphenate, hlength]
  rw [parse?, text, String.toList_ofList, hhyphenated]
  change ofHyphenated? _ = _
  rw [ofHyphenated?_hyphenate hlength, hdigits]

end Uuid

/-! ### Sets of flags -/

/-- The names of the bits as characters. -/
def FlagKind.labels : FlagKind → List (List Char)
  | battery => [['O', 'K'], ['L', 'O', 'W'], ['C', 'H', 'A', 'R', 'G', 'I', 'N', 'G'],
    ['D', 'O', 'N', 'E'], ['B', 'A', 'D', '_', 'C', 'H', 'A', 'R', 'G', 'I', 'N', 'G'],
    ['E', 'R', 'R', 'O', 'R']]
  | connection => [['C', 'O', 'N', 'N', 'E', 'C', 'T', 'E', 'D'],
    ['D', 'I', 'S', 'C', 'O', 'N', 'N', 'E', 'C', 'T', 'E', 'D']]
  | helloGoodbye => [['H', 'E', 'L', 'L', 'O'], ['G', 'O', 'O', 'D', 'B', 'Y', 'E']]
  | faceCompare => [['L', 'E', 'S', 'S'], ['E', 'Q', 'U', 'A', 'L'],
    ['G', 'R', 'E', 'A', 'T', 'E', 'R']]

lemma FlagKind.names_eq (kind : FlagKind) : kind.names = kind.labels.map String.ofList := by
  cases kind <;> rfl

namespace Flags

variable {kind : FlagKind}

/-- The parts of the text of a set as characters. -/
def parts (f : Flags kind) : List (List Char) :=
  ((kind.labels.zipIdx.filter fun (_, i) => f.bits &&& (1 <<< UInt8.ofNat i) ≠ 0).map (·.1))
    ++ if f.rest = 0 then [] else ['0' :: 'x' :: shortHex f.rest]

lemma text_eq (f : Flags kind) :
    f.text = String.ofList ([' ', '|', ' '].intercalate f.parts) := by
  have hset : f.setNames = ((kind.labels.zipIdx.filter fun (_, i) =>
      f.bits &&& (1 <<< UInt8.ofNat i) ≠ 0).map (·.1)).map String.ofList := by
    rw [setNames, kind.names_eq, List.zipIdx_map, List.filter_map, List.map_map, List.map_map]
    rfl
  have hrest : (if f.rest = 0 then [] else ["0x" ++ String.ofList (shortHex f.rest)])
      = (if f.rest = 0 then [] else ['0' :: 'x' :: shortHex f.rest]).map String.ofList := by
    split_ifs
    · rfl
    · rw [List.map_singleton]
      congr 1
      apply String.toList_injective
      simp
  apply String.toList_injective
  rw [text]
  rw [hset, hrest, ← List.map_append, String.toList_intercalate, List.map_map, String.toList_ofList]
  simp [Function.comp_def, parts]

/-- The flags of one part, with the names of the bits as characters. -/
def ofPart? (kind : FlagKind) : List Char → Option (Flags kind)
  | '0' :: 'x' :: ds =>
    match Text.Hex.readNat 256 ds with
    | .ok n => some ⟨UInt8.ofNat n⟩
    | .error _ => none
  | cs => (kind.labels.findIdx? (· = cs)).map ofIndex

lemma part?_eq (cs : List Char) : part? cs = ofPart? kind cs := by
  rw [part?.eq_def, ofPart?.eq_def]
  split
  · rfl
  · rw [kind.names_eq, List.findIdx?_map]
    simp only [Function.comp_def, String.toList_ofList]

/-- The union of the parts of a text. -/
def ofParts? (kind : FlagKind) (cs : List Char) : Option (Flags kind) :=
  if (Text.trim cs).isEmpty then some ⟨0⟩
  else (split cs).foldlM (fun f part => (ofPart? kind (Text.trim part)).map f.union) ⟨0⟩

lemma parse?_ofList (cs : List Char) : parse? (String.ofList cs) = ofParts? kind cs := by
  rw [parse?, String.toList_ofList, ofParts?]
  simp only [part?_eq]

lemma ofParts?_parts (kind : FlagKind) : ∀ bits : Fin 256,
    ofParts? kind ([' ', '|', ' '].intercalate (⟨UInt8.ofNat bits⟩ : Flags kind).parts)
      = some (⟨UInt8.ofNat bits⟩ : Flags kind) := by
  cases kind <;> decide +kernel

/-- **A set of flags is read back from its text**, with the bits that have no name. -/
theorem parse?_text (f : Flags kind) : parse? f.text = some f := by
  have hbits := ofParts?_parts kind ⟨f.bits.toNat, f.bits.toNat_lt⟩
  rw [UInt8.ofNat_toNat] at hbits
  rw [text_eq, parse?_ofList]
  exact hbits

end Flags

/-! ### Names -/

lemma DieKind.ofName?_name (k : DieKind) : ofName? k.name = some k := by
  cases k <;> rfl

lemma WebRequestFormat.ofName?_name (f : WebRequestFormat) : ofName? f.name = some f := by
  cases f <;> rfl

end DiceHost
