/-
Text as bytes.

* `Text.bytes`: the bytes of some characters, one character after the other;
* `Text.toList_toUTF8`: they are those of the string of these characters;
* `Text.zero_notMem_bytes`: only the character zero has the byte zero;
* `Text.eq_of_bytes_append`: **text without it is told by its bytes up to the first zero byte**.
-/
import Mathlib.Tactic

namespace DiceHost.Text

/-- The bytes of some characters. -/
def bytes (cs : List Char) : List UInt8 :=
  cs.flatMap String.utf8EncodeChar

lemma toList_loop (bs : ByteArray) (i : ℕ) (acc : List UInt8) :
    ByteArray.toList.loop bs i acc = acc.reverse ++ bs.data.toList.drop i := by
  induction hn : bs.size - i generalizing i acc with
  | zero =>
      have hsize : bs.data.toList.length ≤ i := by
        rw [Array.length_toList]
        exact Nat.le_of_sub_eq_zero hn
      rw [ByteArray.toList.loop, if_neg (by omega), List.drop_eq_nil_of_le hsize, List.append_nil]
  | succ n ih =>
      have hlt : i < bs.data.toList.length := by
        rw [Array.length_toList]
        exact Nat.lt_of_sub_eq_succ hn
      rw [ByteArray.toList.loop, if_pos (by omega), ih _ _ (by omega), List.reverse_cons,
        List.append_assoc, List.singleton_append, List.drop_eq_getElem_cons hlt]
      congr 2
      exact (getElem!_pos bs.data i (by simpa using hlt)).trans (Array.getElem_toList _).symm

/-- The bytes of a string are those of its characters. -/
lemma toList_toUTF8 (cs : List Char) : (String.ofList cs).toUTF8.toList = bytes cs := by
  rw [ByteArray.toList, toList_loop]
  simp [String.toUTF8, bytes, List.utf8Encode]

/-- Characters are told by their bytes. -/
lemma bytes_injective : Function.Injective bytes := by
  intro cs ds h
  have harrays : cs.utf8Encode = ds.utf8Encode := congrArg List.toByteArray h
  rw [← String.toByteArray_ofList, ← String.toByteArray_ofList, String.toByteArray_inj] at harrays
  exact String.ofList_injective harrays

lemma ofNat_ne_zero {n : ℕ} (hpos : 0 < n) (hn : n < 256) : (0 : UInt8) ≠ UInt8.ofNat n := by
  intro h
  have hnat := congrArg UInt8.toNat h
  rw [UInt8.toNat_ofNat', Nat.mod_eq_of_lt hn] at hnat
  exact hpos.ne hnat

lemma zero_notMem_utf8EncodeChar {c : Char} (hc : c ≠ '\x00') :
    0 ∉ String.utf8EncodeChar c := by
  have hpos : 0 < c.val.toNat := by
    refine Nat.pos_of_ne_zero fun h => hc ?_
    exact Char.ext (UInt32.toNat_inj.mp h)
  rw [String.utf8EncodeChar.eq_def]
  intro hmem
  dsimp only at hmem
  split_ifs at hmem <;> simp only [List.mem_cons, List.not_mem_nil, or_false] at hmem
  · exact ofNat_ne_zero hpos (by omega) hmem
  · rcases hmem with h | h <;> exact ofNat_ne_zero (by omega) (by omega) h
  · rcases hmem with h | h | h <;> exact ofNat_ne_zero (by omega) (by omega) h
  · rcases hmem with h | h | h | h <;> exact ofNat_ne_zero (by omega) (by omega) h

lemma zero_notMem_bytes {cs : List Char} (h : ∀ c ∈ cs, c ≠ '\x00') : 0 ∉ bytes cs := by
  intro hmem
  obtain ⟨c, hc, hzero⟩ := List.mem_flatMap.mp hmem
  exact zero_notMem_utf8EncodeChar (h c hc) hzero

/-- Bytes without a zero are told by the bytes up to the first zero. -/
lemma eq_of_append_zero {xs ys r r' : List UInt8} (hx : 0 ∉ xs) (hy : 0 ∉ ys)
    (h : xs ++ 0 :: r = ys ++ 0 :: r') : xs = ys ∧ r = r' := by
  have htake {zs : List UInt8} (hz : 0 ∉ zs) (r : List UInt8) :
      (zs ++ 0 :: r).takeWhile (· ≠ 0) = zs := by
    rw [List.takeWhile_append_of_pos, List.takeWhile_cons_of_neg (by simp), List.append_nil]
    exact fun b hb => decide_eq_true fun hzero => hz (hzero ▸ hb)
  have heq : xs = ys := by
    rw [← htake hx r, h, htake hy r']
  subst heq
  exact ⟨rfl, (List.cons.inj (List.append_cancel_left h)).2⟩

/-- Text without the character zero is told by its bytes up to the first zero byte. -/
lemma eq_of_bytes_append {cs ds : List Char} {r r' : List UInt8} (hc : ∀ c ∈ cs, c ≠ '\x00')
    (hd : ∀ c ∈ ds, c ≠ '\x00') (h : bytes cs ++ 0 :: r = bytes ds ++ 0 :: r') :
    cs = ds ∧ r = r' := by
  obtain ⟨hbytes, hrest⟩ := eq_of_append_zero (zero_notMem_bytes hc) (zero_notMem_bytes hd) h
  exact ⟨bytes_injective hbytes, hrest⟩

end DiceHost.Text
