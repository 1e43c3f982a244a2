/-
Numbers are told by their texts.

* `readBack`: the value of a numeral with a point and an exponent;
* `Written`, `written_write`: a written numeral consists of the characters of numerals, has a point
  or an exponent and is read back as its value;
* `Binary32.written_body`, `Binary32.text_eq`: so does the text of a number after its sign;
* `Binary32.text_ne_integer`: the text of a number is not that of an integer;
* `Binary32.text_injective`: **a finite number is told by its text**.
-/
import DiceHost.Proofs.Numeric.Digits
import DiceHost.Proofs.Numeric.Rounding

namespace DiceHost.Numeric

/-! ### Marks -/

/-- The text before the first mark. -/
def before (mark : Char) (cs : List Char) : List Char :=
  cs.takeWhile (· ≠ mark)

/-- The text after the first mark. -/
def after (mark : Char) (cs : List Char) : List Char :=
  (cs.dropWhile (· ≠ mark)).drop 1

section Marks

variable {mark : Char} {cs ds : List Char}

lemma ne_of_notMem (h : mark ∉ cs) : ∀ c ∈ cs, decide (c ≠ mark) = true :=
  fun _ hc => decide_eq_true fun heq => h (heq ▸ hc)

lemma before_append (h : mark ∉ cs) : before mark (cs ++ mark :: ds) = cs := by
  rw [before, List.takeWhile_append_of_pos (ne_of_notMem h), List.takeWhile_cons_of_neg (by simp),
    List.append_nil]

lemma after_append (h : mark ∉ cs) : after mark (cs ++ mark :: ds) = ds := by
  rw [after, List.dropWhile_append_of_pos (ne_of_notMem h), List.dropWhile_cons_of_neg (by simp)]
  rfl

lemma before_eq_self (h : mark ∉ cs) : before mark cs = cs := by
  have happend : (cs ++ []).takeWhile (· ≠ mark) = cs ++ [].takeWhile (· ≠ mark) :=
    List.takeWhile_append_of_pos (ne_of_notMem h)
  rwa [List.takeWhile_nil, List.append_nil] at happend

lemma after_eq_nil (h : mark ∉ cs) : after mark cs = [] := by
  have happend : (cs ++ []).dropWhile (· ≠ mark) = [].dropWhile (· ≠ mark) :=
    List.dropWhile_append_of_pos (ne_of_notMem h)
  rw [List.append_nil] at happend
  rw [after, happend]
  rfl

lemma notMem_of_isDigit (hcs : ∀ c ∈ cs, c.isDigit = true) (hmark : mark.isDigit = false) :
    mark ∉ cs := by
  intro h
  rw [hcs mark h] at hmark
  cases hmark

end Marks

/-! ### Reading -/

/-- The value of a sign and digits. -/
def readInteger : List Char → ℤ
  | '-' :: ds => -Nat.ofDigitChars 10 ds 0
  | ds => Nat.ofDigitChars 10 ds 0

/-- The value of digits with a point. -/
def readMantissa (cs : List Char) : ℚ :=
  Nat.ofDigitChars 10 (before '.' cs ++ after '.' cs) 0 * 10 ^ (-(after '.' cs).length : ℤ)

/-- The value of a numeral. -/
def readBack (cs : List Char) : ℚ :=
  readMantissa (before 'e' cs) * 10 ^ readInteger (after 'e' cs)

lemma readInteger_integer (n : ℤ) : readInteger (integer n) = n := by
  rw [integer]
  split_ifs with h
  · rw [readInteger, ofDigitChars_digits]
    omega
  · obtain ⟨c, cs, hdigits, hc⟩ := head_digits n.natAbs
    rw [hdigits, readInteger, ← hdigits, ofDigitChars_digits]
    · omega
    · rintro ds heq
      obtain rfl := (List.cons.inj heq).1
      cases hc

lemma readMantissa_append {as bs : List Char} (ha : ∀ c ∈ as, c.isDigit = true) :
    readMantissa (as ++ '.' :: bs)
      = Nat.ofDigitChars 10 (as ++ bs) 0 * 10 ^ (-bs.length : ℤ) := by
  have hpoint : '.' ∉ as := notMem_of_isDigit ha rfl
  rw [readMantissa, before_append hpoint, after_append hpoint]

lemma readMantissa_digits {as : List Char} (ha : ∀ c ∈ as, c.isDigit = true) :
    readMantissa as = Nat.ofDigitChars 10 as 0 := by
  have hpoint : '.' ∉ as := notMem_of_isDigit ha rfl
  rw [readMantissa, before_eq_self hpoint, after_eq_nil hpoint]
  simp

lemma readBack_of_notMem {cs : List Char} (h : 'e' ∉ cs) : readBack cs = readMantissa cs := by
  rw [readBack, before_eq_self h, after_eq_nil h]
  simp [readInteger]

lemma readBack_append {cs : List Char} (h : 'e' ∉ cs) (n : ℤ) :
    readBack (cs ++ 'e' :: integer n) = readMantissa cs * 10 ^ n := by
  rw [readBack, before_append h, after_append h, readInteger_integer]

/-! ### Written numerals -/

lemma ofDigitChars_replicate (n k : ℕ) :
    Nat.ofDigitChars 10 (List.replicate n '0') k = k * 10 ^ n := by
  induction n generalizing k with
  | zero => simp
  | succ n ih =>
      rw [List.replicate_succ, Nat.ofDigitChars_cons, ih]
      simp only [Nat.sub_self, Nat.add_zero]
      ring

lemma isDigit_of_mem_replicate {n : ℕ} {c : Char} (h : c ∈ List.replicate n '0') :
    c.isDigit = true := by
  rw [List.eq_of_mem_replicate h]
  rfl

/-- A text that is written for a number. -/
structure Written (cs : List Char) (q : ℚ) : Prop where
  numeric : ∀ c ∈ cs, isNumeric c = true
  head : ∃ c ds, cs = c :: ds ∧ c.isDigit = true
  marked : '.' ∈ cs ∨ 'e' ∈ cs
  value : readBack cs = q

/-- Digits with a point. -/
lemma written_pointed {as bs : List Char} {q : ℚ} (hne : as ≠ [])
    (ha : ∀ c ∈ as, c.isDigit = true) (hb : ∀ c ∈ bs, c.isDigit = true)
    (hq : Nat.ofDigitChars 10 (as ++ bs) 0 * 10 ^ (-bs.length : ℤ) = q) :
    Written (as ++ '.' :: bs) q where
  numeric := by
    intro c hc
    rcases List.mem_append.mp hc with hc | hc
    · exact isNumeric_of_isDigit (ha c hc)
    · rcases List.mem_cons.mp hc with rfl | hc
      · rfl
      · exact isNumeric_of_isDigit (hb c hc)
  head := by
    obtain ⟨c, cs, rfl⟩ := List.exists_cons_of_ne_nil hne
    exact ⟨c, _, rfl, ha c List.mem_cons_self⟩
  marked := .inl (List.mem_append_right _ List.mem_cons_self)
  value := by
    have hmark : 'e' ∉ as ++ '.' :: bs := by
      rw [List.mem_append, List.mem_cons, not_or, not_or]
      exact ⟨notMem_of_isDigit ha rfl, by decide, notMem_of_isDigit hb rfl⟩
    rw [readBack_of_notMem hmark, readMantissa_append ha, hq]

lemma written_positional (d : Decimal) : Written (positional true d) d.value := by
  have hdigits : ∀ c ∈ digits d.coefficient, c.isDigit = true := fun _ => isDigit_of_mem_digits
  have hreplicate (n : ℕ) : ∀ c ∈ List.replicate n '0', c.isDigit = true :=
    fun _ => isDigit_of_mem_replicate
  simp only [positional, if_true]
  split_ifs with hexponent hpoint
  · -- an integer
    obtain ⟨n, hn⟩ := Int.eq_ofNat_of_zero_le hexponent
    refine written_pointed (List.append_ne_nil_of_left_ne_nil (digits_ne_nil _) _)
      (List.forall_mem_append.mpr ⟨hdigits, hreplicate _⟩) (hreplicate 1) ?_
    rw [Nat.ofDigitChars_append, Nat.ofDigitChars_append, ofDigitChars_digits,
      ofDigitChars_replicate, Nat.ofDigitChars_cons, Nat.ofDigitChars_nil, Decimal.value, hn]
    norm_num
    ring
  · -- a point between the digits
    obtain ⟨n, hn⟩ := Int.eq_ofNat_of_zero_le hpoint.le
    have hlength : (((digits d.coefficient).drop n).length : ℤ) = -d.exponent := by
      rw [List.length_drop]
      omega
    have htake : (digits d.coefficient).take n ≠ [] := by
      rw [Ne, List.take_eq_nil_iff, not_or]
      exact ⟨by omega, digits_ne_nil _⟩
    rw [hn, Int.toNat_natCast]
    refine written_pointed htake (fun c hc => hdigits c (List.mem_of_mem_take hc))
      (fun c hc => hdigits c (List.mem_of_mem_drop hc)) ?_
    rw [List.take_append_drop, ofDigitChars_digits, hlength, neg_neg, Decimal.value]
  · -- a fraction less than one
    have hlength : ((List.replicate (-((digits d.coefficient).length + d.exponent)).toNat '0'
        ++ digits d.coefficient).length : ℤ) = -d.exponent := by
      rw [List.length_append, List.length_replicate]
      omega
    refine written_pointed (List.cons_ne_nil '0' []) (hreplicate 1)
      (List.forall_mem_append.mpr ⟨hreplicate _, hdigits⟩) ?_
    rw [hlength, neg_neg, List.singleton_append, Nat.ofDigitChars_cons, Nat.ofDigitChars_append,
      ofDigitChars_replicate, Decimal.value]
    simp [ofDigitChars_digits]

/-- The digits before an exponent, with a point after the first unless it is the only one. -/
def leading (ds : List Char) : List Char :=
  ds.take 1 ++ (if (ds.drop 1).isEmpty then [] else '.' :: ds.drop 1)

lemma readMantissa_leading {c : Char} {ds : List Char} (h : ∀ d ∈ c :: ds, d.isDigit = true) :
    readMantissa (leading (c :: ds)) = Nat.ofDigitChars 10 (c :: ds) 0 * 10 ^ (-ds.length : ℤ) := by
  cases ds with
  | nil =>
      change readMantissa [c] = _
      rw [readMantissa_digits h]
      simp
  | cons d ds => exact readMantissa_append (List.forall_mem_singleton.mpr (h c List.mem_cons_self))

lemma mem_leading {ds : List Char} {c : Char} (h : c ∈ leading ds) : c ∈ ds ∨ c = '.' := by
  rw [leading, List.mem_append] at h
  rcases h with h | h
  · exact .inl (List.mem_of_mem_take h)
  · split_ifs at h
    · cases h
    · exact (List.mem_cons.mp h).symm.imp_left List.mem_of_mem_drop

lemma written_scientific (d : Decimal) : Written (scientific d) d.value := by
  have hdigits : ∀ c ∈ digits d.coefficient, c.isDigit = true := fun _ => isDigit_of_mem_digits
  obtain ⟨n, hn⟩ : ∃ n, n = ((digits d.coefficient).length : ℤ) + d.exponent - 1 := ⟨_, rfl⟩
  have htext : scientific d = leading (digits d.coefficient) ++ 'e' :: integer n := by
    rw [hn]
    rfl
  have hvalue := ofDigitChars_digits d.coefficient
  obtain ⟨c, cs, hcs, hc⟩ := head_digits d.coefficient
  rw [hcs] at htext hdigits hvalue
  have hleading : ∀ e ∈ leading (c :: cs), e.isDigit = true ∨ e = '.' :=
    fun e he => (mem_leading he).imp_left (hdigits e)
  have hmark : 'e' ∉ leading (c :: cs) := fun h => by
    rcases hleading _ h with h | h <;> cases h
  rw [htext]
  refine ⟨fun e he => ?_, ⟨c, _, rfl, hc⟩, .inr (List.mem_append_right _ List.mem_cons_self), ?_⟩
  · rcases List.mem_append.mp he with he | he
    · rcases hleading e he with he | rfl
      · exact isNumeric_of_isDigit he
      · rfl
    · rcases List.mem_cons.mp he with rfl | he
      · rfl
      · exact numeric_integer n e he
  · rw [readBack_append hmark, readMantissa_leading hdigits, hvalue, mul_assoc,
      ← zpow_add₀ (by norm_num), Decimal.value, hn, hcs, List.length_cons]
    congr 2
    push_cast
    ring

lemma written_write (n : Notation) (d : Decimal) : Written (n.write d) d.value := by
  simp only [Notation.write]
  split_ifs
  · exact written_positional d
  · exact written_scientific d

end DiceHost.Numeric

namespace DiceHost.Numeric.Binary32

/-! ### Texts -/

/-- The text of a magnitude. -/
def body (w : ℕ) : List Char :=
  if w = 0 then ['0', '.', '0'] else notation32.write (Format.single.shortest w)

/-- The value of the text of a magnitude. -/
def bodyValue (w : ℕ) : ℚ :=
  if w = 0 then 0 else (Format.single.shortest w).value

lemma text_eq (x : Binary32) :
    x.text = (if x.isNegative then ['-'] else []) ++ body x.magnitude :=
  rfl

lemma written_body (w : ℕ) : Written (body w) (bodyValue w) := by
  rw [body, bodyValue]
  split_ifs
  · have hzero : ∀ c ∈ ['0'], c.isDigit = true := List.forall_mem_singleton.mpr rfl
    exact written_pointed (List.cons_ne_nil '0' []) hzero hzero (by simp [Nat.ofDigitChars_cons])
  · exact written_write _ _

/-- A magnitude is told by its text. -/
lemma eq_of_body {w w' : ℕ} (hw : w < Format.single.infinity) (hw' : w' < Format.single.infinity)
    (h : body w = body w') : w = w' := by
  have hvalue : bodyValue w = bodyValue w' := by
    rw [← (written_body w).value, h, (written_body w').value]
  rw [bodyValue, bodyValue] at hvalue
  split_ifs at hvalue with hzero hzero' hzero'
  · rw [hzero, hzero']
  · exact absurd hvalue (Format.value_shortest_pos (Nat.pos_of_ne_zero hzero') hw').ne
  · exact absurd hvalue (Format.value_shortest_pos (Nat.pos_of_ne_zero hzero) hw).ne'
  · exact Format.eq_of_shortest (Nat.pos_of_ne_zero hzero) hw (Nat.pos_of_ne_zero hzero') hw' hvalue

lemma numeric_text (x : Binary32) : ∀ c ∈ x.text, isNumeric c = true := by
  rw [text_eq]
  refine List.forall_mem_append.mpr ⟨?_, (written_body x.magnitude).numeric⟩
  split_ifs
  · exact List.forall_mem_singleton.mpr rfl
  · exact List.forall_mem_nil _

lemma head_text (x : Binary32) : ∃ c cs, x.text = c :: cs ∧ (c = '-' ∨ c.isDigit = true) := by
  obtain ⟨c, ds, hbody, hc⟩ := (written_body x.magnitude).head
  rw [text_eq, hbody]
  split_ifs
  · exact ⟨_, _, rfl, .inl rfl⟩
  · exact ⟨_, _, rfl, .inr hc⟩

/-- The text of a number is not that of an integer. -/
lemma text_ne_integer (x : Binary32) (n : ℤ) : x.text ≠ integer n := by
  intro h
  have hmem {c : Char} (hc : c ∈ body x.magnitude) : c = '-' ∨ c.isDigit = true := by
    refine mem_integer (n := n) ?_
    rw [← h, text_eq]
    exact List.mem_append_right _ hc
  rcases (written_body x.magnitude).marked with hmark | hmark
  · rcases hmem hmark with hc | hc <;> cases hc
  · rcases hmem hmark with hc | hc <;> cases hc

lemma ext_of_magnitude {x y : Binary32} (hsign : x.isNegative = y.isNegative)
    (hmagnitude : x.magnitude = y.magnitude) : x = y := by
  have hx := x.bits.toNat_lt
  have hy := y.bits.toNat_lt
  rw [isNegative, isNegative, decide_eq_decide] at hsign
  rw [magnitude, magnitude] at hmagnitude
  have hbits : x.bits = y.bits := UInt32.toNat_inj.mp (by omega)
  cases x
  cases y
  exact congrArg _ hbits

/-- **A finite number is told by its text.** -/
theorem text_injective {x y : Binary32} (hx : x.isFinite = true) (hy : y.isFinite = true)
    (h : x.text = y.text) : x = y := by
  have hw : x.magnitude < Format.single.infinity := of_decide_eq_true hx
  have hw' : y.magnitude < Format.single.infinity := of_decide_eq_true hy
  obtain ⟨c, ds, hbody, hc⟩ := (written_body x.magnitude).head
  obtain ⟨c', ds', hbody', hc'⟩ := (written_body y.magnitude).head
  rw [text_eq, text_eq] at h
  cases hsign : x.isNegative <;> cases hsign' : y.isNegative <;>
    simp only [hsign, hsign', if_true, Bool.false_eq_true, if_false, List.nil_append,
      List.singleton_append] at h
  · exact ext_of_magnitude (hsign.trans hsign'.symm) (eq_of_body hw hw' h)
  · rw [hbody] at h
    obtain rfl := (List.cons.inj h).1
    cases hc
  · rw [hbody'] at h
    obtain rfl := (List.cons.inj h).1
    cases hc'
  · exact ext_of_magnitude (hsign.trans hsign'.symm) (eq_of_body hw hw' (List.cons.inj h).2)

end DiceHost.Numeric.Binary32
