/-
Colours as text.

* `Color.TwoDigits`, `Color.Shows`: six digits of either case, behind at most one `#`;
* `Color.ofText?_eq_some`: **which texts are read, and as what**;
* `Color.ofText?_display`: a colour is read back from its text, with blanks around it or not;
* `Text.slice?`, `Color.ofSlices?`: the reading by byte places, as long as no place is inside of a
  character; `Color.ofSlices?_eq`: none ever is;
* `Color.ofText?_exact`: **a text that shows a colour is read as this colour**; of the others those
  are read that have a plus sign, or more than one `#`.
-/
import DiceHost.Animation.Color
import DiceHost.Proofs.Text.Blank
import DiceHost.Proofs.Text.Hex

namespace DiceHost

/-! ### Slices -/

namespace Text

/-- How many bytes some characters take. -/
def byteLength (cs : List Char) : ℕ := (cs.map Char.utf8Size).sum

/-- The characters from a byte place on, unless the place is inside of one or behind the last. -/
def dropBytes? : ℕ → List Char → Option (List Char)
  | 0, cs => some cs
  | _ + 1, [] => none
  | n + 1, c :: cs => if c.utf8Size ≤ n + 1 then dropBytes? (n + 1 - c.utf8Size) cs else none

/-- The characters before a byte place, unless the place is inside of one or behind the last. -/
def takeBytes? : ℕ → List Char → Option (List Char)
  | 0, _ => some []
  | _ + 1, [] => none
  | n + 1, c :: cs =>
    if c.utf8Size ≤ n + 1 then (takeBytes? (n + 1 - c.utf8Size) cs).map (c :: ·) else none

/-- The characters between two byte places. -/
def slice? (cs : List Char) (start stop : ℕ) : Option (List Char) :=
  (dropBytes? start cs).bind (takeBytes? (stop - start))

variable {cs : List Char}

lemma byteLength_of_ascii (hcs : ∀ c ∈ cs, c.utf8Size = 1) : byteLength cs = cs.length := by
  rw [byteLength, List.map_congr_left hcs, List.map_const', List.sum_replicate, smul_eq_mul,
    mul_one]

lemma dropBytes?_of_ascii {n : ℕ} (hcs : ∀ c ∈ cs, c.utf8Size = 1) (hn : n ≤ cs.length) :
    dropBytes? n cs = some (cs.drop n) := by
  induction cs generalizing n with
  | nil => rw [Nat.le_zero.mp hn]; rfl
  | cons c cs ih =>
      cases n with
      | zero => rfl
      | succ n =>
          rw [dropBytes?, hcs c List.mem_cons_self, if_pos (Nat.le_add_left 1 n),
            Nat.add_sub_cancel, List.drop_succ_cons]
          exact ih (fun d hd => hcs d (List.mem_cons_of_mem c hd)) (Nat.le_of_succ_le_succ hn)

lemma takeBytes?_of_ascii {n : ℕ} (hcs : ∀ c ∈ cs, c.utf8Size = 1) (hn : n ≤ cs.length) :
    takeBytes? n cs = some (cs.take n) := by
  induction cs generalizing n with
  | nil => rw [Nat.le_zero.mp hn]; rfl
  | cons c cs ih =>
      cases n with
      | zero => rfl
      | succ n =>
          rw [takeBytes?, hcs c List.mem_cons_self, if_pos (Nat.le_add_left 1 n),
            Nat.add_sub_cancel, List.take_succ_cons,
            ih (fun d hd => hcs d (List.mem_cons_of_mem c hd)) (Nat.le_of_succ_le_succ hn)]
          rfl

/-- Between characters of one byte there is every place. -/
lemma slice?_of_ascii {start stop : ℕ} (hcs : ∀ c ∈ cs, c.utf8Size = 1) (hle : start ≤ stop)
    (hstop : stop ≤ cs.length) :
    slice? cs start stop = some ((cs.drop start).take (stop - start)) := by
  rw [slice?, dropBytes?_of_ascii hcs (hle.trans hstop), Option.bind_some]
  refine takeBytes?_of_ascii (fun c hc => hcs c (List.mem_of_mem_drop hc)) ?_
  rw [List.length_drop]
  omega

end Text

open Text

namespace Color

variable {s : String} {c : Color} {cs : List Char} {a b : Char} {v : UInt8}

/-! ### Channels -/

/-- Two digits of either case and their value. -/
def TwoDigits (a b : Char) (v : UInt8) : Prop :=
  ∃ high low, Hex.digit? a = some high ∧ Hex.digit? b = some low ∧ v.toNat = 16 * high + low

lemma nat?_pair {n : ℕ} : Hex.nat? [a, b] = some n
    ↔ ∃ high low, Hex.digit? a = some high ∧ Hex.digit? b = some low ∧ n = 16 * high + low := by
  rw [Hex.nat?_eq_some, and_iff_right (List.cons_ne_nil _ _)]
  simp only [Hex.foldDigits, Option.bind_eq_some_iff, Option.some_inj]
  constructor
  · rintro ⟨high, hhigh, low, hlow, rfl⟩
    exact ⟨high, low, hhigh, hlow, by ring⟩
  · rintro ⟨high, low, hhigh, hlow, rfl⟩
    exact ⟨high, hhigh, low, hlow, by ring⟩

lemma nat?_singleton {n : ℕ} : Hex.nat? [a] = some n ↔ Hex.digit? a = some n := by
  rw [Hex.nat?_eq_some, and_iff_right (List.cons_ne_nil _ _)]
  simp [Hex.foldDigits]

/-- A channel is two digits, or a plus sign and one digit. -/
lemma channel?_eq_some :
    channel? a b = some v ↔ TwoDigits a b v ∨ a = '+' ∧ Hex.digit? b = some v.toNat := by
  have hread (n : ℕ) : Hex.readNat 256 [a, b] = .ok n ↔ Hex.Denotes [a, b] n ∧ n < 256 :=
    Hex.readNat_eq_ok (by decide)
  have hdenotes : Hex.Denotes [a, b] v.toNat
      ↔ TwoDigits a b v ∨ a = '+' ∧ Hex.digit? b = some v.toNat := by
    rw [Hex.Denotes, nat?_pair]
    refine or_congr Iff.rfl ?_
    constructor
    · rintro ⟨ds, hds, hv⟩
      cases hds
      exact ⟨rfl, nat?_singleton.mp hv⟩
    · rintro ⟨rfl, hv⟩
      exact ⟨[b], rfl, nat?_singleton.mpr hv⟩
  rw [← hdenotes, ← and_iff_left (a := Hex.Denotes _ _) v.toNat_lt, ← hread, channel?]
  cases hn : Hex.readNat 256 [a, b] with
  | error e => exact iff_of_false (by simp) (by simp)
  | ok n =>
      rw [Option.some_inj, Except.ok.injEq]
      constructor
      · rintro rfl
        exact (UInt8.toNat_ofNat_of_lt' ((hread n).mp hn).2).symm
      · rintro rfl
        rw [UInt8.ofNat_toNat]

lemma ne_of_digit? {d : Char} {n : ℕ} (ha : Hex.digit? a = some n) (hd : Hex.digit? d = none) :
    a ≠ d := by
  rintro rfl
  cases ha.symm.trans hd

/-- A channel does not begin with a `#`. -/
lemma ne_mark_of_channel? (h : channel? a b = some v) : a ≠ '#' := by
  obtain ⟨high, low, ha, -, -⟩ | ⟨rfl, -⟩ := channel?_eq_some.mp h
  · exact ne_of_digit? ha rfl
  · decide

lemma channel?_of_twoDigits (h : TwoDigits a b v) : channel? a b = some v :=
  channel?_eq_some.mpr (.inl h)

lemma twoDigits_of_channel? (h : channel? a b = some v) (hplus : a ≠ '+') : TwoDigits a b v :=
  (channel?_eq_some.mp h).resolve_right fun h => hplus h.1

/-- A byte as it is printed. -/
lemma twoDigits_lower (v : UInt8) :
    ∃ a b, Hex.lower 2 v.toNat = [a, b] ∧ TwoDigits a b v ∧ ¬ isBlank b := by
  have hlt := v.toNat_lt
  refine ⟨_, _, rfl, ⟨_, _, Hex.digit?_lowerDigit _ ?_, Hex.digit?_lowerDigit _ ?_, ?_⟩, ?_⟩
  · omega
  · omega
  · omega
  · have hblank : ∀ d < 16, ¬ isBlank (Hex.lowerDigit d) := by decide
    exact hblank _ (by omega)

/-! ### Texts -/

/-- Six digits, two for each channel. -/
def Digits (cs : List Char) (c : Color) : Prop :=
  ∃ r₁ r₂ g₁ g₂ b₁ b₂, cs = [r₁, r₂, g₁, g₂, b₁, b₂]
    ∧ TwoDigits r₁ r₂ c.r ∧ TwoDigits g₁ g₂ c.g ∧ TwoDigits b₁ b₂ c.b

/-- Six digits, behind at most one `#`. -/
def Shows (cs : List Char) (c : Color) : Prop :=
  Digits cs c ∨ ∃ ds, cs = '#' :: ds ∧ Digits ds c

lemma ofText?_of_six {r₁ r₂ g₁ g₂ b₁ b₂ : Char}
    (h : (trim s.toList).dropWhile (· = '#') = [r₁, r₂, g₁, g₂, b₁, b₂]) :
    ofText? s = (channel? r₁ r₂).bind fun r => (channel? g₁ g₂).bind fun g =>
      (channel? b₁ b₂).bind fun b => some ⟨r, g, b⟩ := by
  rw [ofText?, h]
  rfl

lemma ofText?_eq_some_of_channels : ofText? s = some c ↔ ∃ r₁ r₂ g₁ g₂ b₁ b₂,
    (trim s.toList).dropWhile (· = '#') = [r₁, r₂, g₁, g₂, b₁, b₂]
      ∧ channel? r₁ r₂ = some c.r ∧ channel? g₁ g₂ = some c.g ∧ channel? b₁ b₂ = some c.b := by
  constructor
  · intro h
    have hsix : ∃ r₁ r₂ g₁ g₂ b₁ b₂,
        (trim s.toList).dropWhile (· = '#') = [r₁, r₂, g₁, g₂, b₁, b₂] := by
      rw [ofText?] at h
      split at h
      · next hcs => exact ⟨_, _, _, _, _, _, hcs⟩
      · cases h
    obtain ⟨r₁, r₂, g₁, g₂, b₁, b₂, hcs⟩ := hsix
    rw [ofText?_of_six hcs] at h
    obtain ⟨r, hr, h⟩ := Option.bind_eq_some_iff.mp h
    obtain ⟨g, hg, h⟩ := Option.bind_eq_some_iff.mp h
    obtain ⟨b, hb, h⟩ := Option.bind_eq_some_iff.mp h
    obtain rfl := Option.some_inj.mp h
    exact ⟨r₁, r₂, g₁, g₂, b₁, b₂, hcs, hr, hg, hb⟩
  · rintro ⟨r₁, r₂, g₁, g₂, b₁, b₂, hcs, hr, hg, hb⟩
    rw [ofText?_of_six hcs, hr, hg, hb]
    rfl

/-- The texts that are read: three channels behind any number of `#`. -/
lemma ofText?_eq_some : ofText? s = some c ↔ ∃ n r₁ r₂ g₁ g₂ b₁ b₂,
    trim s.toList = List.replicate n '#' ++ [r₁, r₂, g₁, g₂, b₁, b₂]
      ∧ channel? r₁ r₂ = some c.r ∧ channel? g₁ g₂ = some c.g ∧ channel? b₁ b₂ = some c.b := by
  rw [ofText?_eq_some_of_channels]
  constructor
  · rintro ⟨r₁, r₂, g₁, g₂, b₁, b₂, hcs, hchannels⟩
    have hmarks : (trim s.toList).takeWhile (· = '#')
        = List.replicate ((trim s.toList).takeWhile (· = '#')).length '#' :=
      List.eq_replicate_iff.mpr ⟨rfl, fun d hd => by simpa using List.mem_takeWhile_imp hd⟩
    refine ⟨((trim s.toList).takeWhile (· = '#')).length, r₁, r₂, g₁, g₂, b₁, b₂, ?_, hchannels⟩
    rw [← hmarks, ← hcs, List.takeWhile_append_dropWhile]
  · rintro ⟨n, r₁, r₂, g₁, g₂, b₁, b₂, htext, hr, hchannels⟩
    refine ⟨r₁, r₂, g₁, g₂, b₁, b₂, ?_, hr, hchannels⟩
    have hfirst : r₁ ≠ '#' := ne_mark_of_channel? hr
    rw [htext, List.dropWhile_append_of_pos, List.dropWhile_cons_of_neg]
    · simpa using hfirst
    · exact fun d hd => decide_eq_true (List.eq_of_mem_replicate hd)

/-- A text that shows a colour is read as this colour. -/
lemma ofText?_of_shows (h : Shows (trim s.toList) c) : ofText? s = some c := by
  rw [ofText?_eq_some]
  obtain ⟨r₁, r₂, g₁, g₂, b₁, b₂, hcs, hr, hg, hb⟩
    | ⟨ds, hcs, r₁, r₂, g₁, g₂, b₁, b₂, rfl, hr, hg, hb⟩ := h
  · exact ⟨0, r₁, r₂, g₁, g₂, b₁, b₂, hcs, channel?_of_twoDigits hr, channel?_of_twoDigits hg,
      channel?_of_twoDigits hb⟩
  · exact ⟨1, r₁, r₂, g₁, g₂, b₁, b₂, hcs, channel?_of_twoDigits hr, channel?_of_twoDigits hg,
      channel?_of_twoDigits hb⟩

/-- Digits are digits. -/
lemma Digits.notMem {d : Char} (h : Digits cs c) (hd : Hex.digit? d = none) : d ∉ cs := by
  obtain ⟨r₁, r₂, g₁, g₂, b₁, b₂, rfl, hr, hg, hb⟩ := h
  have hpair {a b : Char} {v : UInt8} (h : TwoDigits a b v) : d ≠ a ∧ d ≠ b := by
    obtain ⟨high, low, ha, hb, -⟩ := h
    exact ⟨(ne_of_digit? ha hd).symm, (ne_of_digit? hb hd).symm⟩
  simp [hpair hr, hpair hg, hpair hb]

/-- Of the texts that are read those show their colour that have no plus sign, and one `#` at
most. -/
lemma shows_iff (h : ofText? s = some c) : Shows (trim s.toList) c
    ↔ '+' ∉ trim s.toList ∧ ¬ ['#', '#'] <+: trim s.toList := by
  constructor
  · rintro (hcs | ⟨ds, hcs, hds⟩)
    · refine ⟨hcs.notMem rfl, fun hmarks => ?_⟩
      exact hcs.notMem (d := '#') rfl (hmarks.subset List.mem_cons_self)
    · rw [hcs, List.mem_cons, not_or, List.cons_prefix_cons]
      refine ⟨⟨by decide, hds.notMem rfl⟩, fun ⟨_, hmark⟩ => ?_⟩
      exact hds.notMem (d := '#') rfl (hmark.subset List.mem_cons_self)
  · rintro ⟨hplus, hmarks⟩
    obtain ⟨n, r₁, r₂, g₁, g₂, b₁, b₂, htext, hr, hg, hb⟩ := ofText?_eq_some.mp h
    have hdigits : Digits [r₁, r₂, g₁, g₂, b₁, b₂] c := by
      rw [htext] at hplus
      refine ⟨_, _, _, _, _, _, rfl, twoDigits_of_channel? hr ?_, twoDigits_of_channel? hg ?_,
        twoDigits_of_channel? hb ?_⟩
      all_goals
        rintro rfl
        simp at hplus
    match n with
    | 0 => exact .inl (htext ▸ hdigits)
    | 1 => exact .inr ⟨_, htext, hdigits⟩
    | n + 2 => exact absurd ⟨_, htext.symm⟩ hmarks

/-- The text of a colour shows it. -/
lemma shows_display (c : Color) : Shows c.display.toList c ∧ Bare c.display.toList := by
  obtain ⟨r₁, r₂, hr, hred, -⟩ := twoDigits_lower c.r
  obtain ⟨g₁, g₂, hg, hgreen, -⟩ := twoDigits_lower c.g
  obtain ⟨b₁, b₂, hb, hblue, hblank⟩ := twoDigits_lower c.b
  have htext : c.display.toList = ['#', r₁, r₂, g₁, g₂, b₁, b₂] := by
    rw [display, String.toList_ofList, Hex.ofBytes]
    simp [hr, hg, hb]
  rw [htext]
  exact ⟨.inr ⟨_, rfl, r₁, r₂, g₁, g₂, b₁, b₂, rfl, hred, hgreen, hblue⟩,
    fun _ => (by decide : ¬ isBlank '#'), fun _ => hblank⟩

/-- A colour is read back from its text, whatever blanks are around it. -/
lemma ofText?_display {pre post : List Char} (hpre : ∀ d ∈ pre, isBlank d)
    (hpost : ∀ d ∈ post, isBlank d) (c : Color) :
    ofText? (String.ofList (pre ++ c.display.toList ++ post)) = some c := by
  obtain ⟨hshows, hbare⟩ := shows_display c
  refine ofText?_of_shows ?_
  rwa [String.toList_ofList, trim_surrounded hpre hbare hpost]

/-! ### The reading by byte places -/

/-- A channel from the two bytes at a place; none if they are cut from a character. -/
def channelAt? (cs : List Char) (place : ℕ) : Option (Option UInt8) :=
  (slice? cs place (place + 2)).map fun ds =>
    match Hex.readNat 256 ds with
    | .ok n => some (UInt8.ofNat n)
    | .error _ => none

/-- The channels by byte places, one after the other, of six bytes of ASCII text; none if a slice
is cut from a character. -/
def channelsAt? (cs : List Char) : Option (Option Color) :=
  if byteLength cs ≠ 6 ∨ ¬ cs.all (·.val ≤ 127) then some none
  else
    (channelAt? cs 0).bind fun
      | none => some none
      | some r => (channelAt? cs 2).bind fun
        | none => some none
        | some g => (channelAt? cs 4).map (·.map fun b => ⟨r, g, b⟩)

/-- A colour by byte places. -/
def ofSlices? (s : String) : Option (Option Color) :=
  channelsAt? ((trim s.toList).dropWhile (· = '#'))

lemma utf8Size_of_digit? {n : ℕ} (h : Hex.digit? a = some n) : a.utf8Size = 1 := by
  rw [Char.utf8Size_eq_one_iff]
  rw [Hex.digit?] at h
  split_ifs at h with h₁ h₂ h₃
  · exact UInt32.le_trans h₁.2 (by decide)
  · exact UInt32.le_trans h₂.2 (by decide)
  · exact UInt32.le_trans h₃.2 (by decide)

/-- The characters of a channel are of one byte. -/
lemma utf8Size_of_channel? (h : channel? a b = some v) : a.utf8Size = 1 ∧ b.utf8Size = 1 := by
  obtain ⟨high, low, ha, hb, -⟩ | ⟨rfl, hb⟩ := channel?_eq_some.mp h
  · exact ⟨utf8Size_of_digit? ha, utf8Size_of_digit? hb⟩
  · exact ⟨rfl, utf8Size_of_digit? hb⟩

/-- In ASCII text there is a channel at each place. -/
lemma channelAt?_of_ascii {place : ℕ} (hcs : ∀ d ∈ cs, d.utf8Size = 1)
    (hpair : (cs.drop place).take 2 = [a, b]) : channelAt? cs place = some (channel? a b) := by
  have hplace : place + 2 ≤ cs.length := by
    have hlength := congrArg List.length hpair
    rw [List.length_take, List.length_drop] at hlength
    simp only [List.length_cons, List.length_nil] at hlength
    omega
  rw [channelAt?, slice?_of_ascii hcs (Nat.le_add_right place 2) hplace, Nat.add_sub_cancel_left,
    hpair]
  rfl

/-- No slice is cut from a character. -/
lemma ofSlices?_eq (s : String) : ofSlices? s = some (ofText? s) := by
  set cs := (trim s.toList).dropWhile (· = '#') with hcs
  rw [ofSlices?, ← hcs, channelsAt?]
  split_ifs with hrejected
  · -- what is rejected by its bytes is not read
    refine congrArg some (Option.eq_none_iff_forall_ne_some.mpr fun c hc => ?_).symm
    obtain ⟨r₁, r₂, g₁, g₂, b₁, b₂, hsix, hr, hg, hb⟩ := ofText?_eq_some_of_channels.mp hc
    have hascii : ∀ d ∈ cs, d.utf8Size = 1 := by
      rw [hcs, hsix]
      simp [utf8Size_of_channel? hr, utf8Size_of_channel? hg, utf8Size_of_channel? hb]
    rcases hrejected with hlength | hall
    · exact hlength (by rw [byteLength_of_ascii hascii, hcs, hsix]; rfl)
    · refine hall (List.all_eq_true.mpr fun d hd => decide_eq_true ?_)
      exact Char.utf8Size_eq_one_iff.mp (hascii d hd)
  · rw [not_or, not_not, not_not] at hrejected
    obtain ⟨hlength, hall⟩ := hrejected
    have hascii (d : Char) (hd : d ∈ cs) : d.utf8Size = 1 :=
      Char.utf8Size_eq_one_iff.mpr (of_decide_eq_true (List.all_eq_true.mp hall d hd))
    rw [byteLength_of_ascii hascii] at hlength
    match cs, hlength, hascii, hcs with
    | [r₁, r₂, g₁, g₂, b₁, b₂], _, hascii, hsix =>
      rw [channelAt?_of_ascii hascii rfl, channelAt?_of_ascii hascii rfl,
        channelAt?_of_ascii hascii rfl, ofText?_of_six hsix.symm]
      cases channel? r₁ r₂ with
      | none => rfl
      | some r => cases channel? g₁ g₂ with
        | none => rfl
        | some g => cases channel? b₁ b₂ with
          | none => rfl
          | some b => rfl

/-! ### Readings -/

/-- **A text that shows a colour, blanks around it ignored, is read as this colour.** The others
that are read have three channels of two digits, or of a plus sign and one digit, behind any number
of `#`, and these are just the ones with a plus sign or more than one `#`. The text of a colour is
read as the colour, and no slice is cut from a character. -/
theorem ofText?_exact (s : String) (c : Color) :
    (Shows (trim s.toList) c → ofText? s = some c)
    ∧ (ofText? s = some c ↔ ∃ n r₁ r₂ g₁ g₂ b₁ b₂,
        trim s.toList = List.replicate n '#' ++ [r₁, r₂, g₁, g₂, b₁, b₂]
          ∧ (TwoDigits r₁ r₂ c.r ∨ r₁ = '+' ∧ Hex.digit? r₂ = some c.r.toNat)
          ∧ (TwoDigits g₁ g₂ c.g ∨ g₁ = '+' ∧ Hex.digit? g₂ = some c.g.toNat)
          ∧ (TwoDigits b₁ b₂ c.b ∨ b₁ = '+' ∧ Hex.digit? b₂ = some c.b.toNat))
    ∧ (ofText? s = some c →
        (Shows (trim s.toList) c ↔ '+' ∉ trim s.toList ∧ ¬ ['#', '#'] <+: trim s.toList))
    ∧ ofText? c.display = some c
    ∧ ofSlices? s = some (ofText? s) := by
  refine ⟨ofText?_of_shows, ?_, shows_iff, ?_, ofSlices?_eq s⟩
  · simp only [ofText?_eq_some, channel?_eq_some]
  · have hread : ofText? (String.ofList ([] ++ c.display.toList ++ [])) = some c :=
      ofText?_display (List.forall_mem_nil _) (List.forall_mem_nil _) c
    rwa [List.nil_append, List.append_nil, String.ofList_toList] at hread

/-- Orange as it is printed, between blanks, and a text with more than one `#`. -/
theorem ofText?_exact_orange :
    Shows (trim " #FF8000 ".toList) ⟨255, 128, 0⟩
      ∧ ofText? " #FF8000 " = some ⟨255, 128, 0⟩
      ∧ ofText? "##ff8000" = some ⟨255, 128, 0⟩
      ∧ ¬ Shows (trim "##ff8000".toList) ⟨255, 128, 0⟩ := by
  obtain ⟨hread, -⟩ := ofText?_exact " #FF8000 " ⟨255, 128, 0⟩
  obtain ⟨-, -, hiff, -⟩ := ofText?_exact "##ff8000" ⟨255, 128, 0⟩
  have hshows : Shows (trim " #FF8000 ".toList) ⟨255, 128, 0⟩ :=
    .inr ⟨_, rfl, 'F', 'F', '8', '0', '0', '0', rfl, ⟨15, 15, by decide⟩, ⟨8, 0, by decide⟩,
      ⟨0, 0, by decide⟩⟩
  have hmarks : ofText? "##ff8000" = some ⟨255, 128, 0⟩ := by rfl
  refine ⟨hshows, hread hshows, hmarks, fun h => ?_⟩
  exact ((hiff hmarks).mp h).2 (by decide)

/-- A text without six digits that is read. -/
theorem ofText?_plus :
    ∃ c, ofText? "+f+f+f" = some c ∧ ¬ Shows (trim "+f+f+f".toList) c := by
  refine ⟨⟨15, 15, 15⟩, by rfl, ?_⟩
  rintro (h | ⟨ds, h, -⟩)
  · exact h.notMem (d := '+') rfl (by decide)
  · cases h

end Color

end DiceHost
