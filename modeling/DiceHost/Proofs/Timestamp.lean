/-
Points in time and their texts.

* `Timestamp.Cycle`: the place of a day in four hundred years that begin in March;
* `Timestamp.civil_of_cycle`: the date of such a day;
* `Timestamp.dayNumber_civil`: a day number is that of its date;
* `Timestamp.number?_padded`: a number is read back from its digits;
* `Timestamp.Valid`: the points in time of the calendar;
* `Timestamp.parse?_fields`: the fields of a text are read back;
* `Timestamp.parse?_text`: **a point in time is read back from its text**.
-/
import DiceHost.Proofs.Numeric.Text
import DiceHost.Timestamp

namespace DiceHost.Timestamp

open Numeric

/-! ### The calendar -/

/-- A day, the first of March of the year zero being day zero, by the four hundred years `e`, the
century `c`, the leap cycle `q`, the year `y` and the day `u` in which it lies. A fourth year has
the day 365, its last, but in the last cycle of a century only if the century is the fourth. -/
structure Cycle (d e c q y u : ℤ) : Prop where
  century : 0 ≤ c ∧ c ≤ 3
  leapCycle : 0 ≤ q ∧ q ≤ 24
  year : 0 ≤ y ∧ y ≤ 3
  day : 0 ≤ u ∧ u ≤ 365
  leapDay : u = 365 → y = 3 ∧ (q = 24 → c = 3)
  sum : d = 146097 * e + (36524 * c + (1461 * q + (365 * y + u)))

lemma exists_cycle (d : ℤ) : ∃ e c q y u, Cycle d e c q y u := by
  obtain ⟨n, hn⟩ : ∃ n, n = d % 146097 := ⟨_, rfl⟩
  obtain ⟨c, hc⟩ : ∃ c, c = min (n / 36524) 3 := ⟨_, rfl⟩
  obtain ⟨r, hr⟩ : ∃ r, r = n - 36524 * c := ⟨_, rfl⟩
  obtain ⟨s, hs⟩ : ∃ s, s = r % 1461 := ⟨_, rfl⟩
  obtain ⟨y, hy⟩ : ∃ y, y = min (s / 365) 3 := ⟨_, rfl⟩
  have hc' : 0 ≤ c ∧ c ≤ 3 := by omega
  have hr' : 0 ≤ r ∧ (r < 36524 ∨ r = 36524 ∧ c = 3) := by omega
  refine ⟨d / 146097, c, r / 1461, y, s - 365 * y, hc', ?_, ?_, ?_, ?_, ?_⟩ <;> omega

namespace Cycle

variable {d e c q y u : ℤ}

/-- The days of a century. -/
lemma within (h : Cycle d e c q y u) : 0 ≤ 1461 * q + (365 * y + u)
    ∧ (1461 * q + (365 * y + u) < 36524 ∨ c = 3 ∧ 1461 * q + (365 * y + u) = 36524) := by
  obtain ⟨hc, hq, hy, hu, hleap, -⟩ := h
  refine ⟨by omega, ?_⟩
  by_cases hlast : u = 365 ∧ q = 24
  · obtain ⟨hyear, hcentury⟩ := hleap hlast.1
    have hc := hcentury hlast.2
    omega
  · by_cases hu' : u = 365
    · have hyear := (hleap hu').1
      omega
    · omega

lemma range (h : Cycle d e c q y u) : 0 ≤ 36524 * c + (1461 * q + (365 * y + u))
    ∧ 36524 * c + (1461 * q + (365 * y + u)) < 146097 := by
  obtain ⟨hnonneg, hlt⟩ := h.within
  have hc := h.century
  omega

/-- The last day of four hundred years counts as a day of the fourth century. -/
lemma div_century (h : Cycle d e c q y u) :
    (36524 * c + (1461 * q + (365 * y + u))) / 36524
      - (36524 * c + (1461 * q + (365 * y + u))) / 146096 = c := by
  have hc := h.century
  obtain ⟨hnonneg, hlt | ⟨rfl, hlast⟩⟩ := h.within
  · generalize 1461 * q + (365 * y + u) = r at *
    have hdiv : (36524 * c + r) / 36524 = c := by omega
    have hzero : (36524 * c + r) / 146096 = 0 := by omega
    rw [hdiv, hzero, sub_zero]
  · rw [hlast]
    norm_num

/-- The leap days before are those of the leap cycles, or one more in the last year of a cycle. -/
lemma div_leapCycle (h : Cycle d e c q y u) : ∃ k, k ≤ u ∧ u < 365 + k
    ∧ (36524 * c + (1461 * q + (365 * y + u))) / 1460 = 25 * c + q + k := by
  obtain ⟨hc, hq, hy, hu, hleap, -⟩ := h
  have hdays : 36524 * c + (1461 * q + (365 * y + u))
      = (24 * c + q + 365 * y + u) + 1460 * (25 * c + q) := by ring
  refine ⟨(24 * c + q + 365 * y + u) / 1460, ?_, ?_, ?_⟩
  · by_cases hu' : u = 0
    · omega
    · have hle : (24 * c + q + 365 * y + u) / 1460 < 2 :=
        Int.ediv_lt_of_lt_mul (by norm_num) (by omega)
      omega
  · by_cases hu' : u = 365
    · have hyear := (hleap hu').1
      omega
    · have hnonneg : 0 ≤ (24 * c + q + 365 * y + u) / 1460 :=
        Int.ediv_nonneg (by omega) (by norm_num)
      omega
  · rw [hdays, Int.add_mul_ediv_left _ _ (by norm_num)]
    ring

/-- The days of the years before. -/
lemma dayOfYear (h : Cycle d e c q y u) : 36524 * c + (1461 * q + (365 * y + u))
    - (365 * (100 * c + 4 * q + y) + (100 * c + 4 * q + y) / 4 - (100 * c + 4 * q + y) / 100)
      = u := by
  obtain ⟨-, hq, hy, -⟩ := h
  have hleap : (100 * c + 4 * q + y) / 4 = 25 * c + q := by omega
  have hcentury : (100 * c + 4 * q + y) / 100 = c := by omega
  rw [hleap, hcentury]
  ring

end Cycle

/-- The date of a day. -/
lemma civil_of_cycle {z e c q y u : ℤ} (h : Cycle (z + 719468) e c q y u) :
    civil z = (e * 400 + (100 * c + 4 * q + y)
        + (if (if (5 * u + 2) / 153 < 10 then (5 * u + 2) / 153 + 3
            else (5 * u + 2) / 153 - 9) ≤ 2 then 1 else 0),
      (if (5 * u + 2) / 153 < 10 then (5 * u + 2) / 153 + 3 else (5 * u + 2) / 153 - 9).toNat,
      (u - (153 * ((5 * u + 2) / 153) + 2) / 5 + 1).toNat) := by
  have hrange := h.range
  have hcentury := h.div_century
  obtain ⟨k, hk, hk', hleap⟩ := h.div_leapCycle
  have hsum := h.sum
  have hrest := h.dayOfYear
  generalize hn : 36524 * c + (1461 * q + (365 * y + u)) = n at hrange hcentury hleap hsum hrest
  have hera : (z + 719468) / 146097 = e := by
    rw [hsum, add_comm, Int.add_mul_ediv_left _ _ (by norm_num),
      Int.ediv_eq_zero_of_lt hrange.1 hrange.2, zero_add]
  have hday : (z + 719468) % 146097 = n := by
    rw [hsum, add_comm, Int.add_mul_emod_self_left, Int.emod_eq_of_lt hrange.1 hrange.2]
  have hyear : (n - n / 1460 + n / 36524 - n / 146096) / 365 = 100 * c + 4 * q + y := by
    have hsplit : n - n / 1460 + n / 36524 - n / 146096
        = (u - k) + 365 * (100 * c + 4 * q + y) := by
      linear_combination hcentury - hleap - hn
    rw [hsplit, Int.add_mul_ediv_left _ _ (by norm_num),
      Int.ediv_eq_zero_of_lt (sub_nonneg.mpr hk) (sub_lt_iff_lt_add.mpr hk'), zero_add]
  rw [civil, hera, hday, hyear, hrest, add_comm (100 * c + 4 * q + y)]

/-- The months of a year that begins in March. -/
lemma month_cases {u : ℤ} (hu : 0 ≤ u ∧ u ≤ 365) :
    (0 ≤ (5 * u + 2) / 153 ∧ (5 * u + 2) / 153 ≤ 11)
      ∧ 0 ≤ u - (153 * ((5 * u + 2) / 153) + 2) / 5 := by
  omega

/-- **A day number is that of its date.** -/
lemma dayNumber_civil (z : ℤ) : dayNumber (civil z).1 (civil z).2.1 (civil z).2.2 = z := by
  obtain ⟨e, c, q, y, u, h⟩ := exists_cycle (z + 719468)
  obtain ⟨hmonth, hday⟩ := month_cases h.day
  have hsum := h.sum
  have hyears := h.dayOfYear
  have hyoe : 0 ≤ 100 * c + 4 * q + y ∧ 100 * c + 4 * q + y < 400 := by
    obtain ⟨hc, hq, hy, -⟩ := h
    omega
  rw [civil_of_cycle h, dayNumber]
  generalize hm : (5 * u + 2) / 153 = m at hmonth hday ⊢
  generalize 100 * c + 4 * q + y = yoe at hyears hyoe ⊢
  have hera : (e * 400 + yoe) / 400 = e := by omega
  have hrest : (e * 400 + yoe) % 400 = yoe := by omega
  have hmarch : (((if m < 10 then m + 3 else m - 9).toNat : ℤ) + 9) % 12 = m := by
    split_ifs <;> omega
  have hyear : (if (if m < 10 then m + 3 else m - 9).toNat ≤ 2
      then e * 400 + yoe + (if (if m < 10 then m + 3 else m - 9) ≤ 2 then 1 else 0) - 1
      else e * 400 + yoe + (if (if m < 10 then m + 3 else m - 9) ≤ 2 then 1 else 0))
        = e * 400 + yoe := by
    split_ifs <;> omega
  dsimp only
  rw [hyear, hera, hrest, hmarch, Int.toNat_of_nonneg (by omega)]
  omega

/-- The date of a day is one of the calendar. -/
lemma civil_mem (z : ℤ) : (1 ≤ (civil z).2.1 ∧ (civil z).2.1 ≤ 12)
    ∧ 1 ≤ (civil z).2.2 ∧ (civil z).2.2 ≤ daysInMonth (civil z).1 (civil z).2.1 := by
  obtain ⟨e, c, q, y, u, h⟩ := exists_cycle (z + 719468)
  obtain ⟨hmonth, hday⟩ := month_cases h.day
  rw [civil_of_cycle h]
  obtain ⟨hc, hq, hy, hu, hleap, -⟩ := h
  generalize hm : (5 * u + 2) / 153 = m at hmonth hday ⊢
  dsimp only
  refine ⟨by split_ifs <;> omega, by omega, ?_⟩
  rw [daysInMonth, isLeap]
  obtain ⟨hm₀, hm₁⟩ := hmonth
  interval_cases m
  case «11» =>
    -- only a leap year has the last day
    have hleap' : u = 365 → (e * 400 + (100 * c + 4 * q + y) + 1) % 4 = 0
        ∧ ((e * 400 + (100 * c + 4 * q + y) + 1) % 100 ≠ 0
          ∨ (e * 400 + (100 * c + 4 * q + y) + 1) % 400 = 0) := by
      intro hlast
      obtain ⟨rfl, hcentury⟩ := hleap hlast
      omega
    simp only [Bool.and_eq_true, Bool.or_eq_true, decide_eq_true_eq]
    split_ifs <;> omega
  all_goals
    simp
    omega

/-! ### Numbers -/

/-- A text that does not go on with a digit. -/
def Breaks (r : List Char) : Prop :=
  ∀ c ∈ r.head?, c.isDigit = false

lemma breaks_cons {c : Char} {r : List Char} (h : c.isDigit = false) : Breaks (c :: r) := by
  intro d hd
  rwa [← Option.some_inj.mp hd]

lemma isBlank_of_isDigit {c : Char} (h : c.isDigit = true) : Text.isBlank c = false := by
  rw [Char.isDigit, Bool.and_eq_true, decide_eq_true_eq, decide_eq_true_eq] at h
  have hlow : 48 ≤ c.toNat := h.1
  have hhigh : c.toNat ≤ 57 := h.2
  simp [Text.isBlank]
  omega

lemma trimStart_cons {c : Char} (h : Text.isBlank c = false) (r : List Char) :
    Text.trimStart (c :: r) = c :: r :=
  List.dropWhile_cons_of_neg (by simp [h])

lemma isDigit_of_mem_padded {w n : ℕ} {c : Char} (h : c ∈ padded w n) : c.isDigit = true :=
  (List.mem_append.mp h).elim isDigit_of_mem_replicate isDigit_of_mem_digits

lemma head_padded (w n : ℕ) : ∃ c cs, padded w n = c :: cs ∧ c.isDigit = true := by
  cases h : padded w n with
  | nil => exact absurd (List.append_eq_nil_iff.mp h).2 (digits_ne_nil n)
  | cons c cs => exact ⟨c, cs, rfl, isDigit_of_mem_padded (h ▸ List.mem_cons_self)⟩

lemma digitsValue_padded (w n : ℕ) : Json.Node.digitsValue (padded w n) = n := by
  have hvalue (ds : List Char) : Json.Node.digitsValue ds = Nat.ofDigitChars 10 ds 0 := by
    rw [Json.Node.digitsValue, Nat.ofDigitChars]
    simp only [Nat.mul_comm]
  rw [hvalue, padded, Nat.ofDigitChars_append, ofDigitChars_replicate, Nat.zero_mul,
    ofDigitChars_digits]

lemma length_padded {w n : ℕ} (hw : 0 < w) (hn : n < 10 ^ w) : (padded w n).length = w := by
  have hlength : (digits n).length ≤ w := (Nat.length_toDigits_le_iff (by decide) hw).mpr hn
  rw [padded, List.length_append, List.length_replicate, Nat.sub_add_cancel hlength]

/-- A number ends where no digit follows. -/
lemma number?_padded {most w n : ℕ} {r : List Char} (hmost : (padded w n).length ≤ most)
    (hr : Breaks r) : number? most (padded w n ++ r) = some (n, r) := by
  have htake : ((padded w n ++ r).take most).takeWhile Char.isDigit = padded w n := by
    rw [List.take_append, List.take_of_length_le hmost,
      List.takeWhile_append_of_pos fun c hc => isDigit_of_mem_padded hc]
    cases hc : (r.take (most - (padded w n).length)) with
    | nil => simp
    | cons c cs =>
        have hhead : c ∈ r.head? := by
          cases r with
          | nil => simp at hc
          | cons d r =>
              cases hk : most - (padded w n).length with
              | zero =>
                  rw [hk] at hc
                  cases hc
              | succ k =>
                  rw [hk] at hc
                  exact congrArg some (List.cons.inj hc).1
        rw [List.takeWhile_cons_of_neg (by simp [hr c hhead]), List.append_nil]
  obtain ⟨c, cs, hcons, -⟩ := head_padded w n
  rw [number?, htake, if_neg (by simp [hcons]), digitsValue_padded, List.drop_left]

lemma field?_padded {n : ℕ} {r : List Char} (hn : n < 100) (hr : Breaks r) :
    field? 2 (padded 2 n ++ r) = some (n, r) := by
  obtain ⟨c, cs, hcons, hc⟩ := head_padded 2 n
  have htrim : Text.trimStart (padded 2 n ++ r) = padded 2 n ++ r := by
    rw [hcons, List.cons_append, trimStart_cons (isBlank_of_isDigit hc)]
  rw [field?, htrim, number?_padded (length_padded (by decide) hn).le hr]

lemma mark?_cons {c : Char} (h : Text.isBlank c = false) (r : List Char) :
    mark? c (c :: r) = some r := by
  rw [mark?, trimStart_cons h]
  exact if_pos rfl

/-- A year is read back up to the mark behind it. -/
lemma year?_yearText (year : ℤ) {r : List Char} (hr : Breaks r) :
    year? (yearText year ++ r) = some (year, r) := by
  have hnumber : number? (padded 4 year.natAbs ++ r).length (padded 4 year.natAbs ++ r)
      = some (year.natAbs, r) := number?_padded (by simp) hr
  rw [yearText]
  split_ifs with hplain hneg
  · obtain ⟨c, cs, hcons, hc⟩ := head_padded 4 year.toNat
    have hlt : year.toNat < 10 ^ 4 := by omega
    have htrim : Text.trimStart (padded 4 year.toNat ++ r) = padded 4 year.toNat ++ r := by
      rw [hcons, List.cons_append, trimStart_cons (isBlank_of_isDigit hc)]
    rw [year?, htrim]
    have hnumber := number?_padded (length_padded (by decide) hlt).le hr
    -- neither sign is a digit
    split
    · rename_i heq
      rw [hcons] at heq
      cases (List.cons.inj heq).1
      cases hc
    · rename_i heq
      rw [hcons] at heq
      cases (List.cons.inj heq).1
      cases hc
    · rw [hnumber, Option.map_some]
      exact congrArg some (Prod.ext (Int.toNat_of_nonneg hplain.1) rfl)
  · have hvalue : -(year.natAbs : ℤ) = year := by omega
    rw [year?, List.cons_append, trimStart_cons (by decide)]
    exact (congrArg (Option.map _) hnumber).trans (congrArg some (Prod.ext hvalue rfl))
  · have hvalue : (year.natAbs : ℤ) = year := by omega
    rw [year?, List.cons_append, trimStart_cons (by decide)]
    exact (congrArg (Option.map _) hnumber).trans (congrArg some (Prod.ext hvalue rfl))

/-- The fraction of a second is read back. -/
lemma fraction?_fractionText {n : ℕ} (hn : n < 1000000000) :
    fraction? (fractionText n ++ ['Z']) = some (n, ['Z']) := by
  have hgroup {w k : ℕ} (hw : 0 < w ∧ w ≤ 9) (hk : k < 10 ^ w) :
      fraction? ('.' :: padded w k ++ ['Z']) = some (k * 10 ^ (9 - w), ['Z']) := by
    rw [List.cons_append, fraction?, number?_padded ((length_padded hw.1 hk).trans_le hw.2)
      (breaks_cons (by decide)), Option.map_some, List.length_append, length_padded hw.1 hk]
    rfl
  rw [fractionText]
  split_ifs with hzero hmilli hmicro
  · rw [hzero]
    rfl
  · rw [hgroup (by decide) (by omega)]
    refine congrArg some (Prod.ext ?_ rfl)
    dsimp only
    omega
  · rw [hgroup (by decide) (by omega)]
    refine congrArg some (Prod.ext ?_ rfl)
    dsimp only
    omega
  · rw [hgroup (by decide) (by omega)]
    refine congrArg some (Prod.ext ?_ rfl)
    exact Nat.mul_one n

/-! ### Points in time -/

/-- A point in time of the calendar: its year can be told, and only the last second of a minute
may go on as a leap second. -/
structure Valid (t : Timestamp) : Prop where
  year : yearInRange (civil (t.seconds / 86400)).1 = true
  nanos : t.nanos < 2000000000
  leap : 1000000000 ≤ t.nanos → t.seconds % 60 = 59

/-- The fields of a date and of a time of the day are read back one after the other; the second 60
is a leap second. -/
lemma parse?_fields {year : ℤ} {month day hour minute second nanos : ℕ} {seconds : ℤ}
    (hyear : yearInRange year = true) (hmonth : 1 ≤ month ∧ month ≤ 12)
    (hday : 1 ≤ day ∧ day ≤ daysInMonth year month) (hhour : hour < 24) (hminute : minute < 60)
    (hsecond : second ≤ 60) (hnanos : nanos < 1000000000)
    (hseconds : dayNumber year month day * 86400
      + ((hour * 3600 + minute * 60 + (second - if second = 60 then 1 else 0) : ℕ) : ℤ) = seconds)
    (hrange : yearInRange (civil (seconds / 86400)).1 = true) :
    parse? (String.ofList <|
        yearText year ++ '-' :: padded 2 month ++ '-' :: padded 2 day
          ++ 'T' :: padded 2 hour ++ ':' :: padded 2 minute
          ++ ':' :: padded 2 second ++ fractionText nanos ++ ['Z'])
      = some ⟨seconds, nanos + (if second = 60 then 1 else 0) * 1000000000⟩ := by
  have hdays : daysInMonth year month ≤ 31 := by
    rw [daysInMonth]
    split_ifs <;> omega
  have hfraction : Breaks (fractionText nanos ++ ['Z']) := by
    rw [fractionText]
    split_ifs <;> exact breaks_cons (by decide)
  rw [parse?, String.toList_ofList]
  simp only [List.append_assoc, List.cons_append]
  refine Option.bind_eq_some_iff.mpr ⟨_, year?_yearText year (breaks_cons (by decide)), ?_⟩
  refine Option.bind_eq_some_iff.mpr ⟨_, mark?_cons (by decide) _, ?_⟩
  refine Option.bind_eq_some_iff.mpr ⟨_, field?_padded (by omega) (breaks_cons (by decide)), ?_⟩
  refine Option.bind_eq_some_iff.mpr ⟨_, mark?_cons (by decide) _, ?_⟩
  refine Option.bind_eq_some_iff.mpr ⟨_, field?_padded (by omega) (breaks_cons (by decide)), ?_⟩
  refine Option.bind_eq_some_iff.mpr ⟨_, field?_padded (by omega) (breaks_cons (by decide)), ?_⟩
  refine Option.bind_eq_some_iff.mpr ⟨_, mark?_cons (by decide) _, ?_⟩
  refine Option.bind_eq_some_iff.mpr ⟨_, field?_padded (by omega) (breaks_cons (by decide)), ?_⟩
  refine Option.bind_eq_some_iff.mpr ⟨_, mark?_cons (by decide) _, ?_⟩
  refine Option.bind_eq_some_iff.mpr ⟨_, field?_padded (by omega) hfraction, ?_⟩
  refine Option.bind_eq_some_iff.mpr ⟨_, fraction?_fractionText hnanos, ?_⟩
  refine Option.bind_eq_some_iff.mpr ⟨(0, []), rfl, ?_⟩
  dsimp only
  rw [sub_zero, hseconds, if_pos]
  simp [Text.trimStart, hyear, hmonth, hday, hhour, hminute, hsecond, hrange]

/-- **A point in time is read back from its text.** -/
theorem parse?_text {t : Timestamp} (h : t.Valid) : parse? t.text = some t := by
  obtain ⟨hmonth, hday⟩ := civil_mem (t.seconds / 86400)
  obtain ⟨s, hs⟩ : ∃ s, s = (t.seconds % 86400).toNat := ⟨_, rfl⟩
  have hs' : (s : ℤ) = t.seconds % 86400 := by omega
  obtain ⟨leap, hleap⟩ : ∃ leap, leap = t.nanos / 1000000000 := ⟨_, rfl⟩
  have hleap₁ : leap ≤ 1 := by
    have := h.nanos
    omega
  have hleap₂ : leap = 1 → s % 60 = 59 := by
    intro hone
    have := h.leap (by omega)
    omega
  -- the second 60 is told of a leap second only
  have hsixty : (if s % 60 + leap = 60 then 1 else 0) = leap := by split_ifs <;> omega
  have hseconds : dayNumber (civil (t.seconds / 86400)).1 (civil (t.seconds / 86400)).2.1
        (civil (t.seconds / 86400)).2.2 * 86400
      + ((s / 3600 * 3600 + s / 60 % 60 * 60
        + (s % 60 + leap - if s % 60 + leap = 60 then 1 else 0) : ℕ) : ℤ) = t.seconds := by
    rw [dayNumber_civil, hsixty]
    omega
  have hnanos : t.nanos % 1000000000 + leap * 1000000000 = t.nanos := by omega
  have hread := parse?_fields h.year hmonth hday (by omega) (Nat.mod_lt _ (by decide))
    (by omega) (Nat.mod_lt t.nanos (by decide)) hseconds h.year
  rw [hsixty, hnanos] at hread
  rw [text, ← hs, ← hleap]
  exact hread

/-- The leap second at the end of the year 2016. -/
example : (⟨1483228799, 1500000000⟩ : Timestamp).text = "2016-12-31T23:59:60.500Z" := by
  decide +kernel

end DiceHost.Timestamp
