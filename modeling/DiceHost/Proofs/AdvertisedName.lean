/-
The names that dice advertise.

* `AdvertisedMode.mark`, `PixelId.advertisedName`: the name of a die in a mode until it is renamed;
* `PixelId.ofHex?_eq_some`: the numerals that name a die;
* `parseAdvertisedName_eq_some`: **which names are recognised, and as what**;
* `advertisedName_recognised`: **the names that dice advertise are recognised**; of the others those
  are that have less than eight digits behind the mark, or lower-case ones, or a plus sign.
-/
import DiceHost.Die.Name
import DiceHost.Proofs.Text.Blank
import DiceHost.Proofs.Text.Hex

namespace DiceHost

open Text

/-- What the names that dice advertise begin with. -/
def AdvertisedMode.mark : AdvertisedMode → List Char
  | bootloader => "PXL".toList
  | application => "Pixel".toList

/-- The name that a die advertises in a mode until it is renamed. -/
def PixelId.advertisedName (p : PixelId) : AdvertisedMode → String
  | .bootloader => p.bootloaderName
  | .application => p.defaultName

variable {p : PixelId} {mode : AdvertisedMode} {cs : List Char} {s : String}

lemma PixelId.toList_advertisedName (p : PixelId) (mode : AdvertisedMode) :
    (p.advertisedName mode).toList = mode.mark ++ Hex.upper 8 p.id.toNat := by
  have hdisplay : p.display.toList = Hex.upper 8 p.id.toNat := String.toList_ofList
  cases mode with
  | bootloader => exact String.toList_append.trans (congrArg _ hdisplay)
  | application => exact String.toList_append.trans (congrArg _ hdisplay)

/-- A die is named by a numeral of at most eight characters. -/
lemma PixelId.ofHex?_eq_some :
    ofHex? cs = some p ↔ cs.length ≤ 8 ∧ Hex.Denotes cs p.id.toNat := by
  have hread (n : ℕ) : Hex.readNat UInt32.size cs = .ok n ↔ Hex.Denotes cs n ∧ n < UInt32.size :=
    Hex.readNat_eq_ok (by decide)
  rw [ofHex?]
  split_ifs with hlength
  · rw [and_iff_right hlength, ← and_iff_left (a := Hex.Denotes cs _) p.id.toNat_lt, ← hread]
    cases hn : Hex.readNat UInt32.size cs with
    | error e => exact ⟨nofun, nofun⟩
    | ok n =>
        rw [Option.some_inj, Except.ok.injEq]
        constructor
        · rintro rfl
          exact (UInt32.toNat_ofNat_of_lt' ((hread n).mp hn).2).symm
        · rintro rfl
          rw [UInt32.ofNat_toNat]
  · exact ⟨nofun, fun h => absurd h.1 hlength⟩

/-- A numeral behind a mark is read as a die in the mode of the mark. -/
lemma parseAdvertisedName_eq (s : String) : parseAdvertisedName s
    = match stripPrefix? AdvertisedMode.application.mark s.toList with
      | some cs => (PixelId.ofHex? cs).map (·, .application)
      | none => match stripPrefix? AdvertisedMode.bootloader.mark s.toList with
        | some cs => (PixelId.ofHex? cs).map (·, .bootloader)
        | none => none :=
  rfl

/-- The names that are recognised: a mark and a numeral of at most eight characters. -/
lemma parseAdvertisedName_eq_some : parseAdvertisedName s = some (p, mode) ↔
    ∃ cs, s.toList = mode.mark ++ cs ∧ cs.length ≤ 8 ∧ Hex.Denotes cs p.id.toNat := by
  have hmark (mode : AdvertisedMode) (cs : List Char) :
      stripPrefix? mode.mark s.toList = some cs ↔ s.toList = mode.mark ++ cs :=
    stripPrefix?_eq_some
  have hread : parseAdvertisedName s = some (p, mode)
      ↔ ∃ cs, stripPrefix? mode.mark s.toList = some cs ∧ PixelId.ofHex? cs = some p := by
    rw [parseAdvertisedName_eq]
    cases happlication : stripPrefix? AdvertisedMode.application.mark s.toList with
    | some rest =>
        -- no name has both marks
        have hbootloader : stripPrefix? AdvertisedMode.bootloader.mark s.toList = none := by
          rw [stripPrefix?_eq_some.mp happlication]
          rfl
        cases mode with
        | bootloader => simp [hbootloader]
        | application => simp [happlication]
    | none =>
        cases hbootloader : stripPrefix? AdvertisedMode.bootloader.mark s.toList with
        | some rest =>
            cases mode with
            | bootloader => simp [hbootloader]
            | application => simp [happlication]
        | none =>
            cases mode with
            | bootloader => simp [hbootloader]
            | application => simp [happlication]
  rw [hread]
  simp only [hmark, PixelId.ofHex?_eq_some]

/-- **The names that dice advertise are recognised.** Of the others those are that have a numeral
of at most eight characters behind a mark, and these are just the ones that do not have eight
upper-case digits there: no more than seven, or a lower-case one, or a plus sign. -/
theorem advertisedName_recognised (p : PixelId) (s : String) (mode : AdvertisedMode) :
    parseAdvertisedName p.defaultName = some (p, .application)
    ∧ parseAdvertisedName p.bootloaderName = some (p, .bootloader)
    ∧ (parseAdvertisedName s = some (p, mode) ↔
        ∃ cs, s.toList = mode.mark ++ cs ∧ cs.length ≤ 8 ∧ Hex.Denotes cs p.id.toNat)
    ∧ (parseAdvertisedName s = some (p, mode) →
        (s = p.advertisedName mode ↔
          ∃ cs, s.toList = mode.mark ++ cs ∧ cs.length = 8 ∧ ∀ c ∈ cs, Hex.IsUpper c)) := by
  have hrecognised (mode : AdvertisedMode) :
      parseAdvertisedName (p.advertisedName mode) = some (p, mode) :=
    parseAdvertisedName_eq_some.mpr ⟨_, p.toList_advertisedName mode, (Hex.length_upper ..).le,
      .inl (Hex.nat?_upper (by decide) p.id.toNat_lt)⟩
  refine ⟨hrecognised .application, hrecognised .bootloader, parseAdvertisedName_eq_some,
    fun h => ?_⟩
  obtain ⟨cs, hs, -, hcs⟩ := parseAdvertisedName_eq_some.mp h
  rw [← String.toList_inj, p.toList_advertisedName, hs, List.append_cancel_left_eq,
    Hex.upper_eq_iff hcs]
  simp

/-- A name of a die, and one in another hand. -/
theorem advertisedName_recognised_beef :
    parseAdvertisedName "Pixel0000BEEF" = some (⟨0xbeef⟩, .application)
      ∧ "Pixel0000BEEF" = PixelId.advertisedName ⟨0xbeef⟩ .application
      ∧ parseAdvertisedName "Pixelbeef" = some (⟨0xbeef⟩, .application)
      ∧ "Pixelbeef" ≠ PixelId.advertisedName ⟨0xbeef⟩ .application := by
  have hname : parseAdvertisedName "Pixel0000BEEF" = some (⟨0xbeef⟩, .application) := by rfl
  have hother : parseAdvertisedName "Pixelbeef" = some (⟨0xbeef⟩, .application) := by rfl
  obtain ⟨-, -, -, hiff⟩ := advertisedName_recognised ⟨0xbeef⟩ "Pixel0000BEEF" .application
  obtain ⟨-, -, -, hiff'⟩ := advertisedName_recognised ⟨0xbeef⟩ "Pixelbeef" .application
  have hdigits : ∃ cs, "Pixel0000BEEF".toList = AdvertisedMode.application.mark ++ cs
      ∧ cs.length = 8 ∧ ∀ c ∈ cs, Hex.IsUpper c :=
    ⟨Hex.upper 8 0xbeef, rfl, rfl, fun _ => Hex.isUpper_of_mem_upper⟩
  refine ⟨hname, (hiff hname).mpr hdigits, hother, fun h => ?_⟩
  obtain ⟨cs, hcs, hlength, -⟩ := (hiff' hother).mp h
  have h := congrArg List.length hcs
  rw [List.length_append, hlength] at h
  exact absurd h (by decide)

/-- The name of a user that is taken for that of a die. -/
theorem username_recognised :
    ∃ p mode, parseAdvertisedName "Pixelface" = some (p, mode)
      ∧ "Pixelface" ≠ p.advertisedName mode :=
  ⟨⟨0xface⟩, .application, by rfl, by decide⟩

end DiceHost
