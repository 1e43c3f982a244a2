/-
Texts without the blanks around them, and texts after a beginning.

* `Text.Bare`: a text that neither starts nor ends with a blank;
* `Text.trim_spec`: **every text is a bare one with blanks around it**;
* `Text.trim_surrounded`: that one is what remains;
* `Text.stripPrefix?_eq_some`: what is left after a beginning.
-/
import Mathlib.Data.List.DropRight
import Mathlib.Tactic
import DiceHost.Text.Blank

namespace DiceHost.Text

variable {cs ds pre post : List Char}

/-- A text that neither starts nor ends with a blank. -/
structure Bare (cs : List Char) : Prop where
  start : ∀ h : cs ≠ [], ¬ isBlank (cs.head h)
  stop : ∀ h : cs ≠ [], ¬ isBlank (cs.getLast h)

/-- Blanks are taken off at the start, and then at the end. -/
lemma trim_eq (cs : List Char) : trim cs = (cs.dropWhile isBlank).rdropWhile isBlank := rfl

/-- Every text is a bare one with blanks around it. -/
lemma trim_spec (cs : List Char) : Bare (trim cs) ∧ ∃ pre post, cs = pre ++ trim cs ++ post
    ∧ (∀ c ∈ pre, isBlank c) ∧ ∀ c ∈ post, isBlank c := by
  set ds := cs.dropWhile isBlank with hds
  have hbegins : trim cs <+: ds := List.rdropWhile_prefix ..
  refine ⟨⟨fun h => ?_, fun h => List.rdropWhile_last_not _ _ h⟩, cs.takeWhile isBlank,
    ds.rtakeWhile isBlank, ?_, fun _ => List.mem_takeWhile_imp, fun _ => List.mem_rtakeWhile_imp⟩
  · rw [hbegins.head h]
    exact Bool.eq_false_iff.mp (List.head_dropWhile_not ..)
  · have hend : trim cs ++ ds.rtakeWhile isBlank = ds := by
      rw [trim_eq, List.rdropWhile, List.rtakeWhile, ← List.reverse_append,
        List.takeWhile_append_dropWhile, List.reverse_reverse]
    rw [List.append_assoc, hend, List.takeWhile_append_dropWhile]

/-- Blanks around a bare text are taken off, and only these. -/
lemma trim_surrounded (hpre : ∀ c ∈ pre, isBlank c) (hcs : Bare cs)
    (hpost : ∀ c ∈ post, isBlank c) : trim (pre ++ cs ++ post) = cs := by
  rw [trim_eq, List.append_assoc, List.dropWhile_append_of_pos hpre]
  cases cs with
  | nil =>
      rw [List.nil_append, List.dropWhile_eq_nil_iff.mpr hpost]
      rfl
  | cons c cs =>
      have hstart : ¬ isBlank c := hcs.start (List.cons_ne_nil c cs)
      rw [List.cons_append, List.dropWhile_cons_of_neg hstart, ← List.cons_append,
        List.rdropWhile, List.reverse_append,
        List.dropWhile_append_of_pos fun d hd => hpost d (List.mem_reverse.mp hd)]
      exact List.rdropWhile_eq_self_iff.mpr hcs.stop

/-- What is left after a beginning. -/
lemma stripPrefix?_eq_some : stripPrefix? pre cs = some ds ↔ cs = pre ++ ds := by
  induction pre generalizing cs with
  | nil => exact Option.some_inj
  | cons p pre ih =>
      cases cs with
      | nil => exact ⟨nofun, nofun⟩
      | cons c cs =>
          rw [stripPrefix?, List.cons_append, List.cons_eq_cons]
          split_ifs with hc
          · rw [ih, and_iff_right hc.symm]
          · exact ⟨nofun, fun h => absurd h.1.symm hc⟩

end DiceHost.Text
