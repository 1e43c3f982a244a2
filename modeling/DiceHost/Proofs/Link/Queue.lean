/-
The queue as a level for each die.

* `Queue.Unique`: no die waits twice;
* `Queue.mem_level_iff`: the dice at a level are those whose level it is;
* `Queue.priority?_enqueue`, `Queue.priority?_remove`, `Queue.priority?_popWhere`: an
  operation changes the level of its die only, and `Queue.popWhere_eq_none_iff`: nobody is served
  when no die that waits is eligible;
* `Queue.unique_enqueue`, `Queue.unique_remove`: no operation makes a die wait twice.
-/
import Mathlib.Tactic
import DiceHost.Link.Queue

namespace DiceHost.Link.Queue

/-- The dice at a level. -/
def level (q : Queue) : Priority → List PixelId
  | .high => q.high
  | .low => q.low

/-- No die waits twice, at one level or at both. -/
def Unique (q : Queue) : Prop := (q.high ++ q.low).Nodup

variable {q : Queue} {p : PixelId}

/-! ### Levels -/

lemma priority?_eq_none : q.priority? p = none ↔ p ∉ q.high ∧ p ∉ q.low := by
  rw [priority?]
  by_cases hh : p ∈ q.high <;> by_cases hl : p ∈ q.low <;> simp [hh, hl]

/-- The dice at a level are those whose level it is. -/
lemma mem_level_iff (hq : q.Unique) {pr : Priority} :
    p ∈ q.level pr ↔ q.priority? p = some pr := by
  obtain ⟨-, -, hdisjoint⟩ := List.nodup_append.mp hq
  have hboth : ¬ (p ∈ q.high ∧ p ∈ q.low) := fun h => hdisjoint p h.1 p h.2 rfl
  rw [priority?]
  cases pr with
  | high => by_cases hh : p ∈ q.high <;> by_cases hl : p ∈ q.low <;> simp [level, hh, hl]
  | low =>
      by_cases hh : p ∈ q.high
      · have hl : p ∉ q.low := fun hl => hboth ⟨hh, hl⟩
        simp [level, hh, hl]
      · by_cases hl : p ∈ q.low <;> simp [level, hh, hl]

/-! ### Waiting -/

/-- A die that is made to wait waits at the higher of its levels. -/
lemma priority?_enqueue (q : Queue) (p : PixelId) (pr : Priority) (x : PixelId) :
    (q.enqueue p pr).1.priority? x
      = if x = p then some ((q.priority? p).elim pr (·.max pr)) else q.priority? x := by
  rw [enqueue.eq_def]
  cases h : q.priority? p with
  | none =>
      obtain ⟨hh, hl⟩ := priority?_eq_none.mp h
      cases pr with
      | high => by_cases hx : x = p <;> simp [priority?, hx]
      | low => by_cases hx : x = p <;> simp [priority?, hx, hh]
  | some level =>
      cases level with
      | high =>
          by_cases hx : x = p
          · simp [hx, h, Priority.max]
          · simp [hx]
      | low =>
          cases pr with
          | high => by_cases hx : x = p <;> simp [priority?, hx, Priority.max]
          | low =>
              by_cases hx : x = p
              · simp [hx, h, Priority.max]
              · simp [hx]

lemma unique_enqueue (hq : q.Unique) (p : PixelId) (pr : Priority) :
    (q.enqueue p pr).1.Unique := by
  rw [Unique] at hq
  rw [enqueue.eq_def]
  cases h : q.priority? p with
  | none =>
      obtain ⟨hh, hl⟩ := priority?_eq_none.mp h
      have hp : p ∉ q.high ++ q.low := by simp [hh, hl]
      cases pr with
      | high =>
          have hperm : (q.high ++ [p] ++ q.low).Perm (p :: (q.high ++ q.low)) := by
            rw [List.append_assoc]
            exact List.perm_middle
          exact hperm.nodup_iff.mpr (List.nodup_cons.mpr ⟨hp, hq⟩)
      | low =>
          rw [Unique, ← List.append_assoc]
          exact (List.nodup_append_comm.mp (List.nodup_cons.mpr ⟨hp, hq⟩))
  | some level =>
      cases level with
      | high => exact hq
      | low =>
          cases pr with
          | high =>
              -- the die leaves the low level as it comes to the high one
              have hh : p ∉ q.high := by
                intro hh
                rw [priority?, if_pos hh] at h
                cases h
              obtain ⟨hhigh, hlow, hdisjoint⟩ := List.nodup_append.mp hq
              rw [Unique, List.nodup_append]
              refine ⟨?_, hlow.filter _, ?_⟩
              · rw [List.nodup_append]
                refine ⟨hhigh, List.nodup_singleton p, ?_⟩
                rintro a ha b hb rfl
                exact hh (List.mem_singleton.mp hb ▸ ha)
              · rintro a ha b hb rfl
                obtain ⟨hb, hne⟩ := List.mem_filter.mp hb
                rcases List.mem_append.mp ha with ha | ha
                · exact hdisjoint a ha a hb rfl
                · exact of_decide_eq_true hne (List.mem_singleton.mp ha)
          | low => exact hq

/-! ### Leaving -/

lemma priority?_remove (q : Queue) (p x : PixelId) :
    (q.remove p).priority? x = if x = p then none else q.priority? x := by
  rw [priority?, remove, priority?]
  by_cases hx : x = p <;> simp [hx]

lemma unique_remove (hq : q.Unique) (p : PixelId) : (q.remove p).Unique := by
  rw [Unique, remove, ← List.filter_append]
  exact hq.filter _

/-- The die that is served is eligible and waits at the level told, and it waits no longer. -/
lemma priority?_popWhere {eligible : PixelId → Bool} {pr : Priority} {q' : Queue}
    (hq : q.Unique) (h : q.popWhere eligible = some ((p, pr), q')) :
    eligible p = true ∧ q.priority? p = some pr ∧ q'.Unique
      ∧ ∀ x, q'.priority? x = if x = p then none else q.priority? x := by
  obtain ⟨hhigh, hlow, hdisjoint⟩ := List.nodup_append.mp hq
  rw [popWhere] at h
  cases hfind : q.high.find? eligible with
  | some p' =>
      simp only [hfind, Option.some.injEq, Prod.mk.injEq] at h
      obtain ⟨⟨rfl, rfl⟩, rfl⟩ := h
      have hp := List.mem_of_find?_eq_some hfind
      have hl : p' ∉ q.low := fun hl => hdisjoint p' hp p' hl rfl
      refine ⟨List.find?_some hfind, (mem_level_iff hq).mp hp, ?_, ?_⟩
      · exact List.Nodup.sublist (List.erase_sublist.append (List.Sublist.refl _)) hq
      · intro x
        by_cases hx : x = p'
        · subst hx
          simp [priority?, hhigh.mem_erase_iff, hl]
        · simp [priority?, hhigh.mem_erase_iff, hx]
  | none =>
      simp only [hfind] at h
      cases hfind' : q.low.find? eligible with
      | none =>
          rw [hfind'] at h
          cases h
      | some p' =>
          simp only [hfind', Option.some.injEq, Prod.mk.injEq] at h
          obtain ⟨⟨rfl, rfl⟩, rfl⟩ := h
          have hp := List.mem_of_find?_eq_some hfind'
          have hh : p' ∉ q.high := fun hh => hdisjoint p' hh p' hp rfl
          refine ⟨List.find?_some hfind', (mem_level_iff hq).mp hp, ?_, ?_⟩
          · exact List.Nodup.sublist ((List.Sublist.refl _).append List.erase_sublist) hq
          · intro x
            by_cases hx : x = p'
            · subst hx
              simp [priority?, hlow.mem_erase_iff, hh]
            · simp [priority?, hlow.mem_erase_iff, hx]

/-- Nobody is served when no die that waits is eligible. -/
lemma popWhere_eq_none_iff {eligible : PixelId → Bool} :
    q.popWhere eligible = none ↔ ∀ p ∈ q.high ++ q.low, eligible p = false := by
  rw [popWhere, List.forall_mem_append]
  cases hhigh : q.high.find? eligible with
  | some p =>
      refine ⟨fun h => (Option.some_ne_none _ h).elim, fun h => ?_⟩
      have hp := h.1 p (List.mem_of_find?_eq_some hhigh)
      rw [List.find?_some hhigh] at hp
      cases hp
  | none =>
      have hhigh' : ∀ p ∈ q.high, eligible p = false := by simpa using hhigh
      cases hlow : q.low.find? eligible with
      | some p =>
          refine ⟨fun h => (Option.some_ne_none _ h).elim, fun h => ?_⟩
          have hp := h.2 p (List.mem_of_find?_eq_some hlow)
          rw [List.find?_some hlow] at hp
          cases hp
      | none =>
          have hlow' : ∀ p ∈ q.low, eligible p = false := by simpa using hlow
          exact ⟨fun _ => ⟨hhigh', hlow'⟩, fun _ => rfl⟩

end DiceHost.Link.Queue
