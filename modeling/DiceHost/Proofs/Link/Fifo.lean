/-
The queue as two lines in which dice stand.

* `Queue.Operation`, `Queue.Answer`, `Queue.operate`: the operations with their answers, and
  `Queue.after`, `Queue.answers`: a history of operations from the empty queue;
* `Fifo`: the queue as it is meant. A die that enters a line draws a ticket with the next number,
  and the first to be served holds the smallest number of the high line, or else of the low one;
* `Queue.Represents`: a queue lists the dice of each line by their tickets, and none twice;
* `Queue.Represents.operate`: an operation answers as it should and keeps the lists right;
* `Queue.Serves`: what each operation does to the lists;
* `Queue.serves_after`: **after any history the lists stand for the lines**, and whatever is done
  next is done as it should be.

The lists do not hold the tickets: that a list is in the order of entry is kept by the places at
which dice enter and leave it, and rests on no die standing in it twice.
-/
import DiceHost.Proofs.Link.Queue

namespace DiceHost.Link

namespace Queue

/-! ### Operations -/

/-- An operation on the queue. -/
inductive Operation where
  | enqueue (p : PixelId) (level : Priority)
  | remove (p : PixelId)
  /-- The first die that passes a test is served. -/
  | pop (eligible : PixelId → Bool)

/-- The answer to an operation. -/
inductive Answer where
  | enqueued (change : Enqueued)
  /-- The level at which the die waited. -/
  | removed (level : Option Priority)
  /-- The die that is served, and its level. -/
  | popped (served : Option (PixelId × Priority))
deriving DecidableEq, Repr

/-- An operation, with its answer. -/
def operate (q : Queue) : Operation → Answer × Queue
  | .enqueue p level => (.enqueued (q.enqueue p level).2, (q.enqueue p level).1)
  | .remove p => (.removed (q.priority? p), q.remove p)
  | .pop eligible =>
    match q.popWhere eligible with
    | some (served, q') => (.popped (some served), q')
    | none => (.popped none, q)

/-- The queue after some operations, the first one first. -/
def after (q : Queue) (os : List Operation) : Queue :=
  os.foldl (fun q o => (q.operate o).2) q

/-- The answers to some operations. -/
def answers : Queue → List Operation → List Answer
  | _, [] => []
  | q, o :: os => (q.operate o).1 :: answers (q.operate o).2 os

/-- The die that an operation with its answer is about. -/
def Operation.about? : Operation → Answer → Option PixelId
  | .enqueue p _, _ | .remove p, _ => some p
  | .pop _, .popped served => served.map (·.1)
  | .pop _, _ => none

end Queue

/-! ### Two lines -/

/-- The place of a die: its line, and the number that it drew on entering it. -/
structure Ticket where
  level : Priority
  number : ℕ

/-- A ticket is served before another: its line comes first, or its number does. -/
def Ticket.Before (a b : Ticket) : Prop :=
  a.level = .high ∧ b.level = .low ∨ a.level = b.level ∧ a.number < b.number

/-- Two lines of dice with tickets, which are numbered in the order of entry. -/
structure Fifo where
  /-- The number of the next ticket. -/
  next : ℕ := 0
  ticket? : PixelId → Option Ticket := fun _ => none

namespace Fifo

/-- A die enters a line, at its back. -/
def enter (f : Fifo) (p : PixelId) (level : Priority) : Fifo :=
  ⟨f.next + 1, Function.update f.ticket? p (some ⟨level, f.next⟩)⟩

/-- A die leaves its line. -/
def leave (f : Fifo) (p : PixelId) : Fifo :=
  { f with ticket? := Function.update f.ticket? p none }

/-- A die is the first one that passes a test. -/
structure First (f : Fifo) (eligible : PixelId → Bool) (p : PixelId) (t : Ticket) : Prop where
  ticket : f.ticket? p = some t
  passes : eligible p = true
  before : ∀ x u, f.ticket? x = some u → eligible x = true → x ≠ p → t.Before u

/-- What the lines answer to an operation, and what becomes of them. -/
inductive Step (f : Fifo) : Queue.Operation → Queue.Answer → Fifo → Prop
  | added {p : PixelId} {level : Priority} (h : f.ticket? p = none) :
      Step f (.enqueue p level) (.enqueued .added) (f.enter p level)
  | promoted {p : PixelId} {t : Ticket} (h : f.ticket? p = some t) (ht : t.level = .low) :
      Step f (.enqueue p .high) (.enqueued .promoted) (f.enter p .high)
  | unchanged {p : PixelId} {level : Priority} {t : Ticket} (h : f.ticket? p = some t)
      (ht : t.level.max level = t.level) :
      Step f (.enqueue p level) (.enqueued .unchanged) f
  | removed (p : PixelId) :
      Step f (.remove p) (.removed ((f.ticket? p).map (·.level))) (f.leave p)
  | served {eligible : PixelId → Bool} {p : PixelId} {t : Ticket} (h : f.First eligible p t) :
      Step f (.pop eligible) (.popped (some (p, t.level))) (f.leave p)
  | nobody {eligible : PixelId → Bool} (h : ∀ x t, f.ticket? x = some t → eligible x = false) :
      Step f (.pop eligible) (.popped none) f

/-- A history of operations on the lines, with the answers. -/
inductive Run : Fifo → List Queue.Operation → List Queue.Answer → Fifo → Prop
  | nil (f : Fifo) : Run f [] [] f
  | cons {f g e : Fifo} {o : Queue.Operation} {a : Queue.Answer} {os : List Queue.Operation}
      {as : List Queue.Answer} (h : f.Step o a g) (hs : Run g os as e) :
      Run f (o :: os) (a :: as) e

/-- A die entered its line before another entered its own. -/
def Earlier (f : Fifo) (x y : PixelId) : Prop :=
  ∃ a b, f.ticket? x = some a ∧ f.ticket? y = some b ∧ a.number < b.number

variable (f : Fifo) (p x : PixelId) (l : Priority)

@[simp] lemma ticket?_enter : (f.enter p l).ticket? x
    = if x = p then some ⟨l, f.next⟩ else f.ticket? x := by
  show Function.update f.ticket? p (some ⟨l, f.next⟩) x = _
  rw [Function.update_apply]

@[simp] lemma ticket?_leave : (f.leave p).ticket? x
    = if x = p then none else f.ticket? x := by
  show Function.update f.ticket? p none x = _
  rw [Function.update_apply]

variable {f} {g : Fifo}

/-- The order of entry is that of the tickets. -/
lemma pairwise_earlier {xs : List PixelId} (hx : xs.Pairwise f.Earlier)
    (h : ∀ x ∈ xs, g.ticket? x = f.ticket? x) : xs.Pairwise g.Earlier := by
  refine hx.imp_of_mem ?_
  rintro x y hx hy ⟨a, b, ha, hb, hlt⟩
  exact ⟨a, b, (h x hx).trans ha, (h y hy).trans hb, hlt⟩

end Fifo

namespace Queue

variable {q q' : Queue} {f : Fifo} {p : PixelId}

/-! ### Entry -/

/-- The queue with one more die, at the back of a level. -/
def push (q : Queue) (p : PixelId) : Priority → Queue
  | .high => { q with high := q.high ++ [p] }
  | .low => { q with low := q.low ++ [p] }

lemma level_push_self (q : Queue) (p : PixelId) (l : Priority) :
    (q.push p l).level l = q.level l ++ [p] := by
  cases l <;> rfl

lemma level_push_of_ne (q : Queue) (p : PixelId) {k l : Priority} (h : k ≠ l) :
    (q.push p l).level k = q.level k := by
  cases k <;> cases l <;> first | rfl | exact absurd rfl h

lemma Unique.level (h : q.Unique) (l : Priority) : (q.level l).Nodup := by
  obtain ⟨hhigh, hlow, -⟩ := List.nodup_append.mp h
  cases l with
  | high => exact hhigh
  | low => exact hlow

/-- An absent die is added at the back. -/
lemma enqueue_of_absent {l : Priority} (h : q.priority? p = none) :
    q.enqueue p l = (q.push p l, .added) := by
  rw [enqueue.eq_def, h]
  cases l <;> rfl

/-- A high request moves a die of the low level to the back of the high one. -/
lemma enqueue_of_low (h : q.priority? p = some .low) :
    q.enqueue p .high = (⟨q.high ++ [p], q.low.filter (· ≠ p)⟩, .promoted) := by
  rw [enqueue.eq_def, h]

/-- A request that is not above the level of a die changes nothing. -/
lemma enqueue_of_max {k l : Priority} (h : q.priority? p = some k) (hmax : k.max l = k) :
    q.enqueue p l = (q, .unchanged) := by
  rw [enqueue.eq_def, h]
  cases k <;> cases l <;> first | rfl | cases hmax

/-! ### Service -/

/-- A die that is served stood behind dice of its level that are not eligible, and before the
high level comes the low one. The others keep their places. -/
lemma popWhere_split {eligible : PixelId → Bool} {l : Priority}
    (h : q.popWhere eligible = some ((p, l), q')) :
    eligible p = true
      ∧ (∃ ahead behind, q.level l = ahead ++ p :: behind ∧ q'.level l = ahead ++ behind
        ∧ ∀ x ∈ ahead, eligible x = false)
      ∧ (∀ k, k ≠ l → q'.level k = q.level k)
      ∧ (l = .low → ∀ x ∈ q.high, eligible x = false) := by
  -- in either list the first eligible die is the one that is taken out
  have htake : ∀ xs : List PixelId, xs.find? eligible = some p →
      ∃ ahead behind, xs = ahead ++ p :: behind ∧ xs.erase p = ahead ++ behind
        ∧ ∀ x ∈ ahead, eligible x = false := by
    intro xs hfind
    obtain ⟨hp, ahead, behind, rfl, hahead⟩ := List.find?_eq_some_iff_append.mp hfind
    have hahead' : ∀ x ∈ ahead, eligible x = false := by simpa using hahead
    have hmem : p ∉ ahead := by
      intro hmem
      rw [hahead' p hmem] at hp
      cases hp
    refine ⟨ahead, behind, rfl, ?_, hahead'⟩
    rw [List.erase_append_right _ hmem, List.erase_cons_head]
  rw [popWhere] at h
  cases hhigh : q.high.find? eligible with
  | some x =>
      simp only [hhigh, Option.some.injEq, Prod.mk.injEq] at h
      obtain ⟨⟨rfl, rfl⟩, rfl⟩ := h
      refine ⟨List.find?_some hhigh, htake q.high hhigh, fun k hk => ?_, by simp⟩
      cases k with
      | high => exact absurd rfl hk
      | low => rfl
  | none =>
      simp only [hhigh] at h
      cases hlow : q.low.find? eligible with
      | none =>
          rw [hlow] at h
          cases h
      | some x =>
          simp only [hlow, Option.some.injEq, Prod.mk.injEq] at h
          obtain ⟨⟨rfl, rfl⟩, rfl⟩ := h
          refine ⟨List.find?_some hlow, htake q.low hlow, fun k hk => ?_,
            fun _ => by simpa using hhigh⟩
          cases k with
          | high => rfl
          | low => exact absurd rfl hk

/-! ### The lists of the lines -/

/-- A queue lists the dice of two lines: none twice, each at the level of its line, those of a
level in the order in which they entered it. -/
structure Represents (q : Queue) (f : Fifo) : Prop where
  unique : q.Unique
  level : ∀ p, q.priority? p = (f.ticket? p).map (·.level)
  ordered : ∀ l, (q.level l).Pairwise f.Earlier
  below : ∀ p t, f.ticket? p = some t → t.number < f.next

namespace Represents

lemma empty : ({} : Queue).Represents {} where
  unique := .nil
  level := fun _ => by simp [priority?]
  ordered := fun l => by cases l <;> exact .nil
  below := fun _ _ h => by simp at h

lemma mem_level_iff (h : q.Represents f) {l : Priority} :
    p ∈ q.level l ↔ ∃ t, f.ticket? p = some t ∧ t.level = l := by
  rw [Queue.mem_level_iff h.unique, h.level, Option.map_eq_some_iff]

/-- A die enters a line at its back, having stood in neither or in one that it leaves. -/
lemma enter (h : q.Represents f) {l : Priority} {kept : List PixelId} (hunique : q'.Unique)
    (hlevel : ∀ x, q'.priority? x = if x = p then some l else q.priority? x)
    (hback : q'.level l = kept ++ [p]) (hkept : kept.Sublist (q.level l))
    (hother : ∀ k, k ≠ l → (q'.level k).Sublist (q.level k)) :
    q'.Represents (f.enter p l) where
  unique := hunique
  level := by
    intro x
    rw [hlevel, Fifo.ticket?_enter]
    by_cases hx : x = p
    · rw [if_pos hx, if_pos hx, Option.map_some]
    · rw [if_neg hx, if_neg hx, h.level]
  ordered := by
    -- dice other than the one that enters keep their tickets, and so their order
    have hrest : ∀ xs : List PixelId, p ∉ xs → xs.Pairwise f.Earlier →
        xs.Pairwise (f.enter p l).Earlier := by
      intro xs hp hxs
      refine Fifo.pairwise_earlier hxs fun x hx => ?_
      have hne : x ≠ p := by
        rintro rfl
        exact hp hx
      rw [Fifo.ticket?_enter, if_neg hne]
    intro k
    by_cases hk : k = l
    · subst hk
      have hp : p ∉ kept := by
        have hnodup := hunique.level k
        rw [hback, List.nodup_append] at hnodup
        exact fun hmem => hnodup.2.2 p hmem p (List.mem_singleton_self p) rfl
      rw [hback, List.pairwise_append]
      refine ⟨hrest kept hp ((h.ordered k).sublist hkept), List.pairwise_singleton _ _, ?_⟩
      intro x hx y hy
      obtain rfl := List.mem_singleton.mp hy
      obtain ⟨t, ht, -⟩ := h.mem_level_iff.mp (hkept.subset hx)
      have hne : x ≠ y := fun hxy => hp (hxy ▸ hx)
      exact ⟨t, ⟨k, f.next⟩, by simp [hne, ht], by simp, h.below x t ht⟩
    · refine hrest _ ?_ ((h.ordered k).sublist (hother k hk))
      intro hp
      have hpk := (Queue.mem_level_iff hunique).mp hp
      rw [hlevel, if_pos rfl] at hpk
      exact hk (Option.some_inj.mp hpk).symm
  below := by
    intro x t ht
    rw [Fifo.ticket?_enter] at ht
    show t.number < f.next + 1
    split at ht
    · obtain rfl := Option.some_inj.mp ht
      exact Nat.lt_succ_self _
    · exact Nat.lt_succ_of_lt (h.below x t ht)

/-- A die leaves its line and the list of it. -/
lemma leave (h : q.Represents f) (hunique : q'.Unique)
    (hlevel : ∀ x, q'.priority? x = if x = p then none else q.priority? x)
    (hsub : ∀ l, (q'.level l).Sublist (q.level l)) : q'.Represents (f.leave p) where
  unique := hunique
  level := by
    intro x
    rw [hlevel, Fifo.ticket?_leave]
    by_cases hx : x = p
    · rw [if_pos hx, if_pos hx, Option.map_none]
    · rw [if_neg hx, if_neg hx, h.level]
  ordered := by
    intro l
    refine Fifo.pairwise_earlier ((h.ordered l).sublist (hsub l)) fun x hx => ?_
    have hne : x ≠ p := by
      rintro rfl
      have hxl := (Queue.mem_level_iff hunique).mp hx
      rw [hlevel, if_pos rfl] at hxl
      cases hxl
    rw [Fifo.ticket?_leave, if_neg hne]
  below := by
    intro x t ht
    rw [Fifo.ticket?_leave] at ht
    split at ht
    · cases ht
    · exact h.below x t ht

/-- An enqueueing does to the lists what it does to the lines. -/
lemma enqueue (h : q.Represents f) (p : PixelId) (l : Priority) :
    ∃ g, f.Step (.enqueue p l) (.enqueued (q.enqueue p l).2) g
      ∧ (q.enqueue p l).1.Represents g := by
  have hunique := unique_enqueue h.unique p l
  have hlevel := priority?_enqueue q p l
  cases hp : q.priority? p with
  | none =>
      have ht : f.ticket? p = none := by
        rw [h.level, Option.map_eq_none_iff] at hp
        exact hp
      rw [enqueue_of_absent hp] at hunique hlevel ⊢
      simp only [hp, Option.elim_none] at hlevel
      exact ⟨f.enter p l, .added ht, h.enter hunique hlevel (level_push_self q p l)
        (List.Sublist.refl _) fun k hk => (level_push_of_ne q p hk) ▸ List.Sublist.refl _⟩
  | some k =>
      have ⟨t, ht, htk⟩ : ∃ t, f.ticket? p = some t ∧ t.level = k := by
        rw [h.level, Option.map_eq_some_iff] at hp
        exact hp
      by_cases hup : k = .low ∧ l = .high
      · obtain ⟨rfl, rfl⟩ := hup
        rw [enqueue_of_low hp] at hunique hlevel ⊢
        simp only [hp, Option.elim_some, Priority.max] at hlevel
        refine ⟨f.enter p .high, .promoted ht htk, h.enter hunique hlevel rfl
          (List.Sublist.refl _) fun k hk => ?_⟩
        cases k with
        | high => exact absurd rfl hk
        | low => exact List.filter_sublist
      · have hmax : k.max l = k := by
          cases k <;> cases l <;> simp_all [Priority.max]
        rw [enqueue_of_max hp hmax]
        exact ⟨f, .unchanged ht (htk ▸ hmax), h⟩

/-- A die that is removed leaves its line. -/
lemma remove (h : q.Represents f) (p : PixelId) :
    f.Step (.remove p) (.removed (q.priority? p)) (f.leave p)
      ∧ (q.remove p).Represents (f.leave p) := by
  refine ⟨?_, h.leave (unique_remove h.unique p) (priority?_remove q p) fun l => ?_⟩
  · rw [h.level]
    exact .removed p
  · cases l <;> exact List.filter_sublist

/-- The die that is served is the first one that is eligible. -/
lemma first (h : q.Represents f) {eligible : PixelId → Bool} {t : Ticket}
    (ht : f.ticket? p = some t) (hpop : q.popWhere eligible = some ((p, t.level), q')) :
    f.First eligible p t := by
  obtain ⟨hp, ⟨ahead, behind, hlist, -, hahead⟩, -, hlow⟩ := popWhere_split hpop
  refine ⟨ht, hp, fun x u hu hx hne => ?_⟩
  have hmem : x ∈ q.level u.level := h.mem_level_iff.mpr ⟨u, hu, rfl⟩
  by_cases hul : u.level = t.level
  · -- in the line of the die, those ahead of it are not eligible
    have hpair := h.ordered t.level
    rw [hlist, List.pairwise_append, List.pairwise_cons] at hpair
    rw [hul, hlist, List.mem_append, List.mem_cons] at hmem
    rcases hmem with hmem | rfl | hmem
    · rw [hahead x hmem] at hx
      cases hx
    · exact absurd rfl hne
    · obtain ⟨a, b, ha, hb, hlt⟩ := hpair.2.1.1 x hmem
      obtain rfl := Option.some_inj.mp (ha.symm.trans ht)
      obtain rfl := Option.some_inj.mp (hb.symm.trans hu)
      exact .inr ⟨hul.symm, hlt⟩
  · -- in the other line there are eligible dice only if it is the low one
    cases hl : t.level with
    | high =>
        cases hk : u.level with
        | high => exact absurd (hk.trans hl.symm) hul
        | low => exact .inl ⟨hl, hk⟩
    | low =>
        cases hk : u.level with
        | low => exact absurd (hk.trans hl.symm) hul
        | high =>
            rw [hk] at hmem
            rw [hlow hl x hmem] at hx
            cases hx

/-- A die that is served leaves its line. -/
lemma served (h : q.Represents f) {eligible : PixelId → Bool} {l : Priority}
    (hpop : q.popWhere eligible = some ((p, l), q')) :
    f.Step (.pop eligible) (.popped (some (p, l))) (f.leave p)
      ∧ q'.Represents (f.leave p) := by
  obtain ⟨-, ⟨ahead, behind, hlist, hlist', -⟩, hother, -⟩ := popWhere_split hpop
  obtain ⟨-, hpl, hunique, hlevel⟩ := priority?_popWhere h.unique hpop
  obtain ⟨t, ht, rfl⟩ := Option.map_eq_some_iff.mp ((h.level p).symm.trans hpl)
  refine ⟨.served (h.first ht hpop), h.leave hunique hlevel fun k => ?_⟩
  by_cases hk : k = t.level
  · rw [hk, hlist, hlist']
    exact (List.sublist_cons_self p behind).append_left ahead
  · rw [hother k hk]

/-- **An operation answers as the lines do, and the lists still stand for them.** -/
lemma operate (h : q.Represents f) (o : Operation) :
    ∃ g, f.Step o (q.operate o).1 g ∧ (q.operate o).2.Represents g := by
  cases o with
  | enqueue p l => exact h.enqueue p l
  | remove p => exact ⟨f.leave p, h.remove p⟩
  | pop eligible =>
      rw [Queue.operate]
      cases hpop : q.popWhere eligible with
      | some r =>
          obtain ⟨⟨p, l⟩, q'⟩ := r
          exact ⟨f.leave p, h.served hpop⟩
      | none =>
          refine ⟨f, .nobody fun x t ht => ?_, h⟩
          refine popWhere_eq_none_iff.mp hpop x (List.mem_append.mpr ?_)
          have hmem : x ∈ q.level t.level := h.mem_level_iff.mpr ⟨t, ht, rfl⟩
          cases hl : t.level with
          | high =>
              rw [hl] at hmem
              exact .inl hmem
          | low =>
              rw [hl] at hmem
              exact .inr hmem

/-- A history of operations is one of the lines. -/
lemma after (h : q.Represents f) (os : List Operation) :
    ∃ g, f.Run os (q.answers os) g ∧ (q.after os).Represents g := by
  induction os generalizing q f with
  | nil => exact ⟨f, .nil f, h⟩
  | cons o os ih =>
      obtain ⟨g, hstep, hg⟩ := h.operate o
      obtain ⟨e, hrun, he⟩ := ih hg
      exact ⟨e, .cons hstep hrun, he⟩

end Represents

/-! ### What the operations do -/

/-- The dice that wait, with their levels, in the order in which they are served. -/
def order (q : Queue) : List (PixelId × Priority) :=
  q.high.map (·, .high) ++ q.low.map (·, .low)

lemma find?_order (q : Queue) (eligible : PixelId → Bool) :
    q.order.find? (fun x => eligible x.1)
      = ((q.high.find? eligible).map (·, .high)).or ((q.low.find? eligible).map (·, .low)) := by
  rw [order, List.find?_append, List.find?_map, List.find?_map]
  rfl

/-- The first die in order that is eligible is served, with its level, or nobody is. -/
lemma popWhere_eq_find? (q : Queue) (eligible : PixelId → Bool) :
    (q.popWhere eligible).map (·.1) = q.order.find? (fun x => eligible x.1) := by
  rw [find?_order, popWhere]
  cases q.high.find? eligible with
  | some p => rfl
  | none =>
      cases q.low.find? eligible with
      | some p => rfl
      | none => rfl

/-- What the operations do to a queue. -/
structure Serves (q : Queue) : Prop where
  /-- An absent die is added at the back of a level. -/
  added : ∀ p l, q.priority? p = none → q.enqueue p l = (q.push p l, .added)
  /-- A high request moves a die from the low level to the back of the high one. -/
  promoted : ∀ p, q.priority? p = some .low →
    q.enqueue p .high = (⟨q.high ++ [p], q.low.erase p⟩, .promoted)
  /-- Another request for a die that waits changes nothing. -/
  unchanged : ∀ p l k, q.priority? p = some k → k = .high ∨ l = .low →
    q.enqueue p l = (q, .unchanged)
  /-- A die is removed from the level told, if any, and from there only. -/
  removed : ∀ p, ∃ answer, (q.operate (.remove p)).1 = .removed answer
    ∧ (∀ l, answer = some l ↔ p ∈ q.level l)
    ∧ ∀ l, (q.operate (.remove p)).2.level l
      = if answer = some l then (q.level l).erase p else q.level l
  /-- The first eligible die in order is served, with its level, and it alone leaves. -/
  served : ∀ eligible x, q.order.find? (fun x => eligible x.1) = some x →
    (q.operate (.pop eligible)).1 = .popped (some x)
      ∧ (q.operate (.pop eligible)).2.order = q.order.erase x
  /-- Nothing changes when no die is eligible. -/
  nobody : ∀ eligible, q.order.find? (fun x => eligible x.1) = none →
    q.operate (.pop eligible) = (.popped none, q)
  /-- The dice that an operation is not about keep their level and their order. -/
  kept : ∀ o l, ((q.operate o).2.level l).filter (some · ≠ o.about? (q.operate o).1)
    = (q.level l).filter (some · ≠ o.about? (q.operate o).1)
  /-- A die of the high level stays there, or it leaves the queue. -/
  high : ∀ o p, q.priority? p = some .high →
    (q.operate o).2.priority? p = some .high ∨ (q.operate o).2.priority? p = none
  /-- No die of the low level is served while one of the high level is eligible. -/
  urgent : ∀ eligible p, (q.operate (.pop eligible)).1 = .popped (some (p, .low)) →
    ∀ x ∈ q.high, eligible x = false

/-- A die that is removed leaves the list of its level. -/
lemma Unique.level_remove (h : q.Unique) (p : PixelId) (l : Priority) :
    (q.remove p).level l = if q.priority? p = some l then (q.level l).erase p else q.level l := by
  have hfilter : (q.remove p).level l = (q.level l).filter (· ≠ p) := by cases l <;> rfl
  rw [hfilter]
  by_cases hp : q.priority? p = some l
  · rw [if_pos hp, (h.level l).erase_eq_filter]
    exact List.filter_congr fun x _ => by by_cases hx : x = p <;> simp [hx]
  · rw [if_neg hp, List.filter_eq_self]
    intro x hx
    have hne : x ≠ p := by
      rintro rfl
      exact hp ((mem_level_iff h).mp hx)
    exact decide_eq_true hne

/-- A die that is served is taken out of the order. -/
lemma order_popWhere {eligible : PixelId → Bool} {x : PixelId × Priority}
    (hpop : q.popWhere eligible = some (x, q')) : q'.order = q.order.erase x := by
  have hhigh : (fun p : PixelId => (p, Priority.high)).Injective := fun _ _ h => (Prod.mk.inj h).1
  have hlow : (fun p : PixelId => (p, Priority.low)).Injective := fun _ _ h => (Prod.mk.inj h).1
  rw [popWhere] at hpop
  cases hfind : q.high.find? eligible with
  | some p =>
      simp only [hfind, Option.some.injEq, Prod.mk.injEq] at hpop
      obtain ⟨rfl, rfl⟩ := hpop
      have hmem := List.mem_of_find?_eq_some hfind
      rw [order, order, List.erase_append_left _ (List.mem_map_of_mem hmem), List.map_erase hhigh]
  | none =>
      simp only [hfind] at hpop
      cases hfind' : q.low.find? eligible with
      | none =>
          rw [hfind'] at hpop
          cases hpop
      | some p =>
          simp only [hfind', Option.some.injEq, Prod.mk.injEq] at hpop
          obtain ⟨rfl, rfl⟩ := hpop
          have hmem : (p, Priority.low) ∉ q.high.map (·, Priority.high) := by simp
          rw [order, order, List.erase_append_right _ hmem, List.map_erase hlow]

/-- The dice that an operation is not about keep their level and their order. -/
lemma level_operate (q : Queue) (o : Operation) (l : Priority) :
    ((q.operate o).2.level l).filter (some · ≠ o.about? (q.operate o).1)
      = (q.level l).filter (some · ≠ o.about? (q.operate o).1) := by
  cases o with
  | enqueue p k =>
      show ((q.enqueue p k).1.level l).filter (some · ≠ some p)
        = (q.level l).filter (some · ≠ some p)
      cases hp : q.priority? p with
      | none =>
          rw [enqueue_of_absent hp]
          by_cases hl : l = k
          · subst hl
            rw [level_push_self, List.filter_append]
            simp
          · rw [level_push_of_ne q p hl]
      | some k' =>
          by_cases hup : k' = .low ∧ k = .high
          · obtain ⟨rfl, rfl⟩ := hup
            rw [enqueue_of_low hp]
            cases l with
            | high => simp [level]
            | low => simp [level, List.filter_filter]
          · have hmax : k'.max k = k' := by
              cases k' <;> cases k <;> simp_all [Priority.max]
            rw [enqueue_of_max hp hmax]
  | remove p =>
      show ((q.remove p).level l).filter (some · ≠ some p)
        = (q.level l).filter (some · ≠ some p)
      cases l <;> simp [level, remove, List.filter_filter]
  | pop eligible =>
      rw [operate]
      cases hpop : q.popWhere eligible with
      | none => rfl
      | some r =>
          obtain ⟨⟨p, k⟩, q'⟩ := r
          show (q'.level l).filter (some · ≠ some p) = (q.level l).filter (some · ≠ some p)
          obtain ⟨-, ⟨ahead, behind, hlist, hlist', -⟩, hother, -⟩ := popWhere_split hpop
          by_cases hl : l = k
          · rw [hl, hlist, hlist']
            simp
          · rw [hother l hl]

/-- A die of the high level stays there, or it leaves the queue. -/
lemma Unique.high_operate (h : q.Unique) (o : Operation) (hp : q.priority? p = some .high) :
    (q.operate o).2.priority? p = some .high ∨ (q.operate o).2.priority? p = none := by
  cases o with
  | enqueue x l =>
      left
      show (q.enqueue x l).1.priority? p = some .high
      rw [priority?_enqueue]
      by_cases hx : p = x
      · rw [if_pos hx, ← hx, hp, Option.elim_some, Priority.max]
      · rw [if_neg hx, hp]
  | remove x =>
      show (q.remove x).priority? p = some .high ∨ (q.remove x).priority? p = none
      rw [priority?_remove, hp]
      by_cases hx : p = x <;> simp [hx]
  | pop eligible =>
      rw [operate]
      cases hpop : q.popWhere eligible with
      | none => exact .inl hp
      | some r =>
          obtain ⟨⟨x, l⟩, q'⟩ := r
          obtain ⟨-, -, -, hlevel⟩ := priority?_popWhere h hpop
          show q'.priority? p = some .high ∨ q'.priority? p = none
          rw [hlevel, hp]
          by_cases hx : p = x <;> simp [hx]

/-- The answer to a service is what the lists say. -/
lemma operate_pop (q : Queue) (eligible : PixelId → Bool) :
    (q.operate (.pop eligible)).1 = .popped (q.order.find? fun x => eligible x.1) := by
  rw [operate, ← popWhere_eq_find?]
  cases q.popWhere eligible <;> rfl

/-- A queue in which no die stands twice does to its lists what is asked of it. -/
lemma Unique.serves (h : q.Unique) : q.Serves where
  added := fun _ _ hp => enqueue_of_absent hp
  promoted := by
    intro p hp
    have herase : q.low.erase p = q.low.filter (· ≠ p) := by
      have hlow := h.level_remove p .low
      rw [if_pos hp] at hlow
      exact hlow.symm
    rw [enqueue_of_low hp, herase]
  unchanged := by
    intro p l k hp hk
    refine enqueue_of_max hp ?_
    rcases hk with rfl | rfl
    · rfl
    · cases k <;> rfl
  removed := fun p => ⟨q.priority? p, rfl, fun _ => (mem_level_iff h).symm, h.level_remove p⟩
  served := by
    intro eligible x hx
    rw [operate_pop, hx]
    refine ⟨rfl, ?_⟩
    rw [← popWhere_eq_find?] at hx
    obtain ⟨⟨y, q'⟩, hpop, rfl⟩ := Option.map_eq_some_iff.mp hx
    rw [operate, hpop]
    exact order_popWhere hpop
  nobody := by
    intro eligible hnone
    rw [← popWhere_eq_find?, Option.map_eq_none_iff] at hnone
    rw [operate, hnone]
  kept := level_operate q
  high := fun o _ => h.high_operate o
  urgent := by
    intro eligible p hserved
    rw [operate] at hserved
    cases hpop : q.popWhere eligible with
    | none =>
        rw [hpop] at hserved
        cases hserved
    | some r =>
        obtain ⟨x, q'⟩ := r
        rw [hpop] at hserved
        cases hserved
        exact (popWhere_split hpop).2.2.2 rfl

/-! ### Histories -/

lemma after_append (q : Queue) (os os' : List Operation) :
    q.after (os ++ os') = (q.after os).after os' :=
  List.foldl_append

/-- A die of the high level that is found at the low one has been out of the queue. -/
lemma Represents.left_between (h : q.Represents f) (os : List Operation)
    (hhigh : q.priority? p = some .high) (hlow : (q.after os).priority? p = some .low) :
    ∃ n ≤ os.length, (q.after (os.take n)).priority? p = none := by
  induction os generalizing q f with
  | nil =>
      rw [show q.after [] = q from rfl, hhigh] at hlow
      cases hlow
  | cons o os ih =>
      obtain ⟨g, -, hg⟩ := h.operate o
      rcases h.unique.high_operate o hhigh with hstay | hleft
      · obtain ⟨n, hn, hnone⟩ := ih hg hstay hlow
        exact ⟨n + 1, Nat.succ_le_succ hn, hnone⟩
      · exact ⟨1, Nat.succ_le_succ (Nat.zero_le _), hleft⟩

/-- **The queue is two lines, one before the other.** Take any history of operations from the
empty queue. It has the answers that two lines with tickets give, and the lists are then those of
the lines: no die stands twice, and each list has its dice in the order in which they entered that
level. What a further operation does to the lists is told by `Queue.Serves`, and a die of the high
level that is at the low one later on has left the queue in between. -/
theorem serves_after (os : List Operation) :
    let q := after {} os
    (q.high ++ q.low).Nodup
      ∧ (∃ f, Fifo.Run {} os (answers {} os) f ∧ q.Represents f)
      ∧ q.Serves
      ∧ ∀ p os', q.priority? p = some .high → (after {} (os ++ os')).priority? p = some .low →
          ∃ n ≤ os'.length, (after {} (os ++ os'.take n)).priority? p = none := by
  intro q
  obtain ⟨f, hrun, hf⟩ := Represents.empty.after os
  refine ⟨hf.unique, ⟨f, hrun, hf⟩, hf.unique.serves, fun p os' hhigh hlow => ?_⟩
  rw [after_append] at hlow
  obtain ⟨n, hn, hnone⟩ := hf.left_between os' hhigh hlow
  exact ⟨n, hn, by rw [after_append]; exact hnone⟩

/-- A die that is asked for twice is promoted behind the one that came before it. -/
example : (({} : Queue).after
    [.enqueue ⟨10⟩ .low, .enqueue ⟨12⟩ .high, .enqueue ⟨10⟩ .high, .enqueue ⟨10⟩ .low])
    = ⟨[⟨12⟩, ⟨10⟩], []⟩ := by decide

end Queue

end DiceHost.Link
