/-
The integrity of a library over any history.

* `handle?_run`: a handle stays that of its identifier until a request removes it;
* `generation_run`: the generation of a slot tells how often it was freed;
* `mem_freed`: the removal of an identifier frees the slot of its handle;
* `get?_run_of_kept`, `get?_run_of_removed`: what a handle names later on;
* `compileProfile_ne_entity`: no entity of a library is found at fault by a compilation;
* `Library.Keeps`: a library finds and lists what a register has;
* `integrity`: **the integrity of a library over any history**.
-/
import DiceHost.Proofs.DataSet.Blame
import DiceHost.Proofs.Library.Requests

namespace DiceHost.Library

variable {l : Library} {k : EntryKind} {u : Uuid} {g h : Handle} {r : Request} {rs : List Request}

/-! ### Handles -/

/-- The removal of an identifier frees the slot of its handle. -/
lemma freedBy?_of_removed (hh : (l.table k).handle? u = some h)
    (hremoved : ⟨.removed, k, u⟩ ∈ (l.answer r).events) : l.freedBy? r = some (k, h.index) := by
  generalize l.answer r = o, l.answer_answers r = ho at hremoved
  cases ho with
  | refused => cases hremoved
  | stored x =>
      rw [List.mem_singleton, change_some] at hremoved
      have hchange := congrArg LibraryEvent.change hremoved
      split_ifs at hchange
  | removed _ _ hfreed =>
      obtain ⟨rfl, rfl⟩ : k = r.kind ∧ u = r.uuid := by simpa using hremoved
      rw [hfreed, hh]
      rfl

section Answer

variable (hs : l.Sound) (hroomy : (l.answer r).library.Roomy)

include hs

/-- The handle of an identifier stays so after a request that does not remove it. -/
lemma handle?_answer (hh : (l.table k).handle? u = some h)
    (hkept : ⟨.removed, k, u⟩ ∉ (l.answer r).events) :
    ((l.answer r).library.table k).handle? u = some h := by
  generalize l.answer r = o, l.answer_answers r = ho at hkept ⊢
  by_cases hk : k = r.kind
  · subst hk
    cases ho with
    | refused => exact hh
    | stored x hx =>
        rw [table_withTable, Table.handle?_put (hs _)]
        split_ifs with hu
        · rw [hu] at hh
          rw [(hs _).put_of_some hh]
        · exact hh
    | removed =>
        rw [table_withTable, Table.handle?_remove, if_neg, hh]
        rintro rfl
        exact hkept List.mem_cons_self
  · cases ho with
    | refused => exact hh
    | stored | removed =>
        rw [table_withTable_of_ne _ _ hk]
        exact hh

include hroomy

/-- The handle that a request returns is that of its identifier, in the generation of its slot. -/
lemma handle?_of_returned (hg : (l.answer r).handle? = some g) :
    ((l.answer r).library.table r.kind).handle? r.uuid = some g := by
  generalize l.answer r = o, l.answer_answers r = ho at hg hroomy
  cases ho with
  | refused | removed => cases hg
  | stored x hx handle? hhandle =>
      rw [table_withTable, Table.handle?_put (hs _), (Request.checked_of_leaves? hx).2,
        if_pos rfl, hhandle g hg]

/-- A slot begins a new generation each time that it is freed. -/
lemma generation_answer (i : UInt32) :
    ((l.answer r).library.table k).arena.generation i.toNat
      = (l.table k).arena.generation i.toNat
        + UInt32.ofNat ((l.freedBy? r).toList.count (k, i)) := by
  generalize l.answer r = o, l.answer_answers r = ho at hroomy
  cases ho with
  | refused _ hfreed => simp [hfreed]
  | stored x _ _ _ hfreed =>
      rw [hfreed, Option.toList_none, List.count_nil,
        show UInt32.ofNat 0 = 0 from rfl, UInt32.add_zero]
      by_cases hk : k = r.kind
      · subst hk
        have hput := hroomy r.kind
        rw [table_withTable] at hput ⊢
        exact Table.generation_put (hs _) hput _
      · rw [table_withTable_of_ne _ _ hk]
  | removed _ hsome hfreed =>
      obtain ⟨y, hy⟩ := Option.isSome_iff_exists.mp hsome
      obtain ⟨h, hh, -⟩ := Table.get?_eq_some.mp hy
      rw [hfreed, hh, Option.map_some, Option.toList_some, List.count_singleton]
      by_cases hk : k = r.kind
      · subst hk
        rw [table_withTable, Table.generation_remove (hs _) hh]
        by_cases hi : i = h.index
        · simp [hi]
        · rw [if_neg fun h => hi (UInt32.toNat_inj.mp h)]
          simp [Ne.symm hi]
      · rw [table_withTable_of_ne _ _ hk]
        simp [Ne.symm hk]

end Answer

section Run

variable (hs : l.Sound) (hroomy : (l.run rs).Roomy)

include hs hroomy

/-- A handle stays that of its identifier until a request removes it. -/
lemma handle?_run (hh : (l.table k).handle? u = some h)
    (hkept : ⟨.removed, k, u⟩ ∉ l.told rs) : ((l.run rs).table k).handle? u = some h := by
  induction rs generalizing l with
  | nil => exact hh
  | cons r rs ih =>
      rw [told, List.mem_append, not_or] at hkept
      have hroomy' : (l.answer r).library.Roomy := Roomy.of_run rs hroomy
      exact ih (hs.answer hroomy') hroomy (handle?_answer hs hh hkept.1) hkept.2

/-- The slot of a handle is freed when its identifier is removed. -/
lemma mem_freed (hh : (l.table k).handle? u = some h)
    (hremoved : ⟨.removed, k, u⟩ ∈ l.told rs) : (k, h.index) ∈ l.freed rs := by
  induction rs generalizing l with
  | nil => cases hremoved
  | cons r rs ih =>
      rw [freed, List.mem_append]
      by_cases hnow : ⟨.removed, k, u⟩ ∈ (l.answer r).events
      · rw [freedBy?_of_removed hh hnow]
        exact .inl List.mem_cons_self
      · rw [told, List.mem_append, or_iff_right hnow] at hremoved
        have hroomy' : (l.answer r).library.Roomy := Roomy.of_run rs hroomy
        exact .inr (ih (hs.answer hroomy') hroomy (handle?_answer hs hh hnow) hremoved)

/-- The generation of a slot tells how often it was freed. -/
lemma generation_run (i : UInt32) : ((l.run rs).table k).arena.generation i.toNat
    = (l.table k).arena.generation i.toNat + UInt32.ofNat ((l.freed rs).count (k, i)) := by
  induction rs generalizing l with
  | nil => simp [run, freed]
  | cons r rs ih =>
      have hroomy' : (l.answer r).library.Roomy := Roomy.of_run rs hroomy
      rw [run, ih (hs.answer hroomy') hroomy, generation_answer hs hroomy', freed,
        List.count_append, UInt32.ofNat_add, UInt32.add_assoc]

/-- The handle of an identifier names its entity until it is removed. -/
theorem get?_run_of_kept (hh : (l.table k).handle? u = some h)
    (hkept : ⟨.removed, k, u⟩ ∉ l.told rs) :
    ((l.run rs).table k).arena.get? h = (l.run rs).entity? k u :=
  Table.get?_arena (handle?_run hs hroomy hh hkept)

/-- The handle of an identifier names nothing after its removal, unless its slot was freed so
often that the generations began again. -/
theorem get?_run_of_removed (hh : (l.table k).handle? u = some h)
    (hremoved : ⟨.removed, k, u⟩ ∈ l.told rs)
    (hfreed : (l.freed rs).count (k, h.index) < 2 ^ 32) :
    ((l.run rs).table k).arena.get? h = none := by
  obtain ⟨_, hx, -⟩ := (hs k).found u h hh
  have hpos := List.count_pos_iff.mpr (mem_freed hs hroomy hh hremoved)
  refine Arena.get?_eq_none_of_generation fun heq => ?_
  rw [generation_run hs hroomy, Arena.generation_of_get? hx] at heq
  have hzero : UInt32.ofNat ((l.freed rs).count (k, h.index)) = 0 := by
    simpa using heq
  have hnat := congrArg UInt32.toNat hzero
  rw [UInt32.toNat_ofNat_of_lt' hfreed] at hnat
  simp only [UInt32.toNat_zero] at hnat
  omega

end Run

/-! ### Compilations -/

/-- No entity of a library is found at fault by a compilation. -/
theorem compileProfile_ne_entity (hchecked : Register.Checked l.entity?)
    (u : Uuid) (o : DataSet.CompileOptions) (e : EntityError) :
    DataSet.compileProfile u l o ≠ .error (.entity e) := by
  rw [DataSet.compileProfile]
  cases hp : l.profile? u with
  | none => nofun
  | some p =>
      refine DataSet.compile_ne_entity (hchecked .profile u p hp).1 ?_ o e
      exact ⟨fun v a ha => (hchecked .animation v a ha).1,
        fun v q hq => (hchecked .pattern v q hq).1⟩

/-! ### Histories -/

/-- A library finds and lists what a register has, each entity once. -/
structure Keeps (l : Library) (m : Register) : Prop where
  found : ∀ k u, l.entity? k u = m k u
  listed : ∀ k x, x ∈ (l.table k).toList ↔ m k (Identified.uuid x) = some x
  once : ∀ k, ((l.table k).toList.map Identified.uuid).Nodup

/-- A sound library keeps what it finds. -/
lemma Sound.keeps (hs : l.Sound) {m : Register} (hm : l.entity? = m) : l.Keeps m where
  found k u := congrFun (congrFun hm k) u
  listed k _ := hm ▸ Table.mem_toList (hs k)
  once k := Table.nodup_toList (hs k)

/-- **The integrity of a library over any history.** After any requests, as long as there are
indices for the slots, the library finds and lists just what the last requests that were granted
left under each identifier; all of it passes its check and has its identifier. Each request tells
the one event of its change, and changes and tells nothing when it is refused. A put returns a
handle just when the entity passes its check; the handle names the entity of its identifier until
a request removes it, and nothing from then on, unless its slot is freed `2 ^ 32` times. And no
compilation finds an entity at fault. -/
theorem integrity (rs : List Request) (hroomy : (run {} rs).Roomy) :
    (run {} rs).Keeps (kept rs) ∧ (kept rs).Checked
      ∧ (∀ before r after, rs = before ++ r :: after →
        ((run {} before).answer r).events = (r.event? (kept before)).toList
        ∧ (r.leaves? (kept before) = none →
          ((run {} before).answer r).library = run {} before)
        ∧ (∀ k x, r = .put k x →
          (((run {} before).answer r).handle?.isSome = true ↔ k.check x = .ok ()))
        ∧ ∀ h, ((run {} before).answer r).handle? = some h →
          (⟨.removed, r.kind, r.uuid⟩ ∉ told (run {} (before ++ [r])) after →
            ((run {} rs).table r.kind).arena.get? h = kept rs r.kind r.uuid)
          ∧ (⟨.removed, r.kind, r.uuid⟩ ∈ told (run {} (before ++ [r])) after →
            (freed {} rs).count (r.kind, h.index) < 2 ^ 32 →
              ((run {} rs).table r.kind).arena.get? h = none))
      ∧ ∀ u o e, DataSet.compileProfile u (run {} rs) o ≠ .error (.entity e) := by
  have hkept {qs : List Request} (h : (run {} qs).Roomy) : (run {} qs).entity? = kept qs := by
    rw [entity?_run Sound.empty h, entity?_empty, kept]
  refine ⟨(Sound.empty.run hroomy).keeps (hkept hroomy), checked_kept rs, ?_, ?_⟩
  · rintro before r after rfl
    have hrun : run {} (before ++ r :: after) = ((run {} before).answer r).library.run after :=
      run_append {} before (r :: after)
    have hone : run {} (before ++ [r]) = ((run {} before).answer r).library :=
      run_append {} before [r]
    have hroomy₁ : ((run {} before).answer r).library.Roomy := Roomy.of_run after (hrun ▸ hroomy)
    have hroomy₀ : (run {} before).Roomy := Roomy.of_run [r] hroomy₁
    have hs₀ : (run {} before).Sound := Sound.empty.run hroomy₀
    have hs₁ := hs₀.answer hroomy₁
    refine ⟨hkept hroomy₀ ▸ events_answer _ r, fun h => ?_, ?_, fun h hh => ?_⟩
    · exact library_answer_of_refused (hkept hroomy₀ ▸ h)
    · rintro k x rfl
      exact isSome_handle?_put _ x
    · have hcurrent := handle?_of_returned hs₀ hroomy₁ hh
      rw [hone, ← hkept hroomy, hrun]
      rw [hrun] at hroomy
      refine ⟨get?_run_of_kept hs₁ hroomy hcurrent, fun hremoved hfreed => ?_⟩
      refine get?_run_of_removed hs₁ hroomy hcurrent hremoved (lt_of_le_of_lt ?_ hfreed)
      rw [freed_append, freed, List.count_append, List.count_append]
      omega
  · exact compileProfile_ne_entity (hkept hroomy ▸ checked_kept rs)

namespace Sample

def glow : Animation := .flash ⟨1⟩ "glow" .red 1000 1

def blink : Animation := .flash ⟨2⟩ "blink" .red 250 3

def profile : Profile :=
  .new ⟨3⟩ "table" .d6 [⟨.handling, [.playAnimation glow.uuid 0 1]⟩] default

/-- An animation leaves its slot to another; two edits, of which one is refused. -/
def history : List Request :=
  [.put .animation glow, .put .profile profile,
    .edit .animation glow.uuid (fun (a : Animation) => { a with faceMask := 0 }) default,
    .edit .profile profile.uuid (fun (p : Profile) => { p with uuid := ⟨7⟩, name := "desk" })
      default,
    .remove .animation glow.uuid, .put .animation blink]

end Sample

/-- The handle of the first animation names nothing when its slot has another. -/
theorem integrity_reused :
    (run {} Sample.history).Keeps (kept Sample.history)
      ∧ kept Sample.history .profile Sample.profile.uuid
        = some ({ Sample.profile with name := "desk" } : Profile)
      ∧ (run {} Sample.history).animations.arena.get? ⟨0, 0⟩ = none
      ∧ (run {} Sample.history).animations.arena.get? ⟨0, 1⟩ = some Sample.blink := by
  have hroomy : (run {} Sample.history).Roomy := by
    intro k
    change ((run {} Sample.history).table k).arena.slots.length ≤ 2 ^ 32
    cases k <;> decide +kernel
  have hprofile : (run {} Sample.history).profile? Sample.profile.uuid
      = some { Sample.profile with name := "desk" } := by decide +kernel
  have hblink : (run {} Sample.history).animation? Sample.blink.uuid = some Sample.blink := by
    decide +kernel
  obtain ⟨hkeeps, -, hanswers, -⟩ := integrity Sample.history hroomy
  refine ⟨hkeeps, (hkeeps.found .profile _).symm.trans hprofile, ?_, ?_⟩
  · obtain ⟨-, -, -, hhandle⟩ := hanswers [] (.put .animation Sample.glow) _ rfl
    exact (hhandle ⟨0, 0⟩ (by decide +kernel)).2 (by decide +kernel) (by decide +kernel)
  · obtain ⟨-, -, -, hhandle⟩ := hanswers (Sample.history.take 5) (.put .animation Sample.blink) []
      rfl
    rw [← hkeeps.found] at hhandle
    exact ((hhandle ⟨0, 1⟩ (by decide +kernel)).1 nofun).trans hblink

end DiceHost.Library
