/-
A cache that follows the events of a library.

* `CacheEntry.isDropped`, `entries_applyEvent`: the entries that the cache drops for an event;
* `CacheEntry.Current`: an entry is what a compilation gives now; `CacheEntry.Doomed`: something
  on its way makes the cache drop it;
* `CacheEntry.Current.answer`: **an entry stays current through every request whose event does
  not make the cache drop it**;
* `Following`: a library, its cache, the events that the cache has still to take, and the options
  with which each entry was compiled; `Move`, `Following.moves`: requests to the library, calls of
  the cache and deliveries of events, in any order;
* `Following.Covered.moves`: **every entry is current or doomed, at all times**;
* `compileProfile_of_idle`: **when nothing is on its way, every entry is what a compilation
  gives**.
-/
import DiceHost.Proofs.DataSet.Transparency
import DiceHost.Proofs.Library.Requests
import DiceHost.Service.Basic

namespace DiceHost.DataSet

open Service

variable {l l' : Library} {u : Uuid} {o : CompileOptions} {x : CacheEntry}

/-! ### Entries that are dropped -/

/-- Whether the cache drops the entry of a profile for an event: the profile has changed, or
something that the entry depends on. -/
def CacheEntry.isDropped (e : LibraryEvent) (u : Uuid) (x : CacheEntry) : Bool :=
  match e.kind with
  | .profile => u = e.uuid
  | .animation | .pattern => Cache.CacheEntry.dependsOn x e.uuid

lemma entries_applyEvent (c : Cache) (e : LibraryEvent) :
    (c.applyEvent e).entries = c.entries.filter fun p => !p.2.isDropped e p.1 := by
  obtain ⟨change, kind, v⟩ := e
  cases kind with
  | profile => exact List.filter_congr fun p _ => decide_not
  | animation | pattern => rfl

/-! ### Entries that are current -/

/-- An entry is what a compilation of its profile gives and depends on. -/
def CacheEntry.Current (x : CacheEntry) (u : Uuid) (l : Library) (o : CompileOptions) : Prop :=
  ∃ p, l.profile? u = some p ∧ DataSet.dependencies p l = .ok x.dependencies
    ∧ compile p l o = .ok x.compiled

/-- Libraries that have the same for what a profile depends on agree on it. -/
lemma dependencies_congr {p : Profile} {d : Dependencies} (hd : dependencies p l = .ok d)
    (hanimation : ∀ v ∈ d.animations, l.animation? v = l'.animation? v)
    (hpattern : ∀ v ∈ d.patterns, l.pattern? v = l'.pattern? v) :
    dependencies p l' = .ok d ∧ Agree p l l' := by
  obtain ⟨hsupplies, rfl⟩ := dependencies_eq_ok.mp hd
  have hshown : ∀ v ∈ p.animationRefs, l.shown? v = l'.shown? v := fun v hv => by
    rw [Library.shown?, Library.shown?, hanimation v hv]
  have hpattern' : ∀ v ∈ p.animationRefs, ∀ w, l.shown? v = some w →
      l.pattern? w = l'.pattern? w := fun v hv w hw =>
    hpattern w (mem_firsts.mpr (List.mem_filterMap.mpr ⟨v, hv, hw⟩))
  constructor
  · refine dependencies_eq_ok.mpr ⟨fun v hv => ?_, ?_⟩
    · obtain ⟨hthere, hwith⟩ := hsupplies v hv
      refine ⟨hanimation v hv ▸ hthere, fun w hw => ?_⟩
      rw [← hshown v hv] at hw
      exact hpattern' v hv w hw ▸ hwith w hw
    · rw [List.filterMap_congr hshown]
  · exact ⟨rfl, rfl, hanimation, hpattern'⟩

/-- **An entry stays current through every request whose event does not make the cache drop
it.** -/
theorem CacheEntry.Current.answer {r : Library.Request} (h : x.Current u l o) (hs : l.Sound)
    (hroomy : (l.answer r).library.Roomy)
    (hkept : ∀ e ∈ (l.answer r).events, x.isDropped e u = false) :
    x.Current u (l.answer r).library o := by
  obtain ⟨p, hp, hd, hx⟩ := h
  -- what the entry was compiled from is not named by the event
  have hsame {k : EntryKind} {v : Uuid} (hv : ∀ c, x.isDropped ⟨c, k, v⟩ u = true) :
      (l.answer r).library.entity? k v = l.entity? k v :=
    Library.entity?_answer_of_untold hs hroomy fun c hc =>
      Bool.false_ne_true ((hkept _ hc).symm.trans (hv c))
  have hanimation : ∀ v ∈ x.dependencies.animations,
      l.animation? v = (l.answer r).library.animation? v := fun v hv =>
    (hsame (k := .animation) fun c => by simp [isDropped, Cache.CacheEntry.dependsOn, hv]).symm
  have hpattern : ∀ v ∈ x.dependencies.patterns,
      l.pattern? v = (l.answer r).library.pattern? v := fun v hv =>
    (hsame (k := .pattern) fun c => by simp [isDropped, Cache.CacheEntry.dependsOn, hv]).symm
  have hprofile : (l.answer r).library.profile? u = l.profile? u :=
    hsame (k := .profile) fun c => by simp [isDropped]
  obtain ⟨hd', hagree⟩ := dependencies_congr hd hanimation hpattern
  exact ⟨p, hprofile.trans hp, hd', (compile_congr ⟨rfl, rfl, rfl, rfl, rfl, rfl⟩ hagree) ▸ hx⟩

lemma CacheEntry.Current.compileProfile (h : x.Current u l o) :
    compileProfile u l o = .ok x.compiled := by
  obtain ⟨p, hp, -, hx⟩ := h
  rw [compileProfile_eq hp, hx]

/-! ### Entries that are doomed -/

/-- The cache drops an entry when it takes what is on its way. -/
def CacheEntry.Doomed (x : CacheEntry) (u : Uuid) (i : Inbox LibraryEvent) : Prop :=
  i.missed ≠ 0 ∨ ∃ e ∈ i.pending, x.isDropped e u = true

section Inbox

variable {i : Inbox LibraryEvent}

/-- An entry is doomed by an event that arrives, and still by what was on its way. -/
lemma CacheEntry.doomed_push {e : LibraryEvent} (h : x.Doomed u i ∨ x.isDropped e u = true) :
    x.Doomed u (i.push e) := by
  rw [Inbox.push]
  split_ifs with hfull
  · obtain (hmissed | ⟨e', he', hdropped⟩) | hdropped := h
    · exact .inl hmissed
    · exact .inr ⟨e', List.mem_append_left _ he', hdropped⟩
    · exact .inr ⟨e, List.mem_append_right _ List.mem_cons_self, hdropped⟩
  · -- the oldest event is lost, and the cache will be cleared for that
    exact .inl (Nat.succ_ne_zero _)

lemma CacheEntry.doomed_pushAll {es : List LibraryEvent}
    (h : x.Doomed u i ∨ ∃ e ∈ es, x.isDropped e u = true) : x.Doomed u (i.pushAll es) := by
  induction es generalizing i with
  | nil => exact h.resolve_right (by simp)
  | cons e es ih =>
      refine ih ?_
      rw [List.exists_mem_cons_iff, ← or_assoc] at h
      exact h.imp_left CacheEntry.doomed_push

/-- What the cache keeps when it takes something is doomed as before. -/
lemma CacheEntry.doomed_take {n : Notice LibraryEvent} {i' : Inbox LibraryEvent} {c : Cache}
    (htake : i.take? = some (n, i')) (hx : (u, x) ∈ (follow c n).entries) :
    (u, x) ∈ c.entries ∧ (x.Doomed u i → x.Doomed u i') := by
  rw [Inbox.take?] at htake
  split_ifs at htake with hmissed
  · cases hpending : i.pending with
    | nil =>
        rw [hpending] at htake
        cases htake
    | cons e pending =>
        rw [hpending] at htake
        cases htake
        rw [follow, entries_applyEvent, List.mem_filter] at hx
        refine ⟨hx.1, fun hdoomed => .inr ?_⟩
        obtain ⟨e', he', hdropped⟩ := hdoomed.resolve_left (absurd hmissed)
        rw [hpending, List.mem_cons] at he'
        -- the entry is kept, so another event dooms it
        obtain rfl | he' := he'
        · rw [hdropped] at hx
          exact absurd hx.2 Bool.false_ne_true
        · exact ⟨e', he', hdropped⟩
  · cases htake
    cases hx

end Inbox

/-! ### Runs -/

/-- Whether a call of the cache compiles a data set and keeps it. -/
def Cache.compiles (c : Cache) (u : Uuid) (l : Library) (o : CompileOptions) : Bool :=
  (c.getOrCompile u l o).1.isOk && c.misses < (c.getOrCompile u l o).2.misses

/-- A call that compiles keeps what a compilation gives in place of the old entry; any other
call keeps the entries as they are. -/
lemma Cache.entries_getOrCompile (c : Cache) (u : Uuid) (l : Library) (o : CompileOptions) :
    (c.compiles u l o = false ∧ (c.getOrCompile u l o).2.entries = c.entries)
      ∨ (c.compiles u l o = true ∧ ∃ x : CacheEntry, x.Current u l o
        ∧ (c.getOrCompile u l o).2.entries = (c.put u x).entries) := by
  rw [compiles, getOrCompile]
  cases hp : l.profile? u with
  | none => exact .inl ⟨rfl, rfl⟩
  | some p =>
      cases hd : dependencies p l with
      | error err => exact .inl (by simp [hd, Except.isOk, Except.toBool])
      | ok d =>
          simp only [hd]
          cases (c.entry? u).filter (·.digest = contentDigest p d l o) with
          | some e => exact .inl (by simp)
          | none =>
              cases hx : compile p l o with
              | error err => exact .inl ⟨rfl, rfl⟩
              | ok x =>
                  refine .inr ⟨by simp [Except.isOk, Except.toBool, put], ?_⟩
                  exact ⟨⟨contentDigest p d l o, d, x⟩, ⟨p, hp, hd, hx⟩, rfl⟩

/-- A library, its cache, what the cache has still to take of the events, and the options with
which each entry was compiled. -/
structure Following where
  library : Library
  cache : Cache := {}
  inbox : Inbox LibraryEvent := {}
  options : Uuid → CompileOptions := fun _ => {}

/-- What is done to a library and its cache. -/
inductive Move where
  | request (r : Library.Request)
  /-- The data set of a profile is asked for. -/
  | call (u : Uuid) (o : CompileOptions)
  /-- The cache takes an event, or takes notice that it has missed some. -/
  | deliver

namespace Following

/-- What becomes of a library and its cache. -/
def move (s : Following) : Move → Following
  | .request r =>
    { s with
      library := (s.library.answer r).library
      inbox := s.inbox.pushAll (s.library.answer r).events }
  | .call u o =>
    { s with
      cache := (s.cache.getOrCompile u s.library o).2
      options := if s.cache.compiles u s.library o then Function.update s.options u o
        else s.options }
  | .deliver =>
    match s.inbox.take? with
    | none => s
    | some (n, inbox) => { s with inbox, cache := follow s.cache n }

/-- Some moves one after the other. -/
def moves (s : Following) (ms : List Move) : Following := ms.foldl move s

/-- Every entry is current, or doomed. -/
def Covered (s : Following) : Prop :=
  ∀ u x, (u, x) ∈ s.cache.entries →
    x.Current u s.library (s.options u) ∨ x.Doomed u s.inbox

variable {s : Following}

/-- The library after a move. -/
lemma Covered.request {r : Library.Request} (h : s.Covered) (hs : s.library.Sound)
    (hroomy : (s.library.answer r).library.Roomy) : (s.move (.request r)).Covered := by
  intro u x hx
  by_cases hdropped : ∃ e ∈ (s.library.answer r).events, x.isDropped e u = true
  · exact .inr (CacheEntry.doomed_pushAll (.inr hdropped))
  · push Not at hdropped
    refine (h u x hx).imp (fun hcurrent => ?_)
      fun hdoomed => CacheEntry.doomed_pushAll (.inl hdoomed)
    exact hcurrent.answer hs hroomy fun e he => Bool.eq_false_of_not_eq_true (hdropped e he)

lemma Covered.call {o : CompileOptions} (h : s.Covered) : (s.move (.call u o)).Covered := by
  intro v y hy
  rw [move] at hy ⊢
  obtain ⟨hcompiles, hentries⟩ | ⟨hcompiles, x, hx, hentries⟩ :=
    s.cache.entries_getOrCompile u s.library o
  · rw [hcompiles]
    exact h v y (hentries ▸ hy)
  · rw [hcompiles, if_pos rfl]
    rw [hentries, Cache.put, List.mem_cons, List.mem_filter] at hy
    obtain heq | ⟨hmem, hne⟩ := hy
    · cases heq
      refine .inl ?_
      dsimp only
      rwa [Function.update_self]
    · dsimp only
      rw [Function.update_of_ne (of_decide_eq_true hne)]
      exact h v y hmem

lemma Covered.deliver (h : s.Covered) : (s.move .deliver).Covered := by
  intro u x hx
  rw [move] at hx ⊢
  cases htake : s.inbox.take? with
  | none =>
      rw [htake] at hx
      exact h u x hx
  | some taken =>
      rw [htake] at hx
      obtain ⟨hmem, hdoomed⟩ := CacheEntry.doomed_take htake hx
      exact (h u x hmem).imp_right hdoomed

/-- The requests among some moves. -/
def requests : List Move → List Library.Request :=
  List.filterMap fun
    | .request r => some r
    | .call .. | .deliver => none

/-- Only requests change the library. -/
lemma library_moves (s : Following) (ms : List Move) :
    (s.moves ms).library = s.library.run (requests ms) := by
  induction ms generalizing s with
  | nil => rfl
  | cons m ms ih =>
      rw [moves, List.foldl_cons]
      refine (ih (s.move m)).trans ?_
      cases m with
      | request r => rfl
      | call u o => rfl
      | deliver =>
          rw [move]
          cases s.inbox.take? <;> rfl

/-- **Every entry is current or doomed, at all times.** -/
theorem Covered.moves {ms : List Move} (h : s.Covered) (hs : s.library.Sound)
    (hroomy : (s.moves ms).library.Roomy) : (s.moves ms).Covered := by
  induction ms generalizing s with
  | nil => exact h
  | cons m ms ih =>
      have hroomy' : (s.move m).library.Roomy := by
        rw [moves, List.foldl_cons] at hroomy
        exact Library.Roomy.of_run _ (library_moves (s.move m) ms ▸ hroomy)
      cases m with
      | request r => exact ih (h.request hs hroomy') (hs.answer hroomy') hroomy
      | call u o => exact ih h.call hs hroomy
      | deliver =>
          refine ih h.deliver ?_ hroomy
          rw [move]
          cases s.inbox.take? <;> exact hs

/-- A library that requests have made, with an empty cache that begins to follow it, and what
becomes of them. -/
def Reachable (s : Following) : Prop :=
  ∃ rs ms, s = ({ library := Library.run {} rs } : Following).moves ms

end Following

/-- **When nothing is on its way, every entry is what a compilation gives.** Requests, calls with
any options and deliveries are made in any order. Once the cache has taken every event, or noticed
that it missed some, each data set that it holds is the one that a compilation from the library
gives now, with the options with which it was compiled. -/
theorem compileProfile_of_idle {s : Following} (hreachable : s.Reachable)
    (hroomy : s.library.Roomy) (hidle : s.inbox.take? = none) {u : Uuid} {y : Compiled}
    (hy : s.cache.get? u = some y) : compileProfile u s.library (s.options u) = .ok y := by
  obtain ⟨rs, ms, rfl⟩ := hreachable
  obtain ⟨x, hx, rfl⟩ := Option.map_eq_some_iff.mp hy
  have hs : (Library.run {} rs).Sound := by
    rw [Following.library_moves] at hroomy
    exact Library.Sound.empty.run (Library.Roomy.of_run _ hroomy)
  have hcovered : ({ library := Library.run {} rs } : Following).Covered := nofun
  obtain hcurrent | hmissed | ⟨e, he, -⟩ :=
    hcovered.moves hs hroomy u x (Cache.mem_of_found hx)
  · exact hcurrent.compileProfile
  · rw [Inbox.take?, if_neg hmissed] at hidle
    cases hidle
  · rw [Inbox.take?] at hidle
    split_ifs at hidle
    cases hpending : (({ library := Library.run {} rs } : Following).moves ms).inbox.pending with
    | nil =>
        rw [hpending] at he
        cases he
    | cons e' pending =>
        rw [hpending] at hidle
        cases hidle

namespace Sample

/-- A second flash, which no profile plays. -/
def spare : Animation := .flash ⟨3⟩ "spare" .red 500 1

/-- An edit whose event drops the entry, a call that fails, a call that compiles anew, and an event
of something else. -/
def followed : List Move :=
  [.request (.put .animation flash), .request (.put .profile signal), .deliver, .deliver,
    .call signal.uuid {},
    .request (.edit .animation flash.uuid (fun (a : Animation) => { a with duration := 2000 })
      default),
    .deliver, .call signal.uuid ⟨{ rules := 0 }⟩, .call signal.uuid ⟨{ rules := 7 }⟩,
    .request (.put .animation spare), .deliver]

/-- What becomes of an empty library. -/
def follower : Following := ({ library := {} } : Following).moves followed

end Sample

/-- The entry of the last call that compiled has outlived the last event. -/
theorem compileProfile_of_idle_follower : ∃ y,
    Sample.follower.cache.get? Sample.signal.uuid = some y
      ∧ compileProfile Sample.signal.uuid Sample.follower.library ⟨{ rules := 7 }⟩ = .ok y := by
  have hroomy : Sample.follower.library.Roomy := by
    intro k
    change (Sample.follower.library.table k).arena.slots.length ≤ 2 ^ 32
    cases k <;> decide +kernel
  have hkept : (Sample.follower.cache.get? Sample.signal.uuid).isSome = true := by decide +kernel
  have hoptions : Sample.follower.options Sample.signal.uuid = ⟨{ rules := 7 }⟩ := by
    decide +kernel
  have hidle : Sample.follower.inbox.take? = none := by decide +kernel
  have hreachable : Sample.follower.Reachable := ⟨[], Sample.followed, rfl⟩
  obtain ⟨y, hy⟩ := Option.isSome_iff_exists.mp hkept
  exact ⟨y, hy, hoptions ▸ compileProfile_of_idle hreachable hroomy hidle hy⟩

end DiceHost.DataSet
