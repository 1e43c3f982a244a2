/-
The cache of data sets cannot be told from the compilation.

* `Act`: edits of the library, calls of the cache with any options, entries dropped, and events of
  the library, which may come late, twice or never; `run`: any acts one after the other;
* `met`: the streams that the calls of a run take digests of;
* `Cache.Answers`: how a call ends;
* `Cache.Faithful`: every entry holds the data set of a compilation with one of some streams;
* `Cache.Faithful.answer`: a call of a faithful cache answers as the compilation would, when its
  digest is that of no other stream;
* `Cache.Faithful.run`: **every run keeps the cache faithful**;
* `getOrCompile_transparent`: **each call of a run answers as the compilation would**, when the
  digest tells the streams of the run apart.

An entry is right as long as its digest comes up again, whatever has become of the library: the
stream tells all that the compilation read. So no event has to come for the answers to be right.
-/
import DiceHost.Proofs.DataSet.Content

namespace DiceHost.DataSet

/-! ### Runs -/

/-- What is done to a library and a cache. -/
inductive Act where
  | putProfile (p : Profile)
  | putAnimation (a : Animation)
  | putPattern (q : Pattern)
  | editProfile (u : Uuid) (edit : Profile → Profile) (now : Timestamp)
  | editAnimation (u : Uuid) (edit : Animation → Animation)
  | editPattern (u : Uuid) (edit : Pattern → Pattern)
  | removeProfile (u : Uuid)
  | removeAnimation (u : Uuid)
  | removePattern (u : Uuid)
  /-- The data set of a profile is asked for. -/
  | call (u : Uuid) (o : CompileOptions)
  | invalidate (u : Uuid)
  | invalidateDependency (u : Uuid)
  | clear
  /-- The cache hears of an event, whether or not it has just happened. -/
  | hear (e : LibraryEvent)

/-- The library after a change; a change that is refused leaves it as it is. -/
def settle {ε : Type} (l : Library) : Except ε Library.Update → Library
  | .ok u => u.library
  | .error _ => l

/-- The library after an act. -/
def Act.onLibrary (l : Library) : Act → Library
  | putProfile p => settle l (l.putProfile p)
  | putAnimation a => settle l (l.putAnimation a)
  | putPattern q => settle l (l.putPattern q)
  | editProfile u edit now => settle l (l.editProfile u edit now)
  | editAnimation u edit => settle l (l.editAnimation u edit)
  | editPattern u edit => settle l (l.editPattern u edit)
  | removeProfile u => (l.removeProfile u).elim l (·.1)
  | removeAnimation u => (l.removeAnimation u).elim l (·.1)
  | removePattern u => (l.removePattern u).elim l (·.1)
  | call _ _ | invalidate _ | invalidateDependency _ | clear | hear _ => l

/-- The cache after an act. -/
def Act.onCache (l : Library) (c : Cache) : Act → Cache
  | call u o => (c.getOrCompile u l o).2
  | invalidate u => c.invalidate u
  | invalidateDependency u => c.invalidateDependency u
  | clear => c.clear
  | hear e => c.applyEvent e
  | _ => c

/-- A library and a cache. -/
structure Shop where
  library : Library
  cache : Cache := {}

/-- Some acts one after the other. -/
def run : Shop → List Act → Shop
  | w, [] => w
  | w, a :: as => run ⟨a.onLibrary w.library, a.onCache w.library w.cache⟩ as

/-- The stream of a call, when the profile is there and has dependencies. -/
def stream? (l : Library) (u : Uuid) (o : CompileOptions) : Option (List UInt8) :=
  (l.profile? u).bind fun p => (dependencies p l).toOption.map fun d => contentBytes p d l o

/-- The stream of an act. -/
def Act.stream? (l : Library) : Act → Option (List UInt8)
  | call u o => DataSet.stream? l u o
  | _ => none

/-- The streams of some acts. -/
def met : Library → List Act → List (List UInt8)
  | _, [] => []
  | l, a :: as => (a.stream? l).toList ++ met (a.onLibrary l) as

lemma met_append (w : Shop) (as bs : List Act) :
    met w.library (as ++ bs) = met w.library as ++ met (run w as).library bs := by
  induction as generalizing w with
  | nil => rfl
  | cons a as ih =>
      rw [List.cons_append, met, met, run, List.append_assoc]
      congr 1
      exact ih ⟨a.onLibrary w.library, a.onCache w.library w.cache⟩

section Streams

variable {l : Library} {u : Uuid} {o : CompileOptions}

lemma stream?_eq {p : Profile} {d : Dependencies} (hp : l.profile? u = some p)
    (hd : dependencies p l = .ok d) : stream? l u o = some (contentBytes p d l o) := by
  rw [stream?, hp, Option.bind_some, hd]
  rfl

lemma compileProfile_eq {p : Profile} (hp : l.profile? u = some p) :
    compileProfile u l o = compile p l o := by
  rw [compileProfile, hp]

/-- A profile with a data set is there and has dependencies. -/
lemma isSome_stream? {x : Compiled} (h : compileProfile u l o = .ok x) :
    (stream? l u o).isSome = true := by
  cases hp : l.profile? u with
  | none =>
      rw [compileProfile, hp] at h
      cases h
  | some p =>
      rw [compileProfile_eq hp] at h
      obtain ⟨d, hd⟩ := dependencies_of_compile h
      rw [stream?_eq hp hd, Option.isSome_some]

end Streams

/-! ### Calls -/

/-- How a call of the cache ends, and with which entries: without a profile or its dependencies,
with an entry of the same digest, or with a compilation. -/
inductive Cache.Answers (c : Cache) (u : Uuid) (l : Library) (o : CompileOptions) :
    Except CompileError Compiled → List (Uuid × CacheEntry) → Prop
  | absent (h : stream? l u o = none) (err : CompileError) : Answers c u l o (.error err) c.entries
  | found {p : Profile} {d : Dependencies} {e : CacheEntry} (hp : l.profile? u = some p)
      (hd : dependencies p l = .ok d) (he : (u, e) ∈ c.entries)
      (hdigest : e.digest = contentDigest p d l o) : Answers c u l o (.ok e.compiled) c.entries
  | failed {p : Profile} {err : CompileError} (hp : l.profile? u = some p)
      (hx : compile p l o = .error err) : Answers c u l o (.error err) c.entries
  | compiled {p : Profile} {d : Dependencies} {x : Compiled} (hp : l.profile? u = some p)
      (hd : dependencies p l = .ok d) (hx : compile p l o = .ok x) :
      Answers c u l o (.ok x) (c.put u ⟨contentDigest p d l o, d, x⟩).entries

lemma Cache.mem_of_found {c : Cache} {u : Uuid} {e : CacheEntry}
    (h : c.entry? u = some e) : (u, e) ∈ c.entries := by
  obtain ⟨⟨v, e'⟩, hfind, rfl⟩ := Option.map_eq_some_iff.mp h
  have hv : v = u := by simpa using List.find?_some hfind
  exact hv ▸ List.mem_of_find?_eq_some hfind

lemma Cache.getOrCompile_answers (c : Cache) (u : Uuid) (l : Library) (o : CompileOptions) :
    c.Answers u l o (c.getOrCompile u l o).1 (c.getOrCompile u l o).2.entries := by
  rw [getOrCompile]
  cases hp : l.profile? u with
  | none => exact .absent (by rw [stream?, hp, Option.bind_none]) _
  | some p =>
      cases hd : dependencies p l with
      | error err =>
          simp only [hd]
          exact .absent (by rw [stream?, hp, Option.bind_some, hd]; rfl) err
      | ok d =>
          simp only [hd]
          cases he : (c.entry? u).filter (·.digest = contentDigest p d l o) with
          | some e =>
              obtain ⟨hentry, hdigest⟩ := Option.filter_eq_some_iff.mp he
              exact .found hp hd (mem_of_found hentry) (of_decide_eq_true hdigest)
          | none =>
              cases hx : compile p l o with
              | error err => exact .failed hp hx
              | ok x => exact .compiled hp hd hx

/-! ### Faithful caches -/

/-- An entry holds the data set of a compilation with one of some streams. -/
def CacheEntry.Faithful (ss : List (List UInt8)) (e : CacheEntry) : Prop :=
  ∃ p l o d, compile p l o = .ok e.compiled ∧ DataSet.dependencies p l = .ok d
    ∧ contentBytes p d l o ∈ ss ∧ e.digest = contentDigest p d l o

/-- Every entry of a cache is faithful. -/
def Cache.Faithful (ss : List (List UInt8)) (c : Cache) : Prop :=
  ∀ e ∈ c.entries, e.2.Faithful ss

namespace Cache.Faithful

variable {c c' : Cache} {u : Uuid} {l : Library} {o : CompileOptions} {ss : List (List UInt8)}

/-- With fewer entries a cache is as faithful. -/
lemma of_subset (h : c.Faithful ss) (hsub : c'.entries ⊆ c.entries) : c'.Faithful ss :=
  fun e he => h e (hsub he)

/-- A call of a faithful cache answers as the compilation would. -/
lemma answer (h : c.Faithful ss) (hss : (stream? l u o).toList ⊆ ss)
    (htold : Set.InjOn sha256Hex {s | s ∈ ss}) (x : Compiled) :
    (c.getOrCompile u l o).1 = .ok x ↔ compileProfile u l o = .ok x := by
  have hanswer := c.getOrCompile_answers u l o
  generalize (c.getOrCompile u l o).1 = y, (c.getOrCompile u l o).2.entries = es at hanswer ⊢
  cases hanswer with
  | absent hnone err =>
      refine ⟨nofun, fun hx => ?_⟩
      have hsome := isSome_stream? hx
      rw [hnone] at hsome
      cases hsome
  | @found p d e hp hd he hdigest =>
      obtain ⟨p', l', o', d', hx, hd', hs, hdigest'⟩ := h _ he
      have hmem : contentBytes p d l o ∈ ss := hss (by rw [stream?_eq hp hd]; simp)
      have hstream : contentBytes p' d' l' o' = contentBytes p d l o :=
        htold hs hmem (hdigest'.symm.trans hdigest)
      rw [compileProfile_eq hp, compile_of_contentBytes hx hd' hd hstream]
  | failed hp hx => rw [compileProfile_eq hp, hx]
  | compiled hp hd hx => rw [compileProfile_eq hp, hx]

/-- A call keeps a cache faithful. -/
lemma call (h : c.Faithful ss) (hss : (stream? l u o).toList ⊆ ss) :
    (c.getOrCompile u l o).2.Faithful ss := by
  have hanswer := c.getOrCompile_answers u l o
  rw [Faithful]
  generalize (c.getOrCompile u l o).1 = y, (c.getOrCompile u l o).2.entries = es at hanswer ⊢
  cases hanswer with
  | absent | found | failed => exact h
  | @compiled p d x hp hd hx =>
      intro e he
      rcases List.mem_cons.mp he with rfl | he
      · exact ⟨p, l, o, d, hx, hd, hss (by rw [stream?_eq hp hd]; simp), rfl⟩
      · exact h e (List.mem_of_mem_filter he)

/-- An act keeps a cache faithful. -/
lemma act (h : c.Faithful ss) {a : Act} (hss : (a.stream? l).toList ⊆ ss) :
    (a.onCache l c).Faithful ss := by
  cases a with
  | call u o => exact h.call hss
  | invalidate | invalidateDependency => exact h.of_subset (List.filter_subset_self _)
  | clear => exact h.of_subset (List.nil_subset _)
  | hear e =>
      obtain ⟨change, kind, u⟩ := e
      cases kind <;> exact h.of_subset (List.filter_subset_self _)
  | putProfile | putAnimation | putPattern | editProfile | editAnimation | editPattern
  | removeProfile | removeAnimation | removePattern => exact h

/-- **A run keeps a cache faithful.** -/
theorem run {w : Shop} {as : List Act} (h : w.cache.Faithful ss) (hss : met w.library as ⊆ ss) :
    (run w as).cache.Faithful ss := by
  induction as generalizing w with
  | nil => exact h
  | cons a as ih =>
      rw [met, List.append_subset] at hss
      exact ih (h.act hss.1) hss.2

end Cache.Faithful

/-- **The cache is transparent.** From an empty cache on, each call of a run gives a data set just
when the compilation from the library of that moment does, and then the same, as long as no two
streams of the run have the same digest. -/
theorem getOrCompile_transparent (l : Library) (before after : List Act) (u : Uuid)
    (o : CompileOptions) (x : Compiled)
    (htold : Set.InjOn sha256Hex {s | s ∈ met l (before ++ .call u o :: after)}) :
    ((run ⟨l, {}⟩ before).cache.getOrCompile u (run ⟨l, {}⟩ before).library o).1 = .ok x
      ↔ compileProfile u (run ⟨l, {}⟩ before).library o = .ok x := by
  have hmet := met_append ⟨l, {}⟩ before (.call u o :: after)
  rw [met] at hmet
  have hfaithful : (run ⟨l, {}⟩ before).cache.Faithful (met l (before ++ .call u o :: after)) := by
    refine Cache.Faithful.run nofun ?_
    rw [hmet]
    exact List.subset_append_left _ _
  refine hfaithful.answer ?_ htold x
  rw [hmet]
  exact List.subset_append_of_subset_right _ (List.subset_append_left _ _)

namespace Sample

/-- A flash when the die is picked up. -/
def flash : Animation := .flash ⟨1⟩ "flash" .red 1000 1

def signal : Profile :=
  .new ⟨2⟩ "signal" .d6 [⟨.handling, [.playAnimation flash.uuid 0 1]⟩] default

/-- Both of them are put into a library. -/
def stocked : List Act :=
  [.putAnimation flash, .putProfile signal]

/-- A call, and an edit that is undone; the cache hears of neither. -/
def undone : List Act :=
  stocked ++ [.call signal.uuid {},
    .editAnimation flash.uuid fun a => { a with duration := 2000 },
    .editAnimation flash.uuid fun a => { a with duration := 1000 }]

end Sample

/-- The entry of the first call is still there, and it is right again. -/
theorem answer_after_undone : ∃ x,
    ((run ⟨{}, {}⟩ Sample.undone).cache.getOrCompile Sample.signal.uuid
      (run ⟨{}, {}⟩ Sample.undone).library {}).1 = .ok x
    ∧ compileProfile Sample.signal.uuid (run ⟨{}, {}⟩ Sample.undone).library {} = .ok x
    ∧ (run ⟨{}, {}⟩ Sample.undone).cache.get? Sample.signal.uuid = some x := by
  obtain ⟨l, hl⟩ : ∃ l, l = (run ⟨{}, {}⟩ Sample.stocked).library := ⟨_, rfl⟩
  obtain ⟨l', hl'⟩ : ∃ l', l' = (run ⟨{}, {}⟩ Sample.undone).library := ⟨_, rfl⟩
  have hstream : stream? l' Sample.signal.uuid {} = stream? l Sample.signal.uuid {} := by
    have hp : l.profile? Sample.signal.uuid = some Sample.signal := by
      rw [hl]
      decide +kernel
    have hp' : l'.profile? Sample.signal.uuid = some Sample.signal := by
      rw [hl']
      decide +kernel
    have hd : dependencies Sample.signal l = .ok ⟨[Sample.flash.uuid], []⟩ := by
      rw [hl]
      rfl
    have hd' : dependencies Sample.signal l' = .ok ⟨[Sample.flash.uuid], []⟩ := by
      rw [hl']
      rfl
    have hflash : l'.animation? Sample.flash.uuid = l.animation? Sample.flash.uuid := by
      rw [hl, hl']
      decide +kernel
    rw [stream?_eq hp hd, stream?_eq hp' hd', contentBytes, contentBytes]
    simp only [List.flatMap_cons, List.flatMap_nil, hflash]
  have htold : Set.InjOn sha256Hex
      {s | s ∈ met {} (Sample.undone ++ .call Sample.signal.uuid {} :: [])} := by
    have hmet : met {} (Sample.undone ++ .call Sample.signal.uuid {} :: [])
        = (stream? l Sample.signal.uuid {}).toList
          ++ ((stream? l' Sample.signal.uuid {}).toList ++ []) := by
      rw [hl, hl']
      rfl
    have hmem {s : List UInt8}
        (hs : s ∈ met {} (Sample.undone ++ .call Sample.signal.uuid {} :: [])) :
        stream? l Sample.signal.uuid {} = some s := by
      rwa [hmet, hstream, List.append_nil, List.mem_append, or_self, Option.mem_toList] at hs
    exact fun s hs t ht _ => Option.some_inj.mp ((hmem hs).symm.trans (hmem ht))
  have hkept : (run ⟨{}, {}⟩ Sample.undone).cache.get? Sample.signal.uuid
      = (compileProfile Sample.signal.uuid (run ⟨{}, {}⟩ Sample.undone).library {}).toOption := by
    decide +kernel
  have hok : (compileProfile Sample.signal.uuid (run ⟨{}, {}⟩ Sample.undone).library
      {}).toOption.isSome = true := by decide +kernel
  cases hx : compileProfile Sample.signal.uuid (run ⟨{}, {}⟩ Sample.undone).library {} with
  | error e =>
      rw [hx] at hok
      cases hok
  | ok x =>
      rw [hx] at hkept
      exact ⟨x, (getOrCompile_transparent {} Sample.undone [] _ {} x htold).mpr hx, rfl, hkept⟩

end DiceHost.DataSet
