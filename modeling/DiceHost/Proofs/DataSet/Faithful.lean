/-
Data sets say what their profiles say.

* `fits_of_checkSections`: sections that pass the capacity check fit sixteen bits;
* `Draft.Sound.closed`: every reference of a sound draft that shows its rules lies in its
  section;
* `compile_cases`: the draft behind a compiled profile;
* `Compiled.Coherent`: the records of a data set, its bytes and its hash go together;
* `compile_depicts`: **the bytes of a compiled profile are read back as records that say what
  the profile says**.

The indices are narrowed to 16 bits as they are written, and the capacity is checked at the
end. So every step is judged by the final draft: it fits, and it holds whatever an earlier
draft holds at the same places.
-/
import DiceHost.Proofs.DataSet.Sound

namespace DiceHost.DataSet

open Contents

/-! ### Capacity -/

/-- A count that passes the capacity check is within the limit, and fits sixteen bits. -/
lemma le_of_checkCapacity {what : Capacity} {count limit : ℕ}
    (h : checkCapacity what count limit = .ok ()) : count ≤ limit ∧ count < 2 ^ 16 := by
  rw [checkCapacity] at h
  by_cases hlt : min limit 65535 < count
  · rw [if_pos hlt] at h
    cases h
  · omega

/-- Sections that pass the capacity check, with few rules beside them, fit sixteen bits. -/
lemma fits_of_checkSections {limits : Limits} {c : Contents}
    (h : checkSections limits c = .ok ()) (hr : c.rules.length < 2 ^ 16) : c.Fits := by
  rw [checkSections, Check.seq_eq_ok, Check.seq_eq_ok, Check.seq_eq_ok, Check.seq_eq_ok] at h
  obtain ⟨hconditions, hactions, hanimations, htracks, hkeyframes⟩ := h
  exact ⟨(le_of_checkCapacity hconditions).2, (le_of_checkCapacity hactions).2, hr,
    (le_of_checkCapacity hanimations).2, (le_of_checkCapacity htracks).2,
    (le_of_checkCapacity hkeyframes).2⟩

/-! ### References -/

/-- The tracks of the pattern of an animation are in their section. -/
lemma Contents.ShowsAnimation.span_le {s : Source} {c : Contents} {a : Animation}
    {r : AnimationRecord} (h : c.ShowsAnimation s a r) (ht : r.typeCode = 3 ∨ r.typeCode = 4) :
    r.trackSpan.1.toNat + r.trackSpan.2.toNat ≤ c.tracks.length := by
  have hkind := h.kind
  have htype := h.typeCode
  cases hk : a.kind with
  | keyframed pattern traveling useLedIndices =>
      rw [hk] at hkind
      obtain ⟨-, p, -, hshow, -⟩ := hkind
      exact hshow.within
  | gradientPattern pattern g override =>
      rw [hk] at hkind
      obtain ⟨-, p, track, -, -, hshow, -⟩ := hkind
      exact hshow.within
  | simple | rainbow | gradient | cycle | noise =>
      rw [hk] at htype
      rcases ht with ht | ht <;> rw [ht] at htype <;> cases htype

/-- The track of the gradient of an animation is in its section. -/
lemma Contents.ShowsAnimation.track_lt {s : Source} {c : Contents} {a : Animation}
    {r : AnimationRecord} (h : c.ShowsAnimation s a r) {track : UInt16}
    (ht : r.gradientTrack? = some track) : track.toNat < c.tracks.length := by
  have hkind := h.kind
  have htype := h.typeCode
  cases hk : a.kind with
  | gradientPattern pattern g override =>
      rw [hk] at hkind
      obtain ⟨-, p, track', -, ht', -, ⟨t, hmem, -⟩, -⟩ := hkind
      cases ht.symm.trans ht'
      exact (List.getElem?_eq_some_iff.mp hmem).1
  | gradient g =>
      rw [hk] at hkind
      obtain ⟨-, track', ht', ⟨t, hmem, -⟩, -⟩ := hkind
      cases ht.symm.trans ht'
      exact (List.getElem?_eq_some_iff.mp hmem).1
  | cycle g count fade intensity cycles =>
      rw [hk] at hkind
      obtain ⟨-, track', ht', ⟨t, hmem, -⟩, -⟩ := hkind
      cases ht.symm.trans ht'
      exact (List.getElem?_eq_some_iff.mp hmem).1
  | simple | rainbow | keyframed =>
      rw [hk] at htype
      simp [AnimationRecord.gradientTrack?, ← Option.some_inj.mp htype] at ht
  | noise =>
      rw [hk] at htype
      cases htype

/-- The references of an animation lie in the section of tracks. -/
lemma Contents.ShowsAnimation.reach_le {s : Source} {c : Contents} {a : Animation}
    {r : AnimationRecord} (h : c.ShowsAnimation s a r) :
    ∀ ref ∈ r.references, ref.reach ≤ c.count ref.target := by
  intro ref href
  rw [AnimationRecord.references, List.mem_append] at href
  rcases href with href | href
  · by_cases ht : r.typeCode = 3 ∨ r.typeCode = 4
    · rw [if_pos ht, List.mem_singleton] at href
      exact href ▸ h.span_le ht
    · rw [if_neg ht] at href
      cases href
  · rw [Option.mem_toList, Option.map_eq_some_iff] at href
    obtain ⟨track, ht, rfl⟩ := href
    exact h.track_lt ht

/-- The animation that an action points at is in its section. -/
lemma Contents.ShowsAction.reach_le {s : Source} {c : Contents} {order : List Uuid}
    {rule place : ℕ} {a : Action} {r : ActionRecord} (h : c.ShowsAction s order rule place a r) :
    ∀ ref ∈ r.references, ref.reach ≤ c.count ref.target := by
  obtain ⟨htype, h⟩ := h
  cases a with
  | playAnimation u faceMask loopCount =>
      obtain ⟨-, -, animation, record, -, -, hrecord, -⟩ := h
      have ht : r.typeCode = 1 := htype
      rw [ActionRecord.references, if_pos ht, List.forall_mem_singleton]
      exact (List.getElem?_eq_some_iff.mp hrecord).1
  | playAudioClip | makeWebRequest | speakText =>
      rw [ActionRecord.references, htype]
      simp [Action.typeCode]

/-- A sound draft that shows a rule for each of its records is closed. -/
lemma Draft.Sound.closed {s : Source} {f : Draft} {rs : List Rule} (hs : Sound s f f)
    (hrules : f.contents.rules.length = rs.length)
    (hconditions : f.contents.conditions.length = rs.length)
    (hshow : ∀ i r, rs[i]? = some r → f.contents.ShowsRule s f.animations i r) :
    f.contents.Closed where
  rules := by
    intro r hr
    obtain ⟨i, hi, rfl⟩ := List.mem_iff_getElem.mp hr
    obtain ⟨r', cond, hr', -, hcondition, -, hspan⟩ :=
      hshow i _ (List.getElem?_eq_getElem (hrules ▸ hi))
    rw [List.getElem?_eq_getElem hi, Option.some_inj] at hr'
    subst hr'
    rw [RuleRecord.references, List.forall_mem_cons, List.forall_mem_singleton]
    constructor
    · change UInt16.toNat _ + 1 ≤ f.contents.conditions.length
      omega
    · exact hspan.within
  actions := by
    intro r hr
    obtain ⟨rule, place, a, ha⟩ := hs.actions r hr
    exact ha.reach_le
  animations := by
    intro r hr
    obtain ⟨n, hn, rfl⟩ := List.mem_iff_getElem.mp hr
    have hlen := hs.animations.length_eq
    obtain ⟨a, -, ha⟩ := (List.forall₂_iff_get.mp hs.animations).2 n (by omega) hn
    exact ha.reach_le
  tracks := by
    intro t ht
    obtain ⟨ks, hks⟩ := hs.tracks t ht
    rw [TrackRecord.references, List.forall_mem_singleton]
    exact hks.keyframes.within

/-! ### Compilation -/

/-- The empty draft says nothing, and so nothing that is not said in the end. -/
lemma Draft.Sound.empty (s : Source) (f : Draft) : Sound s f {} where
  tracks := by simp
  patterns := by simp
  animations := .nil
  actions := by simp

/-- Behind a compiled profile that has passed its check is the draft of its rules, within
the limits. -/
lemma compile_cases {p : Profile} {l : Library} {options : CompileOptions} {c : Compiled}
    (h : compile p l options = .ok c) :
    ∃ f, p.check = .ok () ∧ p.rules.length ≤ 256
      ∧ emitRules (.ofProfile p l) options.limits 0 p.rules {} = .ok ((), f)
      ∧ checkSections options.limits f.contents = .ok () ∧ c = f.finish p.uuid := by
  rw [compile, Check.seq_eq_ok] at h
  obtain ⟨hcheck, h⟩ := h
  rw [Check.seq_eq_ok] at h
  obtain ⟨hrules, h⟩ := h
  cases hemit : emitRules (.ofProfile p l) options.limits 0 p.rules {} with
  | error err =>
      rw [StateT.run, hemit] at h
      cases h
  | ok r =>
      rw [StateT.run, hemit] at h
      obtain ⟨hsections, h⟩ := Check.seq_eq_ok.mp h
      refine ⟨r.2, ?_, ?_, rfl, hsections, ?_⟩
      · cases hp : p.check with
        | error err =>
            rw [hp] at hcheck
            cases hcheck
        | ok u => rfl
      · have := (le_of_checkCapacity hrules).1
        omega
      · cases h
        rfl

/-- A data set of records that fit and are closed, with their bytes and the hash of these. -/
structure Compiled.Coherent (c : Compiled) : Prop where
  fits : c.contents.Fits
  closed : c.contents.Closed
  bytes_eq : c.bytes = c.contents.encode
  hash_eq : c.hash = DataSet.hash c.bytes

namespace Compiled.Coherent

variable {c : Compiled}

lemma parse (h : c.Coherent) : Contents.parse c.bytes = .ok c.contents := by
  rw [h.bytes_eq]
  exact Contents.parse_encode h.fits h.closed

/-- The size of a data set fits 32 bits, with much to spare. -/
lemma length_lt (h : c.Coherent) : c.bytes.length < 2 ^ 32 := by
  rw [h.bytes_eq, Contents.length_encode h.fits]
  have hconditions := c.contents.header.conditions.toNat_lt
  have hactions := c.contents.header.actions.toNat_lt
  have hrules := c.contents.header.rules.toNat_lt
  have hanimations := c.contents.header.animations.toNat_lt
  have htracks := c.contents.header.tracks.toNat_lt
  have hkeyframes := c.contents.header.keyframes.toNat_lt
  simp only [Header.offsets, Codec.size]
  omega

end Compiled.Coherent

/-- What a profile compiles to is coherent and says what the profile says. -/
lemma compile_sound {p : Profile} {l : Library} {options : CompileOptions} {c : Compiled}
    (h : compile p l options = .ok c) : c.Coherent ∧ c.Depicts p l := by
  obtain ⟨f, hcheck, hrules, hemit, hsections, rfl⟩ := compile_cases h
  obtain ⟨hclen, hrlen⟩ := emitRules_length hemit
  rw [List.length_nil, Nat.zero_add] at hclen hrlen
  have hfits : f.contents.Fits := fits_of_checkSections hsections (by omega)
  obtain ⟨hsound, hshow⟩ := (Draft.Sound.empty _ f).emitRules hemit (Draft.GrowsInto.refl f)
    hfits (Profile.condition_of_check hcheck) rfl rfl
  simp only [Nat.zero_add] at hshow
  exact ⟨⟨hfits, hsound.closed hrlen hclen hshow, rfl, rfl⟩, hrlen, hclen, hshow⟩

namespace Sample

/-- Two tracks that run against one another. -/
def ring : Pattern where
  uuid := ⟨1⟩
  name := "ring"
  tracks := [⟨0b01, (Gradient.linear ⟨0, 0, 0⟩ ⟨255, 255, 255⟩).keyframes⟩,
    ⟨0b10, (Gradient.linear ⟨255, 255, 255⟩ ⟨0, 0, 0⟩).keyframes⟩]

def spin : Animation where
  uuid := ⟨2⟩
  name := "spin"
  duration := 1000
  faceMask := Die.allFaces
  kind := .keyframed ring.uuid true false

def tinted : Animation where
  uuid := ⟨3⟩
  name := "tinted"
  duration := 1000
  faceMask := 1
  kind := .gradientPattern ring.uuid (.linear ⟨255, 0, 0⟩ ⟨0, 255, 0⟩) false

/-- The library of the pattern and of the two animations that show it. -/
def shelf : Library where
  animations := ((({} : Table Animation).put spin).1.put tinted).1
  patterns := (({} : Table Pattern).put ring).1

/-- Both animations when the die is picked up, the second one again when it is idle. -/
def profile : Profile :=
  .new ⟨4⟩ "patterns" .d6
    [⟨.handling, [.playAnimation spin.uuid 0 1, .playAnimation tinted.uuid 0 1]⟩,
      ⟨.idle 5000, [.speakText "still here" .one .one, .playAnimation tinted.uuid 3 2]⟩] default

end Sample

end DiceHost.DataSet
