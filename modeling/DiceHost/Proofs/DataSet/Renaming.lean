/-
What a data set keeps of the identifiers that it is written from: nothing.

* `Renaming`: other identifiers for animations and for patterns, no two of them the same;
* `Renaming.OfProfile`, `Renaming.OfLibrary`: a profile and a library under a renaming. The profile
  may be another one in all but its rules, its brightness and its shape of die, and everything may
  bear another name;
* `Library.rename`: a library under a renaming;
* `Renaming.Follows`: what a step makes of a draft, another step makes of the renamed draft;
* `Renaming.Spares`: a die that holds one data set is not written to for another;
* `Renaming.compile_renamed`: **a profile under a renaming has the same data set**.

The two runs of the compiler go side by side. An identifier is only ever looked up in what the
draft holds, so the lookups of both runs find the same place, as the renaming is injective.
-/
import DiceHost.Proofs.DataSet.Capacity
import DiceHost.Proofs.Link.Delivery
import DiceHost.Proofs.Scheduler.Effects

namespace DiceHost

/-! ### Renamings -/

/-- Other identifiers for animations and for patterns. -/
structure Renaming where
  animation : Uuid → Uuid
  pattern : Uuid → Uuid
  animation_injective : Function.Injective animation
  pattern_injective : Function.Injective pattern

namespace Renaming

variable (ρ : Renaming)

/-- What an animation shows, with another identifier for its pattern. -/
def onKind : AnimationKind → AnimationKind
  | .gradientPattern pattern g override => .gradientPattern (ρ.pattern pattern) g override
  | .keyframed pattern traveling useLedIndices =>
    .keyframed (ρ.pattern pattern) traveling useLedIndices
  | kind => kind

/-- An action, with another identifier for the animation that it plays. -/
def onAction : Action → Action
  | .playAnimation animation faceMask loopCount =>
    .playAnimation (ρ.animation animation) faceMask loopCount
  | a => a

/-- A rule, with other identifiers for the animations that it plays. -/
def onRule (r : Rule) : Rule := { r with actions := r.actions.map ρ.onAction }

/-- An animation under another identifier, and perhaps another name. -/
structure OfAnimation (a a' : Animation) : Prop where
  uuid : a'.uuid = ρ.animation a.uuid
  duration : a'.duration = a.duration
  faceMask : a'.faceMask = a.faceMask
  kind : a'.kind = ρ.onKind a.kind

/-- A pattern under another identifier, and perhaps another name. -/
structure OfPattern (q q' : Pattern) : Prop where
  uuid : q'.uuid = ρ.pattern q.uuid
  tracks : q'.tracks = q.tracks

/-- A profile whose rules name animations by their other identifiers. Its own identifier, its name,
its description and its times are any. -/
structure OfProfile (p p' : Profile) : Prop where
  dieKind : p'.dieKind = p.dieKind
  rules : p'.rules = p.rules.map ρ.onRule
  brightness : p'.brightness = p.brightness

/-- A library in which animations and patterns are found under their other identifiers. -/
structure OfLibrary (l l' : Library) : Prop where
  animation : ∀ u, Option.Rel ρ.OfAnimation (l.animation? u) (l'.animation? (ρ.animation u))
  pattern : ∀ v, Option.Rel ρ.OfPattern (l.pattern? v) (l'.pattern? (ρ.pattern v))

end Renaming

/-! ### Libraries under a renaming -/

/-- A table under other identifiers, its values changed. -/
def Table.relabel {α : Type} (f : Uuid → Uuid) (g : α → α) (t : Table α) : Table α where
  arena := { t.arena with slots := t.arena.slots.map fun s => { s with value := s.value.map g } }
  index := t.index.map fun (u, h) => (f u, h)

lemma Table.get?_relabel {α : Type} [Identified α] {f : Uuid → Uuid} (hf : f.Injective)
    (g : α → α) (t : Table α) (u : Uuid) : (t.relabel f g).get? (f u) = (t.get? u).map g := by
  have hhandle : (t.relabel f g).handle? (f u) = t.handle? u := by
    have hkey : ((fun e : Uuid × Handle => decide (e.1 = f u)) ∘ fun e : Uuid × Handle => (f e.1, e.2))
        = fun e => decide (e.1 = u) := funext fun e => decide_eq_decide.mpr hf.eq_iff
    rw [handle?, handle?, relabel, List.find?_map, hkey, Option.map_map]
    rfl
  have hslot : ∀ h, (t.relabel f g).arena.get? h = (t.arena.get? h).map g := by
    intro h
    rw [Arena.get?, Arena.get?, Arena.slot?, Arena.slot?, relabel, List.getElem?_map]
    cases t.arena.slots[h.index.toNat]? with
    | none => rfl
    | some s =>
        rw [Option.map_some, Option.filter_some, Option.filter_some]
        split_ifs <;> rfl
  rw [get?, get?, hhandle, Option.map_bind]
  exact congrArg _ (funext hslot)

/-- The library under a renaming, with other names for its animations and patterns. -/
def Library.rename (ρ : Renaming) (animationName : Animation → String)
    (patternName : Pattern → String) (l : Library) : Library where
  profiles := l.profiles
  animations := l.animations.relabel ρ.animation fun a =>
    ⟨ρ.animation a.uuid, animationName a, a.duration, a.faceMask, ρ.onKind a.kind⟩
  patterns := l.patterns.relabel ρ.pattern fun q => ⟨ρ.pattern q.uuid, patternName q, q.tracks⟩

/-- Every library can be renamed. -/
lemma Renaming.ofLibrary_rename (ρ : Renaming) (animationName : Animation → String)
    (patternName : Pattern → String) (l : Library) :
    ρ.OfLibrary l (l.rename ρ animationName patternName) where
  animation u := by
    rw [Library.animation?, Library.animation?, Library.rename,
      Table.get?_relabel ρ.animation_injective]
    cases l.animations.get? u with
    | none => exact .none
    | some a => exact .some ⟨rfl, rfl, rfl, rfl⟩
  pattern v := by
    rw [Library.pattern?, Library.pattern?, Library.rename,
      Table.get?_relabel ρ.pattern_injective]
    cases l.patterns.get? v with
    | none => exact .none
    | some q => exact .some ⟨rfl, rfl⟩

/-! ### Checks -/

namespace Renaming

variable {ρ : Renaming}

lemma check_onAction (a : Action) : (ρ.onAction a).check = a.check := by
  cases a <;> rfl

lemma check_onRule (r : Rule) : (ρ.onRule r).check = .ok () ↔ r.check = .ok () := by
  rw [Rule.check, Rule.check, Check.seq_eq_ok, Check.seq_eq_ok, Check.each_eq_ok,
    Check.each_eq_ok, onRule, List.forall_mem_map]
  simp only [check_onAction]

lemma OfProfile.check {p p' : Profile} (h : ρ.OfProfile p p') (hcheck : p.check = .ok ()) :
    p'.check = .ok () := by
  rw [Profile.check, Check.seq_eq_ok, Check.each_eq_ok] at hcheck ⊢
  rw [h.brightness, h.rules, List.forall_mem_map]
  exact ⟨hcheck.1, fun r hr => (check_onRule r).mpr (hcheck.2 r hr)⟩

lemma check_onKind (kind : AnimationKind) : (ρ.onKind kind).check = kind.check := by
  cases kind <;> rfl

lemma OfAnimation.check {a a' : Animation} (h : ρ.OfAnimation a a') : a'.check = a.check := by
  rw [Animation.check, Animation.check, h.duration, h.faceMask, h.kind, check_onKind]

lemma OfPattern.check {q q' : Pattern} (h : ρ.OfPattern q q') : q'.check = q.check := by
  rw [Pattern.check, Pattern.check, h.tracks]

end Renaming

/-! ### Drafts -/

namespace DataSet

/-- A draft under a renaming. -/
def Draft.rename (ρ : Renaming) (d : Draft) : Draft :=
  { d with
    animations := d.animations.map ρ.animation
    patterns := d.patterns.map fun (v, span) => (ρ.pattern v, span) }

lemma Draft.rename_addPattern (ρ : Renaming) (d : Draft) (v : Uuid) (span : Span) :
    (d.addPattern v span).rename ρ = (d.rename ρ).addPattern (ρ.pattern v) span := by
  rw [rename, addPattern, List.map_append]
  rfl

lemma Draft.rename_addAnimation (ρ : Renaming) (d : Draft) (u : Uuid) (r : AnimationRecord) :
    (d.addAnimation u r).rename ρ = (d.rename ρ).addAnimation (ρ.animation u) r := by
  rw [rename, addAnimation, List.map_append]
  rfl

end DataSet

namespace Renaming

open DataSet

variable {ρ : Renaming} {α β : Type}

/-- What a step makes of a draft, another step makes of the renamed draft. -/
def Follows (ρ : Renaming) (x x' : Emit α) : Prop :=
  ∀ d r e, x d = .ok (r, e) → x' (d.rename ρ) = .ok (r, e.rename ρ)

namespace Follows

lemma pure (r : α) : ρ.Follows (Pure.pure r) (Pure.pure r) := by
  intro d r' e h
  cases h
  rfl

/-- A step that fails is followed by any. -/
lemma throw (err : CompileError) (x' : Emit α) : ρ.Follows (MonadExcept.throw err) x' := by
  intro d r e h
  cases h

lemma lift (x : Except CompileError α) : ρ.Follows (liftM x) (liftM x) := by
  intro d r e h
  cases x with
  | error err => cases h
  | ok r' =>
      cases h
      rfl

lemma modify {t t' : Draft → Draft} (h : ∀ d, t' (d.rename ρ) = (t d).rename ρ) :
    ρ.Follows (modify t) (modify t') := by
  intro d r e hd
  cases hd
  exact congrArg (fun e => Except.ok ((), e)) (h d)

lemma set {e e' : Draft} (h : e' = e.rename ρ) :
    ρ.Follows (MonadStateOf.set e : Emit PUnit) (MonadStateOf.set e') := by
  intro d r e₁ hd
  cases hd
  exact congrArg (fun e => Except.ok ((), e)) h

lemma bind {x x' : Emit α} {k k' : α → Emit β} (h : ρ.Follows x x')
    (hk : ∀ r, ρ.Follows (k r) (k' r)) : ρ.Follows (x >>= k) (x' >>= k') := by
  intro d r e hd
  obtain ⟨r₁, d₁, h₁, h₂⟩ := Emit.bind_eq_ok.mp hd
  exact Emit.bind_eq_ok.mpr ⟨r₁, d₁.rename ρ, h d r₁ d₁ h₁, hk r₁ d₁ r e h₂⟩

/-- A step that looks at the draft first. -/
lemma look {k k' : Draft → Emit α} (h : ∀ d, ρ.Follows (k d) (k' (d.rename ρ))) :
    ρ.Follows (get >>= k) (get >>= k') :=
  fun d r e hd => h d d r e hd

end Follows

/-! ### Emissions -/

lemma exists_of_rel_some {R : α → β → Prop} {a : α} {o : Option β}
    (h : Option.Rel R (some a) o) : ∃ b, o = some b ∧ R a b := by
  cases h with
  | some h => exact ⟨_, rfl, h⟩

/-- What an emission reads, under a renaming. -/
structure OfSource (ρ : Renaming) (s s' : Source) : Prop where
  brightness : s'.brightness = s.brightness
  dieKind : s'.dieKind = s.dieKind
  animation : ∀ u, Option.Rel ρ.OfAnimation (s.animation? u) (s'.animation? (ρ.animation u))
  pattern : ∀ v, Option.Rel ρ.OfPattern (s.pattern? v) (s'.pattern? (ρ.pattern v))

namespace OfSource

variable {s s' : Source}

lemma keyframeRecord (h : ρ.OfSource s s') : s'.keyframeRecord = s.keyframeRecord := by
  funext k
  rw [Source.keyframeRecord, Source.keyframeRecord, h.brightness]

lemma narrow (h : ρ.OfSource s s') (mask : UInt32) : s'.narrow mask = s.narrow mask := by
  rw [Source.narrow, Source.narrow, h.dieKind]

lemma emitTrack (h : ρ.OfSource s s') (ks : List Keyframe) (ledMask : UInt32) :
    ρ.Follows (DataSet.emitTrack s ks ledMask) (DataSet.emitTrack s' ks ledMask) := by
  intro d r e hd
  cases hd
  rw [DataSet.emitTrack, h.keyframeRecord]
  rfl

lemma emitTracks (h : ρ.OfSource s s') (ts : List PatternTrack) :
    ρ.Follows (DataSet.emitTracks s ts) (DataSet.emitTracks s' ts) := by
  induction ts with
  | nil => exact .pure ()
  | cons t ts ih =>
      rw [DataSet.emitTracks, DataSet.emitTracks]
      exact (h.emitTrack t.keyframes t.ledMask).bind fun _ => ih

/-- A pattern has a span just when it has one after the renaming. -/
lemma find?_rename (d : Draft) (v : Uuid) :
    (d.rename ρ).patterns.find? (·.1 = ρ.pattern v)
      = (d.patterns.find? (·.1 = v)).map fun (v, span) => (ρ.pattern v, span) := by
  have hkey : ((fun e : Uuid × Span => decide (e.1 = ρ.pattern v))
      ∘ fun e : Uuid × Span => (ρ.pattern e.1, e.2)) = fun e => decide (e.1 = v) :=
    funext fun e => decide_eq_decide.mpr ρ.pattern_injective.eq_iff
  rw [Draft.rename, List.find?_map, hkey]

lemma emitPattern (h : ρ.OfSource s s') (v : Uuid) :
    ρ.Follows (DataSet.emitPattern s v) (DataSet.emitPattern s' (ρ.pattern v)) := by
  refine .look fun d => ?_
  rw [find?_rename]
  cases d.patterns.find? (·.1 = v) with
  | some entry => exact .pure _
  | none =>
      dsimp only [Option.map_none]
      cases hq : s.pattern? v with
      | none => exact .throw _ _
      | some q =>
          obtain ⟨q', hq', hof⟩ := exists_of_rel_some (hq ▸ h.pattern v)
          rw [hq']
          dsimp only
          rw [hof.check, hof.tracks]
          cases q.check with
          | error err => exact .throw _ _
          | ok _ =>
              refine (h.emitTracks q.tracks).bind fun _ => .bind (.modify fun d' => ?_)
                fun _ => .pure _
              exact (Draft.rename_addPattern ρ d' v _).symm

lemma emitPayload (h : ρ.OfSource s s') {a a' : Animation} (ha : ρ.OfAnimation a a') :
    ρ.Follows (DataSet.emitPayload s a) (DataSet.emitPayload s' a') := by
  obtain ⟨u, name, duration, faceMask, kind⟩ := a
  obtain ⟨u', name', duration', faceMask', kind'⟩ := a'
  obtain ⟨-, -, hmask, hkind⟩ := ha
  obtain rfl : faceMask' = faceMask := hmask
  obtain rfl : kind' = ρ.onKind kind := hkind
  cases kind with
  | simple color count fade =>
      rw [DataSet.emitPayload, DataSet.emitPayload, h.brightness]
      exact .pure _
  | rainbow => exact .pure _
  | keyframed v => exact (h.emitPattern v).bind fun _ => .pure _
  | gradientPattern v g =>
      exact (h.emitPattern v).bind fun _ => (h.emitTrack g.keyframes _).bind fun _ => .pure _
  | gradient g => exact (h.emitTrack g.keyframes _).bind fun _ => .pure _
  | cycle g => exact (h.emitTrack g.keyframes _).bind fun _ => .pure _
  | noise => exact .throw _ _

lemma emitRecord (h : ρ.OfSource s s') {a a' : Animation} (ha : ρ.OfAnimation a a') :
    ρ.Follows (DataSet.emitRecord s a) (DataSet.emitRecord s' a') := by
  refine (h.emitPayload ha).bind fun r => ?_
  have hcode : (ρ.onKind a.kind).typeCode? = a.kind.typeCode? := by
    cases a.kind <;> rfl
  rw [ha.kind, hcode, ha.duration, ha.faceMask, h.narrow]
  cases a.kind.typeCode? with
  | none => exact .throw _ _
  | some typeCode => exact .pure _

/-- An animation has the same number after the renaming. -/
lemma findIdx?_rename (d : Draft) (u : Uuid) :
    (d.rename ρ).animations.findIdx? (· = ρ.animation u) = d.animations.findIdx? (· = u) := by
  have hkey : ((fun w => decide (w = ρ.animation u)) ∘ ρ.animation) = fun w => decide (w = u) :=
    funext fun w => decide_eq_decide.mpr ρ.animation_injective.eq_iff
  rw [Draft.rename, List.findIdx?_map, hkey]

lemma emitAnimation (h : ρ.OfSource s s') (u : Uuid) :
    ρ.Follows (DataSet.emitAnimation s u) (DataSet.emitAnimation s' (ρ.animation u)) := by
  refine .look fun d => ?_
  rw [findIdx?_rename]
  cases d.animations.findIdx? (· = u) with
  | some i => exact .pure _
  | none =>
      dsimp only
      cases ha : s.animation? u with
      | none => exact .throw _ _
      | some a =>
          obtain ⟨a', ha', hof⟩ := exists_of_rel_some (ha ▸ h.animation u)
          rw [ha']
          dsimp only
          rw [hof.check]
          cases a.check with
          | error err => exact .throw _ _
          | ok _ =>
              refine (h.emitRecord hof).bind fun record => .look fun d' => ?_
              refine .bind (.set ?_) fun _ => .pure _
              exact (Draft.rename_addAnimation ρ d' u record).symm

lemma emitAction (h : ρ.OfSource s s') (rule place : ℕ) (a : Action) :
    ρ.Follows (DataSet.emitAction s rule place a)
      (DataSet.emitAction s' rule place (ρ.onAction a)) := by
  cases a with
  | playAnimation u => exact (h.emitAnimation u).bind fun _ => .pure _
  | playAudioClip | makeWebRequest | speakText =>
      refine .bind (.modify fun d => ?_) fun _ => .pure _
      rfl

lemma emitActions (h : ρ.OfSource s s') (rule place : ℕ) (as : List Action) :
    ρ.Follows (DataSet.emitActions s rule place as)
      (DataSet.emitActions s' rule place (as.map ρ.onAction)) := by
  induction as generalizing place with
  | nil => exact .pure ()
  | cons a as ih =>
      rw [List.map_cons, DataSet.emitActions, DataSet.emitActions]
      refine (h.emitAction rule place a).bind fun _ => .bind (.modify fun d => ?_) fun _ =>
        ih (place + 1)
      rfl

lemma emitRule (h : ρ.OfSource s s') (limits : Limits) (number : ℕ) (r : Rule) :
    ρ.Follows (DataSet.emitRule s limits number r)
      (DataSet.emitRule s' limits number (ρ.onRule r)) := by
  have hlength : (ρ.onRule r).actions.length = r.actions.length := List.length_map _
  rw [DataSet.emitRule, DataSet.emitRule, hlength]
  refine (Follows.lift _).bind fun _ => .look fun d => ?_
  refine .bind (.modify fun d' => ?_) fun _ =>
    (h.emitActions number 0 r.actions).bind fun _ => .modify fun d' => ?_
  all_goals rfl

/-- **Rules under a renaming are written alike.** -/
lemma emitRules (h : ρ.OfSource s s') (limits : Limits) (number : ℕ) (rs : List Rule) :
    ρ.Follows (DataSet.emitRules s limits number rs)
      (DataSet.emitRules s' limits number (rs.map ρ.onRule)) := by
  induction rs generalizing number with
  | nil => exact .pure ()
  | cons r rs ih =>
      rw [List.map_cons, DataSet.emitRules, DataSet.emitRules]
      exact (h.emitRule limits number r).bind fun _ => ih (number + 1)

end OfSource

/-! ### Compilations -/

lemma OfProfile.source {p p' : Profile} {l l' : Library} (hp : ρ.OfProfile p p')
    (hl : ρ.OfLibrary l l') : ρ.OfSource (.ofProfile p l) (.ofProfile p' l') where
  brightness := hp.brightness
  dieKind := hp.dieKind
  animation := hl.animation
  pattern := hl.pattern

/-- A profile under a renaming has the same data set, but for the identifiers beside it. -/
lemma compile_ok {p p' : Profile} {l l' : Library} {options : CompileOptions} {c : Compiled}
    (hp : ρ.OfProfile p p') (hl : ρ.OfLibrary l l') (h : compile p l options = .ok c) :
    compile p' l' options
      = .ok { c with profile := p'.uuid, animations := c.animations.map ρ.animation } := by
  obtain ⟨hcheck, hlength, d, hemit, hsections, rfl⟩ := compile_eq_ok.mp h
  have hemit' := (hp.source hl).emitRules options.limits 0 p.rules {} () d hemit
  rw [← hp.rules] at hemit'
  refine compile_eq_ok.mpr ⟨hp.check hcheck, ?_, d.rename ρ, hemit', hsections, rfl⟩
  rw [hp.rules, List.length_map]
  exact hlength

/-- A die that holds one data set is not written to for the other: the scheduler makes no job of a
request for it, and the die itself declines an announcement. -/
structure Spares (c c' : Compiled) : Prop where
  scheduled : ∀ (s : Scheduler.State) pixel m priority, s.member? pixel = some m →
    m.inFlight = false → m.state.isGivenUp = false → m.peripheral.profileHash = some c.hash →
    ∃ change, s.handle (.program pixel ⟨c'.profile, c'.bytes, c'.hash⟩ priority)
        = .ok (.upToDate, change)
      ∧ change.state.queue = s.queue
      ∧ ∃ m', change.state.member? pixel = some m' ∧ m'.profileJob = none
  announced : ∀ d : Link.Die, d.Stores ⟨.dataSet, c.bytes, c.hash⟩ →
    d.respond (.transferPayload .dataSet (UInt32.ofNat c'.bytes.length) c'.hash)
      = (.reply (.transferAck .upToDate), d)

/-- A data set with the same bytes and the same hash is not written again. -/
lemma spares_of_eq {c c' : Compiled} (hbytes : c'.bytes = c.bytes) (hhash : c'.hash = c.hash) :
    Spares c c' where
  scheduled s pixel m priority hm hrest hhope hhash' := by
    have hcurrent : (!m.inFlight && m.peripheral.isUpToDate c'.hash) = true := by
      rw [hrest, Peripheral.isUpToDate, hhash', hhash, Bool.not_false, Bool.true_and,
        decide_eq_true_iff]
    rw [Scheduler.State.handle, Scheduler.State.withHope, Scheduler.State.withMember, hm]
    simp only [hhope, Bool.false_eq_true, if_false, Scheduler.State.program, hcurrent, if_true]
    refine ⟨_, rfl, rfl, { m with
      peripheral := { m.peripheral with profile := some c'.profile }, profileJob := none }, ?_, rfl⟩
    exact Scheduler.State.member?_modify_self hm _
  announced d hstores := by
    rw [hbytes, hhash]
    exact Link.Die.respond_upToDate hstores

/-- **A profile under a renaming has the same data set.** When animations and patterns get other
identifiers, no two the same, in the rules, in the animations and in the library, and everything
gets another name, then a profile that has a data set still has one, with the same bytes, header,
hash and actions of the host; its animations are those from before under their other identifiers.
No die is written to again for it. -/
theorem compile_renamed (ρ : Renaming) {p p' : Profile} {l l' : Library}
    {options : CompileOptions} {c : Compiled} (hp : ρ.OfProfile p p') (hl : ρ.OfLibrary l l')
    (h : compile p l options = .ok c) :
    ∃ c', compile p' l' options = .ok c' ∧ c'.bytes = c.bytes ∧ c'.header = c.header
      ∧ c'.hash = c.hash ∧ c'.remoteActions = c.remoteActions
      ∧ c'.animations = c.animations.map ρ.animation ∧ Spares c c' :=
  ⟨_, compile_ok hp hl h, rfl, rfl, rfl, rfl, rfl, spares_of_eq rfl rfl⟩

/-- All bits of the identifiers of animations turned, and those of patterns moved on by one. -/
def turned : Renaming where
  animation u := ⟨~~~u.value⟩
  pattern v := ⟨1 + v.value⟩
  animation_injective := fun _ _ h => congrArg Uuid.mk (BitVec.not_inj.mp (Uuid.mk.inj h))
  pattern_injective := fun _ _ h => congrArg Uuid.mk ((BitVec.add_right_inj 1).mp (Uuid.mk.inj h))

/-- The profile of two animations that show one pattern, under new identifiers and new names. -/
def turnedProfile : Profile :=
  { Sample.profile with
    uuid := ⟨7⟩, name := "turned", description := "in other names",
    rules := Sample.profile.rules.map turned.onRule }

/-- The library of these animations and of the pattern, likewise. -/
def turnedShelf : Library :=
  Sample.shelf.rename turned (fun _ => "animation") fun _ => "pattern"

/-- Only the animations beside the data set tell the two libraries apart. -/
theorem compile_turned : ∃ c c', compile Sample.profile Sample.shelf {} = .ok c
    ∧ compile turnedProfile turnedShelf {} = .ok c' ∧ c'.bytes = c.bytes ∧ c'.hash = c.hash
    ∧ c'.animations = [⟨~~~2⟩, ⟨~~~3⟩] ∧ Spares c c' := by
  have hanimations : (compile Sample.profile Sample.shelf {}).toOption.map Compiled.animations
      = some [⟨2⟩, ⟨3⟩] := by decide +kernel
  have hp : turned.OfProfile Sample.profile turnedProfile := ⟨rfl, rfl, rfl⟩
  have hl : turned.OfLibrary Sample.shelf turnedShelf := turned.ofLibrary_rename _ _ _
  cases h : compile Sample.profile Sample.shelf {} with
  | error e =>
      rw [h] at hanimations
      cases hanimations
  | ok c =>
      rw [h] at hanimations
      obtain ⟨c', hc', hbytes, -, hhash, -, hmapped, hspares⟩ := compile_renamed turned hp hl h
      refine ⟨c, c', rfl, hc', hbytes, hhash, ?_, hspares⟩
      rw [hmapped, Option.some_inj.mp hanimations]
      rfl

end Renaming

end DiceHost
