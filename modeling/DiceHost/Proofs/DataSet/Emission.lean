/-
How a data set grows while it is written.

* `Emit.bind_eq_ok`: a success of two steps is a success of each;
* `Draft.addTrack`, `Draft.addTracks`, `Draft.addPattern`, `Draft.addAnimation`,
  `Draft.addAction`, `Draft.addCondition`, `Draft.addRule`: what each step adds to a draft;
* `emitPattern_cases` and its kin: the ways in which a step can succeed;
* `Draft.GrowsInto`: every section of a draft is the beginning of that of another; a draft
  grows into what any step makes of it;
* `Draft.Supplies`: growth that leaves rules, conditions and actions alone, as that of every
  step below an action does;
* `emitRules_length`: there is a condition and a record for each rule.
-/
import DiceHost.Proofs.Checks
import DiceHost.Proofs.DataSet.Depiction

namespace DiceHost.DataSet

/-! ### Success -/

namespace Emit

variable {α β : Type}

/-- Two steps succeed when the first succeeds and the second does so after it. -/
lemma bind_eq_ok {x : Emit α} {f : α → Emit β} {d e : Draft} {b : β} :
    (x >>= f) d = .ok (b, e) ↔ ∃ a d', x d = .ok (a, d') ∧ f a d' = .ok (b, e) := by
  have hbind : (x >>= f) d = (x d >>= fun r => f r.1 r.2) := rfl
  rw [hbind]
  cases hx : x d with
  | error err =>
      constructor
      · intro h
        cases h
      · rintro ⟨a, d', h, -⟩
        cases h
  | ok r =>
      constructor
      · exact fun h => ⟨r.1, r.2, rfl, h⟩
      · rintro ⟨a, d', h, h'⟩
        cases h
        exact h'

end Emit

/-! ### Additions to a draft -/

namespace Draft

/-- A draft with one more track and its keyframes. -/
def addTrack (s : Source) (d : Draft) (ks : List Keyframe) (ledMask : UInt32) : Draft :=
  let c := d.contents
  let record : TrackRecord := ⟨UInt16.ofNat c.keyframes.length, UInt8.ofNat ks.length, ledMask⟩
  { d with contents :=
    { c with
      tracks := c.tracks ++ [record]
      keyframes := c.keyframes ++ ks.map s.keyframeRecord } }

/-- A draft with some more tracks and their keyframes. -/
def addTracks (s : Source) : Draft → List PatternTrack → Draft
  | d, [] => d
  | d, t :: ts => addTracks s (d.addTrack s t.keyframes t.ledMask) ts

/-- A draft in which a pattern has a span. -/
def addPattern (d : Draft) (u : Uuid) (span : Span) : Draft :=
  { d with patterns := d.patterns ++ [(u, span)] }

/-- A draft with one more animation. -/
def addAnimation (d : Draft) (u : Uuid) (r : AnimationRecord) : Draft :=
  { d with
    contents := { d.contents with animations := d.contents.animations ++ [r] }
    animations := d.animations ++ [u] }

/-- A draft with one more action of the host. -/
def addRemote (d : Draft) (a : RemoteAction) : Draft :=
  { d with remoteActions := d.remoteActions ++ [a] }

/-- A draft with one more record of an action. -/
def addAction (d : Draft) (r : ActionRecord) : Draft :=
  { d with contents := { d.contents with actions := d.contents.actions ++ [r] } }

/-- A draft with one more condition. -/
def addCondition (d : Draft) (r : ConditionRecord) : Draft :=
  { d with contents := { d.contents with conditions := d.contents.conditions ++ [r] } }

/-- A draft with one more record of a rule. -/
def addRule (d : Draft) (r : RuleRecord) : Draft :=
  { d with contents := { d.contents with rules := d.contents.rules ++ [r] } }

end Draft

/-! ### How a step succeeds -/

variable {s : Source} {d e : Draft}

lemma emitTrack_eq (s : Source) (ks : List Keyframe) (ledMask : UInt32) (d : Draft) :
    emitTrack s ks ledMask d
      = .ok (UInt16.ofNat d.contents.tracks.length, d.addTrack s ks ledMask) := rfl

lemma emitTracks_eq (s : Source) (ts : List PatternTrack) (d : Draft) :
    emitTracks s ts d = .ok ((), d.addTracks s ts) := by
  induction ts generalizing d with
  | nil => rfl
  | cons t ts ih =>
      rw [emitTracks, Draft.addTracks, Emit.bind_eq_ok]
      exact ⟨_, _, emitTrack_eq s t.keyframes t.ledMask d, ih _⟩

/-- A pattern has a span already, or its tracks are added and their span is kept. -/
lemma emitPattern_cases {u : Uuid} {span : Span} (h : emitPattern s u d = .ok (span, e)) :
    ((u, span) ∈ d.patterns ∧ e = d)
      ∨ ∃ p, s.pattern? u = some p ∧ p.check = .ok ()
        ∧ span = ⟨UInt16.ofNat d.contents.tracks.length, UInt16.ofNat p.tracks.length⟩
        ∧ e = (d.addTracks s p.tracks).addPattern u span := by
  rw [emitPattern, Emit.bind_eq_ok] at h
  obtain ⟨d₀, d₁, h₁, h⟩ := h
  cases h₁
  cases hfind : d.patterns.find? (·.1 = u) with
  | some entry =>
      have hu : entry.1 = u := by simpa using List.find?_some hfind
      rw [hfind] at h
      cases h
      exact .inl ⟨hu ▸ List.mem_of_find?_eq_some hfind, rfl⟩
  | none =>
      rw [hfind] at h
      cases hp : s.pattern? u with
      | none =>
          simp only [hp] at h
          cases h
      | some p =>
          simp only [hp] at h
          cases hc : p.check with
          | error err =>
              rw [hc] at h
              cases h
          | ok x =>
              rw [hc] at h
              obtain ⟨_, d₂, h₂, h⟩ := Emit.bind_eq_ok.mp h
              rw [emitTracks_eq] at h₂
              cases h₂
              obtain ⟨_, d₃, h₃, h⟩ := Emit.bind_eq_ok.mp h
              cases h₃
              cases h
              exact .inr ⟨p, rfl, hc, rfl, rfl⟩

/-- The record of an animation: what its payload adds, and its own numbers. -/
lemma emitRecord_cases {a : Animation} {r : AnimationRecord}
    (h : emitRecord s a d = .ok (r, e)) :
    ∃ flags payload typeCode, emitPayload s a d = .ok ((flags, payload), e)
      ∧ a.kind.typeCode? = some typeCode
      ∧ r = ⟨typeCode, flags, a.duration.toUInt16, s.narrow a.faceMask, payload⟩ := by
  rw [emitRecord, Emit.bind_eq_ok] at h
  obtain ⟨⟨flags, payload⟩, d₁, h₁, h⟩ := h
  cases hk : a.kind.typeCode? with
  | none =>
      simp only [hk] at h
      cases h
  | some typeCode =>
      simp only [hk] at h
      cases h
      exact ⟨flags, payload, typeCode, h₁, rfl, rfl⟩

/-- An animation has a record already, or its record is added after its tracks. -/
lemma emitAnimation_cases {u : Uuid} {i : UInt16} (h : emitAnimation s u d = .ok (i, e)) :
    (∃ n, d.animations[n]? = some u ∧ i = UInt16.ofNat n ∧ e = d)
      ∨ ∃ a r d', s.animation? u = some a ∧ a.check = .ok () ∧ emitRecord s a d = .ok (r, d')
        ∧ i = UInt16.ofNat d'.contents.animations.length ∧ e = d'.addAnimation u r := by
  rw [emitAnimation, Emit.bind_eq_ok] at h
  obtain ⟨d₀, d₁, h₁, h⟩ := h
  cases h₁
  cases hfind : d.animations.findIdx? (· = u) with
  | some n =>
      obtain ⟨hn, hu, -⟩ := List.findIdx?_eq_some_iff_getElem.mp hfind
      rw [hfind] at h
      cases h
      exact .inl ⟨n, by rw [List.getElem?_eq_getElem hn]; simpa using hu, rfl, rfl⟩
  | none =>
      rw [hfind] at h
      cases ha : s.animation? u with
      | none =>
          simp only [ha] at h
          cases h
      | some a =>
          simp only [ha] at h
          cases hc : a.check with
          | error err =>
              rw [hc] at h
              cases h
          | ok x =>
              rw [hc] at h
              obtain ⟨r, d', h₂, h⟩ := Emit.bind_eq_ok.mp h
              obtain ⟨_, d₂, h₃, h⟩ := Emit.bind_eq_ok.mp h
              cases h₃
              obtain ⟨_, d₃, h₄, h⟩ := Emit.bind_eq_ok.mp h
              cases h₄
              cases h
              exact .inr ⟨a, r, d', rfl, hc, h₂, rfl, rfl⟩

/-- The record of an action is added after what the action itself adds. -/
lemma emitActions_cons {rule place : ℕ} {a : Action} {rest : List Action}
    (h : emitActions s rule place (a :: rest) d = .ok ((), e)) :
    ∃ r d', emitAction s rule place a d = .ok (r, d')
      ∧ emitActions s rule (place + 1) rest (d'.addAction r) = .ok ((), e) := by
  rw [emitActions, Emit.bind_eq_ok] at h
  obtain ⟨r, d', h₁, h⟩ := h
  obtain ⟨_, d₂, h₂, h⟩ := Emit.bind_eq_ok.mp h
  cases h₂
  exact ⟨r, d', h₁, h⟩

lemma emitActions_nil {rule place : ℕ} (h : emitActions s rule place [] d = .ok ((), e)) :
    e = d := by
  cases h
  rfl

/-- The record of a rule as it is written at some point of a draft. -/
def Draft.ruleRecord (d : Draft) (r : Rule) : RuleRecord :=
  ⟨UInt16.ofNat d.contents.conditions.length, UInt16.ofNat d.contents.actions.length,
    UInt16.ofNat r.actions.length⟩

/-- A rule adds its condition, its actions and then its record. -/
lemma emitRule_cases {limits : Limits} {number : ℕ} {r : Rule}
    (h : emitRule s limits number r d = .ok ((), e)) :
    ∃ d', emitActions s number 0 r.actions (d.addCondition (conditionRecord r.condition))
        = .ok ((), d')
      ∧ e = d'.addRule (d.ruleRecord r) := by
  rw [emitRule, Emit.bind_eq_ok] at h
  obtain ⟨_, d₁, h₁, h⟩ := h
  have hd₁ : d₁ = d := by
    cases hcap : checkCapacity .actionsPerRule r.actions.length (min limits.actionsPerRule 256) with
    | error err =>
        rw [hcap] at h₁
        cases h₁
    | ok x =>
        rw [hcap] at h₁
        cases h₁
        rfl
  subst hd₁
  obtain ⟨_, d₂, h₂, h⟩ := Emit.bind_eq_ok.mp h
  cases h₂
  obtain ⟨_, d₃, h₃, h⟩ := Emit.bind_eq_ok.mp h
  cases h₃
  obtain ⟨_, d', h₄, h⟩ := Emit.bind_eq_ok.mp h
  cases h
  exact ⟨d', h₄, rfl⟩

lemma emitRules_cons {limits : Limits} {number : ℕ} {r : Rule} {rest : List Rule}
    (h : emitRules s limits number (r :: rest) d = .ok ((), e)) :
    ∃ d', emitRule s limits number r d = .ok ((), d')
      ∧ emitRules s limits (number + 1) rest d' = .ok ((), e) := by
  rw [emitRules, Emit.bind_eq_ok] at h
  obtain ⟨_, d', h₁, h⟩ := h
  exact ⟨d', h₁, h⟩

/-! ### Growth -/

/-- Every section of a draft, and its list of animations, is the beginning of that of
another. -/
structure Draft.GrowsInto (d f : Draft) : Prop where
  conditions : d.contents.conditions <+: f.contents.conditions
  actions : d.contents.actions <+: f.contents.actions
  rules : d.contents.rules <+: f.contents.rules
  animations : d.contents.animations <+: f.contents.animations
  tracks : d.contents.tracks <+: f.contents.tracks
  keyframes : d.contents.keyframes <+: f.contents.keyframes
  order : d.animations <+: f.animations

/-- A draft grows into another with the same rules, conditions and actions: what an action
needs is supplied to it. -/
structure Draft.Supplies (d e : Draft) : Prop extends Draft.GrowsInto d e where
  conditions_eq : e.contents.conditions = d.contents.conditions
  actions_eq : e.contents.actions = d.contents.actions
  rules_eq : e.contents.rules = d.contents.rules

namespace Draft.GrowsInto

variable {d e f : Draft}

lemma refl (d : Draft) : d.GrowsInto d :=
  ⟨List.prefix_rfl, List.prefix_rfl, List.prefix_rfl, List.prefix_rfl, List.prefix_rfl,
    List.prefix_rfl, List.prefix_rfl⟩

lemma trans (h : d.GrowsInto e) (h' : e.GrowsInto f) : d.GrowsInto f where
  conditions := h.conditions.trans h'.conditions
  actions := h.actions.trans h'.actions
  rules := h.rules.trans h'.rules
  animations := h.animations.trans h'.animations
  tracks := h.tracks.trans h'.tracks
  keyframes := h.keyframes.trans h'.keyframes
  order := h.order.trans h'.order

lemma addAction (d : Draft) (r : ActionRecord) : d.GrowsInto (d.addAction r) :=
  { refl d with actions := List.prefix_append _ _ }

lemma addCondition (d : Draft) (r : ConditionRecord) : d.GrowsInto (d.addCondition r) :=
  { refl d with conditions := List.prefix_append _ _ }

lemma addRule (d : Draft) (r : RuleRecord) : d.GrowsInto (d.addRule r) :=
  { refl d with rules := List.prefix_append _ _ }

end Draft.GrowsInto

namespace Draft.Supplies

variable {s : Source} {d e f : Draft}

lemma refl (d : Draft) : d.Supplies d :=
  ⟨GrowsInto.refl d, rfl, rfl, rfl⟩

lemma trans (h : d.Supplies e) (h' : e.Supplies f) : d.Supplies f where
  toGrowsInto := h.toGrowsInto.trans h'.toGrowsInto
  conditions_eq := h'.conditions_eq.trans h.conditions_eq
  actions_eq := h'.actions_eq.trans h.actions_eq
  rules_eq := h'.rules_eq.trans h.rules_eq

lemma addTrack (s : Source) (d : Draft) (ks : List Keyframe) (ledMask : UInt32) :
    d.Supplies (d.addTrack s ks ledMask) :=
  { refl d with
    tracks := List.prefix_append _ _
    keyframes := List.prefix_append _ _ }

lemma addTracks (s : Source) (d : Draft) (ts : List PatternTrack) :
    d.Supplies (d.addTracks s ts) := by
  induction ts generalizing d with
  | nil => exact refl d
  | cons t ts ih => exact (addTrack s d t.keyframes t.ledMask).trans (ih _)

lemma addPattern (d : Draft) (u : Uuid) (span : Span) : d.Supplies (d.addPattern u span) :=
  { refl d with }

lemma addAnimation (d : Draft) (u : Uuid) (r : AnimationRecord) :
    d.Supplies (d.addAnimation u r) :=
  { refl d with
    animations := List.prefix_append _ _
    order := List.prefix_append _ _ }

lemma addRemote (d : Draft) (a : RemoteAction) : d.Supplies (d.addRemote a) :=
  { refl d with }

lemma emitPattern {u : Uuid} {span : Span} (h : emitPattern s u d = .ok (span, e)) :
    d.Supplies e := by
  obtain ⟨-, rfl⟩ | ⟨p, -, -, -, rfl⟩ := emitPattern_cases h
  · exact refl e
  · exact (addTracks s d p.tracks).trans (addPattern _ _ _)

lemma emitPayload {a : Animation} {r : UInt8 × Payload} (h : emitPayload s a d = .ok (r, e)) :
    d.Supplies e := by
  obtain ⟨u, name, duration, faceMask, kind⟩ := a
  cases kind with
  | simple color count fade =>
      cases h
      exact refl d
  | rainbow count fade intensity cycles traveling =>
      cases h
      exact refl d
  | keyframed pattern traveling useLedIndices =>
      obtain ⟨span, d₁, h₁, h⟩ := Emit.bind_eq_ok.mp h
      cases h
      exact emitPattern h₁
  | gradientPattern pattern g override =>
      obtain ⟨span, d₁, h₁, h⟩ := Emit.bind_eq_ok.mp h
      cases h
      exact (emitPattern h₁).trans (addTrack _ _ _ _)
  | gradient g =>
      cases h
      exact addTrack _ _ _ _
  | cycle g count fade intensity cycles =>
      cases h
      exact addTrack _ _ _ _
  | noise => cases h

lemma emitRecord {a : Animation} {r : AnimationRecord} (h : emitRecord s a d = .ok (r, e)) :
    d.Supplies e := by
  obtain ⟨flags, payload, typeCode, hp, -, -⟩ := emitRecord_cases h
  exact emitPayload hp

lemma emitAnimation {u : Uuid} {i : UInt16} (h : emitAnimation s u d = .ok (i, e)) :
    d.Supplies e := by
  obtain ⟨n, -, -, rfl⟩ | ⟨a, r, d', -, -, hr, -, rfl⟩ := emitAnimation_cases h
  · exact refl e
  · exact (emitRecord hr).trans (addAnimation _ _ _)

lemma emitAction {rule place : ℕ} {a : Action} {r : ActionRecord}
    (h : emitAction s rule place a d = .ok (r, e)) : d.Supplies e := by
  cases a with
  | playAnimation u faceMask loopCount =>
      obtain ⟨i, d₁, h₁, h⟩ := Emit.bind_eq_ok.mp h
      cases h
      exact emitAnimation h₁
  | playAudioClip clip volume loopCount =>
      cases h
      exact addRemote _ _
  | makeWebRequest url value format =>
      cases h
      exact addRemote _ _
  | speakText text pitch rate =>
      cases h
      exact addRemote _ _

end Draft.Supplies

namespace Draft.GrowsInto

variable {s : Source} {d e : Draft}

lemma emitActions {rule place : ℕ} {as : List Action}
    (h : emitActions s rule place as d = .ok ((), e)) : d.GrowsInto e := by
  induction as generalizing d place with
  | nil =>
      obtain rfl := emitActions_nil h
      exact refl e
  | cons a rest ih =>
      obtain ⟨r, d', h₁, h₂⟩ := emitActions_cons h
      exact ((Supplies.emitAction h₁).toGrowsInto.trans (addAction d' r)).trans (ih h₂)

lemma emitRule {limits : Limits} {number : ℕ} {r : Rule}
    (h : emitRule s limits number r d = .ok ((), e)) : d.GrowsInto e := by
  obtain ⟨d', h₁, rfl⟩ := emitRule_cases h
  exact ((addCondition _ _).trans (emitActions h₁)).trans (addRule _ _)

lemma emitRules {limits : Limits} {number : ℕ} {rs : List Rule}
    (h : emitRules s limits number rs d = .ok ((), e)) : d.GrowsInto e := by
  induction rs generalizing d number with
  | nil =>
      cases h
      exact refl _
  | cons r rest ih =>
      obtain ⟨d', h₁, h₂⟩ := emitRules_cons h
      exact (emitRule h₁).trans (ih h₂)

end Draft.GrowsInto

/-! ### Rules and conditions, counted -/

/-- The actions of a rule leave conditions and rules as they are. -/
lemma emitActions_frame {rule place : ℕ} {as : List Action}
    (h : emitActions s rule place as d = .ok ((), e)) :
    e.contents.conditions = d.contents.conditions ∧ e.contents.rules = d.contents.rules := by
  induction as generalizing d place with
  | nil =>
      obtain rfl := emitActions_nil h
      exact ⟨rfl, rfl⟩
  | cons a rest ih =>
      obtain ⟨r, d', h₁, h₂⟩ := emitActions_cons h
      have hsame := Draft.Supplies.emitAction h₁
      obtain ⟨hc, hr⟩ := ih h₂
      exact ⟨hc.trans hsame.conditions_eq, hr.trans hsame.rules_eq⟩

/-- A rule puts one condition and one record at the end of their sections. -/
lemma emitRule_frame {limits : Limits} {number : ℕ} {r : Rule}
    (h : emitRule s limits number r d = .ok ((), e)) :
    e.contents.conditions = d.contents.conditions ++ [conditionRecord r.condition]
      ∧ e.contents.rules = d.contents.rules ++ [d.ruleRecord r] := by
  obtain ⟨d', h', rfl⟩ := emitRule_cases h
  obtain ⟨hc, hr⟩ := emitActions_frame h'
  refine ⟨hc, ?_⟩
  rw [Draft.addRule, hr]
  rfl

/-- There are as many more conditions and rules as rules have been emitted. -/
lemma emitRules_length {limits : Limits} {number : ℕ} {rs : List Rule}
    (h : emitRules s limits number rs d = .ok ((), e)) :
    e.contents.conditions.length = d.contents.conditions.length + rs.length
      ∧ e.contents.rules.length = d.contents.rules.length + rs.length := by
  induction rs generalizing d number with
  | nil =>
      cases h
      exact ⟨rfl, rfl⟩
  | cons r rest ih =>
      obtain ⟨d', h₁, h₂⟩ := emitRules_cons h
      obtain ⟨hc, hr⟩ := emitRule_frame h₁
      obtain ⟨hc', hr'⟩ := ih h₂
      rw [hc', hr', hc, hr]
      simp only [List.length_append, List.length_cons, List.length_nil]
      omega

end DiceHost.DataSet
