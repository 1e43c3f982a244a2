/-
The actions that the host carries out.

* `HostAction`, `hostActions`: the host actions of some rules, each with the number of its rule
  and its place there, in the order of the rules;
* `toNat_remoteActionId`: the number of an identifier, from which rule and place are read back;
* `emitRules_remoteActions`: rules add their host actions, in order, to those of a draft, and no
  animation, pattern or track adds one;
* `compile_remoteActions`: **an identifier is that of one host action, for the die and for the
  host alike**.

The die holds the identifier in the record of the action, the host holds it in a table of its
own. Both are written from the same rule and place, and the two bytes of an identifier are wide
enough for them, since a profile has at most 256 rules of at most 256 actions.
-/
import DiceHost.Proofs.DataSet.Capacity

namespace DiceHost.DataSet

/-! ### Identifiers -/

/-- An identifier is the number of the rule, and then that of the place, in base 256. -/
lemma toNat_remoteActionId {rule place : ℕ} (hr : rule < 256) (hp : place < 256) :
    (remoteActionId rule place).toNat = rule * 256 + place := by
  have hrule : (UInt16.ofNat rule <<< 8).toNat = rule <<< 8 := by
    rw [UInt16.toNat_shiftLeft, Contents.toNat_count (by omega)]
    refine Nat.mod_eq_of_lt ?_
    show rule <<< 8 < 2 ^ 16
    rw [Nat.shiftLeft_eq]
    omega
  have hplace : (UInt16.ofNat place &&& 0xff).toNat = place := by
    rw [UInt16.toNat_and, Contents.toNat_count (by omega)]
    show place &&& 2 ^ 8 - 1 = place
    rw [Nat.and_two_pow_sub_one_eq_mod]
    exact Nat.mod_eq_of_lt hp
  calc (remoteActionId rule place).toNat = rule <<< 8 ||| place := by
        rw [remoteActionId, UInt16.toNat_or, hrule, hplace]
    _ = place ||| rule <<< 8 := Nat.or_comm _ _
    _ = place + rule * 2 ^ 8 := or_shiftLeft (by omega) rule
    _ = rule * 256 + place := by omega

/-! ### The host actions of rules -/

/-- An action of the host, with the number of its rule and its place in the rule. -/
structure HostAction where
  rule : ℕ
  place : ℕ
  action : Action
deriving DecidableEq, Repr

namespace HostAction

/-- The entry of an action in the table of the host. -/
def entry (x : HostAction) : RemoteAction := ⟨remoteActionId x.rule x.place, x.action⟩

/-- An action stands before another, in an earlier rule or earlier in the same one. -/
def Before (x y : HostAction) : Prop :=
  x.rule < y.rule ∨ x.rule = y.rule ∧ x.place < y.place

end HostAction

/-- The host actions among the actions of a rule from a place on. -/
def hostActionsOf (rule : ℕ) : ℕ → List Action → List HostAction
  | _, [] => []
  | place, a :: rest =>
    if a.isRemote then ⟨rule, place, a⟩ :: hostActionsOf rule (place + 1) rest
    else hostActionsOf rule (place + 1) rest

/-- The host actions of the rules from a number on. -/
def hostActions : ℕ → List Rule → List HostAction
  | _, [] => []
  | number, r :: rest => hostActionsOf number 0 r.actions ++ hostActions (number + 1) rest

lemma mem_hostActionsOf {rule place : ℕ} {as : List Action} {x : HostAction} :
    x ∈ hostActionsOf rule place as
      ↔ x.rule = rule ∧ x.action.isRemote = true
        ∧ ∃ i, x.place = place + i ∧ as[i]? = some x.action := by
  induction as generalizing place with
  | nil => simp [hostActionsOf]
  | cons a rest ih =>
      -- an action further on has a place that is one less in the rest
      have hrest : x ∈ hostActionsOf rule (place + 1) rest ↔ x.rule = rule
          ∧ x.action.isRemote = true
          ∧ ∃ i, x.place = place + (i + 1) ∧ (a :: rest)[i + 1]? = some x.action := by
        rw [ih]
        simp only [List.getElem?_cons_succ, Nat.add_assoc, Nat.add_comm 1]
      constructor
      · intro hx
        rw [hostActionsOf] at hx
        split at hx
        · rename_i ha
          rcases List.mem_cons.mp hx with rfl | hx
          · exact ⟨rfl, ha, 0, rfl, rfl⟩
          · obtain ⟨hr, hremote, i, hi, hget⟩ := hrest.mp hx
            exact ⟨hr, hremote, i + 1, hi, hget⟩
        · obtain ⟨hr, hremote, i, hi, hget⟩ := hrest.mp hx
          exact ⟨hr, hremote, i + 1, hi, hget⟩
      · rintro ⟨hr, hremote, i, hi, hget⟩
        rw [hostActionsOf]
        cases i with
        | zero =>
            obtain rfl : a = x.action := by simpa using hget
            obtain ⟨rule', place', action⟩ := x
            obtain rfl : rule' = rule := hr
            obtain rfl : place' = place := hi
            rw [if_pos hremote]
            exact List.mem_cons_self
        | succ i =>
            have hx := hrest.mpr ⟨hr, hremote, i, hi, hget⟩
            split
            · exact List.mem_cons_of_mem _ hx
            · exact hx

/-- The host actions of rules are the actions of these that the host carries out, each at its
place. -/
lemma mem_hostActions {number : ℕ} {rs : List Rule} {x : HostAction} :
    x ∈ hostActions number rs
      ↔ x.action.isRemote = true
        ∧ ∃ i r, x.rule = number + i ∧ rs[i]? = some r ∧ r.actions[x.place]? = some x.action := by
  induction rs generalizing number with
  | nil => simp [hostActions]
  | cons r rest ih =>
      rw [hostActions, List.mem_append, mem_hostActionsOf, ih]
      constructor
      · rintro (⟨hr, hremote, j, hj, hget⟩ | ⟨hremote, i, r', hi, hr', hget⟩)
        · rw [Nat.zero_add] at hj
          exact ⟨hremote, 0, r, hr, rfl, hj ▸ hget⟩
        · exact ⟨hremote, i + 1, r', by omega, hr', hget⟩
      · rintro ⟨hremote, i, r', hi, hr', hget⟩
        cases i with
        | zero =>
            obtain rfl : r = r' := by simpa using hr'
            exact .inl ⟨hi, hremote, x.place, (Nat.zero_add _).symm, hget⟩
        | succ i => exact .inr ⟨hremote, i, r', by omega, hr', hget⟩

lemma pairwise_hostActionsOf (rule place : ℕ) (as : List Action) :
    (hostActionsOf rule place as).Pairwise HostAction.Before := by
  induction as generalizing place with
  | nil => exact .nil
  | cons a rest ih =>
      rw [hostActionsOf]
      split
      · refine List.pairwise_cons.mpr ⟨fun y hy => ?_, ih _⟩
        obtain ⟨hr, -, i, hi, -⟩ := mem_hostActionsOf.mp hy
        exact .inr ⟨hr.symm, show place < y.place by omega⟩
      · exact ih _

/-- The host actions of rules stand in order, each at a place of its own. -/
lemma pairwise_hostActions (number : ℕ) (rs : List Rule) :
    (hostActions number rs).Pairwise HostAction.Before := by
  induction rs generalizing number with
  | nil => exact .nil
  | cons r rest ih =>
      rw [hostActions, List.pairwise_append]
      refine ⟨pairwise_hostActionsOf number 0 r.actions, ih _, fun x hx y hy => .inl ?_⟩
      obtain ⟨hx, -⟩ := mem_hostActionsOf.mp hx
      obtain ⟨-, i, r', hy, -⟩ := mem_hostActions.mp hy
      omega

/-! ### What adds host actions to a draft -/

variable {s : Source} {d e : Draft}

lemma Draft.addTracks_remoteActions (s : Source) (d : Draft) (ts : List PatternTrack) :
    (d.addTracks s ts).remoteActions = d.remoteActions := by
  induction ts generalizing d with
  | nil => rfl
  | cons t ts ih => exact ih _

lemma emitPattern_remoteActions {u : Uuid} {span : Span}
    (h : emitPattern s u d = .ok (span, e)) : e.remoteActions = d.remoteActions := by
  obtain ⟨-, rfl⟩ | ⟨p, -, -, -, rfl⟩ := emitPattern_cases h
  · rfl
  · exact d.addTracks_remoteActions s p.tracks

/-- An animation adds no host action, and neither does anything that it shows. -/
lemma emitAnimation_remoteActions {u : Uuid} {i : UInt16}
    (h : emitAnimation s u d = .ok (i, e)) : e.remoteActions = d.remoteActions := by
  obtain ⟨n, -, -, rfl⟩ | ⟨a, r, d', -, -, hr, -, rfl⟩ := emitAnimation_cases h
  · rfl
  · obtain ⟨flags, payload, typeCode, hp, -, -⟩ := emitRecord_cases hr
    obtain ⟨-, d₁, hd₁, rfl⟩ := emitPayload_cases hp
    have hpattern : d₁.remoteActions = d.remoteActions := by
      obtain ⟨-, rfl⟩ | ⟨v, span, -, hspan⟩ := hd₁
      · rfl
      · exact emitPattern_remoteActions hspan
    calc (d₁.addTracks s a.ownTrack?.toList).remoteActions
        = d₁.remoteActions := d₁.addTracks_remoteActions s _
      _ = d.remoteActions := hpattern

lemma emitAction_remoteActions {rule place : ℕ} {a : Action} {r : ActionRecord}
    (h : emitAction s rule place a d = .ok (r, e)) :
    e.remoteActions
      = d.remoteActions ++ if a.isRemote then [⟨remoteActionId rule place, a⟩] else [] := by
  cases a with
  | playAnimation u faceMask loopCount =>
      obtain ⟨i, d₁, h₁, h⟩ := Emit.bind_eq_ok.mp h
      cases h
      simp [Action.isRemote, emitAnimation_remoteActions h₁]
  | playAudioClip clip volume loopCount =>
      cases h
      rfl
  | makeWebRequest url value format =>
      cases h
      rfl
  | speakText text pitch rate =>
      cases h
      rfl

lemma emitActions_remoteActions {rule place : ℕ} {as : List Action}
    (h : emitActions s rule place as d = .ok ((), e)) :
    e.remoteActions
      = d.remoteActions ++ (hostActionsOf rule place as).map HostAction.entry := by
  induction as generalizing d place with
  | nil =>
      obtain rfl := emitActions_nil h
      simp [hostActionsOf]
  | cons a rest ih =>
      obtain ⟨r, d', h₁, h₂⟩ := emitActions_cons h
      have hd' := emitAction_remoteActions h₁
      calc e.remoteActions
          = (d'.addAction r).remoteActions
            ++ (hostActionsOf rule (place + 1) rest).map HostAction.entry := ih h₂
        _ = (d.remoteActions ++ if a.isRemote then [⟨remoteActionId rule place, a⟩] else [])
            ++ (hostActionsOf rule (place + 1) rest).map HostAction.entry := by
          rw [← hd', Draft.addAction]
        _ = d.remoteActions ++ (hostActionsOf rule place (a :: rest)).map HostAction.entry := by
          rw [hostActionsOf, List.append_assoc]
          split <;> simp [HostAction.entry]

/-- Rules add their host actions to a draft, in order. -/
lemma emitRules_remoteActions {limits : Limits} {number : ℕ} {rs : List Rule}
    (h : emitRules s limits number rs d = .ok ((), e)) :
    e.remoteActions = d.remoteActions ++ (hostActions number rs).map HostAction.entry := by
  induction rs generalizing d number with
  | nil =>
      cases h
      simp [hostActions]
  | cons r rest ih =>
      obtain ⟨d₁, h₁, h₂⟩ := emitRules_cons h
      obtain ⟨d₂, hactions, rfl⟩ := emitRule_cases h₁
      calc e.remoteActions
          = (d₂.addRule (d.ruleRecord r)).remoteActions
            ++ (hostActions (number + 1) rest).map HostAction.entry := ih h₂
        _ = (d.remoteActions ++ (hostActionsOf number 0 r.actions).map HostAction.entry)
            ++ (hostActions (number + 1) rest).map HostAction.entry := by
          rw [Draft.addRule, emitActions_remoteActions hactions, Draft.addCondition]
        _ = d.remoteActions ++ (hostActions number (r :: rest)).map HostAction.entry := by
          rw [hostActions, List.append_assoc, List.map_append]

/-! ### The table of the host -/

/-- The record of a host action holds its identifier. -/
lemma Contents.ShowsAction.index_eq {c : Contents} {order : List Uuid} {rule place : ℕ}
    {a : Action} {r : ActionRecord} (h : c.ShowsAction s order rule place a r)
    (ha : a.isRemote = true) : r.index = remoteActionId rule place := by
  obtain ⟨-, h⟩ := h
  cases a with
  | playAnimation u faceMask loopCount => cases ha
  | playAudioClip clip volume loopCount => exact h.2.2
  | makeWebRequest url value format => exact h.2.2
  | speakText text pitch rate => exact h.2.2

/-- The entry of an identifier in a table without repetitions. -/
lemma Compiled.remoteAction?_of_mem {c : Compiled} (hc : (c.remoteActions.map (·.id)).Nodup)
    {x : RemoteAction} (hx : x ∈ c.remoteActions) : c.remoteAction? x.id = some x.action := by
  rw [remoteAction?]
  cases hfind : c.remoteActions.find? (·.id = x.id) with
  | none => exact (List.find?_eq_none.mp hfind x hx (decide_eq_true rfl)).elim
  | some y =>
      have hid : y.id = x.id := by simpa using List.find?_some hfind
      rw [List.inj_on_of_nodup_map hc (List.mem_of_find?_eq_some hfind) hx hid]
      rfl

/-- An identifier that no entry has stands for nothing. -/
lemma Compiled.remoteAction?_eq_none {c : Compiled} {id : UInt16}
    (h : ∀ x ∈ c.remoteActions, x.id ≠ id) : c.remoteAction? id = none := by
  rw [remoteAction?, Option.map_eq_none_iff, List.find?_eq_none]
  exact fun x hx hid => h x hx (of_decide_eq_true hid)

/-- The host carries out an action of a profile, the one at a place of the rule of a number. -/
def HostCarriesOut (p : Profile) (rule place : ℕ) (a : Action) : Prop :=
  ∃ r, p.rules[rule]? = some r ∧ r.actions[place]? = some a ∧ a.isRemote = true

/-- What a profile compiles to has its host actions in its table, in order. Rules and places
stay below 256. -/
lemma compile_hostActions {p : Profile} {l : Library} {options : CompileOptions} {c : Compiled}
    (h : compile p l options = .ok c) :
    c.remoteActions = (hostActions 0 p.rules).map HostAction.entry
      ∧ (∀ x ∈ hostActions 0 p.rules, x.rule < 256 ∧ x.place < 256)
      ∧ ∀ x, x ∈ hostActions 0 p.rules ↔ HostCarriesOut p x.rule x.place x.action := by
  obtain ⟨f, -, hrules, hemit, -, rfl⟩ := compile_cases h
  refine ⟨?_, fun x hx => ?_, fun x => ?_⟩
  · exact (emitRules_remoteActions hemit).trans (List.nil_append _)
  · obtain ⟨-, i, r, hi, hr, hget⟩ := mem_hostActions.mp hx
    have hactions := emitRules_capacity hemit r (List.mem_of_getElem? hr)
    have hrule := (List.getElem?_eq_some_iff.mp hr).1
    have hplace := (List.getElem?_eq_some_iff.mp hget).1
    omega
  · rw [mem_hostActions]
    constructor
    · rintro ⟨hremote, i, r, hi, hr, hget⟩
      rw [Nat.zero_add] at hi
      exact ⟨r, hi ▸ hr, hget, hremote⟩
    · rintro ⟨r, hr, hget, hremote⟩
      exact ⟨hremote, x.rule, r, (Nat.zero_add _).symm, hr, hget⟩

/-- The identifiers of a table ascend, so that none occurs twice. -/
lemma nodup_remoteActions {p : Profile} {l : Library} {options : CompileOptions} {c : Compiled}
    (h : compile p l options = .ok c) : (c.remoteActions.map (·.id)).Nodup := by
  obtain ⟨htable, hbound, -⟩ := compile_hostActions h
  rw [htable, List.map_map, List.nodup_iff_pairwise_ne, List.pairwise_map]
  refine (pairwise_hostActions 0 p.rules).imp_of_mem fun {x y} hx hy hxy heq => ?_
  obtain ⟨hxr, hxp⟩ := hbound x hx
  obtain ⟨hyr, hyp⟩ := hbound y hy
  have hnumber : x.rule * 256 + x.place = y.rule * 256 + y.place := by
    rw [← toNat_remoteActionId hxr hxp, ← toNat_remoteActionId hyr hyp]
    exact congrArg UInt16.toNat heq
  rcases hxy with hlt | ⟨hrule, hlt⟩ <;> omega

/-- **An identifier is that of one host action.** No two entries of the table of the host have
the same one. Where the host carries out an action of a profile, the record of this action, read
back from the bytes of the data set, has the number of its rule and its place in base 256 as its
index, and this identifier stands for just this action. Any other stands for nothing. -/
theorem compile_remoteActions {p : Profile} {l : Library} {options : CompileOptions}
    {c : Compiled} (h : compile p l options = .ok c) :
    (c.remoteActions.map (·.id)).Nodup
      ∧ Contents.parse c.bytes = .ok c.contents
      ∧ (∀ rule place a, HostCarriesOut p rule place a →
          ∃ r record, c.contents.rules[rule]? = some r
            ∧ c.contents.actions[r.actionOffset.toNat + place]? = some record
            ∧ record.index.toNat = rule * 256 + place
            ∧ c.remoteAction? record.index = some a)
      ∧ ∀ id : UInt16,
          (∀ rule place a, HostCarriesOut p rule place a → id.toNat ≠ rule * 256 + place) →
            c.remoteAction? id = none := by
  obtain ⟨htable, hbound, hmem⟩ := compile_hostActions h
  obtain ⟨hcoherent, hdepicts⟩ := compile_sound h
  have hnodup := nodup_remoteActions h
  refine ⟨hnodup, hcoherent.parse, fun rule place a ha => ?_, fun id hid => ?_⟩
  · have hx : (⟨rule, place, a⟩ : HostAction) ∈ hostActions 0 p.rules := (hmem _).mpr ha
    obtain ⟨hrule, hplace⟩ := hbound _ hx
    obtain ⟨r', hr', hget, hremote⟩ := ha
    obtain ⟨r, cond, hr, -, -, -, hspan⟩ := hdepicts.rule rule r' hr'
    obtain ⟨record, hrecord, hshows⟩ :=
      hspan.get (j := place) (y := (a, place)) (by simp [List.getElem?_zipIdx, hget])
    have hindex := hshows.index_eq hremote
    refine ⟨r, record, hr, hrecord, ?_, ?_⟩
    · rw [hindex, toNat_remoteActionId hrule hplace]
    · rw [hindex]
      exact Compiled.remoteAction?_of_mem hnodup (htable ▸ List.mem_map_of_mem hx)
  · refine Compiled.remoteAction?_eq_none fun y hy hyid => ?_
    rw [htable] at hy
    obtain ⟨x, hx, rfl⟩ := List.mem_map.mp hy
    obtain ⟨hrule, hplace⟩ := hbound x hx
    refine hid x.rule x.place x.action ((hmem x).mp hx) ?_
    rw [← hyid]
    exact toNat_remoteActionId hrule hplace

/-- A profile whose second rule tells the host to speak and then to report a roll. -/
def Sample.herald : Profile :=
  .new ⟨5⟩ "herald" .d20
    [⟨.handling, []⟩,
      ⟨.rolled 0x80000, [.speakText "crit" .one .one, .makeWebRequest "https://roll" "20" .json]⟩]
    default

/-- The report is the second action of the second rule, and there is no third one. -/
theorem sample_remoteActions : ∃ c, compile Sample.herald {} {} = .ok c
    ∧ (c.remoteActions.map (·.id)).Nodup
    ∧ c.remoteAction? 257 = some (.makeWebRequest "https://roll" "20" .json)
    ∧ c.remoteAction? 258 = none := by
  have hok : (compile Sample.herald {} {}).toOption.isSome := by decide +kernel
  cases h : compile Sample.herald {} {} with
  | error e =>
      rw [h] at hok
      cases hok
  | ok c =>
      obtain ⟨hnodup, -, hhost, hother⟩ := compile_remoteActions h
      refine ⟨c, rfl, hnodup, ?_, hother 258 ?_⟩
      · obtain ⟨r, record, -, -, hindex, haction⟩ := hhost 1 1 _ ⟨_, rfl, rfl, rfl⟩
        have hid : record.index = 257 := UInt16.toNat_inj.mp hindex
        exact hid ▸ haction
      · rintro rule place a ⟨r, hr, ha, -⟩ hnumber
        have hrule := (List.getElem?_eq_some_iff.mp hr).1
        have hplace := (List.getElem?_eq_some_iff.mp ha).1
        have hlength : ∀ r ∈ Sample.herald.rules, r.actions.length ≤ 2 := by decide
        have hactions := hlength r (List.mem_of_getElem? hr)
        have hrules : Sample.herald.rules.length = 2 := rfl
        have hid : (258 : UInt16).toNat = 258 := rfl
        omega

end DiceHost.DataSet
