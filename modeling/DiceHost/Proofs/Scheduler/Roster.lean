/-
Who is paired, and what the records say.

* `Card`, `State.card?`: the record of a member, and whether the member is to be forgotten;
* `Request.wants?`, `Happening.wants?`: what users ask about the pairing of a die;
* `Files`: what becomes of the card of a die, with the events that are told of it;
* `Handled.files`, `Act.files`: what requests do to the cards, and everything that changes the
  shared state;
* `Orderly.files_happen`: **whatever happens, no card changes without a word**, unless a member in
  a session is marked to be forgotten;
* `State.Homely`: every record is kept for its own die, and so the records are listed once and in
  the order of their dice;
* `isPaired_after`: **the paired dice are those whose last request wants them**, and those that
  were paired at the start and that no request is about.
-/
import DiceHost.Proofs.PixelMap
import DiceHost.Proofs.Scheduler.Acts
import DiceHost.Proofs.Scheduler.Deeds

namespace DiceHost.Scheduler

open Link

/-! ### Cards -/

/-- What the pairing of a die goes by. -/
structure Card where
  record : Peripheral
  /-- Whether the die is to be forgotten when its session ends. -/
  leaving : Bool

namespace Member

/-- The card of a member. -/
def card (m : Member) : Card := ⟨m.peripheral, m.removed⟩

lemma card_afterEnqueue (m : Member) (l : Option Priority) (pr : Priority) :
    (m.afterEnqueue l pr).1.card = m.card := by
  rw [afterEnqueue]
  split_ifs <;> rfl

lemma card_afterSchedule (m : Member) (l : Option Priority) (pr : Priority) :
    (m.afterSchedule l pr).1.card = m.card := by
  rw [afterSchedule]
  split_ifs
  · rfl
  · exact m.card_afterEnqueue l pr

variable (m : Member) (c : Config) (p : PixelId) (r : Report)

/-- The end of a session changes the record as the die has confirmed. -/
lemma card_settled : (m.settled c p r).card = ⟨(m.released.confirm r).peripheral, m.removed⟩ := by
  have hremoved := m.settled_removed c p r
  rw [settled, settle_eq] at hremoved ⊢
  exact congrArg (Card.mk _) hremoved

lemma card_afterSession (l : Option Priority) :
    (m.afterSession l c p r).1.card = (m.settled c p r).card := by
  rw [afterSession]
  dsimp only
  split_ifs
  · rfl
  · cases m.nextPriority c p r with
    | none => rfl
    | some pr => exact card_afterSchedule _ l pr

/-- The record stays that of its die. -/
lemma pixel_confirm : (m.confirm r).peripheral.pixel = m.peripheral.pixel := by
  rw [confirm]
  cases r.profile <;> cases r.firmware <;> rfl

/-- A report that confirms nothing leaves the record as it is. -/
lemma peripheral_confirm (h : (r.profile.isSome || r.firmware.isSome) = false) :
    (m.confirm r).peripheral = m.peripheral := by
  rw [Bool.or_eq_false_iff, Option.isSome_eq_false_iff, Option.isSome_eq_false_iff,
    Option.isNone_iff_eq_none, Option.isNone_iff_eq_none] at h
  rw [confirm, h.1, h.2]

end Member

/-- The card of a die, if it is a member. -/
def State.card? (s : State) (p : PixelId) : Option Card :=
  (s.member? p).map Member.card

lemma State.card?_eq {s : State} {p : PixelId} {m : Member} (h : s.member? p = some m) :
    s.card? p = some m.card := by
  rw [card?, h]
  rfl

/-- What a request says about the pairing of a die: that it is to be paired, or that it is not. -/
def Request.wants? (p : PixelId) : Request → Option Bool
  | .register r => if r.pixel = p then some true else none
  | .unregister q => if q = p then some false else none
  | _ => none

/-- What users say about the pairing of a die as something happens, whether or not they are
refused. -/
def Happening.wants? (p : PixelId) : Happening → Option Bool
  | .move (.request r) => r.wants? p
  | _ => none

/-- Events tell that records have changed. -/
def Announces (es : List Event) : Prop :=
  ∃ e ∈ es, e.changesPairings = true

/-- What becomes of the card of a die. A change is told, but for the mark of a member in a
session. -/
inductive Files (p : PixelId) (wants : Option Bool) (es : List Event) :
    Option Card → Option Card → Prop
  | kept {a : Option Card} (h : wants = none ∨ wants = some false ∧ a = none) : Files p wants es a a
  | updated {c : Card} (r : Peripheral) (h : wants = none) (hr : r.pixel = c.record.pixel)
      (hes : Announces es) : Files p wants es (some c) (some { c with record := r })
  | left {c : Card} (h : wants = none) (hc : c.leaving = true) (hes : Announces es) :
      Files p wants es (some c) none
  | registered {a : Option Card} (r : Peripheral) (h : wants = some true) (hr : r.pixel = p)
      (hes : Announces es) : Files p wants es a (some ⟨r, false⟩)
  | unregistered {a : Option Card} (h : wants = some false) (hes : Announces es) :
      Files p wants es a none
  | marked {c : Card} (h : wants = some false) :
      Files p wants es (some c) (some { c with leaving := true })

namespace Files

variable {p q : PixelId} {wants : Option Bool} {es : List Event} {a b : Option Card}
  {s t : State} {m m' : Member} {l : Option Priority}

/-- A die is paired as the request wants it, or as it was before. -/
lemma isPaired (h : Files p wants es a b) :
    b.any (!·.leaving) = wants.getD (a.any (!·.leaving)) := by
  cases h with
  | kept h =>
      obtain rfl | ⟨rfl, rfl⟩ := h
      · rfl
      · rfl
  | updated _ h | registered _ h | unregistered h | marked h =>
      rw [h]
      rfl
  | left h hc =>
      rw [h, Option.getD_none, Option.any_some, hc]
      rfl

/-- A record stays that of its die. -/
lemma home (h : Files p wants es a b) (ha : ∀ c ∈ a, c.record.pixel = p) :
    ∀ c ∈ b, c.record.pixel = p := by
  cases h with
  | kept => exact ha
  | @updated c r _ hr =>
      rintro _ ⟨⟩
      exact hr.trans (ha c rfl)
  | left | unregistered => exact nofun
  | registered r _ hr =>
      rintro _ ⟨⟩
      exact hr
  | @marked c =>
      rintro _ ⟨⟩
      exact ha c rfl

/-- Without a word a card stays as it is, or the member is marked to be forgotten. -/
lemma silent (h : Files p wants es a b) (hes : ¬ Announces es) :
    b = a ∨ ∃ c ∈ b, c.leaving = true := by
  cases h with
  | kept => exact .inl rfl
  | marked => exact .inr ⟨_, rfl, rfl⟩
  | updated _ _ _ h | left _ _ h | registered _ _ _ h | unregistered _ h => exact absurd h hes

/-- A mark to be forgotten stays without a word. -/
lemma leaving (h : Files p wants es a b) (hes : ¬ Announces es) {c : Card} (hc : c ∈ a)
    (hleaving : c.leaving = true) : ∃ c ∈ b, c.leaving = true := by
  obtain rfl | hb := h.silent hes
  · exact ⟨c, hc, hleaving⟩
  · exact hb

/-- A change at another die. -/
lemma of_touches (ht : State.Touches s t q) (hp : p ≠ q) :
    Files p none es (s.card? p) (t.card? p) := by
  rw [State.card?, State.card?, ht.member p hp]
  exact .kept (.inl rfl)

/-- A change that leaves the card of its die as it is. -/
lemma of_holds (ht : State.Touches s t q) (hm : s.member? q = some m) (h : t.Holds q m' l)
    (hcard : m'.card = m.card) : Files p none es (s.card? p) (t.card? p) := by
  by_cases hp : p = q
  · subst hp
    rw [State.card?_eq hm, State.card?_eq h.member, hcard]
    exact .kept (.inl rfl)
  · exact of_touches ht hp

/-- A change that forgets its die, which was to be forgotten. -/
lemma of_lacks (ht : State.Touches s t q) (hm : s.member? q = some m) (hr : m.removed = true)
    (h : t.Lacks q) (hes : Announces es) : Files p none es (s.card? p) (t.card? p) := by
  by_cases hp : p = q
  · subst hp
    rw [State.card?_eq hm, State.card?, h.member]
    exact .left rfl hr hes
  · exact of_touches ht hp

end Files

/-! ### Changes of the shared state -/

namespace State

variable {s : State} {p q : PixelId} {m : Member} {l : Option Priority}

/-! #### Requests -/

lemma files_register (s : State) (r : Peripheral) (p : PixelId) :
    Files p ((Request.register r).wants? p) (s.register r).events (s.card? p)
      ((s.register r).state.card? p) := by
  rw [Request.wants?]
  by_cases hp : r.pixel = p
  · subst hp
    have hcard : (s.register r).state.card? r.pixel = some ⟨r, false⟩ := by
      rw [card?, register]
      refine (congrArg _ ((PixelMap.get?_insert _ _ _ _).trans (if_pos rfl))).trans ?_
      cases s.member? r.pixel <;> rfl
    rw [if_pos rfl, hcard]
    exact .registered r rfl rfl ⟨_, List.mem_singleton_self _, rfl⟩
  · rw [if_neg hp]
    exact .of_touches (touches_register s r) (Ne.symm hp)

lemma files_unregister (hm : s.member? q = some m) (p : PixelId) :
    Files p ((Request.unregister q).wants? p) (s.unregister q m).events (s.card? p)
      ((s.unregister q m).state.card? p) := by
  have hold : s.Holds q m (s.queue.priority? q) := ⟨hm, rfl⟩
  rw [Request.wants?]
  by_cases hp : q = p
  · subst hp
    rw [if_pos rfl]
    cases hf : m.inFlight with
    | true =>
        rw [card?_eq hm, card?_eq (hold.unregister hf).member]
        exact .marked rfl
    | false =>
        have htold : (s.unregister q m).events = [.unregistered q] := by
          rw [unregister, hf]
          rfl
        have hcard : (s.unregister q m).state.card? q = none :=
          congrArg _ (lacks_unregister s q hf).member
        rw [hcard]
        exact .unregistered rfl ⟨.unregistered q, htold ▸ List.mem_singleton_self _, rfl⟩
  · rw [if_neg hp]
    exact .of_touches (touches_unregister s q m) (Ne.symm hp)

/-- A record that comes to name another profile is told. -/
lemma files_program (hm : s.member? q = some m) (d : Program) (pr : Priority) (p : PixelId) :
    Files p none (s.program q m d pr).2.events (s.card? p)
      ((s.program q m d pr).2.state.card? p) := by
  have hold : s.Holds q m (s.queue.priority? q) := ⟨hm, rfl⟩
  have ht := touches_program s q m d pr
  obtain ⟨hf, hd, hold'⟩ | ⟨hold', -⟩ := hold.program d pr
  · by_cases hprofile : m.peripheral.profile = some d.profile
    · refine .of_holds ht hm hold' ?_
      rw [← hprofile]
      rfl
    · by_cases hp : p = q
      · subst hp
        have htold : .peripheralUpdated { m.peripheral with profile := some d.profile }
            ∈ (s.program p m d pr).2.events := by
          rw [program, hf, hd]
          simp [hprofile]
        rw [card?_eq hm, card?_eq hold'.member]
        exact .updated _ rfl rfl ⟨_, htold, rfl⟩
      · exact .of_touches ht hp
  · exact .of_holds ht hm hold' (Member.card_afterSchedule _ _ pr)

/-- **What a request does to the cards.** -/
lemma Handled.files {r : Request} {reply : Reply} {c : Change} (h : s.Handled r reply c)
    (p : PixelId) : Files p (r.wants? p) c.events (s.card? p) (c.state.card? p) := by
  have ht := h.touches
  cases h with
  | register r => exact files_register s r p
  | unregister hm => exact files_unregister hm p
  | @connect q m pr hm =>
      have hold : s.Holds q m (s.queue.priority? q) := ⟨hm, rfl⟩
      cases hf : m.inFlight with
      | true =>
          rw [connect_of_inFlight s q pr hf]
          exact .kept (.inl rfl)
      | false => exact .of_holds ht hm (hold.connect pr hf) (m.card_afterSchedule _ pr)
  | program d pr hm => exact files_program hm d pr p
  | @updateFirmware q m image force pr hm =>
      have hold : s.Holds q m (s.queue.priority? q) := ⟨hm, rfl⟩
      obtain ⟨-, hsame⟩ | ⟨-, hold', -⟩ := hold.updateFirmware image force pr
      · rw [hsame]
        exact .kept (.inl rfl)
      · exact .of_holds ht hm hold' (Member.card_afterSchedule _ _ pr)
  | @cancel q m hm =>
      have hold : s.Holds q m (s.queue.priority? q) := ⟨hm, rfl⟩
      obtain ⟨-, hold'⟩ | ⟨-, hold'⟩ := hold.cancel
      · exact .of_holds ht hm hold' rfl
      · exact .of_holds ht hm hold' rfl
  | @retry q m hm =>
      have hold : s.Holds q m (s.queue.priority? q) := ⟨hm, rfl⟩
      exact .of_holds ht hm hold.retry (Member.card_afterSchedule _ _ .high)

/-! #### Turns -/

lemma files_backoffOver (s : State) (q : PixelId) (epoch : ℕ) (p : PixelId) :
    Files p none (s.backoffOver q epoch).events (s.card? p)
      ((s.backoffOver q epoch).state.card? p) := by
  have ht := touches_backoffOver s q epoch
  cases hm : s.member? q with
  | none =>
      rw [backoffOver, hm]
      exact .kept (.inl rfl)
  | some m =>
      have hold : s.Holds q m (s.queue.priority? q) := ⟨hm, rfl⟩
      obtain ⟨-, -, -, hold'⟩ | hsame := hold.backoffOver epoch
      · exact .of_holds ht hm hold' (m.card_afterEnqueue _ .low)
      · rw [hsame]
        exact .kept (.inl rfl)

lemma files_interrupted (hold : s.Holds q m none) (pr : Priority) (p : PixelId) :
    Files p none (s.interrupted q pr).events (s.card? p) ((s.interrupted q pr).state.card? p) := by
  have ht := touches_interrupted s q pr
  cases hr : m.removed with
  | true =>
      have htold : (s.interrupted q pr).events = [.unregistered q] := by
        rw [interrupted, hold.releaseDfu.member]
        simp [hr, forget]
      exact .of_lacks ht hold.member hr (hold.lacks_interrupted pr hr)
        ⟨_, htold ▸ List.mem_singleton_self _, rfl⟩
  | false => exact .of_holds ht hold.member (hold.interrupted pr hr) rfl

lemma files_connectFailed (hold : s.Holds q m none) (c : Config) (e : LinkError) (p : PixelId) :
    Files p none (s.connectFailed c q e).1.events (s.card? p)
      ((s.connectFailed c q e).1.state.card? p) := by
  have ht := touches_connectFailed s c q e
  cases hr : m.removed with
  | true =>
      have htold : (s.connectFailed c q e).1.events = [.unregistered q] := by
        rw [connectFailed, hold.releaseDfu.member]
        simp [hr, forget]
      exact .of_lacks ht hold.member hr (hold.lacks_connectFailed c e hr)
        ⟨_, htold ▸ List.mem_singleton_self _, rfl⟩
  | false => exact .of_holds ht hold.member (hold.connectFailed c e hr) rfl

/-- What the die has confirmed is told at the end of its session. -/
lemma announces_sessionEnded (hold : s.Holds q m l) (c : Config) {r : Report}
    (h : (r.profile.isSome || r.firmware.isSome) = true ∨ m.removed = true) :
    Announces (s.sessionEnded c q r).events := by
  have hremoved := m.settled_removed c q r
  rw [Member.settled, Member.released] at hremoved
  rw [Announces, sessionEnded, hold.releaseDfu.member]
  dsimp only
  obtain h | h := h
  · rw [if_pos h]
    exact ⟨.peripheralUpdated (m.settled c q r).peripheral, List.mem_append_left _
      (List.mem_append_left _ (List.mem_append_right _ (List.mem_singleton_self _))), rfl⟩
  · rw [if_pos (hremoved.trans h)]
    exact ⟨.unregistered q, by simp [forget], rfl⟩

lemma files_sessionEnded (hold : s.Holds q m none) (c : Config) (r : Report) (p : PixelId) :
    Files p none (s.sessionEnded c q r).events (s.card? p)
      ((s.sessionEnded c q r).state.card? p) := by
  have ht := touches_sessionEnded s c q r
  cases hr : m.removed with
  | true =>
      exact .of_lacks ht hold.member hr (hold.lacks_sessionEnded c r hr)
        (announces_sessionEnded hold c (.inr hr))
  | false =>
      have hold' := hold.sessionEnded c r hr
      have hcard := (m.card_afterSession c q r none).trans (m.card_settled c q r)
      cases hr' : r.profile.isSome || r.firmware.isSome with
      | false =>
          rw [Member.peripheral_confirm _ _ hr'] at hcard
          exact .of_holds ht hold.member hold' hcard
      | true =>
          by_cases hp : p = q
          · subst hp
            rw [card?_eq hold.member, card?_eq hold'.member, hcard]
            exact .updated _ rfl (m.released.pixel_confirm r)
              (announces_sessionEnded hold c (.inl hr'))
          · exact .of_touches ht hp

end State

/-! ### Whatever happens -/

section Acts

variable {w : World} {x : Happening} {c : Change}

/-- **What anything that changes the shared state does to the cards.** -/
lemma Act.files (ho : Orderly w.state w.sessions w.started) (h : Act w x c) (p : PixelId) :
    Files p (x.wants? p) c.events (w.state.card? p) (c.state.card? p) := by
  have hmanned {id : ℕ} {s : Session} (hs : w.session? id = some s)
      (hact : Act w (.move (.session id)) c) : ∃ m, w.state.Holds s.pixel m none :=
    (ho.holds_manned (World.mem_of_session? hs).1 (hact.live hs)).imp fun _ => And.left
  cases h with
  | request hr => exact (State.handled hr).files p
  | seen => exact .kept (.inl rfl)
  | begun hd hnext =>
      obtain ⟨m, hold, ht, hold'⟩ := State.takeNext_cases ho.coherent.unique hnext
      exact .of_holds ht hold.member hold' rfl
  | woken => exact State.files_backoffOver _ _ _ p
  | interrupted hs hst =>
      obtain ⟨m, hold⟩ := hmanned hs (.interrupted hs hst)
      exact State.files_interrupted hold _ p
  | failed hs hst =>
      obtain ⟨m, hold⟩ := hmanned hs (.failed hs hst)
      exact State.files_connectFailed hold _ _ p
  | connected hs hst =>
      obtain ⟨m, hold⟩ := hmanned hs (.connected hs hst)
      exact .of_holds (State.touches_connected _ _) hold.member hold.connected rfl
  | transferring hs hst =>
      obtain ⟨m, hold⟩ := hmanned hs (.transferring hs hst)
      exact .of_holds (State.touches_transferring _ _ _) hold.member (hold.transferring _) rfl
  | ended hs hst =>
      obtain ⟨m, hold⟩ := hmanned hs (.ended hs hst)
      exact State.files_sessionEnded hold _ _ p

end Acts

/-- A request that is refused changes nothing, nor was there anything to change. -/
lemma State.files_refused {s : State} {r : Request} {e : RequestError} (h : s.handle r = .error e)
    (p : PixelId) : Files p (r.wants? p) [] (s.card? p) (s.card? p) := by
  cases r with
  | register => cases h
  | unregister q =>
      rw [Request.wants?]
      by_cases hp : q = p
      · subst hp
        have hnone : s.member? q = none := by
          by_contra hm
          obtain ⟨m, hm⟩ := Option.ne_none_iff_exists'.mp hm
          rw [handle, withMember, hm] at h
          cases h
        exact .kept (.inr ⟨if_pos rfl, congrArg _ hnone⟩)
      · exact .kept (.inl (if_neg hp))
  | connect | program | updateFirmware | cancel | retry => exact .kept (.inl rfl)

namespace Orderly

variable {w : World}

/-- **Whatever happens, no card changes without a word**, unless a member is marked. -/
lemma files_happen (ho : Orderly w.state w.sessions w.started) (x : Happening) (p : PixelId) :
    Files p (x.wants? p) (w.told x) (w.state.card? p) ((w.happen x).state.card? p) := by
  have hact {c : Change} (h : Act w x c) :
      Files p (x.wants? p) (w.told x) (w.state.card? p) ((w.happen x).state.card? p) := by
    rw [h.carries.told, h.carries.state]
    exact h.files ho p
  have hnone (hwants : x.wants? p = none) :
      Files p (x.wants? p) (w.told x) (w.state.card? p) ((w.happen x).state.card? p) := by
    obtain ⟨c, h⟩ | hunmoved := w.act_or_unmoved x
    · exact hact h
    · rw [hunmoved.state]
      exact .kept (.inl hwants)
  cases x with
  | radio | connection | answer => exact hnone rfl
  | move m =>
      cases m with
      | adjust | adapter | watch | dispatch | session | interrupt | timer | advance =>
          exact hnone rfl
      | request r =>
          cases hr : w.state.handle r with
          | ok result => exact hact (.request hr)
          | error e =>
              have hrefused : w.step (.request r) = (w, []) := by
                rw [World.step, World.request, hr]
              rw [World.told, World.happen, hrefused]
              exact State.files_refused hr p

end Orderly

/-! ### The roster -/

namespace State

variable {s t : State} {p : PixelId}

/-- A die is a member that is not to be forgotten. -/
def isPaired (s : State) (p : PixelId) : Bool :=
  (s.card? p).any (!·.leaving)

/-- Every record is kept for its own die. -/
def Homely (s : State) : Prop :=
  ∀ p, ∀ c ∈ s.card? p, c.record.pixel = p

/-- Some member is to be forgotten. -/
def Parting (s : State) : Prop :=
  ∃ p, ∃ c ∈ s.card? p, c.leaving = true

/-- Members are to be forgotten only in their sessions. -/
lemma Coherent.inFlight_of_parting (h : s.Coherent) (hp : s.Parting) :
    ∃ m ∈ s.members.values, m.removed = true ∧ m.inFlight = true := by
  obtain ⟨p, c, hc, hleaving⟩ := hp
  obtain ⟨m, hm, rfl⟩ := Option.map_eq_some_iff.mp hc
  obtain ⟨l, -, hcoherent⟩ := h.holds hm
  exact ⟨m, PixelMap.mem_values_iff.mpr ⟨p, hm⟩, hleaving, hcoherent.removed hleaving⟩

lemma pairings_eq (s : State) :
    s.pairings = ((s.members.map Member.card).values.filter (!·.leaving)).map (·.record) := by
  have hvalues : (s.members.map Member.card).values = s.members.values.map Member.card := by
    rw [PixelMap.values, PixelMap.values, PixelMap.map, List.map_map, List.map_map]
    rfl
  rw [pairings, hvalues, List.filter_map, List.map_map]
  rfl

/-- The records are those of the cards. -/
lemma pairings_congr (h : ∀ p, t.card? p = s.card? p) : t.pairings = s.pairings := by
  have hcards : t.members.map Member.card = s.members.map Member.card :=
    PixelMap.ext_get? fun p => by
      rw [PixelMap.get?_map, PixelMap.get?_map]
      exact h p
  rw [pairings_eq, pairings_eq, hcards]

lemma isPaired_iff : s.isPaired p = true ↔ ∃ m, s.member? p = some m ∧ m.removed = false := by
  rw [isPaired, card?]
  cases s.member? p <;> simp [Member.card]

/-- The dice of the records are those that are paired. -/
lemma mem_pixel_pairings (h : s.Homely) :
    p ∈ s.pairings.map (·.pixel) ↔ s.isPaired p = true := by
  rw [isPaired_iff, pairings, List.map_map, List.mem_map]
  constructor
  · rintro ⟨m, hm, rfl⟩
    obtain ⟨hmem, hr⟩ := List.mem_filter.mp hm
    obtain ⟨q, hq⟩ := PixelMap.mem_values_iff.mp hmem
    obtain rfl : m.peripheral.pixel = q := h q m.card (card?_eq hq)
    exact ⟨m, hq, by simpa using hr⟩
  · rintro ⟨m, hm, hr⟩
    have hmem : m ∈ s.members.values := PixelMap.mem_values_iff.mpr ⟨p, hm⟩
    exact ⟨m, List.mem_filter.mpr ⟨hmem, by rw [hr]; rfl⟩, h p m.card (card?_eq hm)⟩

/-- The records are listed in the order of their dice. -/
lemma ascending_pairings (h : s.Homely) : s.pairings.Pairwise (·.pixel.id < ·.pixel.id) := by
  have hhome {e : PixelId × Member} (he : e ∈ s.members.entries) : e.2.peripheral.pixel = e.1 :=
    h e.1 e.2.card (card?_eq (PixelMap.get?_of_mem he))
  have hvalues : s.members.values.Pairwise (·.peripheral.pixel.id < ·.peripheral.pixel.id) := by
    rw [PixelMap.values, List.pairwise_map]
    refine s.members.ascending.imp_of_mem fun he hf hlt => ?_
    rw [hhome he, hhome hf]
    exact hlt
  exact List.pairwise_map.mpr (hvalues.filter _)

/-! #### At the start -/

variable (a : AdapterState) (pairings : List Peripheral)

/-- Nobody is to be forgotten at the start. -/
lemma removed_start {m : Member} (hm : (State.start a pairings).member? p = some m) :
    m.removed = false := by
  obtain ⟨r, -, rfl⟩ := List.mem_map.mp (PixelMap.mem_of_get?_ofList hm)
  rfl

lemma homely_start : (State.start a pairings).Homely := by
  intro p c hc
  obtain ⟨m, hm, rfl⟩ := Option.map_eq_some_iff.mp hc
  rw [member?, start] at hm
  have hkey := PixelMap.key_of_get?_ofList hm
  exact hkey

lemma isPaired_start :
    (State.start a pairings).isPaired p = true ↔ p ∈ pairings.map (·.pixel) := by
  have hmember : (∃ m, (State.start a pairings).member? p = some m ∧ m.removed = false)
      ↔ ((State.start a pairings).member? p).isSome = true := by
    rw [Option.isSome_iff_exists]
    exact exists_congr fun m => and_iff_left_of_imp (removed_start a pairings)
  rw [isPaired_iff, hmember, member?, start, PixelMap.isSome_get?_ofList, List.map_map]
  rfl

variable {pairings}

lemma pairings_start (h : pairings.Pairwise (·.pixel.id < ·.pixel.id)) :
    (State.start a pairings).pairings = pairings := by
  have hvalues : (State.start a pairings).members.values
      = pairings.map fun peripheral => { peripheral } :=
    PixelMap.values_ofList (List.pairwise_map.mpr h)
  rw [State.pairings, hvalues, List.filter_map, List.map_map]
  exact (List.map_id _).trans (List.filter_eq_self.mpr fun _ _ => rfl)

end State

/-! ### In every run -/

/-- What users say about the pairing of a die in a run, in this order. -/
def wishes (p : PixelId) (hs : List Happening) : List Bool :=
  hs.filterMap (·.wants? p)

namespace Orderly

variable {w : World}

lemma homely_happen (ho : Orderly w.state w.sessions w.started) (h : w.state.Homely)
    (x : Happening) : (w.happen x).state.Homely :=
  fun p => (ho.files_happen x p).home (h p)

lemma isPaired_happen (ho : Orderly w.state w.sessions w.started) (x : Happening) (p : PixelId) :
    (w.happen x).state.isPaired p = (x.wants? p).getD (w.state.isPaired p) :=
  (ho.files_happen x p).isPaired

/-- Without a word, a member that is to be forgotten stays so. -/
lemma parting_happen (ho : Orderly w.state w.sessions w.started) {x : Happening}
    (hsilent : ¬ Announces (w.told x)) (h : w.state.Parting) : (w.happen x).state.Parting := by
  obtain ⟨p, c, hc, hleaving⟩ := h
  exact ⟨p, (ho.files_happen x p).leaving hsilent hc hleaving⟩

/-- Without a word, the records stay as they are, unless a member is to be forgotten. -/
lemma pairings_happen (ho : Orderly w.state w.sessions w.started) {x : Happening}
    (hsilent : ¬ Announces (w.told x)) (h : ¬ (w.happen x).state.Parting) :
    (w.happen x).state.pairings = w.state.pairings := by
  refine State.pairings_congr fun p => ?_
  obtain hsame | hleaving := (ho.files_happen x p).silent hsilent
  · exact hsame
  · exact absurd ⟨p, hleaving⟩ h

/-- **The paired dice are those whose last request wants them**, and those that were paired before
and that no request is about. -/
lemma isPaired_after (ho : Orderly w.state w.sessions w.started) (hs : List Happening)
    (p : PixelId) :
    (w.after hs).state.isPaired p = (wishes p hs).getLast?.getD (w.state.isPaired p) := by
  induction hs generalizing w with
  | nil => rfl
  | cons x hs ih =>
      rw [World.after_cons, ih (ho.happen x), ho.isPaired_happen x p, wishes, wishes,
        List.filterMap_cons]
      cases x.wants? p with
      | none => rfl
      | some b => rw [List.getLast?_cons]; rfl

end Orderly

end DiceHost.Scheduler
