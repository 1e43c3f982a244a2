/-
Dice that are given up.

* `Sparing`: events that tell of no die given up;
* `State.mem_connectFailed_iff`, `State.mem_sessionEnded_iff`: a die is told to be given up after
  too many failures, by the two failures there are;
* `Act.failure_of_gaveUp`, `Act.gaveUp_of_failure`: **a die is told to be given up exactly as it
  fails once too often**, unless it is to be forgotten;
* `Deed.pardons`: a die is retried or forgotten;
* `Orderly.givenUp_after`: **a die that was given up stays so until it is pardoned**;
* `attempts_after`: attempts, what is told, and what is given up, in every run.
-/
import DiceHost.Proofs.Scheduler.Attendance
import DiceHost.Proofs.Scheduler.Backoff
import DiceHost.Proofs.Scheduler.Failures

namespace DiceHost.Scheduler

open Link

/-! ### Events -/

/-- A die is told to be given up. -/
def Event.isGaveUp : Event → Bool
  | gaveUp .. => true
  | _ => false

/-- Events that tell of no die given up. -/
def Sparing (es : List Event) : Prop :=
  ∀ e ∈ es, e.isGaveUp = false

lemma sparing_nil : Sparing [] := List.forall_mem_nil _

lemma sparing_singleton {e : Event} (h : e.isGaveUp = false) : Sparing [e] :=
  List.forall_mem_singleton.mpr h

lemma Sparing.append {es es' : List Event} (h : Sparing es) (h' : Sparing es') :
    Sparing (es ++ es') :=
  List.forall_mem_append.mpr ⟨h, h'⟩

lemma Sparing.gaveUp_notMem {es : List Event} (h : Sparing es) {p : PixelId} {a : UInt32}
    {f : Failure} : .gaveUp p a f ∉ es :=
  fun hmem => Bool.noConfusion (h _ hmem)

lemma sparing_events (r : Report) (p : PixelId) : Sparing (r.events p) := by
  refine .append ?_ ?_
  · rcases r.profile with _ | ⟨job, _ | _⟩
    · exact sparing_nil
    · exact sparing_singleton rfl
    · exact sparing_singleton rfl
  · cases r.firmware with
    | none => exact sparing_nil
    | some job => exact sparing_singleton rfl

namespace State

variable {s : State} {p q : PixelId} {m : Member} {l : Option Priority} {a : UInt32} {f : Failure}

lemma sparing_enqueue (s : State) (p : PixelId) (pr : Priority) : Sparing (s.enqueue p pr).2 := by
  rw [enqueue]
  cases s.member? p with
  | none => exact sparing_nil
  | some m =>
      dsimp only
      split_ifs
      · exact sparing_nil
      · exact sparing_nil
      · exact sparing_singleton rfl

lemma sparing_schedule (s : State) (p : PixelId) (pr : Priority) :
    Sparing (s.schedule p pr).2 := by
  rw [schedule]
  cases s.member? p with
  | none => exact sparing_nil
  | some m =>
      dsimp only
      split_ifs
      · exact sparing_nil
      · exact sparing_enqueue s p pr

/-- No request makes a die be given up. -/
lemma Handled.sparing {r : Request} {reply : Reply} {c : Change} (h : s.Handled r reply c) :
    Sparing c.events := by
  cases h with
  | register => exact sparing_singleton rfl
  | unregister =>
      rw [State.unregister]
      split_ifs
      · exact sparing_nil
      · exact sparing_singleton rfl
  | connect =>
      rw [State.connect]
      split_ifs
      · exact sparing_nil
      · exact sparing_schedule _ _ _
  | @program p m d =>
      rw [State.program]
      by_cases hd : (!m.inFlight && m.peripheral.isUpToDate d.hash) = true
      · rw [if_pos hd]
        refine .append ?_ (sparing_singleton rfl)
        dsimp only
        split_ifs
        · exact sparing_nil
        · exact sparing_singleton rfl
      · rw [if_neg hd]
        exact sparing_schedule _ _ _
  | updateFirmware =>
      rw [State.updateFirmware]
      dsimp only
      split_ifs
      · exact sparing_singleton rfl
      · exact sparing_schedule _ _ _
  | cancel =>
      rw [State.cancel]
      split_ifs
      · exact sparing_singleton rfl
      · exact sparing_nil
  | retry => exact sparing_schedule _ _ _

lemma sparing_adapterSeen (s : State) (a : AdapterState) : Sparing (s.adapterSeen a).events := by
  rw [adapterSeen]
  dsimp only
  split_ifs
  · exact sparing_nil
  · exact sparing_singleton rfl

lemma sparing_backoffOver (s : State) (p : PixelId) (epoch : ℕ) :
    Sparing (s.backoffOver p epoch).events := by
  rw [backoffOver]
  cases s.member? p with
  | none => exact sparing_nil
  | some m =>
      dsimp only
      split_ifs
      · exact sparing_enqueue s p .low
      · exact sparing_nil

lemma sparing_takeNext {pr : Priority} {c : Change} (h : s.takeNext = some ((p, pr), c)) :
    Sparing c.events := by
  rw [(takeNext_eq_some h).2.2.2]
  exact sparing_singleton rfl

/-- An interrupted attempt does not make a die be given up. -/
lemma sparing_interrupted (s : State) (p : PixelId) (pr : Priority) :
    Sparing (s.interrupted p pr).events := by
  rw [interrupted]
  cases (s.releaseDfu p).member? p with
  | none => exact sparing_nil
  | some m =>
      dsimp only
      split_ifs
      · exact sparing_singleton rfl
      · exact sparing_enqueue _ _ _

/-- A die is told to be given up as its connection fails once too often, unless it is to be
forgotten. -/
lemma mem_connectFailed_iff (hold : s.Holds p m l) (c : Config) (e : LinkError) :
    .gaveUp q a f ∈ (s.connectFailed c p e).1.events
      ↔ m.removed = false ∧ c.maxRetries < m.attempts + 1
        ∧ q = p ∧ a = m.attempts + 1 ∧ f = .link e := by
  rw [connectFailed, hold.releaseDfu.member]
  dsimp only
  cases hr : m.removed with
  | true => simp [forget]
  | false => by_cases hmany : c.maxRetries < m.attempts + 1 <;> simp [hmany]

end State

/-- A die is told to be given up as a transfer breaks off once too often. -/
lemma Member.mem_settle_iff {m : Member} {c : Config} {p q : PixelId} {r : Report} {a : UInt32} :
    (∃ f, .gaveUp q a f ∈ (m.settle c p r.error).2.1)
      ↔ r.mark = .failure ∧ c.maxRetries < m.attempts + 1 ∧ q = p ∧ a = m.attempts + 1 := by
  rw [settle.eq_def, Report.mark]
  cases r.error with
  | none => simp
  | some e =>
      obtain ⟨kind, e⟩ := e
      dsimp only
      by_cases he : e.isRetryable = true
      · rw [if_pos he, if_pos he]
        by_cases hmany : c.maxRetries < m.attempts + 1
        · rw [if_pos hmany]
          simp [hmany]
        · rw [if_neg hmany]
          simp [hmany]
      · rw [if_neg he, if_neg he]
        simp

namespace State

variable {s : State} {p q : PixelId} {m : Member} {l : Option Priority} {a : UInt32}

/-- What is told at the end of a session of a die that is given up comes from its failure. -/
lemma gaveUp_mem_sessionEnded {f : Failure} (hold : s.Holds p m l) (c : Config) (r : Report) :
    .gaveUp q a f ∈ (s.sessionEnded c p r).events
      ↔ .gaveUp q a f ∈ ((m.released.confirm r).settle c p r.error).2.1 := by
  rw [sessionEnded, hold.releaseDfu.member]
  change _ ↔ _ ∈ ((({ m with dfuReserved := false, inFlight := false } : Member).confirm r).settle
    c p r.error).2.1
  dsimp only
  generalize (({ m with dfuReserved := false, inFlight := false } : Member).confirm r).settle
    c p r.error = settled
  obtain ⟨n, failed, next⟩ := settled
  dsimp only
  have hupdated : Sparing (if (r.profile.isSome || r.firmware.isSome) = true
      then [Event.peripheralUpdated n.peripheral] else []) := by
    split_ifs
    · exact sparing_singleton rfl
    · exact sparing_nil
  rw [List.mem_append, List.mem_append, List.mem_append, List.mem_append]
  constructor
  · rintro ((((hmem | hmem) | hmem) | hmem) | hmem)
    · exact ((sparing_events r p).gaveUp_notMem hmem).elim
    · exact hmem
    · exact (hupdated.gaveUp_notMem hmem).elim
    · refine (Sparing.gaveUp_notMem ?_ hmem).elim
      by_cases hr : n.removed = true
      · rw [if_pos hr]
        exact sparing_singleton rfl
      · rw [if_neg hr]
        by_cases hg : n.state.isGivenUp = true
        · rw [if_pos hg]
          exact sparing_singleton rfl
        · rw [if_neg hg]
          split
          · exact sparing_schedule _ _ _
          · exact sparing_singleton rfl
    · exact ((sparing_singleton (e := .disconnected p) rfl).gaveUp_notMem hmem).elim
  · exact fun hmem => .inl (.inl (.inl (.inr hmem)))

/-- A die is told to be given up at the end of a session as a transfer breaks off once too
often. -/
lemma mem_sessionEnded_iff (hold : s.Holds p m l) (c : Config) (r : Report) :
    (∃ f, .gaveUp q a f ∈ (s.sessionEnded c p r).events)
      ↔ r.mark = .failure ∧ c.maxRetries < m.attempts + 1 ∧ q = p ∧ a = m.attempts + 1 := by
  have hattempts : (m.released.confirm r).attempts = m.attempts := by
    rw [Member.confirm_eq]
    rfl
  rw [← hattempts, ← Member.mem_settle_iff]
  exact exists_congr fun f => gaveUp_mem_sessionEnded hold c r

end State

/-! ### Acts -/

section Acts

variable {w : World} {x : Happening} {c : Change} {p : PixelId} {m : Member} {a : UInt32}
  {f : Failure}

/-- A die is told to be given up by a failure that counts, and once too often. -/
lemma Act.failure_of_gaveUp (ho : Orderly w.state w.sessions w.started) (hact : Act w x c)
    (hmem : .gaveUp p a f ∈ c.events) :
    w.mark p x = .failure ∧ ∃ m, w.state.member? p = some m ∧ m.inFlight = true
      ∧ w.config.maxRetries < m.attempts + 1 ∧ a = m.attempts + 1 := by
  cases hact with
  | request hr => exact ((State.handled hr).sparing.gaveUp_notMem hmem).elim
  | seen => exact ((State.sparing_adapterSeen _ _).gaveUp_notMem hmem).elim
  | begun _ hnext => exact ((State.sparing_takeNext hnext).gaveUp_notMem hmem).elim
  | woken => exact ((State.sparing_backoffOver _ _ _).gaveUp_notMem hmem).elim
  | interrupted => exact ((State.sparing_interrupted _ _ _).gaveUp_notMem hmem).elim
  | connected =>
      refine (Sparing.gaveUp_notMem ?_ hmem).elim
      exact .append (sparing_singleton rfl) (sparing_singleton rfl)
  | transferring => exact ((sparing_singleton rfl).gaveUp_notMem hmem).elim
  | @failed id s e hs hst =>
      have hlive : s.Live := Act.live (.failed hs hst) hs
      obtain ⟨m, hold, hf⟩ := ho.holds_manned (World.mem_of_session? hs).1 hlive
      obtain ⟨-, hmany, rfl, ha, -⟩ := (State.mem_connectFailed_iff hold _ e).mp hmem
      refine ⟨?_, m, hold.member, hf, hmany, ha⟩
      rw [World.mark_session hs, if_pos rfl, hst]
      rfl
  | @ended id s report hs hst =>
      obtain ⟨m, hold, hf⟩ :=
        ho.holds_manned (World.mem_of_session? hs).1 (Session.live_of_reporting hst)
      obtain ⟨hmark, hmany, rfl, ha⟩ := (State.mem_sessionEnded_iff hold _ report).mp ⟨f, hmem⟩
      refine ⟨?_, m, hold.member, hf, hmany, ha⟩
      rw [World.mark_session hs, if_pos rfl, hst]
      exact hmark

/-- A die that fails once too often is told to be given up, unless it is to be forgotten. -/
lemma Act.gaveUp_of_failure (hact : Act w x c) (hmark : w.mark p x = .failure)
    (hm : w.state.member? p = some m) (hr : m.removed = false)
    (hmany : w.config.maxRetries < m.attempts + 1) :
    ∃ f, .gaveUp p (m.attempts + 1) f ∈ c.events := by
  -- only a step of a session of the die is a failure
  have hsession {id : ℕ} {s : Session} (hs : w.session? id = some s)
      (hmark : w.mark p (.move (.session id)) = .failure) :
      s.pixel = p ∧ s.stage.mark = .failure := by
    rw [World.mark_session hs] at hmark
    split_ifs at hmark with hp
    exact ⟨hp, hmark⟩
  cases hact with
  | @request r =>
      cases r with
      | register | retry =>
          simp only [World.mark, State.mark] at hmark
          split_ifs at hmark
      | unregister | connect | program | updateFirmware | cancel => cases hmark
  | seen | begun | woken => cases hmark
  | @failed id s e hs hst =>
      obtain ⟨rfl, -⟩ := hsession hs hmark
      have hold : w.state.Holds s.pixel m (w.state.queue.priority? s.pixel) := ⟨hm, rfl⟩
      exact ⟨.link e, (State.mem_connectFailed_iff hold _ e).mpr ⟨hr, hmany, rfl, rfl, rfl⟩⟩
  | @ended id s report hs hst =>
      obtain ⟨rfl, hstage⟩ := hsession hs hmark
      rw [hst] at hstage
      have hold : w.state.Holds s.pixel m (w.state.queue.priority? s.pixel) := ⟨hm, rfl⟩
      exact (State.mem_sessionEnded_iff hold _ report).mpr ⟨hstage, hmany, rfl, rfl⟩
  | interrupted hs hst | connected hs hst | transferring hs hst =>
      obtain ⟨-, hstage⟩ := hsession hs hmark
      rw [hst] at hstage
      cases hstage

/-- What is told of a die given up is told by an act. -/
lemma World.act_of_gaveUp (hmem : .gaveUp p a f ∈ w.told x) :
    ∃ c, Act w x c ∧ .gaveUp p a f ∈ c.events := by
  rcases w.act_or_unmoved x with ⟨c, hact⟩ | hunmoved
  · exact ⟨c, hact, hact.carries.told ▸ hmem⟩
  · exact Bool.noConfusion (hunmoved.told _ hmem)

end Acts

/-! ### Pardon -/

/-- A die is retried or forgotten. -/
def Deed.pardons (p : PixelId) : Deed → Bool
  | request (.retry q) _ | request (.unregister q) _ => q = p
  | _ => false

/-- A die is given up. -/
def State.IsGivenUp (s : State) (p : PixelId) : Prop :=
  ∃ m, s.member? p = some m ∧ m.state.isGivenUp = true

namespace State

variable {s t : State} {p q : PixelId} {m : Member} {l : Option Priority}

lemma IsGivenUp.of_touches (h : s.IsGivenUp p) (ht : Touches s t q) (hq : p ≠ q) :
    t.IsGivenUp p := by
  obtain ⟨m, hm, hg⟩ := h
  exact ⟨m, (ht.member p hq).trans hm, hg⟩

/-- No request but a pardon changes that a die is given up. -/
lemma IsGivenUp.handle {r : Request} {reply : Reply} {c : Change} (h : s.IsGivenUp p)
    (hr : s.handle r = .ok (reply, c)) (hd : (Deed.request r reply).pardons p = false) :
    c.state.IsGivenUp p := by
  have hhandled := handled hr
  by_cases hq : p = r.pixel
  swap
  · exact h.of_touches hhandled.touches hq
  subst hq
  obtain ⟨m, hm, hg⟩ := h
  -- whoever asks for a job or a session is refused
  have hrefused {α : Type} {f : Member → α} {q : PixelId} {a : α} (hm : s.member? q = some m)
      (ha : s.withHope q f = .ok a) : False := by
    obtain ⟨m', hm', hg', -⟩ := withHope_eq_ok ha
    obtain rfl := Option.some_inj.mp (hm.symm.trans hm')
    rw [hg] at hg'
    cases hg'
  cases r with
  | connect | program | updateFirmware => exact (hrefused hm hr).elim
  | unregister q | retry q => exact (of_decide_eq_false hd rfl).elim
  | register record =>
      cases hr
      have hold : s.Holds record.pixel m (s.queue.priority? record.pixel) := ⟨hm, rfl⟩
      exact ⟨_, hold.register.member, hg⟩
  | cancel q =>
      obtain ⟨m', hm', -, hr⟩ := withResting_eq_ok hr
      obtain rfl := Option.some_inj.mp (hm.symm.trans hm')
      cases hr
      have hold : s.Holds q m (s.queue.priority? q) := ⟨hm, rfl⟩
      rcases hold.cancel with ⟨hw, -⟩ | ⟨-, hold'⟩
      · rw [DieState.isGivenUp_of_isWaiting hw] at hg
        cases hg
      · exact ⟨_, hold'.member, hg⟩

end State

namespace Orderly

variable {w : World} {p : PixelId} {m : Member}

/-- A die that was given up is in no session and does not wait. -/
lemma resting_of_isGivenUp (ho : Orderly w.state w.sessions w.started)
    (h : w.state.IsGivenUp p) :
    w.state.isManned p = false ∧ w.state.queue.priority? p = none
      ∧ ∀ x ∈ w.sessions, x.Live → x.pixel ≠ p := by
  obtain ⟨m, hm, hg⟩ := h
  obtain ⟨l, hold, hmember⟩ := ho.coherent.holds hm
  obtain ⟨hf, rfl⟩ := hmember.resting_of_isGivenUp hg
  refine ⟨(State.isManned_eq hm).trans hf, hold.level, ?_⟩
  rintro x hx hlive rfl
  obtain ⟨m', hm', hf'⟩ := ho.manned x hx hlive
  obtain rfl := Option.some_inj.mp (hm.symm.trans hm')
  rw [hf] at hf'
  cases hf'

/-- Whatever happens, a die that was given up stays so unless it is pardoned. -/
lemma givenUp_happen (ho : Orderly w.state w.sessions w.started) (h : w.state.IsGivenUp p)
    {x : Happening} (hd : (w.deed x).pardons p = false) : (w.happen x).state.IsGivenUp p := by
  obtain ⟨-, hlevel, hapart⟩ := ho.resting_of_isGivenUp h
  have hsession {id : ℕ} {s : Session} {t : State} (hs : w.session? id = some s)
      (hlive : s.Live) (ht : State.Touches w.state t s.pixel) : t.IsGivenUp p :=
    h.of_touches ht (hapart s (World.mem_of_session? hs).1 hlive).symm
  rcases w.act_or_unmoved x with ⟨c, hact⟩ | hunmoved
  swap
  · rw [hunmoved.state]
    exact h
  rw [hact.carries.state]
  cases hact with
  | request hr =>
      rw [World.deed, hr] at hd
      exact h.handle hr hd
  | seen => exact h
  | @begun q pr c hlooking hnext =>
      obtain ⟨m, hold, ht, -⟩ := State.takeNext_cases ho.coherent.unique hnext
      refine h.of_touches ht ?_
      rintro rfl
      cases hlevel.symm.trans hold.level
  | @woken t ht =>
      by_cases hp : p = t.pixel
      · subst hp
        obtain ⟨m, hm, hg⟩ := h
        have hold : w.state.Holds t.pixel m (w.state.queue.priority? t.pixel) := ⟨hm, rfl⟩
        rcases hold.backoffOver t.epoch with ⟨hb, -⟩ | hsame
        · rw [DieState.isGivenUp_of_isWaiting (DieState.isWaiting_of_isBackingOff hb)] at hg
          cases hg
        · rw [hsame]
          exact ⟨m, hm, hg⟩
      · exact h.of_touches (State.touches_backoffOver _ _ _) hp
  | interrupted hs hst =>
      exact hsession hs (Act.live (.interrupted hs hst) hs) (State.touches_interrupted _ _ _)
  | failed hs hst =>
      exact hsession hs (Act.live (.failed hs hst) hs) (State.touches_connectFailed _ _ _ _)
  | connected hs hst =>
      exact hsession hs (Act.live (.connected hs hst) hs) (State.touches_connected _ _)
  | transferring hs hst =>
      exact hsession hs (Act.live (.transferring hs hst) hs) (State.touches_transferring _ _ _)
  | ended hs hst =>
      exact hsession hs (Act.live (.ended hs hst) hs) (State.touches_sessionEnded _ _ _ _)

/-- **A die that was given up stays so until it is pardoned.** -/
lemma givenUp_after (ho : Orderly w.state w.sessions w.started) (h : w.state.IsGivenUp p)
    (hs : List Happening) (hd : ∀ d ∈ w.deeds hs, d.pardons p = false) :
    (w.after hs).state.IsGivenUp p := by
  induction hs generalizing w with
  | nil => exact h
  | cons x hs ih =>
      rw [World.deeds, List.forall_mem_cons] at hd
      exact ih (ho.happen x) (ho.givenUp_happen h hd.1) hd.2

end Orderly

/-! ### Attempts -/

/-- **Attempts are counted failures, and one too many gives a die up.** In every run the attempts
of a die are the failures of its sessions since it was registered as a new one, was retried, or had
a session that ended otherwise; they exceed the tolerated ones by one at most, and do so exactly
when the die is given up. That a die is given up is told by what makes its failures one too many,
and by all that does so unless the die is to be forgotten. From then on, until it is retried or
forgotten, the die stays given up, is in no session, and does not wait for one. -/
theorem attempts_after (config : Config) (delay : ℕ) (radio : Radio) (pairings : List Peripheral)
    (hs : List Happening) (p : PixelId) (hbound : config.maxRetries.toNat < 2 ^ 32 - 1) :
    let start := World.start config delay radio pairings
    let w := start.after hs
    let most := config.maxRetries.toNat + 1
    (∀ m, w.state.member? p = some m →
        m.attempts.toNat = start.failures p hs ∧ m.attempts.toNat ≤ most
          ∧ (m.attempts.toNat = most ↔ m.state.isGivenUp = true))
      ∧ (∀ x,
        (∀ a f, .gaveUp p a f ∈ w.told x →
          a.toNat = most ∧ start.failures p hs + 1 = most
            ∧ start.failures p (hs ++ [x]) = most)
          ∧ ∀ m, w.state.member? p = some m → m.removed = false →
            start.failures p hs ≠ most → start.failures p (hs ++ [x]) = most →
            ∃ a f, .gaveUp p a f ∈ w.told x)
      ∧ (w.state.IsGivenUp p → ∀ later, (∀ d ∈ w.deeds later, d.pardons p = false) →
        let w' := w.after later
        w'.state.IsGivenUp p ∧ w'.state.isManned p = false
          ∧ w'.state.queue.priority? p = none ∧ ∀ x ∈ w'.sessions, x.Live → x.pixel ≠ p) := by
  intro start w most
  have hstart : Orderly start.state start.sessions start.started :=
    Orderly.start config delay radio pairings
  have ho : Orderly w.state w.sessions w.started := hstart.after hs
  have hfirst : start.state.Tallied config p 0 := by
    intro m hm
    obtain ⟨r, rfl⟩ := State.eq_of_member?_start hm
    exact .zero rfl rfl
  have htallied : w.state.Tallied config p (start.failures p hs) :=
    hstart.tallied_after hbound hfirst hs
  have hconfig : w.config = config := start.config_after hs
  have hsucc {m : Member} (hm : w.state.member? p = some m)
      (hle : start.failures p hs ≤ config.maxRetries.toNat) :
      (m.attempts + 1).toNat = start.failures p hs + 1 := by
    rw [UInt32.toNat_add, (htallied m hm).attempts, UInt32.toNat_one, Nat.mod_eq_of_lt (by omega)]
  refine ⟨?_, fun x => ⟨?_, ?_⟩, ?_⟩
  · intro m hm
    obtain ⟨ha, hle, hg⟩ := htallied m hm
    exact ⟨ha, ha ▸ hle, ha ▸ hg.symm⟩
  · intro a f hmem
    obtain ⟨c, hact, hmem⟩ := World.act_of_gaveUp hmem
    obtain ⟨hmark, m, hm, hf, hmany, rfl⟩ := hact.failure_of_gaveUp ho hmem
    -- a die in a session has not been given up, so that its failures are still tolerated
    obtain ⟨l, -, hmember⟩ := ho.coherent.holds hm
    have hne : start.failures p hs ≠ most := by
      rw [Ne, ← (htallied m hm).givenUp_iff, hmember.hopeful hf]
      exact Bool.false_ne_true
    have hle : start.failures p hs ≤ config.maxRetries.toNat :=
      Nat.lt_succ_iff.mp (lt_of_le_of_ne (htallied m hm).le hne)
    have hsucc := hsucc hm hle
    rw [hconfig, UInt32.lt_iff_toNat_lt, hsucc] at hmany
    have hmost : start.failures p hs + 1 = most := by omega
    refine ⟨hsucc.trans hmost, hmost, ?_⟩
    rw [start.failures_concat, hmark]
    exact hmost
  · intro m hm hr hne hmost
    rw [start.failures_concat] at hmost
    have hmark : w.mark p x = .failure := by
      cases hmark : w.mark p x with
      | failure => rfl
      | silent =>
          rw [hmark] at hmost
          exact (hne hmost).elim
      | fresh =>
          rw [hmark] at hmost
          exact (Nat.succ_ne_zero _ hmost.symm).elim
    rw [hmark] at hmost
    have hle : start.failures p hs ≤ config.maxRetries.toNat :=
      Nat.lt_succ_iff.mp (lt_of_le_of_ne (htallied m hm).le hne)
    have hmany : w.config.maxRetries < m.attempts + 1 := by
      have hcount : start.failures p hs + 1 = most := hmost
      rw [hconfig, UInt32.lt_iff_toNat_lt, hsucc hm hle]
      omega
    obtain ⟨c, hact⟩ := World.act_of_mark (w := w) (x := x) (p := p) (by rw [hmark]; decide)
    obtain ⟨f, hmem⟩ := hact.gaveUp_of_failure hmark hm hr hmany
    exact ⟨_, f, hact.carries.told.symm ▸ hmem⟩
  · intro hgiven later hd w'
    have hgiven' := ho.givenUp_after hgiven later hd
    exact ⟨hgiven', (ho.after later).resting_of_isGivenUp hgiven'⟩

namespace Sample

/-- Five attempts to connect with the die are refused, and a sixth one is, which is not recorded
yet. -/
def refusals : List Happening :=
  ((List.range 5).flatMap fun id => refusal id ++ [.move (.session id)]) ++ (refusal 5).dropLast

/-- The sixth failure is recorded. -/
def verdict : Happening := .move (.session 5)

/-- Users ask for the die in every way but by a retry, and a timer goes off. -/
def pleas : List Happening :=
  [.move (.request (.connect ring .high)), ask blank, .move (.request (.cancel ring)),
    .move (.request (.register (.new "ring" ring .d20 default))), .move (.advance 60000),
    .move (.timer ⟨1000, ring, 1⟩), .move .dispatch, .move .dispatch]

end Sample

open Sample

/-- The sixth failure gives the die up, and then it is not served whoever asks for it. -/
theorem attempts_of_refusals :
    world.failures ring refusals = 5 ∧ world.failures ring (refusals ++ [verdict]) = 6
      ∧ (∃ a f, .gaveUp ring a f ∈ (world.after refusals).told verdict)
      ∧ (world.after (refusals ++ [verdict])).state.IsGivenUp ring
      ∧ ((world.after (refusals ++ [verdict])).after pleas).state.IsGivenUp ring
      ∧ ((world.after (refusals ++ [verdict])).after pleas).state.queue.priority? ring = none := by
  have hbound : ({} : Config).maxRetries.toNat < 2 ^ 32 - 1 := by decide
  have hfive : world.failures ring refusals = 5 := by decide +kernel
  have hsix : world.failures ring (refusals ++ [verdict]) = 6 := by decide +kernel
  have hmember : ((world.after refusals).state.member? ring).map (·.removed) = some false := by
    decide +kernel
  have hlost : ((world.after (refusals ++ [verdict])).state.member? ring).any
      (·.state.isGivenUp) = true := by decide +kernel
  have hgiven := (Option.any_eq_true _ _).mp hlost
  have hpleas : ∀ d ∈ (world.after (refusals ++ [verdict])).deeds pleas,
      d.pardons ring = false := by decide +kernel
  obtain ⟨m, hm, hr⟩ := Option.map_eq_some_iff.mp hmember
  have hworld : World.start {} 0 world.radio [.new "ring" ring .d20 default] = world := rfl
  have hcounted (hs : List Happening) := attempts_after {} 0 world.radio
    [.new "ring" ring .d20 default] hs ring hbound
  rw [hworld] at hcounted
  have hfive' : world.failures ring refusals ≠ 6 := by rw [hfive]; decide
  have htold := ((hcounted refusals).2.1 verdict).2 m hm hr hfive' hsix
  obtain ⟨hstays, -, hlevel, -⟩ := (hcounted (refusals ++ [verdict])).2.2 hgiven pleas hpleas
  exact ⟨hfive, hsix, htold, hgiven, hstays, hlevel⟩

end DiceHost.Scheduler
