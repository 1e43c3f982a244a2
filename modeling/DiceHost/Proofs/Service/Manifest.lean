/-
The file of the pairings follows the scheduler.

* `Inbox.Calls`: something in an inbox calls for a save;
* `Office`: the service with the clerk who saves its records: events get on their way one by one,
  in any order, and the records are read and written in steps of their own, while anything else
  happens;
* `Office.after_turn`, `Office.after_happen`: a clerk who is not disturbed does what the service
  does in one go, and so do the events;
* `Holds`: what a file holds; `Office.Due`: what will make the clerk save, or will be told yet;
* `Office.Sound`: after a save that has succeeded the file holds the records, or a save is due;
  what the clerk is about to write are the records, or a save is due;
* `Office.Sound.move`: **every move keeps it so**;
* `manifest_after`: **the records are those of the dice that users want to be paired**, and the file
  holds them whenever the clerk rests and nothing is on its way.
-/
import DiceHost.Proofs.PairingStore
import DiceHost.Proofs.Scheduler.Roster
import DiceHost.Service.Basic

namespace DiceHost.Service

open Scheduler

/-! ### Inboxes -/

namespace Inbox

variable {i i' : Inbox Event} {e : Event}

/-- Something in an inbox calls for a save: an event, or that some were lost. -/
def Calls (i : Inbox Event) : Prop :=
  i.missed ≠ 0 ∨ Announces i.pending

/-- An event that calls for a save is there, or is lost at once. -/
lemma calls_push (i : Inbox Event) (he : e.changesPairings = true) : (i.push e).Calls := by
  rw [push]
  split_ifs
  · exact .inr ⟨e, List.mem_append_right _ (List.mem_singleton_self e), he⟩
  · exact .inl (Nat.succ_ne_zero _)

/-- What calls for a save stays so, even if it is lost. -/
lemma Calls.push (h : i.Calls) (e : Event) : (i.push e).Calls := by
  rw [Inbox.push]
  split_ifs
  · exact h.imp_right fun ⟨d, hd, hcalls⟩ => ⟨d, List.mem_append_left _ hd, hcalls⟩
  · exact .inl (Nat.succ_ne_zero _)

/-- What calls for a save is taken, or is still there. -/
lemma Calls.take {n : Notice Event} (h : i.Calls) (hn : i.take? = some (n, i')) :
    callsForSave n = true ∨ i'.Calls := by
  rw [take?] at hn
  by_cases hmissed : i.missed = 0
  · rw [if_pos hmissed] at hn
    obtain ⟨d, hd, hcalls⟩ := h.resolve_left fun hne => hne hmissed
    cases hpending : i.pending with
    | nil =>
        rw [hpending] at hd
        cases hd
    | cons e es =>
        rw [hpending] at hn hd
        cases hn
        obtain rfl | hd := List.mem_cons.mp hd
        · exact .inl hcalls
        · exact .inr (.inr ⟨d, hd, hcalls⟩)
  · rw [if_neg hmissed] at hn
    cases hn
    exact .inl rfl

/-- Nothing in an empty inbox calls for a save. -/
lemma not_calls (h : i.take? = none) : ¬ i.Calls := by
  rw [take?] at h
  split_ifs at h with hmissed
  cases hpending : i.pending with
  | nil =>
      rintro (hne | ⟨d, hd, -⟩)
      · exact hne hmissed
      · rw [hpending] at hd
        cases hd
  | cons e es =>
      rw [hpending] at h
      cases h

end Inbox

/-! ### The office -/

/-- What the clerk does who saves the records. -/
inductive Clerk where
  | resting
  /-- A notice has called for a save. -/
  | called
  /-- The records have been read, and are about to be written. -/
  | writing (store : PairingStore)

/-- The service with the clerk who saves its records. -/
structure Office where
  service : Service
  /-- The events of what has happened that are not yet on their way. -/
  untold : List Event := []
  clerk : Clerk := .resting
  /-- Whether the last save has succeeded. -/
  saved : Bool := true

namespace Office

/-- What can happen in an office. -/
inductive Move where
  /-- Something happens in the scheduler. -/
  | happen (x : Happening)
  /-- One of the events of what has happened gets on its way. -/
  | send (i : ℕ)
  /-- The clerk takes the next event. -/
  | take
  /-- The clerk reads the records. -/
  | read
  /-- The clerk writes them. -/
  | write
  /-- The clerk fails to write them, and leaves any file. -/
  | fail (file : Option String)
  /-- The records are saved in one go, as they are when the service ends. -/
  | flush
  /-- What has nothing to do with the records changes in any way. -/
  | elsewhere (library : Library) (cache : DataSet.Cache) (changes : Inbox LibraryEvent)
      (clients : List Client)

/-- The office after a move; a clerk does nothing out of turn. -/
def move (o : Office) : Move → Office
  | .happen x =>
    { o with
      service := { o.service with world := o.service.world.happen x }
      untold := o.untold ++ o.service.world.told x }
  | .send i =>
    match o.untold[i]? with
    | none => o
    | some e => { o with service := o.service.tell [e], untold := o.untold.eraseIdx i }
  | .take =>
    match o.clerk, o.service.records.take? with
    | .resting, some (n, records) =>
      { o with
        service := { o.service with records }
        clerk := if callsForSave n then .called else .resting }
    | _, _ => o
  | .read =>
    match o.clerk with
    | .called => { o with clerk := .writing o.service.pairings }
    | _ => o
  | .write =>
    match o.clerk with
    | .writing store =>
      { o with
        service := { o.service with pairingsFile := some store.save }
        clerk := .resting
        saved := true }
    | _ => o
  | .fail file =>
    match o.clerk with
    | .writing _ =>
      { o with
        service := { o.service with pairingsFile := file }
        clerk := .resting
        saved := false }
    | _ => o
  | .flush => { o with service := o.service.savePairings, saved := true }
  | .elsewhere library cache changes clients =>
    { o with service := { o.service with library, cache, changes, clients } }

/-- The office after some moves. -/
def after (o : Office) (ms : List Move) : Office :=
  ms.foldl move o

/-! #### In one go -/

/-- A clerk who is not disturbed does what the service does in one go. -/
lemma after_turn (s : Service) :
    (({ service := s } : Office).after [.take, .read, .write]).service = s.persist := by
  rw [persist]
  cases hn : s.records.take? with
  | none => simp [after, move, hn]
  | some notice =>
      obtain ⟨n, records⟩ := notice
      cases hcalls : callsForSave n with
      | true => simp [after, move, hn, hcalls, savePairings]
      | false => simp [after, move, hn, hcalls]

lemma tell_tell (s : Service) (es es' : List Event) : (s.tell es).tell es' = s.tell (es ++ es') := by
  simp [tell, Inbox.pushAll]

lemma after_send (s : Service) (es : List Event) :
    ({ service := s, untold := es } : Office).after (List.replicate es.length (.send 0))
      = { service := s.tell es } := by
  induction es generalizing s with
  | nil => simp [after, tell, Inbox.pushAll]
  | cons e es ih =>
      have hsent := ih (s.tell [e])
      rw [tell_tell] at hsent
      exact hsent

/-- Events that get on their way at once are those that the service tells. -/
lemma after_happen (s : Service) (x : Happening) :
    ({ service := s } : Office).after
        (.happen x :: List.replicate (s.world.told x).length (.send 0))
      = { service := s.advance (s.world.happen x, s.world.told x) } :=
  after_send { s with world := s.world.happen x } (s.world.told x)

/-! #### What keeps the file -/

/-- A file holds some records: as a store of them that was saved, or there is no file and there are
no records. -/
def Holds (file : Option String) (records : List Peripheral) : Prop :=
  file = none ∧ records = []
    ∨ ∃ store : PairingStore, file = some store.save ∧ store.Keyed ∧ store.toList = records

/-- A save is due: an event will call for it, or a member is to be forgotten, of which it will be
told. -/
def Due (o : Office) : Prop :=
  Announces o.untold ∨ o.service.records.Calls ∨ o.service.world.state.Parting

/-- After a save that has succeeded the file holds the records, or a save is due; what the clerk is
about to write are the records, or a save is due. -/
structure Sound (o : Office) : Prop where
  orderly : Orderly o.service.world.state o.service.world.sessions o.service.world.started
  homely : o.service.world.state.Homely
  resting : o.clerk = .resting → o.saved = true →
    o.Due ∨ Holds o.service.pairingsFile o.service.world.state.pairings
  writing : ∀ store, o.clerk = .writing store →
    store.Keyed ∧ (o.Due ∨ store.toList = o.service.world.state.pairings)

/-! #### Moves -/

variable {o o' : Office}

/-- The records that are read make a store of them. -/
lemma pairings_read (h : o.service.world.state.Homely) :
    o.service.pairings.Keyed ∧ o.service.pairings.toList = o.service.world.state.pairings :=
  ⟨PairingStore.Keyed.empty.foldl_upsert _,
    PairingStore.toList_of_ascending (State.ascending_pairings h)⟩

namespace Sound

/-- What leaves the clerk and the file alone, and no change of the records without a save that is
due. -/
lemma of_kept (h : o.Sound)
    (horderly : Orderly o'.service.world.state o'.service.world.sessions o'.service.world.started)
    (hhomely : o'.service.world.state.Homely) (hclerk : o'.clerk = o.clerk)
    (hsaved : o'.saved = o.saved) (hfile : o'.service.pairingsFile = o.service.pairingsFile)
    (hdue : o.Due → o'.Due)
    (hsame : o'.Due ∨ o'.service.world.state.pairings = o.service.world.state.pairings) :
    o'.Sound := by
  refine ⟨horderly, hhomely, fun hrest hlast => ?_, fun store hstore => ?_⟩
  · obtain hnow | heq := hsame
    · exact .inl hnow
    · rw [hfile, heq]
      exact (h.resting (hclerk ▸ hrest) (hsaved ▸ hlast)).imp_left hdue
  · obtain ⟨hkeyed, hstands⟩ := h.writing store (hclerk ▸ hstore)
    refine ⟨hkeyed, ?_⟩
    obtain hnow | heq := hsame
    · exact .inl hnow
    · rw [heq]
      exact hstands.imp_left hdue

lemma happen (h : o.Sound) (x : Happening) : (o.move (.happen x)).Sound := by
  have ho := h.orderly
  by_cases htold : Announces (o.service.world.told x)
  · obtain ⟨e, he, hcalls⟩ := htold
    have hdue : (o.move (.happen x)).Due := .inl ⟨e, List.mem_append_right _ he, hcalls⟩
    exact h.of_kept (ho.happen x) (ho.homely_happen h.homely x) rfl rfl rfl (fun _ => hdue)
      (.inl hdue)
  · refine h.of_kept (ho.happen x) (ho.homely_happen h.homely x) rfl rfl rfl ?_ ?_
    · rintro (⟨e, he, hcalls⟩ | hinbox | hparting)
      · exact .inl ⟨e, List.mem_append_left _ he, hcalls⟩
      · exact .inr (.inl hinbox)
      · exact .inr (.inr (ho.parting_happen htold hparting))
    · by_cases hparting : (o.service.world.happen x).state.Parting
      · exact .inl (.inr (.inr hparting))
      · exact .inr (ho.pairings_happen htold hparting)

lemma send (h : o.Sound) (i : ℕ) : (o.move (.send i)).Sound := by
  rw [move]
  cases he : o.untold[i]? with
  | none => exact h
  | some e =>
      refine h.of_kept h.orderly h.homely rfl rfl rfl ?_ (.inr rfl)
      rintro (⟨d, hd, hcalls⟩ | hinbox | hparting)
      · -- the event is the one that gets on its way, or it is still untold
        obtain ⟨k, hk⟩ := List.mem_iff_getElem?.mp hd
        by_cases hki : k = i
        · subst hki
          obtain rfl := Option.some_inj.mp (hk.symm.trans he)
          exact .inr (.inl (Inbox.calls_push _ hcalls))
        · exact .inl ⟨d, List.mem_eraseIdx_iff_getElem?.mpr ⟨k, hki, hk⟩, hcalls⟩
      · exact .inr (.inl (hinbox.push e))
      · exact .inr (.inr hparting)

lemma take (h : o.Sound) : (o.move .take).Sound := by
  rw [move]
  split
  next n records hrest hn =>
    by_cases hcalls : callsForSave n = true
    · rw [if_pos hcalls]
      exact ⟨h.orderly, h.homely, nofun, nofun⟩
    · rw [if_neg hcalls]
      refine h.of_kept h.orderly h.homely hrest.symm rfl rfl ?_ (.inr rfl)
      rintro (huntold | hinbox | hparting)
      · exact .inl huntold
      · exact .inr (.inl ((hinbox.take hn).resolve_left hcalls))
      · exact .inr (.inr hparting)
  · exact h

lemma read (h : o.Sound) : (o.move .read).Sound := by
  rw [move]
  split
  · refine ⟨h.orderly, h.homely, nofun, ?_⟩
    rintro _ ⟨⟩
    obtain ⟨hkeyed, hlist⟩ := pairings_read h.homely
    exact ⟨hkeyed, .inr hlist⟩
  · exact h

lemma write (h : o.Sound) : (o.move .write).Sound := by
  rw [move]
  split
  next store hstore =>
    obtain ⟨hkeyed, hstands⟩ := h.writing store hstore
    exact ⟨h.orderly, h.homely,
      fun _ _ => hstands.imp_right fun hlist => .inr ⟨store, rfl, hkeyed, hlist⟩, nofun⟩
  · exact h

lemma fail (h : o.Sound) (file : Option String) : (o.move (.fail file)).Sound := by
  rw [move]
  split
  · exact ⟨h.orderly, h.homely, fun _ => nofun, nofun⟩
  · exact h

lemma flush (h : o.Sound) : (o.move .flush).Sound :=
  ⟨h.orderly, h.homely, fun _ _ => .inr (.inr ⟨_, rfl, pairings_read h.homely⟩), h.writing⟩

/-- **After every move the file holds the records, or a save is due.** -/
lemma move (h : o.Sound) (m : Move) : (o.move m).Sound := by
  cases m with
  | happen x => exact h.happen x
  | send i => exact h.send i
  | take => exact h.take
  | read => exact h.read
  | write => exact h.write
  | fail file => exact h.fail file
  | flush => exact h.flush
  | elsewhere => exact ⟨h.orderly, h.homely, h.resting, h.writing⟩

lemma after (h : o.Sound) (ms : List Move) : (o.after ms).Sound := by
  induction ms generalizing o with
  | nil => exact h
  | cons m ms ih => exact ih (h.move m)

end Sound

/-! #### The scheduler of an office -/

/-- What a move does in the scheduler. -/
def Move.happening? : Move → Option Happening
  | .happen x => some x
  | _ => none

/-- What happens in the scheduler as some moves are made. -/
def happenings (ms : List Move) : List Happening :=
  ms.filterMap (·.happening?)

/-- What users say about the pairing of a die as some moves are made, in this order. -/
def calls (p : PixelId) (ms : List Move) : List Bool :=
  wishes p (happenings ms)

/-- Nothing but what happens in the scheduler changes it. -/
lemma world_move (o : Office) (m : Move) :
    (o.move m).service.world = o.service.world.after m.happening?.toList := by
  cases m with
  | happen | flush | elsewhere => rfl
  | send i =>
      rw [move]
      cases o.untold[i]? <;> rfl
  | take | read | write | fail =>
      rw [move]
      split <;> rfl

lemma world_after (o : Office) (ms : List Move) :
    (o.after ms).service.world = o.service.world.after (happenings ms) := by
  induction ms generalizing o with
  | nil => rfl
  | cons m ms ih =>
      refine (ih (o.move m)).trans ?_
      rw [world_move, happenings, happenings, List.filterMap_cons]
      cases m.happening? <;> rfl

end Office

/-! ### The start -/

/-- A service that has just been started has the records of its file. -/
lemma start_eq {settings : Settings} {sources : Sources} {s : Service} {store : PairingStore}
    (hload : sources.pairings.elim (.ok {}) PairingStore.load = .ok store)
    (hstart : start settings sources = .ok s) :
    s.pairingsFile = sources.pairings ∧ ∃ radio,
      s.world = .start settings.scheduler settings.simulation.connectDelay radio store.toList := by
  have hpairings : sources.pairings.elim (.ok {})
      (fun text => (PairingStore.load text).mapError fun _ => StartError.pairings) = .ok store := by
    cases hfile : sources.pairings with
    | none =>
        rw [hfile] at hload
        cases hload
        rfl
    | some text =>
        rw [hfile] at hload
        exact congrArg (Except.mapError fun _ => StartError.pairings) hload
  rw [start, hpairings] at hstart
  simp only [bind, Except.bind] at hstart
  split at hstart
  · cases hstart
  · split at hstart
    · cases hstart
    · split at hstart
      · cases hstart
      · cases hstart
        exact ⟨rfl, _, rfl⟩

/-- The store of a file that is missing or that was saved. -/
lemma load_manifest {manifest : Option PairingStore}
    (h : ∀ store ∈ manifest, store.Keyed ∧ ∀ r ∈ store.toList, r.Dated) :
    (manifest.map PairingStore.save).elim (.ok {}) PairingStore.load
      = .ok (manifest.getD {}) := by
  cases manifest with
  | none => rfl
  | some store =>
      obtain ⟨hkeyed, hdated⟩ := h store rfl
      exact PairingStore.load_saved hkeyed hdated

/-- What a service starts with: the records of a file that is missing or that was saved. -/
structure Opens (manifest : Option PairingStore) (s : Service) : Prop where
  keyed : (manifest.getD {}).Keyed
  file : s.pairingsFile = manifest.map PairingStore.save
  world : ∃ config delay radio, s.world = .start config delay radio (manifest.getD {}).toList

lemma opens_start {settings : Settings} {sources : Sources} {manifest : Option PairingStore}
    {s : Service} (hfile : sources.pairings = manifest.map PairingStore.save)
    (hkept : ∀ store ∈ manifest, store.Keyed ∧ ∀ r ∈ store.toList, r.Dated)
    (hstart : start settings sources = .ok s) : Opens manifest s := by
  have hload := load_manifest hkept
  rw [← hfile] at hload
  obtain ⟨hsame, radio, hworld⟩ := start_eq hload hstart
  refine ⟨?_, hsame.trans hfile, _, _, radio, hworld⟩
  cases manifest with
  | none => exact .empty
  | some store => exact (hkept store rfl).1

/-- In an office that has just been opened the file holds the records. -/
lemma Opens.sound {manifest : Option PairingStore} {s : Service} (h : Opens manifest s) :
    ({ service := s } : Office).Sound := by
  obtain ⟨hkeyed, hfile, config, delay, radio, hworld⟩ := h
  refine ⟨?_, ?_, fun _ _ => .inr ?_, nofun⟩
  · rw [hworld]
    exact Orderly.start _ _ _ _
  · rw [hworld]
    exact State.homely_start _ _
  · have hrecords : s.world.state.pairings = (manifest.getD {}).toList := by
      rw [hworld]
      exact State.pairings_start _ (PairingStore.ascending_toList hkeyed)
    rw [hfile, hrecords]
    cases manifest with
    | none => exact .inl ⟨rfl, rfl⟩
    | some store => exact .inr ⟨store, rfl, hkeyed, rfl⟩

/-- A die is paired at the start when the file has a record of it. -/
lemma Opens.isPaired {manifest : Option PairingStore} {s : Service} (h : Opens manifest s)
    {p : PixelId} : s.world.state.isPaired p = true
      ↔ ∃ store ∈ manifest, p ∈ store.toList.map (·.pixel) := by
  obtain ⟨-, -, config, delay, radio, hworld⟩ := h
  rw [hworld]
  refine (State.isPaired_start _ _).trans ?_
  cases manifest with
  | none => simp [PairingStore.toList]
  | some store => simp

/-- The last wish counts, and without any the standing at the start. -/
lemma getLast?_getD_iff {b : Bool} {bs : List Bool} :
    bs.getLast?.getD b = true ↔ bs.getLast? = some true ∨ b = true ∧ false ∉ bs := by
  cases hlast : bs.getLast? with
  | none =>
      rw [List.getLast?_eq_none_iff] at hlast
      simp [hlast]
  | some a =>
      have hmem := List.mem_of_getLast? hlast
      cases a with
      | true => simp
      | false => simp [hmem]

namespace Office

variable {o : Office}

/-- When the clerk rests and nothing is on its way, no save is due. -/
lemma Sound.not_due (h : o.Sound) (htold : o.untold = []) (hinbox : o.service.records.take? = none)
    (hstay : ∀ m ∈ o.service.world.state.members.values, m.inFlight = true → m.removed = false) :
    ¬ o.Due := by
  rintro (⟨e, he, -⟩ | hcalls | hparting)
  · rw [htold] at he
    cases he
  · exact Inbox.not_calls hinbox hcalls
  · obtain ⟨m, hm, hremoved, hf⟩ := h.orderly.coherent.inFlight_of_parting hparting
    rw [hstay m hm hf] at hremoved
    cases hremoved

/-- Records that a file holds are loaded from it. -/
lemma Holds.load {file : Option String} {records : List Peripheral} (h : Holds file records)
    (hdated : ∀ r ∈ records, r.Dated) :
    ∃ store, file.elim (.ok {}) PairingStore.load = .ok store ∧ store.toList = records := by
  obtain ⟨rfl, rfl⟩ | ⟨store, rfl, hkeyed, rfl⟩ := h
  · exact ⟨{}, rfl, rfl⟩
  · exact ⟨store, PairingStore.load_saved hkeyed hdated, rfl⟩

end Office

/-- **The manifest follows the scheduler.** A service is started without a file of the pairings or
with one that was saved, and its clerk saves the records while anything else happens; events may be
lost, and saves may fail. Then the dice that have a record are those whose last request to be
registered or unregistered was to be registered, and those of the file that no request was to
unregister. And whenever the clerk has taken all events, the last save has succeeded, and no member
in a session is to be forgotten, the file is loaded as these records. -/
theorem manifest_after {settings : Settings} {sources : Sources} {manifest : Option PairingStore}
    (hfile : sources.pairings = manifest.map PairingStore.save)
    (hkept : ∀ store ∈ manifest, store.Keyed ∧ ∀ r ∈ store.toList, r.Dated)
    {s : Service} (hstart : start settings sources = .ok s) (moves : List Office.Move) :
    let o := ({ service := s } : Office).after moves
    let records := o.service.world.state.pairings
    (∀ p, p ∈ records.map (·.pixel)
        ↔ (Office.calls p moves).getLast? = some true
          ∨ (∃ store ∈ manifest, p ∈ store.toList.map (·.pixel)) ∧ false ∉ Office.calls p moves)
      ∧ (o.clerk = .resting → o.untold = [] → o.service.records.take? = none → o.saved = true →
          (∀ m ∈ o.service.world.state.members.values, m.inFlight = true → m.removed = false) →
          (∀ r ∈ records, r.Dated) →
          ∃ store, o.service.pairingsFile.elim (.ok {}) PairingStore.load = .ok store
            ∧ store.toList = records) := by
  intro o records
  have hopens := opens_start hfile hkept hstart
  have hsound : o.Sound := hopens.sound.after moves
  refine ⟨fun p => ?_, fun hrest htold hinbox hlast hstay hdated => ?_⟩
  · have hworld : o.service.world = s.world.after (Office.happenings moves) :=
      Office.world_after _ moves
    rw [State.mem_pixel_pairings hsound.homely, hworld, hopens.sound.orderly.isPaired_after,
      getLast?_getD_iff, hopens.isPaired]
    rfl
  · have hholds := (hsound.resting hrest hlast).resolve_left (hsound.not_due htold hinbox hstay)
    exact hholds.load hdated

namespace Sample

/-- A die that is paired at the start. -/
def old : Peripheral := .new "ring" ⟨7⟩ .d20 default

/-- A die that is paired later. -/
def young : Peripheral := .new "gem" ⟨8⟩ .d6 default

/-- The records of the file at the start. -/
def kept : PairingStore := PairingStore.upsert {} old

/-- A die is registered, and the other one is forgotten while the clerk is about to write the
records of both. That write fails; the next one does not. -/
def shift : List Office.Move :=
  [.happen (.move (.request (.register young))), .send 0, .take, .read,
    .happen (.move (.request (.unregister ⟨7⟩))), .fail none, .send 0, .take, .read, .write]

lemma dated_old : old.Dated :=
  ⟨⟨by decide, by decide, by decide⟩, nofun⟩

/-- A service is started on a file that is loaded, under the default settings. -/
lemma start_file {text : String} {store : PairingStore} (h : PairingStore.load text = .ok store) :
    start {} { pairings := some text } = .ok {
      settings := {}, library := {}, firmware := none, pairingsFile := some text,
      world := .start {} 250 (store.toList.foldl (fun r p => r.addDie p.pixel {}) {})
        store.toList } := by
  rw [start]
  dsimp only [Option.elim]
  rw [h]
  rfl

end Sample

/-- The other die has a record, and the file holds it alone. -/
theorem manifest_shift :
    ∃ s, start {} { pairings := some Sample.kept.save } = .ok s ∧
      let o := ({ service := s } : Office).after Sample.shift
      o.service.world.state.pairings = [Sample.young]
        ∧ (⟨8⟩ : PixelId) ∈ o.service.world.state.pairings.map (·.pixel)
        ∧ ∃ store, o.service.pairingsFile.elim (.ok {}) PairingStore.load = .ok store
          ∧ store.toList = [Sample.young] := by
  have hfile : ({ pairings := some Sample.kept.save } : Sources).pairings
      = (some Sample.kept).map PairingStore.save := rfl
  have hkept : ∀ store ∈ some Sample.kept, store.Keyed ∧ ∀ r ∈ store.toList, r.Dated := by
    rintro _ ⟨⟩
    exact ⟨PairingStore.Keyed.empty.upsert Sample.old,
      List.forall_mem_singleton.mpr Sample.dated_old⟩
  obtain ⟨hkeyed, hold⟩ := hkept Sample.kept rfl
  have hstart := Sample.start_file (PairingStore.load_saved hkeyed hold)
  refine ⟨_, hstart, ?_⟩
  intro o
  have hrecords : o.service.world.state.pairings = [Sample.young] := by decide +kernel
  have hdated : ∀ r ∈ o.service.world.state.pairings, r.Dated := by
    rw [hrecords]
    exact List.forall_mem_singleton.mpr ⟨⟨by decide, by decide, by decide⟩, nofun⟩
  have hstay : ∀ m ∈ o.service.world.state.members.values, m.inFlight = true →
      m.removed = false := by decide +kernel
  obtain ⟨hids, hload⟩ := manifest_after hfile hkept hstart Sample.shift
  obtain ⟨store, hstore, hlist⟩ := hload rfl rfl rfl rfl hstay hdated
  exact ⟨hrecords, (hids ⟨8⟩).mpr (.inl (by decide +kernel)), store, hstore,
    hlist.trans hrecords⟩

end DiceHost.Service
