/-
What is told of where the dice stand.

* `Event.stands?`, `Event.shift`: the die whose standing an event tells, and what becomes of the
  standing that a listener has for a die;
* `Leads`: events lead a die from one standing to another, and tell of a change only while it is
  a member;
* `Leads.shifts`: whoever follows such events from the standing before, or from that after, ends
  at the standing after;
* `State.Tells`: the events of a change lead every die from where it stood to where it stands;
* `State.Handled.tells`, `Act.tells`: so do the events of requests and of everything that changes
  the shared state;
* `Orderly.tells_happen`: **what is told leads every die to where it stands**, whatever happens.

A change of the shared state may set the standing of a die more than once; only the last standing
is told, and so it is compared with the one before the change.
-/
import DiceHost.Proofs.Scheduler.Acts
import DiceHost.Proofs.Scheduler.Attendance

namespace DiceHost.Scheduler

open Link

/-! ### Listening -/

namespace Event

/-- The die whose standing an event tells. -/
def stands? : Event → Option PixelId
  | stateChanged p _ | unregistered p => some p
  | registered r => some r.pixel
  | _ => none

/-- Three kinds of events tell the standing of a die. -/
lemma cases_of_stands {e : Event} {p : PixelId} (h : e.stands? = some p) :
    (∃ st, e = .stateChanged p st) ∨ (∃ r, r.pixel = p ∧ e = .registered r)
      ∨ e = .unregistered p := by
  cases e with
  | stateChanged q st =>
      cases h
      exact .inl ⟨st, rfl⟩
  | registered r => exact .inr (.inl ⟨r, Option.some_inj.mp h, rfl⟩)
  | unregistered q =>
      cases h
      exact .inr (.inr rfl)
  | adapterChanged | connected | disconnected | connectFailed | gaveUp | progress
  | transferIncomplete | transferFailed | profileUpToDate | profileProgrammed | firmwareSkipped
  | firmwareUpdated | peripheralUpdated => cases h

/-- What a listener makes of an event, for a die that it has as standing so, or that it does not
have. A listener may take in a die whose state changes and that it does not have, or pass over
it. -/
def shift (takesIn : Bool) (p : PixelId) (a : Option DieState) : Event → Option DieState
  | stateChanged q st => if q = p then (if takesIn then some st else a.map fun _ => st) else a
  | registered r => if r.pixel = p then some (a.getD .idle) else a
  | unregistered q => if q = p then none else a
  | _ => a

/-- A change of state is told of a member only. -/
def Fits (p : PixelId) (a : Option DieState) (e : Event) : Prop :=
  ∀ st, e = .stateChanged p st → a.isSome = true

variable {p : PixelId} {takesIn : Bool} {a : Option DieState}

lemma shift_of_ne {e : Event} (h : e.stands? ≠ some p) : e.shift takesIn p a = a := by
  cases e with
  | stateChanged | registered | unregistered => exact if_neg fun hp => h (congrArg some hp)
  | adapterChanged | connected | disconnected | connectFailed | gaveUp | progress
  | transferIncomplete | transferFailed | profileUpToDate | profileProgrammed | firmwareSkipped
  | firmwareUpdated | peripheralUpdated => rfl

/-- Every listener hears that the state of a die that it has changes. -/
lemma shift_stateChanged (ha : a.isSome = true) (st : DieState) :
    (stateChanged p st).shift takesIn p a = some st := by
  obtain ⟨x, rfl⟩ := Option.isSome_iff_exists.mp ha
  rw [shift, if_pos rfl]
  cases takesIn <;> rfl

lemma shift_registered {r : Peripheral} (hr : r.pixel = p) :
    (registered r).shift takesIn p a = some (a.getD .idle) :=
  if_pos hr

lemma shift_unregistered : (unregistered p).shift takesIn p a = none :=
  if_pos rfl

end Event

/-- What a listener makes of some events. -/
def shifts (takesIn : Bool) (p : PixelId) (a : Option DieState) (es : List Event) :
    Option DieState :=
  es.foldl (Event.shift takesIn p) a

/-- Events lead a die from one standing to another. -/
inductive Leads (p : PixelId) : List Event → Option DieState → Option DieState → Prop
  | nil (a : Option DieState) : Leads p [] a a
  | cons {e : Event} {es : List Event} {a c : Option DieState} (fits : e.Fits p a)
      (leads : Leads p es (e.shift true p a) c) : Leads p (e :: es) a c

namespace Leads

variable {p : PixelId} {es es' : List Event} {a b c : Option DieState}

lemma append (h : Leads p es a b) (h' : Leads p es' b c) : Leads p (es ++ es') a c := by
  induction h with
  | nil => exact h'
  | cons hfits _ ih => exact .cons hfits (ih h')

/-- Events that do not tell the standing of a die lead it nowhere. -/
lemma of_ne (h : ∀ e ∈ es, e.stands? ≠ some p) : Leads p es a a := by
  induction es with
  | nil => exact .nil a
  | cons e es ih =>
      obtain ⟨he, hes⟩ := List.forall_mem_cons.mp h
      refine .cons ?_ ?_
      · rintro st rfl
        exact (he rfl).elim
      · rw [Event.shift_of_ne he]
        exact ih hes

/-- A listener that has the standing at which the events end, or the one that they have reached,
ends there. -/
lemma shifts_of_some {st : DieState} (h : Leads p es a (some st)) (takesIn : Bool)
    (hb : b = a ∨ b = some st) : shifts takesIn p b es = some st := by
  generalize hc : some st = c at h
  induction h generalizing b with
  | nil => exact hb.elim (·.trans rfl) (·.trans hc)
  | @cons e es a c hfits _ ih =>
      refine ih (b := e.shift takesIn p b) ?_ hc
      by_cases he : e.stands? = some p
      · obtain ⟨st', rfl⟩ | ⟨r, hr, rfl⟩ | rfl := Event.cases_of_stands he
        · -- the die is a member, so the listener has it
          have ha := hfits st' rfl
          have hb' : b.isSome = true := by
            obtain rfl | rfl := hb
            · exact ha
            · rfl
          rw [Event.shift_stateChanged ha, Event.shift_stateChanged hb']
          exact .inl rfl
        · rw [Event.shift_registered hr, Event.shift_registered hr]
          obtain rfl | rfl := hb
          · exact .inl rfl
          · exact .inr rfl
        · rw [Event.shift_unregistered, Event.shift_unregistered]
          exact .inl rfl
      · rw [Event.shift_of_ne he, Event.shift_of_ne he]
        exact hb

/-- A listener that lacks a die whenever the events have led it away ends without it, if they lead
it away. -/
lemma shifts_of_none (h : Leads p es a none) (takesIn : Bool) (hb : a = none → b = none) :
    shifts takesIn p b es = none := by
  generalize hc : none = c at h
  induction h generalizing b with
  | nil => exact (hb hc.symm).trans hc
  | @cons e es a c hfits _ ih =>
      refine ih (b := e.shift takesIn p b) (fun ha => ?_) hc
      by_cases he : e.stands? = some p
      · obtain ⟨st', rfl⟩ | ⟨r, hr, rfl⟩ | rfl := Event.cases_of_stands he
        · rw [Event.shift_stateChanged (hfits st' rfl)] at ha
          cases ha
        · rw [Event.shift_registered hr] at ha
          cases ha
        · exact Event.shift_unregistered
      · rw [Event.shift_of_ne he] at ha ⊢
        exact hb ha

/-- **Events may be followed from the standing at which they begin, or once more from the one at
which they end.** -/
lemma shifts (h : Leads p es a c) (takesIn : Bool) (hb : b = a ∨ b = c) :
    Scheduler.shifts takesIn p b es = c := by
  cases c with
  | some st => exact h.shifts_of_some takesIn hb
  | none => exact h.shifts_of_none takesIn fun ha => hb.elim (·.trans ha) id

end Leads

/-! ### Changes -/

/-- Events that tell of no die where it stands. -/
def Mute (es : List Event) : Prop :=
  ∀ e ∈ es, e.stands? = none

lemma mute_singleton {e : Event} (h : e.stands? = none) : Mute [e] :=
  List.forall_mem_singleton.mpr h

lemma Mute.append {es es' : List Event} (h : Mute es) (h' : Mute es') : Mute (es ++ es') :=
  List.forall_mem_append.mpr ⟨h, h'⟩

lemma mute_events (r : Report) (p : PixelId) : Mute (r.events p) := by
  refine .append ?_ ?_
  · rcases r.profile with _ | ⟨job, _ | _⟩
    · exact List.forall_mem_nil _
    · exact mute_singleton rfl
    · exact mute_singleton rfl
  · cases r.firmware with
    | none => exact List.forall_mem_nil _
    | some job => exact mute_singleton rfl

lemma mute_settle (m : Member) (c : Config) (p : PixelId)
    (e : Option (PayloadKind × TransferError)) : Mute (m.settle c p e).2.1 := by
  rw [Member.settle.eq_def]
  cases e with
  | none => exact List.forall_mem_nil _
  | some e =>
      obtain ⟨kind, e⟩ := e
      dsimp only
      split_ifs
      · exact List.forall_mem_cons.mpr ⟨rfl, mute_singleton rfl⟩
      · exact mute_singleton rfl
      · exact mute_singleton rfl

namespace State

variable {s t u : State} {p : PixelId} {m : Member} {es es' : List Event}

/-- Where a die stands, if it is a member. -/
def standing? (s : State) (p : PixelId) : Option DieState :=
  (s.member? p).map (·.state)

/-- Events lead every die from where it stands in one state to where it stands in another. -/
def Tells (s : State) (es : List Event) (t : State) : Prop :=
  ∀ q, Leads q es (s.standing? q) (t.standing? q)

lemma standing?_eq (h : s.member? p = some m) : s.standing? p = some m.state := by
  rw [standing?, h, Option.map_some]

lemma standing?_modify (h : s.member? p = some m) (f : Member → Member) :
    (s.modify p f).standing? p = some (f m).state := by
  rw [standing?, member?_modify_self h, Option.map_some]

lemma isSome_standing? (h : s.member? p = some m) : (s.standing? p).isSome = true := by
  rw [standing?_eq h, Option.isSome_some]

lemma Touches.standing? (h : Touches s t p) {q : PixelId} (hq : q ≠ p) :
    t.standing? q = s.standing? q := by
  rw [State.standing?, State.standing?, h.member q hq]

namespace Tells

lemma of_eq (h : ∀ q, t.standing? q = s.standing? q) : s.Tells [] t :=
  fun q => h q ▸ .nil _

lemma refl (s : State) : s.Tells [] s := of_eq fun _ => rfl

lemma trans (h : s.Tells es t) (h' : t.Tells es' u) : s.Tells (es ++ es') u :=
  fun q => (h q).append (h' q)

/-- Events that tell nothing of where dice stand do no harm. -/
lemma of_mute (h : Mute es) (s : State) : s.Tells es s :=
  fun q => .of_ne fun e he hq => by rw [h e he] at hq; cases hq

/-- An event that tells nothing of where dice stand may come first. -/
lemma preceded {e : Event} (he : e.stands? = none) (h : s.Tells es t) : s.Tells (e :: es) t :=
  (of_mute (mute_singleton he) s).trans h

lemma around {pre post : List Event} (h : s.Tells es t) (hpre : Mute pre) (hpost : Mute post) :
    s.Tells (pre ++ es ++ post) t :=
  ((of_mute hpre s).trans h).trans (of_mute hpost t)

/-- What changes no standing may go before without a word. -/
lemma after (h : s.Tells [] t) (h' : t.Tells es u) : s.Tells es u := h.trans h'

/-- What changes no standing may be told of anything else. -/
lemma aside (hes : Mute es) (h : s.Tells [] t) : s.Tells es t := by
  have h' := h.trans (of_mute hes t)
  rwa [List.nil_append] at h'

/-- What is told of one die leads the others nowhere. -/
lemma of_touches (ht : Touches s t p) (hes : ∀ e ∈ es, e.stands? = some p ∨ e.stands? = none)
    (h : Leads p es (s.standing? p) (t.standing? p)) : s.Tells es t := by
  intro q
  by_cases hq : q = p
  · exact hq ▸ h
  · rw [ht.standing? hq]
    refine .of_ne fun e he heq => ?_
    obtain hp | hnone := hes e he
    · exact hq (Option.some_inj.mp (heq.symm.trans hp))
    · rw [heq] at hnone
      cases hnone

/-- A member is told to stand where it stands now. -/
lemma changed {st : DieState} (ht : Touches s t p) (hm : (s.standing? p).isSome = true)
    (h : t.standing? p = some st) : s.Tells [.stateChanged p st] t := by
  refine of_touches ht (List.forall_mem_singleton.mpr (.inl rfl)) (.cons (fun _ _ => hm) ?_)
  rw [Event.shift_stateChanged hm, h]
  exact .nil _

/-- A die is told to be forgotten. -/
lemma forgotten (ht : Touches s t p) (h : t.member? p = none) : s.Tells [.unregistered p] t := by
  refine of_touches ht (List.forall_mem_singleton.mpr (.inl rfl)) (.cons nofun ?_)
  rw [Event.shift_unregistered, standing?, h]
  exact .nil _

end Tells

/-! #### Parts of changes -/

/-- A change that leaves the state of a member leaves all dice where they stand. -/
lemma tells_modify (s : State) (p : PixelId) {f : Member → Member}
    (hf : ∀ m, s.member? p = some m → (f m).state = m.state) : s.Tells [] (s.modify p f) := by
  refine .of_eq fun q => ?_
  rw [standing?, standing?, member?_modify]
  split_ifs with hq
  · subst hq
    cases hm : s.member? q with
    | none => rfl
    | some m => exact congrArg some (hf m hm)
  · rfl

lemma tells_releaseDfu (s : State) (p : PixelId) : s.Tells [] (s.releaseDfu p) := by
  rw [releaseDfu]
  split_ifs
  · exact tells_modify { s with dfuActive := false } p fun _ _ => rfl
  · exact .refl s

/-- A member that is made to wait is told to be queued, unless it is already or its session is
running. -/
lemma tells_enqueue (s : State) (p : PixelId) (pr : Priority) :
    s.Tells (s.enqueue p pr).2 (s.enqueue p pr).1 := by
  have ht := touches_enqueue s p pr
  rw [enqueue] at ht ⊢
  cases hm : s.member? p with
  | none => exact .refl s
  | some m =>
      simp only [hm] at ht
      dsimp only
      split_ifs at ht ⊢
      · exact tells_modify s p fun _ _ => rfl
      · exact .of_eq fun _ => rfl
      · exact .changed ht (isSome_standing? hm)
          (standing?_modify (s := { s with queue := (s.queue.enqueue p pr).1 }) hm _)

lemma tells_schedule (s : State) (p : PixelId) (pr : Priority) :
    s.Tells (s.schedule p pr).2 (s.schedule p pr).1 := by
  rw [schedule]
  cases s.member? p with
  | none => exact .refl s
  | some m =>
      dsimp only
      split_ifs
      · exact .refl s
      · exact tells_enqueue s p pr

/-- A member that was made idle without a word, and is then made to wait, is told to be queued,
wherever it stood before. -/
lemma tells_enqueue_idle (ht : Touches s t p) (hs : (s.standing? p).isSome = true)
    (hm : t.member? p = some m) (hf : m.inFlight = false) (hidle : m.state = .idle)
    (pr : Priority) : s.Tells (t.enqueue p pr).2 (t.enqueue p pr).1 := by
  have ht' := ht.trans (touches_enqueue t p pr)
  have hmoves (st : Priority) : ¬ m.state = .queued st := by
    rw [hidle]
    exact nofun
  rw [enqueue, hm] at ht' ⊢
  simp only [hf, Bool.false_eq_true, if_false, hmoves] at ht' ⊢
  exact .changed ht' hs
    (standing?_modify (s := { t with queue := (t.queue.enqueue p pr).1 }) hm _)

lemma tells_schedule_idle (ht : Touches s t p) (hs : (s.standing? p).isSome = true)
    (hm : t.member? p = some m) (hf : m.inFlight = false) (hidle : m.state = .idle)
    (pr : Priority) : s.Tells (t.schedule p pr).2 (t.schedule p pr).1 := by
  have hready : (m.state.isBackingOff && decide (pr = .low) && !m.inFlight) = false := by
    rw [hidle]
    rfl
  have h := tells_enqueue_idle ht hs hm hf hidle pr
  rw [schedule, hm]
  dsimp only
  rw [hready, if_neg Bool.false_ne_true]
  exact h

lemma tells_forget (ht : Touches s t p) : s.Tells (t.forget p).2 (t.forget p).1 :=
  .forgotten (ht.trans (touches_forget t p)) (member?_forget t p)

/-! #### Requests -/

lemma tells_register (s : State) (r : Peripheral) :
    s.Tells (s.register r).events (s.register r).state := by
  refine .of_touches (touches_register s r) (List.forall_mem_singleton.mpr (.inl rfl))
    (.cons nofun ?_)
  have hstands : (s.register r).state.standing? r.pixel
      = some ((s.standing? r.pixel).getD .idle) := by
    rw [standing?, standing?, register]
    refine (congrArg _ ((PixelMap.get?_insert _ _ _ _).trans (if_pos rfl))).trans ?_
    cases s.member? r.pixel <;> rfl
  rw [Event.shift_registered rfl, hstands]
  exact .nil _

lemma tells_unregister (s : State) (p : PixelId) (m : Member) :
    s.Tells (s.unregister p m).events (s.unregister p m).state := by
  rw [unregister]
  split_ifs
  · exact tells_modify s p fun _ _ => rfl
  · exact tells_forget (touches_removeQueue s p)

lemma tells_connect (s : State) (p : PixelId) (m : Member) (pr : Priority) :
    s.Tells (s.connect p m pr).2.events (s.connect p m pr).2.state := by
  rw [connect]
  split_ifs
  · exact .refl s
  · exact tells_schedule s p pr

lemma tells_program (s : State) (p : PixelId) (m : Member) (d : Program) (pr : Priority) :
    s.Tells (s.program p m d pr).2.events (s.program p m d pr).2.state := by
  rw [program]
  by_cases hd : (!m.inFlight && m.peripheral.isUpToDate d.hash) = true
  · rw [if_pos hd]
    refine .aside (.append ?_ (mute_singleton rfl)) (tells_modify s p fun _ _ => rfl)
    dsimp only
    split_ifs
    · exact List.forall_mem_nil _
    · exact mute_singleton rfl
  · rw [if_neg hd]
    refine .after ?_ (tells_schedule _ p pr)
    exact tells_modify { s with lastSeq := s.lastSeq + 1 } p fun _ _ => rfl

lemma tells_updateFirmware (s : State) (p : PixelId) (m : Member) (image : FirmwareImage)
    (force : Bool) (pr : Priority) :
    s.Tells (s.updateFirmware p m image force pr).2.events
      (s.updateFirmware p m image force pr).2.state := by
  rw [updateFirmware]
  dsimp only
  split_ifs
  · exact .of_mute (mute_singleton rfl) s
  · refine .after ?_ (tells_schedule _ p pr)
    exact tells_modify { s with lastSeq := s.lastSeq + 1 } p fun _ _ => rfl

lemma tells_cancel (hm : s.member? p = some m) :
    s.Tells (s.cancel p m).events (s.cancel p m).state := by
  have ht := touches_cancel s p m
  have hjobs : (s.modify p fun m => { m with profileJob := none, firmwareJob := none }).member? p
      = some { m with profileJob := none, firmwareJob := none } := member?_modify_self hm _
  rw [cancel] at ht ⊢
  split_ifs at ht ⊢
  · exact .changed ht (isSome_standing? hm) (standing?_modify (s := { s.modify p _ with
      queue := s.queue.remove p }) hjobs _)
  · exact tells_modify s p fun _ _ => rfl

lemma tells_retry (hm : s.member? p = some m) (hf : m.inFlight = false) :
    s.Tells (s.retry p).events (s.retry p).state :=
  tells_schedule_idle (touches_modify s p _) (isSome_standing? hm) (m := { m with
    attempts := 0, backoffEpoch := m.backoffEpoch + 1, state := .idle })
    (member?_modify_self hm _) hf rfl .high

/-- **What a request changes is told.** -/
lemma Handled.tells {r : Request} {reply : Reply} {c : Change} (h : s.Handled r reply c) :
    s.Tells c.events c.state := by
  cases h with
  | register r => exact tells_register s r
  | unregister => exact tells_unregister s _ _
  | connect pr => exact tells_connect s _ _ pr
  | program d pr => exact tells_program s _ _ d pr
  | updateFirmware image force pr => exact tells_updateFirmware s _ _ image force pr
  | cancel hm => exact tells_cancel hm
  | retry hm hf => exact tells_retry hm hf

/-! #### Turns -/

lemma tells_adapterSeen (s : State) (a : AdapterState) :
    s.Tells (s.adapterSeen a).events (s.adapterSeen a).state := by
  refine .aside ?_ (.of_eq fun _ => rfl)
  rw [adapterSeen]
  dsimp only
  split_ifs
  · exact List.forall_mem_nil _
  · exact mute_singleton rfl

lemma tells_backoffOver (s : State) (p : PixelId) (epoch : ℕ) :
    s.Tells (s.backoffOver p epoch).events (s.backoffOver p epoch).state := by
  rw [backoffOver]
  cases s.member? p with
  | none => exact .refl s
  | some m =>
      dsimp only
      split_ifs
      · exact tells_enqueue s p .low
      · exact .refl s

lemma tells_takeNext {pr : Priority} {c : Change} (hs : s.queue.Unique)
    (h : s.takeNext = some ((p, pr), c)) : s.Tells c.events c.state := by
  obtain ⟨m, hold, ht, hold'⟩ := takeNext_cases hs h
  rw [(takeNext_eq_some h).2.2.2]
  exact .changed ht (isSome_standing? hold.member) (standing?_eq hold'.member)

lemma tells_connected (hm : s.member? p = some m) :
    s.Tells (s.connected p).events (s.connected p).state :=
  .preceded rfl
    (.changed (touches_connected s p) (isSome_standing? hm) (standing?_modify hm _))

lemma tells_transferring (hm : s.member? p = some m) (kind : PayloadKind) :
    s.Tells (s.transferring p kind).events (s.transferring p kind).state :=
  .changed (touches_transferring s p kind) (isSome_standing? hm) (standing?_modify hm _)

lemma tells_interrupted (s : State) (p : PixelId) (pr : Priority) :
    s.Tells (s.interrupted p pr).events (s.interrupted p pr).state := by
  refine (tells_releaseDfu s p).after ?_
  rw [interrupted]
  cases hm : (s.releaseDfu p).member? p with
  | none => exact .refl _
  | some m =>
      dsimp only
      split_ifs
      · exact tells_forget (.refl _ p)
      · exact tells_enqueue_idle (touches_modify _ p _) (isSome_standing? hm) (m := { m with
          inFlight := false, requeueAfter := none, state := .idle })
          (member?_modify_self hm _) rfl rfl _

lemma tells_connectFailed (s : State) (c : Config) (p : PixelId) (e : LinkError) :
    s.Tells (s.connectFailed c p e).1.events (s.connectFailed c p e).1.state := by
  refine (tells_releaseDfu s p).after ?_
  rw [connectFailed]
  cases hm : (s.releaseDfu p).member? p with
  | none => exact .refl _
  | some m =>
      dsimp only
      by_cases hr : m.removed = true
      · rw [if_pos hr]
        exact tells_forget (.refl _ p)
      · rw [if_neg hr]
        refine .preceded ?_
          (.changed (touches_modify _ p _) (isSome_standing? hm) (standing?_modify hm _))
        split_ifs <;> rfl

/-- A member that has left its session is forgotten, given up, made to wait or idle. -/
lemma tells_leaving (ht : Touches s t p) (hs : (s.standing? p).isSome = true)
    (hm : t.member? p = some m) (hf : m.inFlight = false) (next : Option Priority) :
    let rest := t.modify p fun m => { m with requeueAfter := none, state := .idle }
    let left := if m.removed then t.forget p
      else if m.state.isGivenUp then (t, [.stateChanged p m.state])
      else match next with
        | some pr => rest.schedule p pr
        | none => (rest, [.stateChanged p .idle])
    s.Tells left.2 left.1 := by
  intro rest left
  have htrest : Touches s rest p := ht.trans (touches_modify t p _)
  have hrest : rest.member? p = some { m with requeueAfter := none, state := .idle } :=
    member?_modify_self hm _
  by_cases hr : m.removed = true
  · simp only [left, if_pos hr]
    exact tells_forget ht
  · by_cases hg : m.state.isGivenUp = true
    · simp only [left, if_neg hr, if_pos hg]
      exact .changed ht hs (standing?_eq hm)
    · simp only [left, if_neg hr, if_neg hg]
      cases next with
      | none => exact .changed htrest hs (standing?_eq hrest)
      | some pr => exact tells_schedule_idle htrest hs hrest hf rfl pr

/-- What a session has changed is told at its end. -/
lemma tells_sessionEnded (s : State) (c : Config) (p : PixelId) (r : Report) :
    s.Tells (s.sessionEnded c p r).events (s.sessionEnded c p r).state := by
  refine (tells_releaseDfu s p).after ?_
  rw [sessionEnded]
  cases hm : (s.releaseDfu p).member? p with
  | none => exact .of_mute (mute_singleton rfl) _
  | some m =>
      have hmute := mute_settle (({ m with inFlight := false } : Member).confirm r) c p r.error
      have hrest : ((({ m with inFlight := false } : Member).confirm r).settle c p
          r.error).1.inFlight = false := by
        rw [Member.settle_eq, Member.confirm_eq]
      dsimp only
      generalize (({ m with inFlight := false } : Member).confirm r).settle c p r.error = settled
        at hmute hrest ⊢
      obtain ⟨n, failed, next⟩ := settled
      refine Tells.around ?_ (.append (.append (mute_events r p) hmute) ?_) (mute_singleton rfl)
      · exact tells_leaving (touches_modify _ p fun _ => n) (isSome_standing? hm)
          (member?_modify_self hm _) hrest _
      · dsimp only
        split_ifs
        · exact mute_singleton rfl
        · exact List.forall_mem_nil _

end State

/-! ### Acts -/

variable {w : World} {x : Happening} {c : Change}

/-- What an act changes is told. -/
lemma Act.tells (ho : Orderly w.state w.sessions w.started) (h : Act w x c) :
    w.state.Tells c.events c.state := by
  cases h with
  | request hr => exact (State.handled hr).tells
  | seen => exact State.tells_adapterSeen _ _
  | begun _ hnext => exact State.tells_takeNext ho.coherent.unique hnext
  | woken => exact State.tells_backoffOver _ _ _
  | interrupted => exact State.tells_interrupted _ _ _
  | failed => exact State.tells_connectFailed _ _ _ _
  | @connected id s link hs hst =>
      obtain ⟨m, hm, -⟩ := ho.manned s (World.mem_of_session? hs).1
        (Act.live (.connected hs hst) hs)
      exact State.tells_connected hm
  | @transferring id s link task tasks report hs hst =>
      obtain ⟨m, hm, -⟩ := ho.manned s (World.mem_of_session? hs).1
        (Act.live (.transferring hs hst) hs)
      exact State.tells_transferring hm _
  | ended => exact State.tells_sessionEnded _ _ _ _

namespace Orderly

/-- **What is told leads every die to where it stands**, whatever happens. -/
lemma tells_happen (ho : Orderly w.state w.sessions w.started) (x : Happening) :
    w.state.Tells (w.told x) (w.happen x).state := by
  obtain ⟨c, hact⟩ | hunmoved := w.act_or_unmoved x
  · rw [hact.carries.told, hact.carries.state]
    exact hact.tells ho
  · rw [hunmoved.state]
    refine .of_mute (fun e he => ?_) _
    have hprogress := hunmoved.told e he
    cases e with
    | progress => rfl
    | stateChanged | adapterChanged | connected | disconnected | connectFailed | gaveUp
    | transferIncomplete | transferFailed | profileUpToDate | profileProgrammed
    | firmwareSkipped | firmwareUpdated | peripheralUpdated | registered | unregistered =>
        cases hprogress

end Orderly

end DiceHost.Scheduler
