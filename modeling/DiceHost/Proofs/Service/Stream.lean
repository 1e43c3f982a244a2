/-
What a listener of the event stream knows of the dice.

* `State.picture`: the members and where they stand;
* `hear`: what a listener makes of an event;
* `Listener`: a scheduler with a listener that has subscribed to its events, takes a snapshot, and
  takes its events one by one, while anything else happens;
* `Listener.Sound`: the events on their way lead the picture of the listener to that of the
  scheduler;
* `Listener.Sound.after`: whatever happens, this stays so until events are lost;
* `picture_after`: **a listener that has lost no event has the picture of the scheduler** as soon as
  it has taken all events.

The events between the subscription and the snapshot are in the snapshot already. They are taken
nevertheless, and lead from the picture of the snapshot to this picture again.
-/
import DiceHost.Proofs.PixelMap
import DiceHost.Proofs.Scheduler.Tidings
import DiceHost.Service.Inbox

namespace DiceHost

/-! ### Inboxes -/

namespace Service.Inbox

variable {ε : Type} {i : Inbox ε}

lemma push_of_missed {e : ε} (h : (i.push e).missed = 0) :
    i.missed = 0 ∧ (i.push e).pending = i.pending ++ [e] := by
  rw [push] at h ⊢
  by_cases hroom : i.pending.length < capacity
  · rw [if_pos hroom] at h ⊢
    exact ⟨h, rfl⟩
  · rw [if_neg hroom] at h
    exact absurd h (Nat.succ_ne_zero _)

/-- An inbox that has lost nothing holds all that has arrived. -/
lemma pushAll_of_missed {es : List ε} (h : (i.pushAll es).missed = 0) :
    i.missed = 0 ∧ (i.pushAll es).pending = i.pending ++ es := by
  induction es generalizing i with
  | nil => exact ⟨h, (List.append_nil _).symm⟩
  | cons e es ih =>
      obtain ⟨hmissed, hpending⟩ := ih h
      obtain ⟨hmissed', hpending'⟩ := push_of_missed hmissed
      refine ⟨hmissed', hpending.trans ?_⟩
      rw [hpending', List.append_assoc, List.singleton_append]

end Service.Inbox

/-! ### Pictures -/

namespace Scheduler

/-- The members, and where they stand. -/
def State.picture (s : State) : PixelMap DieState :=
  s.members.map (·.state)

lemma State.get?_picture (s : State) (p : PixelId) : s.picture.get? p = s.standing? p :=
  PixelMap.get?_map _ _ _

/-- What a listener makes of an event. A change of state sets that of the die; whether one that it
does not have is taken in depends on the listener. A die that is registered is added as idle, and
one that it has is kept. A die that is forgotten is removed. -/
def hear (takesIn : Bool) (z : PixelMap DieState) : Event → PixelMap DieState
  | .stateChanged p st => if takesIn then z.insert p st else z.modify p fun _ => st
  | .registered r => if (z.get? r.pixel).isSome then z else z.insert r.pixel .idle
  | .unregistered p => z.erase p
  | _ => z

/-- A listener that hears an event makes of each die what the event tells of it. -/
lemma get?_hear (takesIn : Bool) (z : PixelMap DieState) (e : Event) (p : PixelId) :
    (hear takesIn z e).get? p = e.shift takesIn p (z.get? p) := by
  by_cases he : e.stands? = some p
  · obtain ⟨st, rfl⟩ | ⟨r, hr, rfl⟩ | rfl := Event.cases_of_stands he
    · rw [hear, Event.shift, if_pos rfl]
      split_ifs
      · exact (PixelMap.get?_insert _ _ _ _).trans (if_pos rfl)
      · exact (PixelMap.get?_modify _ _ _ _).trans (if_pos rfl)
    · rw [hear, Event.shift_registered hr, hr]
      cases hp : z.get? p with
      | none => exact (PixelMap.get?_insert _ _ _ _).trans (if_pos rfl)
      | some a => exact hp
    · rw [hear, Event.shift_unregistered]
      exact (PixelMap.get?_erase _ _ _).trans (if_pos rfl)
  · rw [Event.shift_of_ne he]
    cases e with
    | stateChanged q st =>
        have hne : p ≠ q := fun hq => he (congrArg some hq.symm)
        rw [hear]
        split_ifs
        · exact (PixelMap.get?_insert _ _ _ _).trans (if_neg hne)
        · exact (PixelMap.get?_modify _ _ _ _).trans (if_neg hne)
    | registered r =>
        have hne : p ≠ r.pixel := fun hq => he (congrArg some hq.symm)
        rw [hear]
        split_ifs
        · rfl
        · exact (PixelMap.get?_insert _ _ _ _).trans (if_neg hne)
    | unregistered q =>
        exact (PixelMap.get?_erase _ _ _).trans (if_neg fun hq => he (congrArg some hq.symm))
    | adapterChanged | connected | disconnected | connectFailed | gaveUp | progress
    | transferIncomplete | transferFailed | profileUpToDate | profileProgrammed
    | firmwareSkipped | firmwareUpdated | peripheralUpdated => rfl

lemma get?_foldl_hear (takesIn : Bool) (z : PixelMap DieState) (es : List Event) (p : PixelId) :
    (es.foldl (hear takesIn) z).get? p = shifts takesIn p (z.get? p) es := by
  induction es generalizing z with
  | nil => rfl
  | cons e es ih => exact (ih _).trans (congrArg (shifts takesIn p · es) (get?_hear takesIn z e p))

end Scheduler

/-! ### Listeners -/

namespace Service

open Scheduler

/-- A scheduler with a listener of its events. -/
structure Listener where
  world : World
  /-- The events since the subscription that the listener has still to take. -/
  inbox : Inbox Event := {}
  /-- What the listener knows of the dice, once it has taken a snapshot. -/
  picture : Option (PixelMap DieState) := none
  /-- Whether the listener has been told that it has missed events. -/
  lags : Bool := false

namespace Listener

/-- What can happen with a listener. -/
inductive Move where
  /-- Something happens in the scheduler, and what is told of it is on its way. -/
  | happen (x : Happening)
  /-- The listener takes a snapshot. -/
  | look
  /-- The listener takes the next event. -/
  | take

/-- What the listener makes of a notice. -/
def heed (takesIn : Bool) (v : Listener) : Notice Event → Listener
  | .event e => { v with picture := v.picture.map (hear takesIn · e) }
  | .missed _ => { v with lags := true }

/-- The scheduler and its listener after a move. -/
def move (takesIn : Bool) (v : Listener) : Move → Listener
  | .happen x =>
    { v with world := v.world.happen x, inbox := v.inbox.pushAll (v.world.told x) }
  | .look => { v with picture := some v.world.state.picture }
  | .take => match v.inbox.take? with
    | none => v
    | some (n, inbox) => heed takesIn { v with inbox } n

/-- The scheduler and its listener after some moves. -/
def after (takesIn : Bool) (v : Listener) (ms : List Move) : Listener :=
  ms.foldl (move takesIn) v

/-- No event has been lost. -/
def KeepsUp (v : Listener) : Prop :=
  v.lags = false ∧ v.inbox.missed = 0

/-- The events on their way lead every die to where it stands, and the picture of the listener to
that of the scheduler. -/
structure Sound (takesIn : Bool) (v : Listener) : Prop where
  orderly : Orderly v.world.state v.world.sessions v.world.started
  leads : v.KeepsUp → ∀ p, ∃ a, Leads p v.inbox.pending a (v.world.state.standing? p)
  knows : v.KeepsUp → ∀ z, v.picture = some z → ∀ p,
    shifts takesIn p (z.get? p) v.inbox.pending = v.world.state.standing? p

namespace Sound

variable {takesIn : Bool} {v : Listener}

/-- A listener that has just subscribed. -/
lemma subscribe {w : World} (ho : Orderly w.state w.sessions w.started) :
    Sound takesIn { world := w } where
  orderly := ho
  leads _ _ := ⟨_, .nil _⟩
  knows := nofun

lemma happen (h : v.Sound takesIn) (x : Happening) : (v.move takesIn (.happen x)).Sound takesIn := by
  have htells := h.orderly.tells_happen x
  have hkept (hup : (v.move takesIn (.happen x)).KeepsUp) : v.KeepsUp
      ∧ (v.move takesIn (.happen x)).inbox.pending = v.inbox.pending ++ v.world.told x := by
    obtain ⟨hmissed, hpending⟩ := Inbox.pushAll_of_missed hup.2
    exact ⟨⟨hup.1, hmissed⟩, hpending⟩
  refine ⟨h.orderly.happen x, fun hup p => ?_, fun hup z hz p => ?_⟩
  · obtain ⟨hold, hpending⟩ := hkept hup
    obtain ⟨a, ha⟩ := h.leads hold p
    exact ⟨a, hpending ▸ ha.append (htells p)⟩
  · obtain ⟨hold, hpending⟩ := hkept hup
    rw [hpending, shifts, List.foldl_append]
    exact (htells p).shifts takesIn (.inl (h.knows hold z hz p))

/-- The events that are on their way lead from the snapshot to the snapshot. -/
lemma look (h : v.Sound takesIn) : (v.move takesIn .look).Sound takesIn := by
  refine ⟨h.orderly, h.leads, fun hup z hz p => ?_⟩
  obtain ⟨a, ha⟩ := h.leads hup p
  rw [← Option.some_inj.mp hz]
  exact ha.shifts takesIn (.inr (State.get?_picture _ _))

lemma take (h : v.Sound takesIn) : (v.move takesIn .take).Sound takesIn := by
  rw [move, Inbox.take?]
  by_cases hmissed : v.inbox.missed = 0
  · rw [if_pos hmissed]
    cases hpending : v.inbox.pending with
    | nil => exact h
    | cons e es =>
        refine ⟨h.orderly, fun hup p => ?_, fun hup z hz p => ?_⟩
        · obtain ⟨a, ha⟩ := h.leads ⟨hup.1, hmissed⟩ p
          rw [hpending] at ha
          cases ha with
          | cons _ hleads => exact ⟨_, hleads⟩
        · obtain ⟨z', hz', rfl⟩ := Option.map_eq_some_iff.mp hz
          have hknows := h.knows ⟨hup.1, hmissed⟩ z' hz' p
          rw [hpending] at hknows
          exact (congrArg (shifts takesIn p · es) (get?_hear takesIn z' e p)).trans hknows
  · rw [if_neg hmissed]
    exact ⟨h.orderly, fun hup => absurd hup.1 nofun, fun hup => absurd hup.1 nofun⟩

/-- Whatever happens, the events on their way lead the listener to where the dice stand. -/
lemma after (h : v.Sound takesIn) (ms : List Move) : (v.after takesIn ms).Sound takesIn := by
  induction ms generalizing v with
  | nil => exact h
  | cons m ms ih =>
      cases m with
      | happen x => exact ih (h.happen x)
      | look => exact ih h.look
      | take => exact ih h.take

end Sound

end Listener

/-- **The events reconstruct the scheduler.** A listener subscribes to the events of a scheduler at
any time, takes a snapshot at any time after that, and takes the events since its subscription one
by one, whatever else happens. As long as it has lost none, the events that it has still to take
lead its picture to that of the scheduler: the members and where each of them stands. -/
theorem picture_after (takesIn : Bool) (config : Config) (delay : ℕ) (radio : Link.Radio)
    (pairings : List Peripheral) (before : List Happening) (moves : List Listener.Move)
    {picture : PixelMap DieState} :
    let w := (World.start config delay radio pairings).after before
    let v := ({ world := w } : Listener).after takesIn moves
    v.KeepsUp → v.picture = some picture →
      v.inbox.pending.foldl (hear takesIn) picture = v.world.state.picture := by
  intro w v hup hpicture
  have ho : Orderly w.state w.sessions w.started :=
    (Orderly.start config delay radio pairings).after before
  have hv : v.Sound takesIn := (Listener.Sound.subscribe ho).after moves
  refine PixelMap.ext_get? fun p => ?_
  rw [get?_foldl_hear, State.get?_picture]
  exact hv.knows hup picture hpicture p

namespace Sample

/-- A die is registered and asked for, and only then the listener takes a snapshot. It takes both
events that are in it already, and a session begins. -/
def glance : List Listener.Move :=
  [.happen (.move (.request (.register (.new "ring" ⟨7⟩ .d20 default)))),
    .happen (.move (.request (.connect ⟨7⟩ .low))), .look, .take, .take,
    .happen (.move .dispatch), .happen (.move .dispatch)]

end Sample

/-- The events that the snapshot includes do no harm, and the last one is still to be taken. -/
theorem picture_glance :
    let v := ({ world := .start {} 0 {} [] } : Listener).after false Sample.glance
    v.KeepsUp ∧ v.inbox.pending = [.stateChanged ⟨7⟩ .connecting]
      ∧ ∃ picture, v.picture = some picture ∧ picture.entries = [(⟨7⟩, .queued .low)]
        ∧ v.inbox.pending.foldl (hear false) picture = v.world.state.picture := by
  intro v
  have hup : v.KeepsUp := ⟨by decide +kernel, by decide +kernel⟩
  have hpicture : v.picture.map (·.entries) = some [(⟨7⟩, .queued .low)] := by decide +kernel
  obtain ⟨picture, hp, hentries⟩ := Option.map_eq_some_iff.mp hpicture
  exact ⟨hup, by decide +kernel, picture, hp, hentries,
    picture_after false {} 0 {} [] [] Sample.glance hup hp⟩

end Service

end DiceHost
