/-
Slots of sessions, and links that are open.

* `Radio.active_accept`, `Radio.active_close`, `Radio.active_request`: how the count of the radio
  goes with a link that is opened, closed, or dropped by its die;
* `World.openLinks`: the open links that sessions hold;
* `World.Bounded`: every slot is free, with the dispatcher, or with one session; the radio counts
  the open links; and it has never counted more than there are slots;
* `World.Bounded.step`: **a move keeps the slots and the count right**;
* `Attended.count_inFlight_le`: no more dice are in a session than there are sessions;
* `links_bounded`: in every run over a radio of its own, dice in a session, open links and the
  most links so far are within the number of slots.
-/
import DiceHost.Proofs.Scheduler.Attendance
import DiceHost.Proofs.Scheduler.Timers

namespace DiceHost.Link.Radio

variable (r : Radio)

/-- A connection that is completed is counted if there is a link, which is open then. -/
lemma active_accept (p : PixelId) :
    (∃ link, (r.accept p).1 = .ok link ∧ link.isOpen = true
        ∧ (r.accept p).2.active = r.active + 1
        ∧ (r.accept p).2.maxActive = max r.maxActive (r.active + 1))
      ∨ ∃ e, (r.accept p).1 = .error e ∧ (r.accept p).2.active = r.active
        ∧ (r.accept p).2.maxActive = r.maxActive := by
  rw [accept]
  cases r.die? p with
  | none => exact .inr ⟨_, rfl, rfl, rfl⟩
  | some d =>
      dsimp only
      split_ifs
      · exact .inr ⟨_, rfl, rfl, rfl⟩
      · exact .inr ⟨_, rfl, rfl, rfl⟩
      · exact .inl ⟨_, rfl, rfl, rfl, rfl⟩

/-- A link is closed, and counted no longer; one that is closed already was not counted. -/
lemma active_close (c : Connection) (h : c.isOpen = true → 0 < r.active) :
    (r.close c).1.isOpen = false ∧ (r.close c).2.active + c.isOpen.toNat = r.active
      ∧ (r.close c).2.maxActive = r.maxActive := by
  rw [close]
  cases hc : c.isOpen with
  | true => exact ⟨rfl, Nat.sub_add_cancel (h hc), rfl⟩
  | false => exact ⟨hc, rfl, rfl⟩

/-- The count goes with the link over which a request is sent: its die may drop it. -/
lemma active_request (c : Connection) (bytes : List UInt8) (h : c.isOpen = true → 0 < r.active) :
    (r.request c bytes).2.2.active + c.isOpen.toNat
        = r.active + (r.request c bytes).2.1.isOpen.toNat
      ∧ (r.request c bytes).2.2.maxActive = r.maxActive := by
  rw [request]
  split_ifs
  · exact ⟨rfl, rfl⟩
  · cases Message.decode bytes with
    | error e => exact ⟨rfl, rfl⟩
    | ok m =>
        dsimp only
        cases r.die? c.pixel with
        | none => exact ⟨rfl, rfl⟩
        | some d =>
            dsimp only
            cases (d.respond m).1 with
            | reply m => exact ⟨rfl, rfl⟩
            | refuse name => exact ⟨rfl, rfl⟩
            | drop =>
                obtain ⟨hclosed, hactive, hmax⟩ :=
                  active_close (r.modifyDie c.pixel fun _ => (d.respond m).2) c h
                dsimp only
                rw [hclosed]
                exact ⟨hactive, hmax⟩

lemma active_adjust (a : Adjustment) :
    (r.adjust a).active = r.active ∧ (r.adjust a).maxActive = r.maxActive := by
  cases a <;> exact ⟨rfl, rfl⟩

end DiceHost.Link.Radio

namespace DiceHost.Scheduler

open Link

/-! ### Links and slots -/

/-- The link that a session holds at a stage. -/
def Stage.link? : Stage → Option Connection
  | .linked link | .connected link | .working link .. | .sending link .. | .closing link _ =>
    some link
  | _ => none

/-- A session holds an open link at a stage. -/
def Stage.holdsOpen (stage : Stage) : Bool :=
  stage.link?.any (·.isOpen)

/-- The slots that the dispatcher holds. -/
def Dispatcher.slots : Dispatcher → ℕ
  | acquiring => 0
  | looking | parked => 1

namespace World

/-- The open links that sessions hold. -/
def openLinks (w : World) : ℕ :=
  w.sessions.countP (·.stage.holdsOpen)

/-- Every slot is free, with the dispatcher, or with one session; the radio counts the open links
of the sessions, and has never counted more than there are slots. -/
structure Bounded (w : World) : Prop where
  slots : w.freeSlots + w.dispatcher.slots + w.sessions.length = w.config.slots
  active : w.radio.active = w.openLinks
  peak : w.radio.maxActive ≤ w.config.slots

variable {w w' : World} {s : Session} {stage : Stage}

/-- The sessions before and after a session that comes to another stage. -/
lemma exists_split (hids : (w.sessions.map (·.id)).Nodup) (hs : s ∈ w.sessions) :
    ∃ pre post, w.sessions = pre ++ s :: post
      ∧ (∀ stage, (w.setStage s.id stage).sessions = pre ++ { s with stage } :: post)
      ∧ w.sessions.filter (·.id ≠ s.id) = pre ++ post := by
  obtain ⟨pre, post, heq⟩ := List.append_of_mem hs
  rw [heq, List.map_append, List.map_cons, List.nodup_middle, List.nodup_cons,
    List.mem_append, not_or] at hids
  have hpre : ∀ x ∈ pre, x.id ≠ s.id := fun x hx hid =>
    hids.1.1 (hid ▸ List.mem_map_of_mem (f := (·.id)) hx)
  have hpost : ∀ x ∈ post, x.id ≠ s.id := fun x hx hid =>
    hids.1.2 (hid ▸ List.mem_map_of_mem (f := (·.id)) hx)
  refine ⟨pre, post, heq, fun stage => ?_, ?_⟩
  · have hkept {l : List Session} (hl : ∀ x ∈ l, x.id ≠ s.id) :
        l.map (fun x => if x.id = s.id then { x with stage } else x) = l := by
      rw [List.map_congr_left fun x hx => if_neg (hl x hx), List.map_id']
    rw [setStage, heq, List.map_append, List.map_cons, hkept hpre, hkept hpost, if_pos rfl]
  · have hkept {l : List Session} (hl : ∀ x ∈ l, x.id ≠ s.id) :
        l.filter (·.id ≠ s.id) = l :=
      List.filter_eq_self.mpr fun x hx => decide_eq_true (hl x hx)
    rw [heq, List.filter_append, List.filter_cons_of_neg (by simp), hkept hpre, hkept hpost]

/-- One session more or less holds an open link. -/
lemma openLinks_setStage (hids : (w.sessions.map (·.id)).Nodup) (hs : s ∈ w.sessions)
    (stage : Stage) :
    (w.setStage s.id stage).openLinks + s.stage.holdsOpen.toNat
      = w.openLinks + stage.holdsOpen.toNat := by
  obtain ⟨pre, post, heq, hset, -⟩ := exists_split hids hs
  rw [openLinks, openLinks, hset stage, heq]
  simp only [List.countP_append, List.countP_cons]
  cases s.stage.holdsOpen <;> cases stage.holdsOpen <;> simp <;> omega

lemma openLinks_le (w : World) : w.openLinks ≤ w.sessions.length :=
  List.countP_le_length

/-- A session with an open link is counted. -/
lemma openLinks_pos (hs : s ∈ w.sessions) (h : s.stage.holdsOpen = true) : 0 < w.openLinks :=
  List.countP_pos_iff.mpr ⟨s, hs, h⟩

namespace Bounded

/-- Nothing that is counted changes. -/
lemma of_eq (h : w.Bounded) (hconfig : w'.config = w.config) (hfree : w'.freeSlots = w.freeSlots)
    (hdispatcher : w'.dispatcher = w.dispatcher) (hsessions : w'.sessions = w.sessions)
    (hactive : w'.radio.active = w.radio.active)
    (hpeak : w'.radio.maxActive = w.radio.maxActive) : w'.Bounded where
  slots := by
    rw [hfree, hdispatcher, hsessions, hconfig]
    exact h.slots
  active := by
    rw [hactive, openLinks, hsessions]
    exact h.active
  peak := by
    rw [hpeak, hconfig]
    exact h.peak

/-- A session comes to another stage, and the count of the radio goes with its link. -/
lemma setStage (h : w.Bounded) (stage : Stage) (hids : (w.sessions.map (·.id)).Nodup)
    (hs : s ∈ w.sessions) (hconfig : w'.config = w.config)
    (hfree : w'.freeSlots = w.freeSlots) (hdispatcher : w'.dispatcher = w.dispatcher)
    (hsessions : w'.sessions = (w.setStage s.id stage).sessions)
    (hactive : w'.radio.active + s.stage.holdsOpen.toNat
      = w.radio.active + stage.holdsOpen.toNat)
    (hpeak : w'.radio.maxActive ≤ max w.radio.maxActive w'.radio.active) : w'.Bounded := by
  have hlength : w'.sessions.length = w.sessions.length := by
    rw [hsessions, World.setStage, List.length_map]
  have hcount : w'.radio.active = w'.openLinks := by
    have hlinks := openLinks_setStage hids hs stage
    have hold := h.active
    rw [openLinks, hsessions, ← openLinks]
    omega
  have hslots : w'.freeSlots + w'.dispatcher.slots + w'.sessions.length = w'.config.slots := by
    rw [hfree, hdispatcher, hlength, hconfig]
    exact h.slots
  refine ⟨hslots, hcount, hpeak.trans (max_le ?_ ?_)⟩
  · rw [hconfig]
    exact h.peak
  · have hle := w'.openLinks_le
    omega

/-- A session comes to another stage, and the radio is left as it is. -/
lemma goesOn (h : w.Bounded) (hids : (w.sessions.map (·.id)).Nodup) (hs : s ∈ w.sessions)
    (hconfig : w'.config = w.config) (hfree : w'.freeSlots = w.freeSlots)
    (hdispatcher : w'.dispatcher = w.dispatcher)
    (hsessions : w'.sessions = (w.setStage s.id stage).sessions) (hradio : w'.radio = w.radio)
    (hopen : stage.holdsOpen = s.stage.holdsOpen) : w'.Bounded :=
  h.setStage stage hids hs hconfig hfree hdispatcher hsessions (by rw [hradio, hopen])
    (by rw [hradio]; exact le_max_left _ _)

/-- The dispatcher moves slots and begins sessions, and touches no link. -/
lemma dispatch (h : w.Bounded) : w.dispatch.1.Bounded := by
  have hslots := h.slots
  rw [World.dispatch]
  cases hd : w.dispatcher with
  | acquiring =>
      dsimp only
      split_ifs with hfree
      · refine ⟨?_, h.active, h.peak⟩
        rw [hd] at hslots
        simp only [Dispatcher.slots] at hslots ⊢
        omega
      · exact h
  | looking =>
      rw [hd] at hslots
      dsimp only
      cases w.state.takeNext with
      | none => exact ⟨hslots, h.active, h.peak⟩
      | some r =>
          refine ⟨?_, ?_, h.peak⟩
          · simp only [World.apply, Dispatcher.slots, List.length_append,
              List.length_singleton] at hslots ⊢
            omega
          · change w.radio.active = (w.sessions ++ [_]).countP _
            rw [List.countP_append]
            exact h.active
  | parked =>
      rw [hd] at hslots
      dsimp only
      split_ifs
      · exact ⟨hslots, h.active, h.peak⟩
      · exact h

/-- A session that has ended gives its slot back, and has no link left. -/
lemma left (h : w.Bounded) (hids : (w.sessions.map (·.id)).Nodup) (hs : s ∈ w.sessions)
    (hst : s.stage = .over) :
    World.Bounded
      { w with sessions := w.sessions.filter (·.id ≠ s.id), freeSlots := w.freeSlots + 1 } := by
  obtain ⟨pre, post, heq, -, hleft⟩ := exists_split hids hs
  have hslots := h.slots
  have hactive := h.active
  refine ⟨?_, ?_, h.peak⟩
  · dsimp only
    rw [hleft, List.length_append]
    rw [heq, List.length_append, List.length_cons] at hslots
    omega
  · have hnone : s.stage.holdsOpen = false := by
      rw [hst]
      rfl
    dsimp only [openLinks]
    rw [hleft, List.countP_append, hactive, openLinks, heq, List.countP_append, List.countP_cons,
      hnone]
    rfl

/-- A step of a session keeps slots and count right. -/
lemma advanceSession (h : w.Bounded) (hids : (w.sessions.map (·.id)).Nodup)
    (hs : s ∈ w.sessions) : (w.advanceSession s).1.Bounded := by
  -- an open link has been counted
  have hcounted {link : Connection} (hlink : s.stage.link? = some link)
      (hopen : link.isOpen = true) : 0 < w.radio.active := by
    rw [h.active]
    refine openLinks_pos hs ?_
    rw [Stage.holdsOpen, hlink]
    exact hopen
  rw [World.advanceSession.eq_def]
  cases hst : s.stage with
  | starting =>
      refine h.goesOn hids hs rfl rfl rfl rfl rfl ?_
      rw [hst]
      split_ifs <;> rfl
  | connecting due =>
      dsimp only
      split_ifs
      · rw [completeConnection]
        rcases w.radio.active_accept s.pixel with
          ⟨link, hlink, hopen, hactive, hmax⟩ | ⟨e, he, hactive, hmax⟩
        · refine h.setStage (.linked link) hids hs rfl rfl rfl ?_ ?_ ?_
          · dsimp only
            rw [hlink]
            rfl
          · change (w.radio.accept s.pixel).2.active + _ = _
            have hnew : (Stage.linked link).holdsOpen = true := hopen
            rw [hst, hactive, hnew]
            rfl
          · change (w.radio.accept s.pixel).2.maxActive ≤ max _ (w.radio.accept s.pixel).2.active
            rw [hactive, hmax]
        · refine h.setStage (.refused e) hids hs rfl rfl rfl ?_ ?_ ?_
          · dsimp only
            rw [he]
            rfl
          · change (w.radio.accept s.pixel).2.active + _ = _
            rw [hst, hactive]
            rfl
          · change (w.radio.accept s.pixel).2.maxActive ≤ max _ _
            rw [hmax]
            exact le_max_left _ _
      · exact h
  | interrupted => exact h.goesOn hids hs rfl rfl rfl rfl rfl (by rw [hst]; rfl)
  | refused e => exact h.goesOn hids hs rfl rfl rfl rfl rfl (by rw [hst]; rfl)
  | linked link => exact h.goesOn hids hs rfl rfl rfl rfl rfl (by rw [hst]; rfl)
  | connected link => exact h.goesOn hids hs rfl rfl rfl rfl rfl (by rw [hst]; rfl)
  | working link tasks report =>
      cases tasks with
      | nil => exact h.goesOn hids hs rfl rfl rfl rfl rfl (by rw [hst]; rfl)
      | cons task tasks => exact h.goesOn hids hs rfl rfl rfl rfl rfl (by rw [hst]; rfl)
  | sending link t due task tasks report =>
      dsimp only
      split_ifs
      · exact h
      · cases t.request? with
        | none =>
            dsimp only
            cases t.result? with
            | none => exact h
            | some r =>
                refine h.goesOn hids hs rfl rfl rfl rfl rfl ?_
                rw [hst]
                cases r <;> rfl
        | some m =>
            obtain ⟨hactive, hmax⟩ := w.radio.active_request link m.encode
              (hcounted (by rw [hst]; rfl))
            refine h.setStage _ hids hs rfl rfl rfl rfl ?_ ?_
            · rw [hst]
              exact hactive
            · exact (le_of_eq hmax).trans (le_max_left _ _)
  | closing link report =>
      obtain ⟨-, hactive, hmax⟩ := w.radio.active_close link (hcounted (by rw [hst]; rfl))
      refine h.setStage _ hids hs rfl rfl rfl rfl ?_ ?_
      · rw [hst]
        exact hactive
      · exact (le_of_eq hmax).trans (le_max_left _ _)
  | reporting report => exact h.goesOn hids hs rfl rfl rfl rfl rfl (by rw [hst]; rfl)
  | «over» => exact h.left hids hs hst

/-- **A move keeps slots and count right.** -/
lemma step (h : w.Bounded) (hids : (w.sessions.map (·.id)).Nodup) (m : Move) :
    (w.step m).1.Bounded := by
  cases m with
  | request r =>
      rw [World.step, World.request]
      cases w.state.handle r with
      | ok c => exact h.of_eq rfl rfl rfl rfl rfl rfl
      | error e => exact h
  | adjust a =>
      obtain ⟨hactive, hpeak⟩ := w.radio.active_adjust a
      exact h.of_eq rfl rfl rfl rfl hactive hpeak
  | adapter a => exact h.of_eq rfl rfl rfl rfl rfl rfl
  | watch =>
      rw [World.step, World.watch]
      split_ifs
      · exact h.of_eq rfl rfl rfl rfl rfl rfl
      · exact h
  | dispatch => exact h.dispatch
  | session id =>
      rw [World.step]
      cases hs : w.session? id with
      | none => exact h
      | some s => exact h.advanceSession hids (mem_of_session? hs).1
  | interrupt id =>
      rw [World.step]
      cases hs : w.session? id with
      | none => exact h
      | some s =>
          have hmem := (mem_of_session? hs).1
          change (w.interruptSession s).Bounded
          rw [interruptSession.eq_def]
          cases hst : s.stage with
          | connecting due =>
              dsimp only
              split_ifs
              · exact h
              · exact h.goesOn hids hmem rfl rfl rfl rfl rfl (by rw [hst]; rfl)
          | starting | interrupted | refused | linked | connected | working | sending | closing
          | reporting | «over» => exact h
  | timer t =>
      rw [World.step]
      split_ifs
      · exact h.of_eq rfl rfl rfl rfl rfl rfl
      · exact h
  | advance ms => exact h.of_eq rfl rfl rfl rfl rfl rfl

lemma after (h : w.Bounded) (ho : Orderly w.state w.sessions w.started) (ms : List Move) :
    (w.after (ms.map .move)).Bounded := by
  induction ms generalizing w with
  | nil => exact h
  | cons m ms ih => exact ih (h.step ho.ids m) (ho.happen (.move m))

lemma start (config : Config) (delay : ℕ) {radio : Radio} (pairings : List Peripheral)
    (hactive : radio.active = 0) (hpeak : radio.maxActive = 0) :
    (World.start config delay radio pairings).Bounded where
  slots := rfl
  active := hactive
  peak := hpeak.le.trans (Nat.zero_le _)

end Bounded

end World

/-! ### Dice in a session -/

/-- No more dice are in a session than there are sessions. -/
lemma Attended.count_inFlight_le {t : State} {ss : List Session} (h : Attended t ss) :
    (t.members.values.filter (·.inFlight)).length ≤ ss.length := by
  have hkeys : ((t.members.entries.filter (·.2.inFlight)).map (·.1)).Nodup := by
    refine List.Nodup.sublist (List.filter_sublist.map _) ?_
    rw [List.Nodup, List.pairwise_map]
    refine t.members.ascending.imp fun {a b} hlt heq => ?_
    rw [heq] at hlt
    exact UInt32.lt_irrefl _ hlt
  have hsubset : (t.members.entries.filter (·.2.inFlight)).map (·.1) ⊆ ss.map (·.pixel) := by
    intro p hp
    obtain ⟨e, he, rfl⟩ := List.mem_map.mp hp
    obtain ⟨he, hf⟩ := List.mem_filter.mp he
    obtain ⟨x, hx, -, hxp⟩ := h.session e.1 ((State.isManned_eq (PixelMap.get?_of_mem he)).trans hf)
    exact List.mem_map.mpr ⟨x, hx, hxp⟩
  calc (t.members.values.filter (·.inFlight)).length
      = ((t.members.entries.filter (·.2.inFlight)).map (·.1)).length := by
        rw [PixelMap.values, List.filter_map, List.length_map, List.length_map]
        rfl
    _ ≤ (ss.map (·.pixel)).length := (List.subperm_of_subset hkeys hsubset).length_le
    _ = ss.length := List.length_map _

/-- Live sessions are with different dice. -/
lemma Orderly.pairwise_pixel {t : State} {ss : List Session} {n : ℕ} (h : Orderly t ss n) :
    ss.Pairwise fun x y => x.Live → y.Live → x.pixel ≠ y.pixel := by
  refine (List.pairwise_map.mp h.ids).imp_of_mem ?_
  exact fun hx hy hid hxl hyl hp => hid (h.apart _ hx _ hy hxl hyl hp)

/-- **No more sessions than slots, and no more links.** In every run over a radio that nobody else
uses, at most as many dice are in a session as the settings allow, no die has two live sessions,
the radio counts the links that are open, and neither their number nor the most links that it has
counted ever exceeds that bound. -/
theorem links_bounded (config : Config) (delay : ℕ) (radio : Radio) (pairings : List Peripheral)
    (ms : List Move) (hactive : radio.active = 0) (hpeak : radio.maxActive = 0) :
    let w := (World.start config delay radio pairings).after (ms.map .move)
    (w.state.members.values.filter (·.inFlight)).length ≤ max 1 config.maxConnections
      ∧ w.sessions.Pairwise (fun x y => x.Live → y.Live → x.pixel ≠ y.pixel)
      ∧ w.radio.active = w.openLinks
      ∧ w.openLinks ≤ max 1 config.maxConnections
      ∧ w.radio.maxActive ≤ max 1 config.maxConnections := by
  intro w
  have hstart : Orderly (World.start config delay radio pairings).state [] 0 :=
    Orderly.start config delay radio pairings
  have ho : Orderly w.state w.sessions w.started := hstart.after _
  have ha : Attended w.state w.sessions :=
    hstart.run (P := Attended) (Q := fun _ => True) (fun ho hturn _ h => h.turn ho hturn) _
      (fun _ _ => trivial) (.start radio.adapter pairings)
  have hb : w.Bounded := (World.Bounded.start config delay pairings hactive hpeak).after hstart ms
  have hconfig : w.config.slots = max 1 config.maxConnections := by
    rw [World.config_after]
    rfl
  have hsessions : w.sessions.length ≤ max 1 config.maxConnections := by
    have hslots := hb.slots
    omega
  exact ⟨ha.count_inFlight_le.trans hsessions, ho.pairwise_pixel, hb.active,
    w.openLinks_le.trans hsessions, hconfig ▸ hb.peak⟩

namespace Sample

/-- Three dice in range. -/
def table : Radio :=
  ({ dice := .ofList (fun _ => ⟨1⟩) [{ options := {} }] } : Radio).addDie ⟨2⟩ {} |>.addDie ⟨3⟩ {}

/-- The records of the dice. -/
def players : List Peripheral :=
  [.new "one" ⟨1⟩ .d20 default, .new "two" ⟨2⟩ .d20 default, .new "three" ⟨3⟩ .d20 default]

/-- All dice are asked for, and sessions connect with two of them. -/
def rush : List Move :=
  [.request (.connect ⟨1⟩ .low), .request (.connect ⟨2⟩ .low), .request (.connect ⟨3⟩ .low)]
    ++ List.replicate 6 .dispatch ++ [.session 0, .session 1, .session 0, .session 1]

end Sample

open Sample

/-- Two of three dice are linked, and the third one waits for a slot. -/
theorem links_of_rush :
    let w := (World.start {} 0 table players).after (rush.map .move)
    w.radio.active = 2 ∧ w.state.queue.priority? ⟨3⟩ = some .low
      ∧ w.openLinks = 2
      ∧ (w.state.members.values.filter (·.inFlight)).length ≤ 2
      ∧ w.sessions.Pairwise (fun x y => x.Live → y.Live → x.pixel ≠ y.pixel)
      ∧ w.radio.maxActive ≤ 2 := by
  intro w
  have hactive : w.radio.active = 2 := by decide +kernel
  have hwaits : w.state.queue.priority? ⟨3⟩ = some .low := by decide +kernel
  obtain ⟨hdice, hapart, hcount, -, hpeak⟩ := links_bounded {} 0 table players rush rfl rfl
  exact ⟨hactive, hwaits, hcount.symm.trans hactive, hdice, hapart, hpeak⟩

end DiceHost.Scheduler
