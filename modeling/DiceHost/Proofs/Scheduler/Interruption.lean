/-
Sessions that lose the adapter before their link is up.

* `Stage.isEarly`: a session has no link yet, and has not failed to get one;
* `Visit`, `Visit.hear`: what users have asked of a die while its session runs: the highest
  priority, what is to be written, and whether the die is to be forgotten;
* `Visit.Tells`, `State.Handled.tells_visit`: a visit tells where the member of the die stands, and
  goes on doing so with each request;
* `World.Begins`, `Orderly.early_turn`: an early session was early before, or it begins;
* `Orderly.tracked`: **a session that is still early has a visit behind it**, from the moment at
  which the dispatcher took its die from the queue;
* `lossless_after`: **losing the adapter costs nothing**.
-/
import DiceHost.Proofs.Scheduler.Acceptance
import DiceHost.Proofs.Scheduler.Attendance
import DiceHost.Proofs.Scheduler.Failures

namespace DiceHost.Scheduler

open Link

/-! ### Early sessions -/

/-- A session has no link yet, and has not failed to get one. -/
def Stage.isEarly : Stage → Bool
  | .starting | .connecting _ | .interrupted => true
  | _ => false

section Early

variable {w : World} {s : Session} {stage : Stage} {t : State}

lemma Session.live_of_isEarly (h : s.stage.isEarly = true) : s.Live := by
  intro hover
  rw [hover] at h
  cases h

/-- A step to an early stage comes from one, and leaves the shared state as it is. -/
lemma Advance.early (h : Advance w s stage t) (he : stage.isEarly = true) :
    s.stage.isEarly = true ∧ t = w.state := by
  cases h with
  | connect due hst =>
      rw [hst]
      exact ⟨rfl, rfl⟩
  | interrupt hst =>
      rcases hst with hst | ⟨due, hst⟩ <;> rw [hst] <;> exact ⟨rfl, rfl⟩
  | @finish _ _ _ _ _ _ r => cases r <;> cases he
  | refuse | link | interrupted | failed | connected | work | send | answer | close | report =>
      cases he

end Early

/-! ### Visits -/

/-- What users have asked of a die since its session began: the highest priority, beginning with
that at which the die left the queue, what is to be written to it, and whether it is to be
forgotten. -/
structure Visit where
  priority : Priority
  program : Option Program
  image : Option FirmwareImage
  removed : Bool
deriving DecidableEq, Repr

namespace Visit

/-- A session begins with a member that left the queue at some priority. -/
def start (m : Member) (pr : Priority) : Visit :=
  ⟨pr, m.profileJob.map (·.program), m.firmwareJob.map (·.image), m.removed⟩

/-- A request is accepted. Only those for something to be written come with a priority that
counts. -/
def hear (p : PixelId) (v : Visit) : Deed → Visit
  | .request (.register r) _ => if r.pixel = p then { v with removed := false } else v
  | .request (.unregister q) _ =>
    if q = p then { v with program := none, image := none, removed := true } else v
  | .request (.program q d pr) _ =>
    if q = p then { v with priority := v.priority.max pr, program := some d } else v
  | .request (.updateFirmware q image _ pr) .queued =>
    if q = p then { v with priority := v.priority.max pr, image := some image } else v
  | _ => v

/-- A visit tells where a member stands in a session that has changed nothing about it: `m₀` is
the member as the session began, which was at the priority `pr`. -/
structure Tells (v : Visit) (m₀ : Member) (pr : Priority) (m : Member) : Prop where
  inFlight : m.inFlight = true
  attempts : m.attempts = m₀.attempts
  priority : m.priorityAfter pr = v.priority
  program : m.profileJob.map (·.program) = v.program
  image : m.firmwareJob.map (·.image) = v.image
  removed : m.removed = v.removed

variable {v : Visit} {p : PixelId}

/-- A request about another die is not heard. -/
lemma hear_of_ne {r : Request} {reply : Reply} (h : p ≠ r.pixel) :
    v.hear p (.request r reply) = v := by
  cases r with
  | register | unregister | program => exact if_neg (Ne.symm h)
  | updateFirmware =>
      cases reply with
      | queued => exact if_neg (Ne.symm h)
      | done | forgotten | standing | upToDate | skipped => rfl
  | connect | cancel | retry => rfl

end Visit

/-- A priority that is kept for the end of a session counts there. -/
lemma Member.priorityAfter_requeue (m : Member) (x pr : Priority) :
    ({ m with requeueAfter := strongest m.requeueAfter (some x) } : Member).priorityAfter pr
      = (m.priorityAfter pr).max x := by
  cases hr : m.requeueAfter with
  | none =>
      simp only [Member.priorityAfter, hr, strongest, Option.elim_some, Option.elim_none]
      cases x <;> cases pr <;> rfl
  | some y =>
      simp only [Member.priorityAfter, hr, strongest, Option.elim_some]
      cases y <;> cases x <;> cases pr <;> rfl

/-- A member in a session keeps the priority at which something is asked for. -/
lemma State.Holds.requeue {t : State} {p : PixelId} {m : Member} {l : Option Priority}
    {x : Priority} (h : t.Holds p (m.afterSchedule l x).1 (m.afterSchedule l x).2)
    (hf : m.inFlight = true) :
    t.Holds p { m with requeueAfter := strongest m.requeueAfter (some x) } l := by
  have hwaits : ¬ (m.state.isBackingOff && x = .low && !m.inFlight) = true := by simp [hf]
  rw [Member.afterSchedule, if_neg hwaits, Member.afterEnqueue, if_pos hf] at h
  exact h

/-- **A visit goes on telling where a member stands** as requests are accepted. -/
lemma State.Handled.tells_visit {s : State} {p : PixelId} {r : Request} {reply : Reply} {c : Change}
    {v : Visit} {m₀ m : Member} {pr : Priority} (h : s.Handled r reply c)
    (hold : s.Holds p m none) (hv : v.Tells m₀ pr m) :
    ∃ m', c.state.Holds p m' none ∧ (v.hear p (.request r reply)).Tells m₀ pr m' := by
  by_cases hp : p = r.pixel
  swap
  · exact ⟨m, h.touches.holds hp hold, (Visit.hear_of_ne hp).symm ▸ hv⟩
  -- a member that is in no session would be another one
  have hother {n : Member} {q : PixelId} (hq : p = q) (hn : s.member? q = some n)
      (hf : n.inFlight = false) : False := by
    subst hq
    obtain rfl := Option.some_inj.mp (hold.member.symm.trans hn)
    rw [hv.inFlight] at hf
    cases hf
  cases h with
  | register record =>
      obtain rfl := hp
      have hhear : v.hear record.pixel (.request (.register record) .done)
          = { v with removed := false } := if_pos rfl
      exact ⟨_, hold.register, hhear.symm ▸ { hv with removed := rfl }⟩
  | @unregister q n hn =>
      obtain rfl : p = q := hp
      obtain rfl := Option.some_inj.mp (hold.member.symm.trans hn)
      refine ⟨_, hold.unregister hv.inFlight, ?_⟩
      rw [Visit.hear, if_pos rfl]
      exact { hv with program := rfl, image := rfl, removed := rfl }
  | @connect q n pr' hn =>
      obtain rfl : p = q := hp
      obtain rfl := Option.some_inj.mp (hold.member.symm.trans hn)
      rw [State.connect_of_inFlight s p pr' hv.inFlight]
      exact ⟨m, hold, hv⟩
  | @program q n d pr' hn =>
      obtain rfl : p = q := hp
      obtain rfl := Option.some_inj.mp (hold.member.symm.trans hn)
      rcases hold.program d pr' with ⟨hf, -⟩ | ⟨hold', -⟩
      · exact (hother rfl hn hf).elim
      · refine ⟨_, hold'.requeue hv.inFlight, ?_⟩
        rw [Visit.hear, if_pos rfl]
        refine { hv with priority := ?_, program := rfl }
        rw [← hv.priority]
        exact Member.priorityAfter_requeue _ pr' pr
  | @updateFirmware q n image force pr' hn =>
      obtain rfl : p = q := hp
      obtain rfl := Option.some_inj.mp (hold.member.symm.trans hn)
      rcases hold.updateFirmware image force pr' with ⟨⟨a, hskip⟩, hsame⟩ | ⟨hqueued, hold', -⟩
      · rw [hskip, hsame]
        exact ⟨m, hold, hv⟩
      · refine ⟨_, hold'.requeue hv.inFlight, ?_⟩
        rw [hqueued, Visit.hear, if_pos rfl]
        refine { hv with priority := ?_, image := rfl }
        rw [← hv.priority]
        exact Member.priorityAfter_requeue _ pr' pr
  | cancel hn hf => exact (hother hp hn hf).elim
  | retry hn hf => exact (hother hp hn hf).elim

/-! ### Where early sessions come from -/

namespace World

variable {w : World} {x : Happening} {s : Session} {m : Member}

/-- A session begins no other one. -/
lemma started_advanceSession (w : World) (s : Session) :
    (w.advanceSession s).1.started = w.started := by
  rw [advanceSession.eq_def]
  cases s.stage with
  | connecting =>
      dsimp only
      split_ifs <;> rfl
  | working link tasks report => cases tasks <;> rfl
  | sending link t =>
      dsimp only
      split_ifs
      · rfl
      · cases t.request? with
        | some m => rfl
        | none => cases t.result? <;> rfl
  | starting | interrupted | refused | linked | connected | closing | reporting | «over» => rfl

/-- The dispatcher begins a session only when it looks into the queue. -/
lemma started_dispatch (h : w.dispatcher ≠ .looking) : w.dispatch.1.started = w.started := by
  rw [dispatch]
  cases hd : w.dispatcher with
  | looking => exact absurd hd h
  | acquiring | parked =>
      dsimp only
      split_ifs <;> rfl

/-- Only the dispatcher begins sessions, and it does so when it looks into the queue. -/
lemma dispatch_of_started (h : (w.happen x).started ≠ w.started) :
    x = .move .dispatch ∧ w.dispatcher = .looking := by
  -- what concerns a session is nothing when there is none of that number
  have hsession {id : ℕ} {f : Session → World} (hf : ∀ s, (f s).started = w.started) :
      ((w.session? id).elim w f).started = w.started := by
    cases w.session? id with
    | none => rfl
    | some s => exact hf s
  cases x with
  | radio => exact absurd rfl h
  | connection id outcome =>
      refine absurd (hsession fun s => ?_) h
      rw [connection.eq_def]
      cases s.stage <;> rfl
  | answer id reply =>
      refine absurd (hsession fun s => ?_) h
      rw [answer.eq_def]
      split
      · split_ifs <;> rfl
      · rfl
  | move m =>
      cases m with
      | adjust | adapter | advance => exact absurd rfl h
      | request r =>
          refine absurd ?_ h
          rw [happen, step, request]
          cases w.state.handle r <;> rfl
      | watch =>
          refine absurd ?_ h
          rw [happen, step, watch]
          split_ifs <;> rfl
      | timer t =>
          refine absurd ?_ h
          rw [happen, step]
          split_ifs <;> rfl
      | interrupt id =>
          refine absurd (hsession fun s => ?_) h
          rw [interruptSession.eq_def]
          split
          · split_ifs <;> rfl
          · rfl
      | session id =>
          refine absurd ?_ h
          rw [happen, step]
          cases w.session? id with
          | none => rfl
          | some s => exact w.started_advanceSession s
      | dispatch =>
          refine ⟨rfl, ?_⟩
          by_contra hd
          exact h (started_dispatch hd)

/-- The dispatcher is about to begin a session with a member that it takes from the queue. -/
structure Begins (w : World) (s : Session) (m : Member) : Prop where
  looking : w.dispatcher = .looking
  takes : ∃ c, w.state.takeNext = some ((s.pixel, s.priority), c)
  number : s.id = w.started
  member : w.state.member? s.pixel = some m

/-- What users have asked of the die of a session, from the move that begins it. -/
def visit (w : World) (s : Session) (m : Member) (post : List Happening) : Visit :=
  ((w.happen (.move .dispatch)).deeds post).foldl (Visit.hear s.pixel) (.start m s.priority)

lemma deeds_concat (w : World) (hs : List Happening) (x : Happening) :
    w.deeds (hs ++ [x]) = w.deeds hs ++ [(w.after hs).deed x] := by
  induction hs generalizing w with
  | nil => rfl
  | cons y hs ih => exact congrArg (w.deed y :: ·) (ih (w.happen y))

lemma visit_concat (w : World) (s : Session) (m : Member) (post : List Happening)
    (x : Happening) : w.visit s m (post ++ [x])
      = (w.visit s m post).hear s.pixel (((w.happen (.move .dispatch)).after post).deed x) := by
  rw [visit, deeds_concat, List.foldl_concat, visit]

/-- A run has a move that begins a session, and what users have asked since then tells where the
die of the session stands. -/
structure Tracks (start : World) (hs : List Happening) (s : Session)
    (pre post : List Happening) (m₀ : Member) : Prop where
  run : hs = pre ++ .move .dispatch :: post
  begins : (start.after pre).Begins s m₀
  tells : ∃ m, (start.after hs).state.Holds s.pixel m none
    ∧ ((start.after pre).visit s m₀ post).Tells m₀ s.priority m

end World

namespace Orderly

variable {w : World} {s : Session} {deed : Deed} {t : State} {ss : List Session} {n : ℕ}

/-- A session that is early after a turn was early before, and what users asked before this turn
and in it tells where its die stands; or the session begins. -/
lemma early_turn (h : Orderly w.state w.sessions w.started) (hturn : Turn w deed t ss n)
    (hs : s ∈ ss) (he : s.stage.isEarly = true) :
    (∃ stage, { s with stage } ∈ w.sessions ∧ stage.isEarly = true
        ∧ ∀ v m₀ m, w.state.Holds s.pixel m none → Visit.Tells v m₀ s.priority m →
          ∃ m', t.Holds s.pixel m' none ∧ (v.hear s.pixel deed).Tells m₀ s.priority m')
      ∨ ∃ c, w.state.takeNext = some ((s.pixel, s.priority), c) ∧ t = c.state
        ∧ s.id = w.started ∧ n = w.started + 1 := by
  -- a change at another die leaves that of the session as it is
  have hsame (hs : s ∈ w.sessions) (hd : ∀ v, Visit.hear s.pixel v deed = v)
      (ht : ∀ m, w.state.Holds s.pixel m none → m.inFlight = true → t.Holds s.pixel m none) :
      ∃ stage, { s with stage } ∈ w.sessions ∧ stage.isEarly = true
        ∧ ∀ v m₀ m, w.state.Holds s.pixel m none → Visit.Tells v m₀ s.priority m →
          ∃ m', t.Holds s.pixel m' none ∧ (v.hear s.pixel deed).Tells m₀ s.priority m' :=
    ⟨s.stage, hs, he, fun v m₀ m hold hv => ⟨m, ht m hold hv.inFlight, (hd v).symm ▸ hv⟩⟩
  have hother {y : Session} (hs : s ∈ w.sessions) (hy : y ∈ w.sessions) (hlive : y.Live)
      (hid : s.id ≠ y.id) : s.pixel ≠ y.pixel :=
    fun hp => hid (h.apart s hs y hy (Session.live_of_isEarly he) hlive hp)
  cases hturn with
  | rest => exact .inl (hsame hs (fun _ => rfl) fun _ hold _ => hold)
  | left => exact .inl (hsame (List.mem_of_mem_filter hs) (fun _ => rfl) fun _ hold _ => hold)
  | seen => exact .inl (hsame hs (fun _ => rfl) fun _ hold _ => ⟨hold.member, hold.level⟩)
  | request hr => exact .inl ⟨s.stage, hs, he, fun v m₀ m hold hv => hr.tells_visit hold hv⟩
  | woken p epoch =>
      refine .inl (hsame hs (fun _ => rfl) fun m hold hf => ?_)
      exact hold.spared_backoffOver (.inl hf) p epoch
  | @begun p pr c hnext =>
      rcases List.mem_append.mp hs with hs | hs
      · exact .inl (hsame hs (fun _ => rfl) fun m hold _ =>
          (hold.spared_takeNext h.coherent.unique hnext).2)
      · obtain rfl := List.mem_singleton.mp hs
        exact .inr ⟨c, hnext, rfl, rfl, rfl⟩
  | @advance y stage t hy hstep =>
      rcases mem_setStage h.ids hy hs with rfl | ⟨hs, hid⟩
      · obtain ⟨hearly, rfl⟩ := hstep.early he
        exact .inl ⟨y.stage, hy, hearly, fun v m₀ m hold hv => ⟨m, hold, hv⟩⟩
      · refine .inl (hsame hs (fun _ => rfl) fun m hold _ => ?_)
        exact hstep.touches.holds (hother hs hy hstep.live hid) hold
  | @ended y report hy hst =>
      rcases mem_setStage h.ids hy hs with rfl | ⟨hs, hid⟩
      · cases he
      · refine .inl (hsame hs (fun _ => rfl) fun m hold _ => ?_)
        exact (State.touches_sessionEnded _ _ _ _).holds
          (hother hs hy (Session.live_of_reporting hst) hid) hold

/-- **A session that is still early has a visit behind it.** -/
lemma tracked {start : World} (h : Orderly start.state start.sessions start.started)
    (hnone : start.sessions = []) (hs : List Happening) :
    ∀ s ∈ (start.after hs).sessions, s.stage.isEarly = true →
      ∃ pre post m₀, start.Tracks hs s pre post m₀ := by
  induction hs using List.reverseRecOn with
  | nil =>
      intro s hmem
      rw [World.after_nil, hnone] at hmem
      cases hmem
  | append_singleton hs x ih =>
      intro s hmem he
      have ho := h.after hs
      have hturn := (start.after hs).turn_happen x
      rw [start.after_concat] at hmem
      rcases ho.early_turn hturn hmem he with ⟨stage, hmem', he', hkeeps⟩ | ⟨c, hnext, ht, hid, hn⟩
      · obtain ⟨pre, post, m₀, hrun, hbegins, m, hold, htells⟩ := ih _ hmem' he'
        obtain ⟨m', hold', htells'⟩ := hkeeps _ m₀ m hold htells
        -- neither the pixel, the priority nor the number of a session changes with its stage
        have hbegins' : (start.after pre).Begins s m₀ :=
          ⟨hbegins.looking, hbegins.takes, hbegins.number, hbegins.member⟩
        refine ⟨pre, post ++ [x], m₀, ?_, hbegins', m', ?_, ?_⟩
        · rw [hrun, List.append_assoc, List.cons_append]
        · rw [start.after_concat]
          exact hold'
        · have hafter : ((start.after pre).happen (.move .dispatch)).after post
              = start.after hs := by
            rw [hrun, World.after, World.after, World.after, List.foldl_append, List.foldl_cons]
          rw [World.visit_concat, hafter]
          exact htells'
      · have hstarted : ((start.after hs).happen x).started ≠ (start.after hs).started := by
          rw [hn]
          exact Nat.succ_ne_self _
        obtain ⟨rfl, hlooking⟩ := World.dispatch_of_started hstarted
        obtain ⟨m₀, hold, -, hold'⟩ := State.takeNext_cases ho.coherent.unique hnext
        rw [← ht, ← start.after_concat] at hold'
        have hbegins : (start.after hs).Begins s m₀ := ⟨hlooking, ⟨c, hnext⟩, hid, hold.member⟩
        exact ⟨hs, [], m₀, rfl, hbegins, _, hold', ⟨rfl, rfl, rfl, rfl, rfl, rfl⟩⟩

end Orderly

/-! ### The loss of the adapter -/

namespace World

variable {w : World} {s : Session}

/-- Nobody is taken from the queue while the adapter is recorded as not ready. -/
lemma dispatch_of_not_ready (h : w.state.adapter.isReady = false) :
    (w.happen (.move .dispatch)).state = w.state
      ∧ (w.happen (.move .dispatch)).sessions = w.sessions := by
  have hnobody : w.state.takeNext = none := by
    rw [State.takeNext, h, if_neg Bool.false_ne_true]
  rw [happen, step, dispatch]
  cases w.dispatcher with
  | looking =>
      dsimp only
      rw [hnobody]
      exact ⟨rfl, rfl⟩
  | acquiring | parked =>
      dsimp only
      split_ifs <;> exact ⟨rfl, rfl⟩

/-- The watcher changes what is recorded of the adapter, and nothing else. -/
lemma state_watch (w : World) :
    ∃ a, (w.happen (.move .watch)).state = { w.state with adapter := a } := by
  rw [happen, step, watch]
  split_ifs
  · exact ⟨w.radio.adapter, rfl⟩
  · exact ⟨w.state.adapter, rfl⟩

end World

/-- A member is queued again, at the highest priority asked for, as if its session had not been:
`m₀` is the member as the session began, `m` the one as it ended. -/
structure Visit.Restores (v : Visit) (m₀ m m' : Member) : Prop where
  inFlight : m'.inFlight = false
  state : m'.state = .queued v.priority
  attempts : m'.attempts = m₀.attempts
  profileJob : m'.profileJob = m.profileJob
  firmwareJob : m'.firmwareJob = m.firmwareJob
  program : m'.profileJob.map (·.program) = v.program
  image : m'.firmwareJob.map (·.image) = v.image

/-- **Losing the adapter costs nothing.** While the adapter is recorded as not ready, the
dispatcher takes nobody from the queue, and a change of the adapter alters nothing but that record.
A session that learns of the loss before its link is up was begun by the dispatcher. As it ends,
its die is queued again unless it was to be forgotten: at the highest of the priority at which it
left the queue and of those asked for since, with its attempts as they were, and with all that is
to be written. The right to write firmware is given back in either case. -/
theorem lossless_after (config : Config) (delay : ℕ) (radio : Radio) (pairings : List Peripheral)
    (hs : List Happening) :
    let start := World.start config delay radio pairings
    let w := start.after hs
    (w.state.adapter.isReady = false →
        (w.happen (.move .dispatch)).state = w.state
          ∧ (w.happen (.move .dispatch)).sessions = w.sessions)
      ∧ (∀ a, (w.happen (.move (.adapter a))).state = w.state)
      ∧ (∃ a, (w.happen (.move .watch)).state = { w.state with adapter := a })
      ∧ ∀ s ∈ w.sessions, s.stage = .interrupted →
          ∃ pre post m₀ m, hs = pre ++ .move .dispatch :: post
            ∧ (start.after pre).Begins s m₀ ∧ w.state.member? s.pixel = some m
            ∧ let v := (start.after pre).visit s m₀ post
              let t := (w.happen (.move (.session s.id))).state
              (v.removed = false →
                  ∃ m', t.Holds s.pixel m' (some v.priority) ∧ v.Restores m₀ m m')
                ∧ (v.removed = true → t.Lacks s.pixel)
                ∧ t.isReserved s.pixel = false
                ∧ (w.state.isReserved s.pixel = true → t.dfuActive = false) := by
  intro start w
  have hstart : Orderly start.state start.sessions start.started :=
    Orderly.start config delay radio pairings
  have ho : Orderly w.state w.sessions w.started := hstart.after hs
  refine ⟨World.dispatch_of_not_ready, fun _ => rfl, w.state_watch, fun s hmem hst => ?_⟩
  have hearly : s.stage.isEarly = true := by rw [hst]; rfl
  obtain ⟨pre, post, m₀, hrun, hbegins, m, hold, htells⟩ := hstart.tracked rfl hs s hmem hearly
  have hstate : (w.happen (.move (.session s.id))).state
      = (w.state.interrupted s.pixel s.priority).state :=
    (Act.interrupted (World.session?_of_mem ho.ids hmem) hst).carries.state
  have hreleases := ho.coherent.releases_interrupted hold.member htells.inFlight s.priority
  refine ⟨pre, post, m₀, m, hrun, hbegins, hold.member, ?_⟩
  intro v t
  rw [show t = _ from hstate]
  refine ⟨fun hr => ?_, fun hr => ?_, hreleases.reserved, fun hheld => ?_⟩
  · have hback := hold.interrupted s.priority (htells.removed.trans hr)
    rw [Option.elim_none, htells.priority] at hback
    exact ⟨_, hback, rfl, rfl, htells.attempts, rfl, rfl, htells.program, htells.image⟩
  · exact hold.lacks_interrupted s.priority (htells.removed.trans hr)
  · rw [hreleases.active, hheld, Bool.not_true, Bool.and_false]

namespace Sample

/-- The die is asked for, and the adapter is lost while a session connects with it, during which a
data set is asked for at high priority. -/
def outage : List Happening :=
  [.move (.request (.connect ring .low)), .move .dispatch, .move .dispatch, .move (.session 0),
    .move (.request (.program ring blank .high)), .move (.adapter .poweredOff),
    .move (.interrupt 0)]

end Sample

open Sample

/-- The die is queued again at high priority, with the data set and without a failure. -/
theorem lossless_of_outage :
    ∃ m, ((world.after outage).happen (.move (.session 0))).state.Holds ring m (some .high)
      ∧ m.inFlight = false ∧ m.state = .queued .high
      ∧ m.profileJob.map (·.program) = some blank := by
  let s : Session := { id := 0, pixel := ring, priority := .low, stage := .interrupted }
  have hs : s ∈ (world.after outage).sessions := List.mem_singleton_self _
  have hlooking : ∀ k < 7, (world.after (outage.take k)).dispatcher = .looking → k = 2 := by
    decide +kernel
  have hvisit : ((world.after (outage.take 2)).state.member? ring).map
      (fun m => (world.after (outage.take 2)).visit s m (outage.drop 3))
        = some ⟨.high, some blank, none, false⟩ := by decide +kernel
  have hworld : World.start {} 0 world.radio [.new "ring" ring .d20 default] = world := rfl
  have hall := (lossless_after {} 0 world.radio [.new "ring" ring .d20 default] outage).2.2.2
  rw [hworld] at hall
  obtain ⟨pre, post, m₀, m, hrun, hbegins, -, hback, -⟩ := hall s hs rfl
  -- a session can begin only at the second look of the dispatcher
  have hpre : pre = outage.take pre.length := by rw [hrun, List.take_left]
  have hlength : pre.length = 2 := by
    have hseven : outage.length = 7 := rfl
    rw [hrun, List.length_append, List.length_cons] at hseven
    refine hlooking _ (by omega) ?_
    rw [← hpre]
    exact hbegins.looking
  have hpost : post = outage.drop 3 := by
    rw [hrun, List.drop_append, hlength]
    simp [hlength]
  rw [hlength] at hpre
  subst hpre hpost
  have hmember : (world.after (outage.take 2)).state.member? ring = some m₀ := hbegins.member
  rw [hmember, Option.map_some, Option.some_inj] at hvisit
  rw [hvisit] at hback
  obtain ⟨m', hold, hrestores⟩ := hback rfl
  exact ⟨m', hold, hrestores.inFlight, hrestores.state, hrestores.program⟩

end DiceHost.Scheduler
