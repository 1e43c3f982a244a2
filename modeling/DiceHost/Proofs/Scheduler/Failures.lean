/-
The failures of a die, counted.

* `Mark`: what something that happens means for the failures of a die: nothing, one more, or that
  the count begins anew;
* `World.mark`, `World.failures`: the mark of a happening, and the failures of a die in a run,
  counted since the latest fresh start;
* `Member.Tallied`: the attempts of a member are a count that exceeds the tolerated failures by
  one at most, and does so exactly when the die is given up;
* `State.Tallied.handle`, …, `Act.tallied`: **what a happening does to the attempts is what its
  mark says**;
* `Orderly.tallied_after`: in every run the attempts of a die are its failures.
-/
import DiceHost.Proofs.Scheduler.Acts
import DiceHost.Proofs.Scheduler.Deeds
import DiceHost.Proofs.Scheduler.Timers

namespace DiceHost.Scheduler

open Link

/-! ### Marks -/

/-- What something that happens means for the failures of a die. -/
inductive Mark where
  | silent
  /-- A session of the die ends by a failed connection or by a transfer that broke off. -/
  | failure
  /-- The die is registered as a new one or retried, or a session of it ends otherwise. -/
  | fresh
deriving DecidableEq

/-- A count of failures after a mark. -/
def Mark.next (n : ℕ) : Mark → ℕ
  | silent => n
  | failure => n + 1
  | fresh => 0

/-- The failures since the latest fresh start. -/
def Mark.count (marks : List Mark) : ℕ :=
  (marks.reverse.takeWhile (· ≠ .fresh)).count .failure

/-- The count after one more mark. -/
lemma Mark.count_concat (marks : List Mark) (mark : Mark) :
    Mark.count (marks ++ [mark]) = mark.next (Mark.count marks) := by
  rw [count, List.reverse_append, List.reverse_singleton, List.singleton_append]
  cases mark with
  | silent => rfl
  | failure => exact List.count_cons_self
  | fresh => rfl

/-- What the end of a session means: the transfer that failed may be tried again, or not. -/
def Report.mark (r : Report) : Mark :=
  match r.error with
  | none => .fresh
  | some (_, e) => if e.isRetryable then .failure else .fresh

/-- What the next step of a session means. An interrupted one does not count. -/
def Stage.mark : Stage → Mark
  | .refused _ => .failure
  | .reporting r => r.mark
  | _ => .silent

/-- What a request means for a die. -/
def State.mark (s : State) (p : PixelId) : Request → Mark
  | .register r => if r.pixel = p ∧ s.member? p = none then .fresh else .silent
  | .retry q => if q = p ∧ (s.handle (.retry q)).toBool = true then .fresh else .silent
  | _ => .silent

namespace World

/-- What something that happens means for the failures of a die. -/
def mark (w : World) (p : PixelId) : Happening → Mark
  | .move (.request r) => w.state.mark p r
  | .move (.session id) =>
    (w.session? id).elim .silent fun s => if s.pixel = p then s.stage.mark else .silent
  | _ => .silent

/-- The marks of a run for a die. -/
def marks (w : World) (p : PixelId) : List Happening → List Mark
  | [] => []
  | x :: hs => w.mark p x :: (w.happen x).marks p hs

/-- The failures of a die in a run, since the latest fresh start. -/
def failures (w : World) (p : PixelId) (hs : List Happening) : ℕ :=
  Mark.count (w.marks p hs)

lemma marks_concat (w : World) (p : PixelId) (hs : List Happening) (x : Happening) :
    w.marks p (hs ++ [x]) = w.marks p hs ++ [(w.after hs).mark p x] := by
  induction hs generalizing w with
  | nil => rfl
  | cons y hs ih => exact congrArg (w.mark p y :: ·) (ih (w.happen y))

/-- The failures after one more happening. -/
lemma failures_concat (w : World) (p : PixelId) (hs : List Happening) (x : Happening) :
    w.failures p (hs ++ [x]) = ((w.after hs).mark p x).next (w.failures p hs) := by
  rw [failures, marks_concat, Mark.count_concat, failures]

end World

/-! ### Members -/

/-- A die that waits has not been given up. -/
lemma DieState.isGivenUp_of_isWaiting {st : DieState} (h : st.isWaiting = true) :
    st.isGivenUp = false := by
  cases st with
  | failed a gaveUp =>
      cases gaveUp with
      | true => cases h
      | false => rfl
  | idle | queued | connecting | connected | transferring => rfl

lemma DieState.isWaiting_of_isBackingOff {st : DieState} (h : st.isBackingOff = true) :
    st.isWaiting = true := by
  cases st with
  | failed => exact h
  | idle | queued | connecting | connected | transferring => cases h

/-- The attempts of a member are a count that exceeds the tolerated failures by one at most, and
does so exactly when the die is given up. -/
structure Member.Tallied (c : Config) (n : ℕ) (m : Member) : Prop where
  attempts : m.attempts.toNat = n
  le : n ≤ c.maxRetries.toNat + 1
  givenUp_iff : m.state.isGivenUp = true ↔ n = c.maxRetries.toNat + 1

namespace Member

variable {c : Config} {n : ℕ} {m m' : Member} {l : Option Priority} {pr : Priority} {r : Report}

/-- A die in a session has not been given up. -/
lemma Consistent.hopeful (h : m.Consistent l) (hf : m.inFlight = true) :
    m.state.isGivenUp = false := by
  have ha := h.active_iff.mp hf
  cases hst : m.state with
  | failed =>
      rw [hst] at ha
      cases ha
  | idle | queued | connecting | connected | transferring => rfl

lemma Consistent.hopeful_of_level (h : m.Consistent (some pr)) : m.state.isGivenUp = false := by
  rw [((h.level_iff pr).mp rfl).2]
  rfl

/-- A die that has been given up is in no session and does not wait. -/
lemma Consistent.resting_of_isGivenUp (h : m.Consistent l) (hg : m.state.isGivenUp = true) :
    m.inFlight = false ∧ l = none := by
  constructor
  · refine Bool.eq_false_iff.mpr fun hf => ?_
    rw [h.hopeful hf] at hg
    cases hg
  · cases l with
    | none => rfl
    | some pr =>
        rw [h.hopeful_of_level] at hg
        cases hg

lemma attempts_afterEnqueue (m : Member) (l : Option Priority) (pr : Priority) :
    (m.afterEnqueue l pr).1.attempts = m.attempts := by
  rw [afterEnqueue]
  split_ifs <;> rfl

lemma hopeful_afterEnqueue (l : Option Priority) (pr : Priority)
    (hg : m.state.isGivenUp = false) : (m.afterEnqueue l pr).1.state.isGivenUp = false := by
  rw [afterEnqueue]
  split_ifs
  · exact hg
  · rfl

lemma attempts_afterSchedule (m : Member) (l : Option Priority) (pr : Priority) :
    (m.afterSchedule l pr).1.attempts = m.attempts := by
  rw [afterSchedule]
  split_ifs
  · rfl
  · exact m.attempts_afterEnqueue l pr

lemma hopeful_afterSchedule (l : Option Priority) (pr : Priority)
    (hg : m.state.isGivenUp = false) : (m.afterSchedule l pr).1.state.isGivenUp = false := by
  rw [afterSchedule]
  split_ifs
  · exact hg
  · exact hopeful_afterEnqueue l pr hg

namespace Tallied

/-- The count and the standing are left as they are. -/
lemma same (h : m.Tallied c n) (ha : m'.attempts = m.attempts)
    (hg : m'.state.isGivenUp = m.state.isGivenUp) : m'.Tallied c n := by
  refine ⟨?_, h.le, ?_⟩
  · rw [ha]
    exact h.attempts
  · rw [hg]
    exact h.givenUp_iff

/-- The count is left as it is by a die that was not given up, and is not. -/
lemma hopeful (h : m.Tallied c n) (hg : m.state.isGivenUp = false)
    (ha : m'.attempts = m.attempts) (hg' : m'.state.isGivenUp = false) : m'.Tallied c n :=
  h.same ha (hg'.trans hg.symm)

/-- The count begins anew. -/
lemma zero (ha : m.attempts = 0) (hg : m.state.isGivenUp = false) : m.Tallied c 0 := by
  refine ⟨?_, Nat.zero_le _, ?_⟩
  · rw [ha]
    rfl
  · rw [hg]
    exact ⟨fun h => (Bool.false_ne_true h).elim, fun h => (Nat.succ_ne_zero _ h.symm).elim⟩

/-- There is one failure more, and the die is given up if there are too many now. -/
lemma succ (h : m.Tallied c n) (hg : m.state.isGivenUp = false)
    (hbound : c.maxRetries.toNat < 2 ^ 32 - 1) (ha : m'.attempts = m.attempts + 1)
    (hg' : m'.state.isGivenUp = decide (c.maxRetries < m.attempts + 1)) :
    m'.Tallied c (n + 1) := by
  have hn : n ≠ c.maxRetries.toNat + 1 := by
    rw [Ne, ← h.givenUp_iff, hg]
    exact Bool.false_ne_true
  have hle : n ≤ c.maxRetries.toNat := Nat.lt_succ_iff.mp (lt_of_le_of_ne h.le hn)
  have hsucc : (m.attempts + 1).toNat = n + 1 := by
    rw [UInt32.toNat_add, h.attempts, UInt32.toNat_one, Nat.mod_eq_of_lt (by omega)]
  refine ⟨by rw [ha, hsucc], by omega, ?_⟩
  rw [hg', decide_eq_true_eq, UInt32.lt_iff_toNat_lt, hsucc]
  omega

end Tallied

/-- What the end of a session records is the count that its report says. -/
lemma Tallied.settled (h : m.Tallied c n) (hg : m.state.isGivenUp = false)
    (hbound : c.maxRetries.toNat < 2 ^ 32 - 1) (p : PixelId) (r : Report) :
    (m.settled c p r).Tallied c (r.mark.next n) := by
  have hattempts : (m.released.confirm r).attempts = m.attempts := by
    rw [confirm_eq]
    rfl
  have hstate : (m.released.confirm r).state = m.state := by
    rw [confirm_eq]
    rfl
  have hg' : (m.released.confirm r).state.isGivenUp = false := by rw [hstate, hg]
  have h' := h.same hattempts (congrArg _ hstate)
  rw [Member.settled, settle.eq_def, Report.mark]
  cases r.error with
  | none => exact .zero rfl hg'
  | some e =>
      obtain ⟨kind, e⟩ := e
      dsimp only
      by_cases he : e.isRetryable = true
      · rw [if_pos he, if_pos he]
        by_cases hmany : c.maxRetries < (m.released.confirm r).attempts + 1
        · rw [if_pos hmany]
          exact h'.succ hg' hbound rfl (decide_eq_true hmany).symm
        · rw [if_neg hmany]
          exact h'.succ hg' hbound rfl (hg'.trans (decide_eq_false hmany).symm)
      · rw [if_neg he, if_neg he]
        cases kind <;> exact .zero rfl hg'

/-- What becomes of a member after its session leaves the count as it was recorded. -/
lemma Tallied.afterSession (h : m.Tallied c n) (hg : m.state.isGivenUp = false)
    (hbound : c.maxRetries.toNat < 2 ^ 32 - 1) (l : Option Priority) (p : PixelId) (r : Report) :
    (m.afterSession l c p r).1.Tallied c (r.mark.next n) := by
  have hsettled := h.settled hg hbound p r
  rw [Member.afterSession]
  by_cases hgave : (m.settled c p r).state.isGivenUp = true
  · rw [if_pos hgave]
    exact hsettled
  · rw [if_neg hgave]
    rw [Bool.not_eq_true] at hgave
    cases m.nextPriority c p r with
    | none => exact hsettled.hopeful hgave rfl rfl
    | some pr =>
        exact hsettled.hopeful hgave (attempts_afterSchedule _ l pr)
          (hopeful_afterSchedule l pr rfl)

/-- A failed connection is one failure more. -/
lemma Tallied.failedMember (h : m.Tallied c n) (hg : m.state.isGivenUp = false)
    (hbound : c.maxRetries.toNat < 2 ^ 32 - 1) :
    (State.failedMember c m).Tallied c (n + 1) :=
  h.succ hg hbound rfl (by rw [State.failedMember]; cases decide (c.maxRetries < _) <;> rfl)

end Member

/-! ### States -/

/-- The attempts of the member of a die, if there is one, are a count. -/
def State.Tallied (s : State) (c : Config) (p : PixelId) (n : ℕ) : Prop :=
  ∀ m, s.member? p = some m → m.Tallied c n

namespace State.Tallied

variable {s t : State} {c : Config} {p q : PixelId} {n : ℕ} {m m' : Member} {l : Option Priority}

lemma of_holds (hold : t.Holds p m l) (h : m.Tallied c n) : t.Tallied c p n := by
  intro m' hm'
  exact Option.some_inj.mp (hold.member.symm.trans hm') ▸ h

lemma of_lacks (h : t.Lacks p) : t.Tallied c p n := by
  intro m hm
  rw [h.member] at hm
  cases hm

lemma of_touches (h : s.Tallied c p n) (ht : Touches s t q) (hq : p ≠ q) : t.Tallied c p n :=
  fun m hm => h m ((ht.member p hq).symm.trans hm)

/-- A request about another die has no mark. -/
lemma mark_of_ne {r : Request} (hq : p ≠ r.pixel) : s.mark p r = .silent := by
  cases r with
  | register r => exact if_neg fun h => hq h.1.symm
  | retry q => exact if_neg fun h => hq h.1.symm
  | unregister | connect | program | updateFirmware | cancel => rfl

/-- **What a request does to the attempts is what its mark says.** -/
lemma handle {r : Request} {reply : Reply} {change : Change} (h : s.Tallied c p n)
    (hc : s.Coherent) (hr : s.handle r = .ok (reply, change)) :
    change.state.Tallied c p ((s.mark p r).next n) := by
  have hhandled := handled hr
  by_cases hq : p = r.pixel
  swap
  · rw [mark_of_ne hq]
    exact h.of_touches hhandled.touches hq
  subst hq
  cases r with
  | register record =>
      cases hr
      cases hm : s.member? record.pixel with
      | none =>
          have hmark : s.mark record.pixel (.register record) = .fresh := if_pos ⟨rfl, hm⟩
          have hold := (hc.lacks hm).register
          rw [Request.pixel, hmark]
          exact of_holds hold (.zero rfl rfl)
      | some m =>
          have hmark : s.mark record.pixel (.register record) = .silent := if_neg fun h => by
            rw [hm] at h
            cases h.2
          have hold : s.Holds record.pixel m (s.queue.priority? record.pixel) := ⟨hm, rfl⟩
          rw [Request.pixel, hmark]
          exact of_holds hold.register ((h m hm).same rfl rfl)
  | unregister q =>
      obtain ⟨m, hm, hr⟩ := withMember_eq_ok hr
      cases hr
      have hold : s.Holds q m (s.queue.priority? q) := ⟨hm, rfl⟩
      cases hf : m.inFlight with
      | true => exact of_holds (hold.unregister hf) ((h m hm).same rfl rfl)
      | false => exact of_lacks (lacks_unregister s q hf)
  | connect q pr =>
      obtain ⟨m, hm, hg, hr⟩ := withHope_eq_ok hr
      obtain rfl : change = (s.connect q m pr).2 := congrArg Prod.snd hr
      have hold : s.Holds q m (s.queue.priority? q) := ⟨hm, rfl⟩
      cases hf : m.inFlight with
      | true =>
          rw [connect_of_inFlight s q pr hf]
          exact h
      | false =>
          exact of_holds (hold.connect pr hf) ((h m hm).hopeful hg
            (m.attempts_afterSchedule _ pr) (Member.hopeful_afterSchedule _ pr hg))
  | program q d pr =>
      obtain ⟨m, hm, hg, hr⟩ := withHope_eq_ok hr
      obtain rfl : change = (s.program q m d pr).2 := congrArg Prod.snd hr
      have hold : s.Holds q m (s.queue.priority? q) := ⟨hm, rfl⟩
      rcases hold.program d pr with ⟨-, -, hold'⟩ | ⟨hold', -⟩
      · exact of_holds hold' ((h m hm).same rfl rfl)
      · exact of_holds hold' ((h m hm).hopeful hg (Member.attempts_afterSchedule _ _ pr)
          (Member.hopeful_afterSchedule _ pr hg))
  | updateFirmware q image force pr =>
      obtain ⟨m, hm, hg, hr⟩ := withHope_eq_ok hr
      obtain rfl : change = (s.updateFirmware q m image force pr).2 := congrArg Prod.snd hr
      have hold : s.Holds q m (s.queue.priority? q) := ⟨hm, rfl⟩
      rcases hold.updateFirmware image force pr with ⟨-, hsame⟩ | ⟨-, hold', -⟩
      · rw [hsame]
        exact h
      · exact of_holds hold' ((h m hm).hopeful hg (Member.attempts_afterSchedule _ _ pr)
          (Member.hopeful_afterSchedule _ pr hg))
  | cancel q =>
      obtain ⟨m, hm, -, hr⟩ := withResting_eq_ok hr
      cases hr
      have hold : s.Holds q m (s.queue.priority? q) := ⟨hm, rfl⟩
      rcases hold.cancel with ⟨hw, hold'⟩ | ⟨-, hold'⟩
      · exact of_holds hold'
          ((h m hm).hopeful (DieState.isGivenUp_of_isWaiting hw) rfl rfl)
      · exact of_holds hold' ((h m hm).same rfl rfl)
  | retry q =>
      have hmark : s.mark q (.retry q) = .fresh := if_pos ⟨rfl, by rw [hr]; rfl⟩
      obtain ⟨m, hm, -, hr⟩ := withResting_eq_ok hr
      cases hr
      have hold : s.Holds q m (s.queue.priority? q) := ⟨hm, rfl⟩
      rw [Request.pixel, hmark]
      exact of_holds hold.retry (.zero (Member.attempts_afterSchedule _ _ .high)
        (Member.hopeful_afterSchedule _ .high rfl))

end State.Tallied

/-! ### Runs -/

section Runs

variable {w : World} {x : Happening} {change : Change} {p : PixelId} {n : ℕ}

/-- The mark of a step of a session is that of its stage, for its die. -/
lemma World.mark_session {id : ℕ} {s : Session} (hs : w.session? id = some s) (p : PixelId) :
    w.mark p (.move (.session id)) = if s.pixel = p then s.stage.mark else .silent := by
  rw [World.mark, hs]
  rfl

/-- **What an act does to the attempts is what its mark says.** -/
lemma Act.tallied (ho : Orderly w.state w.sessions w.started) (hact : Act w x change)
    (hbound : w.config.maxRetries.toNat < 2 ^ 32 - 1) (h : w.state.Tallied w.config p n) :
    change.state.Tallied w.config p ((w.mark p x).next n) := by
  -- a step of a session concerns its die only
  have hsession {id : ℕ} {s : Session} {t : State} (hs : w.session? id = some s) (hlive : s.Live)
      (ht : State.Touches w.state t s.pixel)
      (hdie : ∀ m, w.state.Holds s.pixel m none → m.state.isGivenUp = false →
        m.Tallied w.config n → p = s.pixel → t.Tallied w.config p (s.stage.mark.next n)) :
      t.Tallied w.config p ((w.mark p (.move (.session id))).next n) := by
    rw [World.mark_session hs]
    by_cases hp : s.pixel = p
    · rw [if_pos hp]
      obtain ⟨m, hold, hf⟩ := ho.holds_manned (World.mem_of_session? hs).1 hlive
      obtain ⟨l, -, hm⟩ := ho.coherent.holds hold.member
      exact hdie m hold (hm.hopeful hf) (h m (hp ▸ hold.member)) hp.symm
    · rw [if_neg hp]
      exact h.of_touches ht (Ne.symm hp)
  cases hact with
  | request hr => exact h.handle ho.coherent hr
  | seen => exact h
  | @begun q pr c hd hnext =>
      obtain ⟨m, hold, ht, hold'⟩ := State.takeNext_cases ho.coherent.unique hnext
      by_cases hp : p = q
      · subst hp
        obtain ⟨l, hl, hm⟩ := ho.coherent.holds hold.member
        obtain rfl := hl.level.symm.trans hold.level
        exact .of_holds hold' ((h m hold.member).hopeful hm.hopeful_of_level rfl rfl)
      · exact h.of_touches ht hp
  | @woken t ht =>
      have htouches := State.touches_backoffOver w.state t.pixel t.epoch
      by_cases hp : p = t.pixel
      · subst hp
        cases hm : w.state.member? t.pixel with
        | none =>
            rw [State.backoffOver, hm]
            exact h
        | some m =>
            have hold : w.state.Holds t.pixel m (w.state.queue.priority? t.pixel) := ⟨hm, rfl⟩
            rcases hold.backoffOver t.epoch with ⟨hb, -, -, hold'⟩ | hsame
            · have hg := DieState.isGivenUp_of_isWaiting (DieState.isWaiting_of_isBackingOff hb)
              exact .of_holds hold' ((h m hm).hopeful hg (m.attempts_afterEnqueue _ .low)
                (Member.hopeful_afterEnqueue _ .low hg))
            · rw [hsame]
              exact h
      · exact h.of_touches htouches hp
  | @interrupted id s hs hst =>
      refine hsession hs (Act.live (.interrupted hs hst) hs) (State.touches_interrupted _ _ _) ?_
      rintro m hold hg hm rfl
      rw [hst]
      cases hr : m.removed with
      | true => exact .of_lacks (hold.lacks_interrupted _ hr)
      | false => exact .of_holds (hold.interrupted _ hr) (hm.hopeful hg rfl rfl)
  | @failed id s e hs hst =>
      refine hsession hs (Act.live (.failed hs hst) hs) (State.touches_connectFailed _ _ _ _) ?_
      rintro m hold hg hm rfl
      rw [hst]
      cases hr : m.removed with
      | true => exact .of_lacks (hold.lacks_connectFailed _ e hr)
      | false => exact .of_holds (hold.connectFailed _ e hr) (hm.failedMember hg hbound)
  | @connected id s link hs hst =>
      refine hsession hs (Act.live (.connected hs hst) hs) (State.touches_connected _ _) ?_
      rintro m hold hg hm rfl
      rw [hst]
      exact .of_holds hold.connected (hm.hopeful hg rfl rfl)
  | @transferring id s link task tasks report hs hst =>
      refine hsession hs (Act.live (.transferring hs hst) hs) (State.touches_transferring _ _ _) ?_
      rintro m hold hg hm rfl
      rw [hst]
      exact .of_holds (hold.transferring _) (hm.hopeful hg rfl rfl)
  | @ended id s report hs hst =>
      refine hsession hs (Session.live_of_reporting hst) (State.touches_sessionEnded _ _ _ _) ?_
      rintro m hold hg hm rfl
      rw [hst]
      cases hr : m.removed with
      | true => exact .of_lacks (hold.lacks_sessionEnded _ report hr)
      | false => exact .of_holds (hold.sessionEnded _ report hr) (hm.afterSession hg hbound _ _ _)

/-- What has a mark is an act. -/
lemma World.act_of_mark (h : w.mark p x ≠ .silent) : ∃ change, Act w x change := by
  cases x with
  | radio | connection | answer => exact (h rfl).elim
  | move m =>
      cases m with
      | adjust | adapter | watch | dispatch | interrupt | timer | advance => exact (h rfl).elim
      | request r =>
          rw [mark] at h
          cases hr : w.state.handle r with
          | ok c => exact ⟨_, .request hr⟩
          | error e =>
              cases r with
              | register record => cases hr
              | retry q => exact (h (if_neg fun hq => by rw [hr] at hq; cases hq.2)).elim
              | unregister | connect | program | updateFirmware | cancel => exact (h rfl).elim
      | session id =>
          cases hs : w.session? id with
          | none =>
              rw [mark, hs] at h
              exact (h rfl).elim
          | some s =>
              rw [mark_session hs] at h
              cases hst : s.stage with
              | refused e => exact ⟨_, .failed hs hst⟩
              | reporting r => exact ⟨_, .ended hs hst⟩
              | starting | connecting | interrupted | linked | connected | working | sending
              | closing | «over» =>
                  rw [hst] at h
                  exact (h (ite_self _)).elim

/-- **In every run the attempts of a die are its failures.** -/
lemma Orderly.tallied_after {w : World} (ho : Orderly w.state w.sessions w.started)
    (hbound : w.config.maxRetries.toNat < 2 ^ 32 - 1) (h : w.state.Tallied w.config p 0)
    (hs : List Happening) : (w.after hs).state.Tallied w.config p (w.failures p hs) := by
  induction hs using List.reverseRecOn with
  | nil => exact h
  | append_singleton hs x ih =>
      rw [w.failures_concat, w.after_concat]
      have hconfig := w.config_after hs
      rw [← hconfig] at ih hbound ⊢
      by_cases hact : ∃ change, Act (w.after hs) x change
      · obtain ⟨change, hact⟩ := hact
        rw [hact.carries.state]
        exact hact.tallied (ho.after hs) hbound ih
      · have hunmoved := ((w.after hs).act_or_unmoved x).resolve_left hact
        have hmark : (w.after hs).mark p x = .silent := by
          by_contra hmark
          exact hact (World.act_of_mark hmark)
        rw [hunmoved.state, hmark]
        exact ih

end Runs

end DiceHost.Scheduler
