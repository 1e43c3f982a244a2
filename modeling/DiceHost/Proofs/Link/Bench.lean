/-
A radio, its dice and all its links, moved in any order.

* `Bench`: a radio, all links opened so far, and all requests with their replies;
* `Bench.Move`, `Bench.step`, `Bench.run`: dice adjusted, links opened, used and closed in any
  order, with any bytes;
* `Bench.announced?`: the kind of the last announcement that a die has taken;
* `Bench.Turn`, `Bench.turn_step`: **a move leaves a die alone, puts a new one in its place, or
  is a request that the die answers**;
* `Bench.Intact`, `Bench.Intact.run`: **no moves whatever leave a die half written**;
* `Bench.KeptSince`, `Bench.Intact.kept_of_run`: what a die stores changes by commits only;
* `Bench.never_half_written`: both together.
-/
import DiceHost.Proofs.Link.Intact

namespace DiceHost.Link

/-! ### Moves -/

/-- A request over a link to a die with what came back. -/
structure Contact where
  pixel : PixelId
  request : List UInt8
  reply : Except LinkError (List UInt8)

/-- A radio with all its links. -/
structure Bench where
  radio : Radio := {}
  /-- All links opened so far, in their order. -/
  links : List Connection := []
  /-- All requests so far, the last one first. -/
  log : List Contact := []

namespace Bench

/-- What can happen on a bench, in any order. -/
inductive Move where
  | adjust (a : Radio.Adjustment)
  | adapter (state : AdapterState)
  /-- A link is asked for. -/
  | connect (pixel : PixelId)
  /-- An attempt that was begun before is completed, whatever the adapter does meanwhile. -/
  | accept (pixel : PixelId)
  /-- Any bytes are sent over a link. -/
  | request (link : ℕ) (bytes : List UInt8)
  /-- A link is closed, or dropped by its user. -/
  | close (link : ℕ)

/-- The bench after an attempt to open a link. -/
def attempt (b : Bench) (link : Except LinkError Connection) (radio : Radio) : Bench :=
  { b with radio, links := b.links ++ link.toOption.toList }

/-- The bench after a move; a link that there is not changes nothing. -/
def step (b : Bench) : Move → Bench
  | .adjust a => { b with radio := b.radio.adjust a }
  | .adapter state => { b with radio := { b.radio with adapter := state } }
  | .connect p => b.attempt (b.radio.connect 0 p).1 (b.radio.connect 0 p).2.1
  | .accept p => b.attempt (b.radio.accept p).1 (b.radio.accept p).2
  | .request n bytes =>
    match b.links[n]? with
    | none => b
    | some c =>
      let (reply, c', radio) := b.radio.request c bytes
      { radio, links := b.links.set n c', log := ⟨c.pixel, bytes, reply⟩ :: b.log }
  | .close n =>
    match b.links[n]? with
    | none => b
    | some c =>
      let (c', radio) := b.radio.close c
      { b with radio, links := b.links.set n c' }

/-- The bench after some moves. -/
def run (b : Bench) (moves : List Move) : Bench := moves.foldl step b

/-- The payload of a kind that a die stores. -/
def stored? (b : Bench) (q : PixelId) (kind : PayloadKind) : Option Stored :=
  (b.radio.die? q).bind (·.stored.get? kind)

end Bench

/-! ### The log -/

namespace Contact

/-- The kind of an announcement that a die has taken. -/
def announces? (q : PixelId) (e : Contact) : Option PayloadKind :=
  if e.pixel = q ∧ e.reply = .ok (Message.transferAck .download).encode then
    match Message.decode e.request with
    | .ok (.transferPayload kind _ _) => some kind
    | _ => none
  else none

/-- A commit for a die that the die has acknowledged. -/
def Commits (q : PixelId) (hash : UInt32) (e : Contact) : Prop :=
  e.pixel = q ∧ Message.decode e.request = .ok (.commit hash)
    ∧ e.reply = .ok (Message.commitAck true).encode

end Contact

namespace Bench

/-- The kind of the last announcement that a die has taken. -/
def announced? (q : PixelId) (log : List Contact) : Option PayloadKind :=
  log.findSome? (Contact.announces? q)

end Bench

/-- What comes back over a link when a die responds. -/
def Response.sent : Response → Except LinkError (List UInt8)
  | .reply m => .ok m.encode
  | .refuse name => .error (.connectionFailed ("die cannot handle " ++ name))
  | .drop => .error .disconnected

/-- Only the acknowledgement of an announcement reads like one. -/
lemma Response.eq_of_sent {r : Response}
    (h : r.sent = .ok (Message.transferAck .download).encode) :
    r = .reply (.transferAck .download) := by
  cases r with
  | drop => cases h
  | refuse name => cases h
  | reply m =>
      have hencode : m.encode = (Message.transferAck .download).encode := Except.ok.inj h
      cases m with
      | transferAck verdict =>
          cases verdict with
          | download => rfl
          | upToDate | noMemory => simp [Message.encode, Verdict.code] at hencode
      | _ => simp [Message.encode] at hencode

namespace Contact

variable {q : PixelId} {e : Contact} {m : Message} {r : Response} {d d' : Die}

lemma announces?_of_pixel_ne (h : e.pixel ≠ q) : e.announces? q = none :=
  if_neg fun he => h he.1

lemma announces?_of_error {x : LinkError} (h : e.reply = .error x) : e.announces? q = none := by
  rw [announces?, h]
  simp

/-- A die that takes an announcement receives a payload of its kind, and if it takes none it
receives what it has received. -/
lemma announces?_of_does (hpixel : e.pixel = q) (hreq : Message.decode e.request = .ok m)
    (hreply : e.reply = r.sent) (hdoes : d.Does m r d') {i : Incoming}
    (hi : d'.incoming = some i) :
    e.announces? q = some i.kind
      ∨ e.announces? q = none ∧ ∃ j, d.incoming = some j ∧ j.kind = i.kind := by
  cases hdoes with
  | rests hrests hr =>
      refine .inr ⟨if_neg fun he => hr (Response.eq_of_sent ?_), i, hrests.incoming i hi, rfl⟩
      exact hreply.symm.trans he.2
  | announced hsize =>
      obtain rfl := Option.some.inj hi
      left
      rw [announces?, if_pos ⟨hpixel, hreply⟩, hreq]
  | received hj hsize =>
      obtain rfl := Option.some.inj hi
      refine .inr ⟨?_, _, hj, rfl⟩
      rw [announces?, hreq]
      exact ite_self none
  | kept => cases hi

end Contact

/-! ### Requests -/

/-- A request reaches no die and changes nothing, or a die responds to it. -/
lemma Radio.request_cases (r : Radio) (c : Connection) (bytes : List UInt8) :
    ((r.request c bytes).2.2 = r ∧ ∃ x, (r.request c bytes).1 = .error x)
      ∨ ∃ m d, Message.decode bytes = .ok m ∧ r.die? c.pixel = some d
        ∧ (r.request c bytes).1 = (d.respond m).1.sent
        ∧ ∀ q, (r.request c bytes).2.2.die? q
          = if q = c.pixel then some (d.respond m).2 else r.die? q := by
  rw [request]
  cases hopen : c.isOpen with
  | false => exact .inl ⟨rfl, _, rfl⟩
  | true =>
      cases hdec : Message.decode bytes with
      | error e => exact .inl ⟨rfl, _, rfl⟩
      | ok m =>
          cases hd : r.die? c.pixel with
          | none => exact .inl ⟨rfl, _, rfl⟩
          | some d =>
              have hget (q : PixelId) : (r.modifyDie c.pixel fun _ => (d.respond m).2).die? q
                  = if q = c.pixel then some (d.respond m).2 else r.die? q := by
                rw [die?_modifyDie]
                split_ifs with hq
                · rw [hq, hd]
                  rfl
                · rfl
              refine .inr ⟨m, d, rfl, rfl, ?_⟩
              simp only [Bool.not_true, Bool.false_eq_true, if_false]
              cases hresp : (d.respond m).1 with
              | reply m' => exact ⟨rfl, hget⟩
              | refuse name => exact ⟨rfl, hget⟩
              | drop =>
                  rw [close, if_pos hopen]
                  exact ⟨rfl, hget⟩

/-! ### Turns -/

namespace Bench

variable {b b' : Bench} {q : PixelId}

/-- All that a move means for a die. -/
inductive Turn (b : Bench) (move : Move) (q : PixelId) (b' : Bench) : Prop where
  /-- The die is left alone, or at most the transfer to it is ended. -/
  | rests (h : Option.Rel Die.Rests (b.radio.die? q) (b'.radio.die? q))
      (hlog : ∃ new, b'.log = new ++ b.log ∧ ∀ e ∈ new, e.announces? q = none)
  /-- A new die takes its place. -/
  | added (options : DieOptions) (hmove : move = .adjust (.addDie q options))
      (h : b'.radio.die? q = some { options }) (hlog : b'.log = b.log)
  /-- The die responds to a message. -/
  | responds {d : Die} {m : Message} {e : Contact} (hd : b.radio.die? q = some d)
      (hd' : b'.radio.die? q = some (d.respond m).2) (hlog : b'.log = e :: b.log)
      (hpixel : e.pixel = q) (hreq : Message.decode e.request = .ok m)
      (hreply : e.reply = (d.respond m).1.sent)

/-- A die that rests has been there before. -/
lemma exists_of_rel {o o' : Option Die} {d' : Die} (h : Option.Rel Die.Rests o o')
    (hd' : o' = some d') : ∃ d, o = some d ∧ d.Rests d' := by
  subst hd'
  cases h with
  | some hrests => exact ⟨_, rfl, hrests⟩

/-- A die that rests stores what it has stored. -/
lemma bind_stored_of_rel {o o' : Option Die} (h : Option.Rel Die.Rests o o')
    (kind : PayloadKind) : o'.bind (·.stored.get? kind) = o.bind (·.stored.get? kind) := by
  cases h with
  | none => rfl
  | some hrests => simp only [Option.bind_some, hrests.stored]

/-- A die that is the same rests. -/
lemma rel_refl (o : Option Die) : Option.Rel Die.Rests o o := by
  cases o with
  | none => exact .none
  | some d => exact .some (.refl d)

/-- A move that leaves a die as it is. -/
lemma Turn.of_die?_eq {move : Move} (h : b'.radio.die? q = b.radio.die? q)
    (hlog : ∃ new, b'.log = new ++ b.log ∧ ∀ e ∈ new, e.announces? q = none) :
    b.Turn move q b' := by
  refine .rests ?_ hlog
  rw [h]
  exact rel_refl _

/-- A change that lets every die rest. -/
lemma rel_modifyDie (r : Radio) (p q : PixelId) {f : Die → Die} (hf : ∀ d : Die, d.Rests (f d)) :
    Option.Rel Die.Rests (r.die? q) ((r.modifyDie p f).die? q) := by
  rw [Radio.die?_modifyDie]
  cases r.die? q with
  | none =>
      split_ifs
      · exact .none
      · exact .none
  | some d =>
      split_ifs
      · exact .some (hf d)
      · exact .some (.refl d)

/-- An attempt to connect leaves what dice store. -/
lemma rel_accept (r : Radio) (p q : PixelId) :
    Option.Rel Die.Rests (r.die? q) ((r.accept p).2.die? q) := by
  rw [Radio.accept]
  cases r.die? p with
  | none => exact rel_refl _
  | some d =>
      dsimp only
      split_ifs
      · exact rel_refl _
      · exact rel_modifyDie r p q fun d => ⟨rfl, rfl, fun _ => id⟩
      · exact rel_modifyDie r p q Die.Rests.ended

/-- **A move leaves a die alone, puts a new one in its place, or is a request that the die
answers.** -/
lemma turn_step (b : Bench) (move : Move) (q : PixelId) : b.Turn move q (b.step move) := by
  have hquiet : ∃ new, b.log = new ++ b.log ∧ ∀ e ∈ new, e.announces? q = none :=
    ⟨[], rfl, by simp⟩
  cases move with
  | adjust a =>
      cases a with
      | addDie p options =>
          have hget : (b.step (.adjust (.addDie p options))).radio.die? q
              = if q = p then some { options } else b.radio.die? q := PixelMap.get?_insert _ _ _ _
          by_cases hq : q = p
          · subst hq
            exact .added options rfl (hget.trans (if_pos rfl)) rfl
          · exact .of_die?_eq (hget.trans (if_neg hq)) hquiet
      | failNext p count =>
          exact .rests (rel_modifyDie _ p q fun d => ⟨rfl, rfl, fun _ => id⟩) hquiet
      | alwaysFail p fail =>
          exact .rests (rel_modifyDie _ p q fun d => ⟨rfl, rfl, fun _ => id⟩) hquiet
      | dropAfter p blocks =>
          exact .rests (rel_modifyDie _ p q fun d => ⟨rfl, rfl, fun _ => id⟩) hquiet
  | adapter state => exact .of_die?_eq rfl hquiet
  | connect p =>
      by_cases hready : b.radio.adapter.isReady = true
      · refine .rests ?_ hquiet
        rw [step, Radio.connect, if_pos hready]
        exact rel_accept b.radio p q
      · refine .of_die?_eq ?_ hquiet
        rw [step, Radio.connect, if_neg hready]
        rfl
  | accept p => exact .rests (rel_accept b.radio p q) hquiet
  | request n bytes =>
      rw [step]
      cases b.links[n]? with
      | none => exact .of_die?_eq rfl hquiet
      | some c =>
          dsimp only
          have hlog (h : (⟨c.pixel, bytes, (b.radio.request c bytes).1⟩ : Contact).announces? q
              = none) :
              ∃ new, ⟨c.pixel, bytes, (b.radio.request c bytes).1⟩ :: b.log = new ++ b.log
                ∧ ∀ e ∈ new, e.announces? q = none :=
            ⟨[_], rfl, by simpa using h⟩
          rcases b.radio.request_cases c bytes with ⟨hradio, x, hx⟩ | ⟨m, d, hdec, hd, hreply, hget⟩
          · exact .of_die?_eq (congrArg (·.die? q) hradio) (hlog (Contact.announces?_of_error hx))
          · by_cases hq : q = c.pixel
            · subst hq
              exact .responds hd ((hget c.pixel).trans (if_pos rfl)) rfl rfl hdec hreply
            · refine .of_die?_eq ((hget q).trans (if_neg hq)) (hlog ?_)
              exact Contact.announces?_of_pixel_ne (Ne.symm hq)
  | close n =>
      rw [step]
      cases b.links[n]? with
      | none => exact .of_die?_eq rfl hquiet
      | some c =>
          refine .of_die?_eq ?_ hquiet
          dsimp only
          rw [Radio.close]
          split_ifs
          · rfl
          · rfl

/-! ### Benches -/

/-- The dice of a bench are intact, and what they receive is of the kind that was announced. -/
structure Intact (b : Bench) : Prop where
  dice : ∀ q d, b.radio.die? q = some d → d.Intact
  announced : ∀ q d i, b.radio.die? q = some d → d.incoming = some i →
    announced? q b.log = some i.kind

/-- A bench without dice is intact. -/
lemma intact_start : Intact {} where
  dice := by
    intro q d hd
    cases hd
  announced := by
    intro q d i hd
    cases hd

/-- Requests that announce nothing to a die leave what has been announced to it. -/
lemma announced?_append {new log : List Contact} (h : ∀ e ∈ new, e.announces? q = none) :
    announced? q (new ++ log) = announced? q log := by
  rw [announced?, List.findSome?_append, List.findSome?_eq_none_iff.mpr h, Option.none_or]
  rfl

/-- **A move leaves a bench intact.** -/
lemma Intact.step (h : b.Intact) (move : Move) : (b.step move).Intact := by
  constructor
  · intro q d' hd'
    cases b.turn_step move q with
    | rests hrel =>
        obtain ⟨d, hd, hrests⟩ := exists_of_rel hrel hd'
        exact (h.dice q d hd).rests hrests
    | added options _ hnew =>
        obtain rfl := Option.some.inj (hd'.symm.trans hnew)
        exact Die.intact_new options
    | @responds d m _ hd hresp =>
        obtain rfl := Option.some.inj (hd'.symm.trans hresp)
        exact (h.dice q d hd).does (d.does_respond m)
  · intro q d' i hd' hi
    cases b.turn_step move q with
    | rests hrel hlog =>
        obtain ⟨new, hnew, hquiet⟩ := hlog
        obtain ⟨d, hd, hrests⟩ := exists_of_rel hrel hd'
        rw [hnew, announced?_append hquiet]
        exact h.announced q d i hd (hrests.incoming i hi)
    | added options _ hnew =>
        obtain rfl := Option.some.inj (hd'.symm.trans hnew)
        cases hi
    | @responds d m e hd hresp hlog hpixel hreq hreply =>
        -- the die receives what this very request announces, or what it has received before
        obtain rfl := Option.some.inj (hd'.symm.trans hresp)
        rw [hlog, announced?, List.findSome?_cons]
        rcases Contact.announces?_of_does hpixel hreq hreply (d.does_respond m) hi with
          hkind | ⟨hnone, j, hj, hkind⟩
        · rw [hkind]
        · rw [hnone, ← hkind]
          exact h.announced q d j hd hj

/-- **No moves whatever leave a die half written.** -/
lemma Intact.run (h : b.Intact) (moves : List Move) : (b.run moves).Intact := by
  induction moves generalizing b with
  | nil => exact h
  | cons move moves ih => exact ih (h.step move)

/-! ### What is stored -/

/-- What a die stores of a kind has been kept by a commit over the last requests: the last thing
announced to it before was of that kind, and what it stores has the hash of the commit. -/
def KeptSince (b b' : Bench) (q : PixelId) (kind : PayloadKind) : Prop :=
  ∃ newer e older hash, b'.log = newer ++ e :: (older ++ b.log) ∧ e.Commits q hash
    ∧ announced? q (older ++ b.log) = some kind
    ∧ ∃ x, b'.stored? q kind = some x ∧ x.hash = hash

/-- The log only grows. -/
lemma exists_log_step (b : Bench) (move : Move) : ∃ new, (b.step move).log = new ++ b.log := by
  cases b.turn_step move ⟨0⟩ with
  | rests _ hlog =>
      obtain ⟨new, hnew, -⟩ := hlog
      exact ⟨new, hnew⟩
  | added _ _ _ hlog => exact ⟨[], hlog⟩
  | @responds _ _ e _ _ hlog => exact ⟨[e], hlog⟩

lemma exists_log_run (b : Bench) (moves : List Move) :
    ∃ new, (b.run moves).log = new ++ b.log := by
  induction moves generalizing b with
  | nil => exact ⟨[], rfl⟩
  | cons move moves ih =>
      obtain ⟨new, hnew⟩ := b.exists_log_step move
      obtain ⟨newer, hnewer⟩ := ih (b.step move)
      refine ⟨newer ++ new, ?_⟩
      change ((b.step move).run moves).log = _
      rw [hnewer, hnew, List.append_assoc]

/-- **A move that changes what a die stores** is a commit for what was announced, which the die
acknowledges, unless a new die takes its place. -/
lemma Intact.kept_of_step (h : b.Intact) {move : Move} {kind : PayloadKind}
    (hadd : ∀ options, move ≠ .adjust (.addDie q options))
    (hchanged : (b.step move).stored? q kind ≠ b.stored? q kind) :
    b.KeptSince (b.step move) q kind := by
  cases b.turn_step move q with
  | rests hrel => exact absurd (bind_stored_of_rel hrel kind) hchanged
  | added options hmove => exact absurd hmove (hadd options)
  | @responds d m e hd hresp hlog hpixel hreq hreply =>
      rw [stored?, stored?, hd, hresp, Option.bind_some, Option.bind_some] at hchanged
      obtain ⟨i, hash, hi, rfl, rfl, hr, hkept⟩ := (d.does_respond m).kept_of_changed hchanged
      rw [hr] at hreply
      refine ⟨[], e, [], hash, hlog, ⟨hpixel, hreq, hreply⟩, h.announced q d i hd hi,
        ⟨hash, i.buffer⟩, ?_, rfl⟩
      rw [stored?, hresp, Option.bind_some, hkept]

/-- **What a die stores changes by commits only**, however many moves there are. -/
lemma Intact.kept_of_run (h : b.Intact) {moves : List Move} {kind : PayloadKind}
    (hadd : ∀ options, .adjust (.addDie q options) ∉ moves)
    (hchanged : (b.run moves).stored? q kind ≠ b.stored? q kind) :
    b.KeptSince (b.run moves) q kind := by
  induction moves generalizing b with
  | nil => exact absurd rfl hchanged
  | cons move moves ih =>
      have hadd' : ∀ options, .adjust (.addDie q options) ∉ moves :=
        fun options hmem => hadd options (List.mem_cons_of_mem _ hmem)
      change ((b.step move).run moves).stored? q kind ≠ _ at hchanged
      by_cases hlast : ((b.step move).run moves).stored? q kind = (b.step move).stored? q kind
      · -- the first move has changed it, and no later one
        rw [hlast] at hchanged
        obtain ⟨newer, e, older, hash, hlog, hcommits, hkind, x, hx, hhash⟩ :=
          h.kept_of_step (fun options hmove => hadd options (hmove ▸ List.mem_cons_self)) hchanged
        obtain ⟨new, hnew⟩ := (b.step move).exists_log_run moves
        refine ⟨new ++ newer, e, older, hash, ?_, hcommits, hkind, x, hlast.trans hx, hhash⟩
        change ((b.step move).run moves).log = _
        rw [hnew, hlog, List.append_assoc]
      · obtain ⟨newer, e, older, hash, hlog, hcommits, hkind, x, hx, hhash⟩ :=
          ih (h.step move) hadd' hlast
        obtain ⟨new, hnew⟩ := b.exists_log_step move
        rw [hnew, ← List.append_assoc] at hlog hkind
        exact ⟨newer, e, older ++ new, hash, hlog, hcommits, hkind, x, hx, hhash⟩

/-- **A simulated die never ends half written.** Whatever happens on a bench, its dice are
intact; and whatever happens later, as long as no new die takes its place, a die that stores
something else of a kind has acknowledged a commit for the kind that was announced to it. -/
theorem never_half_written (moves : List Move) (q : PixelId) :
    (∀ d, (run {} moves).radio.die? q = some d → d.Intact)
      ∧ ∀ later kind, (∀ options, .adjust (.addDie q options) ∉ later) →
        ((run {} moves).run later).stored? q kind ≠ (run {} moves).stored? q kind →
        (run {} moves).KeptSince ((run {} moves).run later) q kind := by
  have hintact := intact_start.run moves
  exact ⟨hintact.dice q, fun later kind => hintact.kept_of_run⟩

/-- The moves of a transfer of three bytes up to its commit. A transfer over another link is
broken off by it, and the two links take turns. -/
def interleaved : List Move :=
  [.adjust (.addDie ⟨7⟩ {}), .connect ⟨7⟩,
    .request 0 (Message.transferPayload .bootloader 9 0).encode, .connect ⟨7⟩,
    .request 1 (Message.transferPayload .firmware 3 (DataSet.hash [1, 2, 3])).encode,
    .request 0 (Message.bulkData 2 [3]).encode, .close 0,
    .request 1 (Message.bulkData 0 [1, 2]).encode]

/-- A commit after two announcements is one for the kind that was announced last. -/
theorem never_half_written_firmware :
    (∀ d, (run {} interleaved).radio.die? ⟨7⟩ = some d → d.Intact)
      ∧ (run {} interleaved).KeptSince
        ((run {} interleaved).run [.request 1 (Message.commit (DataSet.hash [1, 2, 3])).encode])
        ⟨7⟩ .firmware :=
  ⟨(never_half_written interleaved ⟨7⟩).1,
    (never_half_written interleaved ⟨7⟩).2 _ .firmware (by simp) (by decide)⟩

end Bench

end DiceHost.Link
