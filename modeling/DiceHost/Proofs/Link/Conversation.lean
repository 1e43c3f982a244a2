/-
Transfers to peers that may answer anything.

* `Exchange`: a message of the host with what came back; `Exchange.acked`: the bytes of the
  payload that have been acknowledged;
* `Converses`: some messages are sent one after the other up to the first one that is not
  acknowledged;
* `Transfer.Ready.converses`: **a transfer converses about what it has still to send**;
* `Conduct`: what holds of a transfer whatever the peer does;
* `Transfer.conduct_run`: **every transfer of a payload that can be announced conducts itself
  so**, for every peer, every size of blocks and every size of messages.
-/
import DiceHost.Proofs.Link.Script

namespace DiceHost.Link

open Transfer

/-! ### Exchanges -/

/-- A message of the host and what came back. -/
structure Exchange where
  message : Message
  reply : Except LinkError (List UInt8)

namespace Exchange

/-- The message that came back, if there was one. -/
def answer? (e : Exchange) : Option Message :=
  e.reply.toOption.bind fun bytes => (Message.decode bytes).toOption

/-- What came back acknowledges the message. -/
def isAcknowledged (e : Exchange) : Bool :=
  e.answer?.any e.message.isAcknowledgedBy

/-- The bytes of the payload that have been acknowledged. -/
def acked (talk : List Exchange) : List UInt8 :=
  (talk.filter isAcknowledged).flatMap fun e => e.message.data

variable {e : Exchange} {talk : List Exchange} {a : Message}

lemma answer?_eq_some_iff : e.answer? = some a ↔
    ∃ bytes, e.reply = .ok bytes ∧ Message.decode bytes = .ok a := by
  rw [answer?]
  cases e.reply with
  | error reason => simp [Except.toOption]
  | ok bytes => cases hdec : Message.decode bytes <;> simp [Except.toOption, hdec]

lemma isAcknowledged_iff : e.isAcknowledged ↔ ∃ a, e.answer? = some a
    ∧ e.message.isAcknowledgedBy a := by
  rw [isAcknowledged, Option.any_eq_true]

@[simp] lemma acked_nil : acked [] = [] := rfl

lemma acked_cons_of_acknowledged (h : e.isAcknowledged) :
    acked (e :: talk) = e.message.data ++ acked talk := by
  rw [acked, List.filter_cons_of_pos h, List.flatMap_cons]
  rfl

lemma acked_singleton (h : ¬ e.isAcknowledged) : acked [e] = [] := by
  rw [acked, List.filter_cons_of_neg h]
  rfl

/-- What a peer answers to some requests, one after the other. -/
def replies {σ : Type} (peer : Peer σ) : σ → List (List UInt8) →
    List (Except LinkError (List UInt8))
  | _, [] => []
  | s, bytes :: requests => (peer s bytes).1 :: replies peer (peer s bytes).2 requests

/-- A message sent to a peer in some state. -/
def of {σ : Type} (peer : Peer σ) (s : σ) (m : Message) : Exchange := ⟨m, (peer s m.encode).1⟩

end Exchange

/-! ### Conversations -/

/-- Messages are sent to a peer one after the other as long as they are acknowledged; `sent` of
`total` bytes have been acknowledged before. -/
inductive Converses {σ : Type} (peer : Peer σ) (total : ℕ) :
    σ → ℕ → List Message → List Exchange → Except TransferError Outcome → Prop where
  | done (s : σ) (sent : ℕ) : Converses peer total s sent [] [] (.ok .transferred)
  | halt {s : σ} {sent : ℕ} {m : Message} {ms : List Message}
      {x : Except TransferError Outcome} (hack : ¬ (Exchange.of peer s m).isAcknowledged)
      (hhalts : Halts m (peer s m.encode).1 sent total x) :
      Converses peer total s sent (m :: ms) [.of peer s m] x
  | go {s : σ} {sent : ℕ} {m : Message} {ms : List Message} {talk : List Exchange}
      {x : Except TransferError Outcome} (hack : (Exchange.of peer s m).isAcknowledged)
      (h : Converses peer total (peer s m.encode).2 (sent + m.data.length) ms talk x) :
      Converses peer total s sent (m :: ms) (.of peer s m :: talk) x

namespace Converses

variable {σ : Type} {peer : Peer σ} {total sent : ℕ} {s : σ} {ms : List Message}
variable {talk : List Exchange} {x : Except TransferError Outcome}

/-- The replies are those of the peer. -/
lemma replies_eq (h : Converses peer total s sent ms talk x) :
    talk.map Exchange.reply
      = Exchange.replies peer s (talk.map fun e => e.message.encode) := by
  induction h with
  | done => rfl
  | halt => rfl
  | go _ _ ih =>
      rw [List.map_cons, List.map_cons, Exchange.replies, ih]
      rfl

/-- The messages are sent in order. -/
lemma isPrefix (h : Converses peer total s sent ms talk x) :
    talk.map Exchange.message <+: ms := by
  induction h with
  | done => exact List.prefix_rfl
  | halt => exact ⟨_, rfl⟩
  | go _ _ ih => exact List.cons_prefix_cons.mpr ⟨rfl, ih⟩

/-- A message is sent only after all the messages before it have been acknowledged. -/
lemma acknowledged (h : Converses peer total s sent ms talk x) :
    ∀ e ∈ talk.dropLast, e.isAcknowledged := by
  induction h with
  | done => simp
  | halt => simp
  | @go s _ m _ talk _ hack h ih =>
      intro e he
      cases talk with
      | nil => cases he
      | cons e' talk =>
          rcases List.mem_cons.mp he with rfl | he
          · exact hack
          · exact ih e he

/-- There is no end before all messages are sent, but for the want of an acknowledgement. -/
lemma goes_on (h : Converses peer total s sent ms talk x) :
    talk.map Exchange.message = ms ∨ ∃ e ∈ talk.getLast?, ¬ e.isAcknowledged := by
  induction h with
  | done => exact .inl rfl
  | halt hack => exact .inr ⟨_, rfl, hack⟩
  | go hack h ih =>
      rcases ih with hall | ⟨e, he, hne⟩
      · exact .inl (by rw [List.map_cons, hall]; rfl)
      · exact .inr ⟨e, List.mem_getLast?_cons he, hne⟩

/-- The payload is transferred when all messages have been sent and acknowledged. -/
lemma transferred_iff (h : Converses peer total s sent ms talk x) :
    x = .ok .transferred ↔ talk.map Exchange.message = ms ∧ ∀ e ∈ talk, e.isAcknowledged := by
  induction h with
  | done => simp
  | halt hack hhalts =>
      refine ⟨fun hx => absurd hx hhalts.not_transferred, fun hall => ?_⟩
      exact absurd (hall.2 _ List.mem_cons_self) hack
  | go hack h ih =>
      rw [ih, List.map_cons, List.forall_mem_cons]
      refine and_congr ⟨fun hms => ?_, fun hms => (List.cons.inj hms).2⟩ (and_iff_right hack).symm
      rw [hms]
      rfl

/-- A transfer is incomplete when the link is lost. -/
lemma incomplete_iff (h : Converses peer total s sent ms talk x) (n size : ℕ)
    (reason : LinkError) : x = .error (.incomplete n size reason) ↔
      n = sent + (Exchange.acked talk).length ∧ size = total
        ∧ ∃ e ∈ talk.getLast?, e.reply = .error reason := by
  induction h with
  | done => simp
  | halt hack hhalts =>
      rw [hhalts.incomplete_iff, Exchange.acked_singleton hack]
      simp [Exchange.of]
  | @go s sent m _ talk _ hack h ih =>
      rw [ih, Exchange.acked_cons_of_acknowledged hack, List.length_append, ← Nat.add_assoc]
      refine and_congr_right' (and_congr_right' ⟨?_, ?_⟩)
      · rintro ⟨e, he, hreply⟩
        exact ⟨e, List.mem_getLast?_cons he, hreply⟩
      · rintro ⟨e, he, hreply⟩
        cases talk with
        | nil =>
            -- the only reply so far has come over the link
            obtain rfl := Option.some.inj he
            obtain ⟨a, ha, -⟩ := Exchange.isAcknowledged_iff.mp hack
            obtain ⟨bytes, hbytes, -⟩ := Exchange.answer?_eq_some_iff.mp ha
            exact absurd (hreply.symm.trans hbytes) (by simp)
        | cons e' talk => exact ⟨e, he, hreply⟩

/-- What has been acknowledged is the beginning of what was to be sent. -/
lemma acked_prefix (h : Converses peer total s sent ms talk x) :
    Exchange.acked talk <+: ms.flatMap Message.data := by
  induction h with
  | done => exact List.prefix_rfl
  | halt hack =>
      rw [Exchange.acked_singleton hack]
      exact List.nil_prefix
  | go hack _ ih =>
      rw [Exchange.acked_cons_of_acknowledged hack, List.flatMap_cons]
      exact (List.prefix_append_right_inj _).mpr ih

/-- The last message is sent only after all the bytes before it have been acknowledged. -/
lemma acked_of_mem {hash : UInt32} {init : List Message}
    (h : Converses peer total s sent (init ++ [.commit hash]) talk x)
    (hinit : Message.commit hash ∉ init)
    (hmem : Message.commit hash ∈ talk.map Exchange.message) :
    Exchange.acked talk = init.flatMap Message.data := by
  generalize hms : init ++ [.commit hash] = ms at h
  induction h generalizing init with
  | done => simp at hms
  | halt hack =>
      rw [Exchange.acked_singleton hack]
      cases init with
      | nil => rfl
      | cons m init =>
          obtain rfl := (List.cons.inj hms).1
          obtain rfl := List.mem_singleton.mp hmem
          exact absurd List.mem_cons_self hinit
  | go hack h ih =>
      rw [Exchange.acked_cons_of_acknowledged hack]
      cases init with
      | nil =>
          obtain ⟨rfl, rfl⟩ := List.cons.inj hms
          cases h
          rfl
      | cons m init =>
          obtain ⟨rfl, hrest⟩ := List.cons.inj hms
          rw [List.mem_cons, not_or] at hinit
          rw [List.map_cons, List.mem_cons] at hmem
          rw [ih hinit.2 (hmem.resolve_left hinit.1) hrest, List.flatMap_cons]
          rfl

/-- Only the answer to an announcement tells that the payload is there already. -/
lemma not_upToDate (h : Converses peer total s sent ms talk x)
    (hno : ∀ m ∈ ms, ¬ m.Announces) : x ≠ .ok .alreadyUpToDate := by
  induction h with
  | done => simp
  | halt _ hhalts =>
      exact fun hx => hno _ List.mem_cons_self (hhalts.upToDate_iff.mp hx).1
  | go _ _ ih => exact ih fun m hm => hno m (List.mem_cons_of_mem _ hm)

/-- The answer to the announcement tells whether the payload is there already; then nothing
else is sent. -/
lemma upToDate_iff {kind : PayloadKind} {size hash : UInt32}
    (h : Converses peer total s sent (.transferPayload kind size hash :: ms) talk x)
    (hno : ∀ m ∈ ms, ¬ m.Announces) :
    (x = .ok .alreadyUpToDate ↔
        ∃ e ∈ talk.head?, e.answer? = some (.transferAck .upToDate))
      ∧ (x = .ok .alreadyUpToDate → talk.length = 1) := by
  cases h with
  | halt hack hhalts =>
      refine ⟨hhalts.upToDate_iff.trans ?_, fun _ => rfl⟩
      rw [Message.Announces, true_and]
      refine ⟨fun hreply => ⟨_, rfl, Exchange.answer?_eq_some_iff.mpr hreply⟩, ?_⟩
      rintro ⟨e, he, hanswer⟩
      obtain rfl := Option.some.inj he
      exact Exchange.answer?_eq_some_iff.mp hanswer
  | go hack h =>
      have hx := h.not_upToDate hno
      refine ⟨⟨fun h => absurd h hx, ?_⟩, fun h => absurd h hx⟩
      rintro ⟨e, he, hanswer⟩
      obtain rfl := Option.some.inj he
      obtain ⟨a, ha, hacked⟩ := Exchange.isAcknowledged_iff.mp hack
      obtain rfl := Option.some.inj (hanswer.symm.trans ha)
      exact absurd (Message.isAcknowledgedBy_transferPayload.mp hacked) (by simp)

end Converses

/-! ### Runs -/

namespace Transfer

variable {σ : Type} {t : Transfer} {m : Message} {ms : List Message}

/-- The requests of a transfer with a message to send. -/
lemma requests_follow (peer : Peer σ) (fuel : ℕ) (h : t.request? = some m) (s : σ) :
    (follow peer (fuel + 1) t s).requests = m.encode
      :: (follow peer fuel (t.answer (peer s m.encode).1).1 (peer s m.encode).2).requests := by
  rw [follow.eq_def]
  simp only [result?_of_request? h, h]

/-- What has been reported does not matter for what remains. -/
lemma Proceeds.reported {t' : Transfer} (h : t.Proceeds m ms t') (reported : Option ℕ) :
    t.Proceeds m ms { t' with reported } :=
  ⟨⟨h.ready.chunk_pos, h.ready.rest_ne, h.ready.result_eq⟩, h.remaining, h.sent, h.total⟩

/-- An exchange with an acknowledgement takes the first message off what remains. -/
lemma Ready.answer {e : Exchange} (h : t.Ready) (hrem : t.remaining = e.message :: ms)
    (hack : e.isAcknowledged) : t.Proceeds e.message ms (t.answer e.reply).1 := by
  obtain ⟨a, ha, hacked⟩ := Exchange.isAcknowledged_iff.mp hack
  obtain ⟨bytes, hbytes, hdec⟩ := Exchange.answer?_eq_some_iff.mp ha
  rw [hbytes, Transfer.answer, hdec]
  exact (h.receive hrem hacked).reported _

/-- An exchange without one ends the transfer. -/
lemma Ready.halts {e : Exchange} (h : t.Ready) (hrem : t.remaining = e.message :: ms)
    (hack : ¬ e.isAcknowledged) :
    ∃ x, (t.answer e.reply).1.phase = .finished x
      ∧ Halts e.message e.reply t.sent t.total x := by
  refine halts_of_answer (h.request hrem) fun bytes a hbytes hdec ha => ?_
  exact hack (Exchange.isAcknowledged_iff.mpr
    ⟨a, Exchange.answer?_eq_some_iff.mpr ⟨bytes, hbytes, hdec⟩, ha⟩)

/-- A transfer without messages to send has transferred its payload. -/
lemma Ready.transferred (h : t.Ready) (hrem : t.remaining = []) :
    t.phase = .finished (.ok .transferred) := by
  rw [remaining] at hrem
  cases hp : t.phase with
  | finished x => rw [h.result_eq x hp]
  | announcing | settingUp | committing => simp [hp] at hrem
  | sending => simp [hp, closing] at hrem

/-- **A transfer converses about what it has still to send**, whatever the peer answers. -/
theorem Ready.converses (h : t.Ready) {fuel : ℕ} (hfuel : t.remaining.length ≤ fuel)
    (peer : Peer σ) (s : σ) :
    ∃ talk, (follow peer fuel t s).requests = talk.map (fun e => e.message.encode)
      ∧ Converses peer t.total s t.sent t.remaining talk (follow peer fuel t s).result := by
  -- by induction on the fuel: every acknowledgement leaves one message less to send
  induction fuel generalizing t s with
  | zero =>
      have hrem : t.remaining = [] := List.length_eq_zero_iff.mp (Nat.le_zero.mp hfuel)
      rw [follow_finished peer 0 (h.transferred hrem), hrem]
      exact ⟨[], rfl, .done s t.sent⟩
  | succ fuel ih =>
      cases hrem : t.remaining with
      | nil =>
          rw [follow_finished peer _ (h.transferred hrem)]
          exact ⟨[], rfl, .done s t.sent⟩
      | cons m ms =>
          have hreq := h.request hrem
          rw [requests_follow peer fuel hreq, (follow_request peer fuel hreq s).1]
          by_cases hack : (Exchange.of peer s m).isAcknowledged
          · have hnext := h.answer (e := .of peer s m) hrem hack
            rw [hrem, List.length_cons] at hfuel
            obtain ⟨talk, hrequests, htalk⟩ := ih hnext.ready
              (by rw [hnext.remaining]; omega) (peer s m.encode).2
            rw [hnext.remaining, hnext.sent, hnext.total] at htalk
            exact ⟨.of peer s m :: talk, congrArg (m.encode :: ·) hrequests, .go hack htalk⟩
          · obtain ⟨x, hx, hhalts⟩ := h.halts (e := .of peer s m) hrem hack
            have hfinished : (t.answer (peer s m.encode).1).1.phase = .finished x := hx
            rw [follow_finished peer fuel hfinished]
            exact ⟨[.of peer s m], rfl, .halt hack hhalts⟩

end Transfer

/-! ### Conduct -/

/-- How a transfer of a payload conducts itself in the talk with a peer, whatever the peer
answers. -/
structure Conduct {σ : Type} (peer : Peer σ) (s : σ) (p : Payload) (asked maxMessage : ℕ)
    (out : Run σ) (talk : List Exchange) : Prop where
  /-- The talk is what was sent to the peer and what the peer answered. -/
  requests : out.requests = talk.map fun e => e.message.encode
  replies : talk.map Exchange.reply = Exchange.replies peer s out.requests
  /-- The messages are sent in order, and their blocks cover the payload. -/
  in_order : talk.map Exchange.message <+: script p (blockSize asked maxMessage)
  covers : Covers 0 p.bytes (blocks (blockSize asked maxMessage) 0 p.bytes)
  /-- A message is sent after all messages before it have been acknowledged, and only then. -/
  acknowledged : ∀ e ∈ talk.dropLast, e.isAcknowledged
  goes_on : talk.map Exchange.message = script p (blockSize asked maxMessage)
    ∨ ∃ e ∈ talk.getLast?, ¬ e.isAcknowledged
  /-- The payload is committed only after all its bytes have been acknowledged. -/
  committed : .commit p.hash ∈ talk.map Exchange.message → Exchange.acked talk = p.bytes
  transferred_iff : out.result = .ok .transferred ↔
    talk.map Exchange.message = script p (blockSize asked maxMessage)
      ∧ ∀ e ∈ talk, e.isAcknowledged
  upToDate_iff : out.result = .ok .alreadyUpToDate ↔
    ∃ e ∈ talk.head?, e.answer? = some (.transferAck .upToDate)
  /-- Nothing else is sent to a die that is up to date. -/
  upToDate_alone : out.result = .ok .alreadyUpToDate → talk.length = 1
  incomplete_iff : ∀ n size reason, out.result = .error (.incomplete n size reason) ↔
    n = (Exchange.acked talk).length ∧ size = p.bytes.length
      ∧ ∃ e ∈ talk.getLast?, e.reply = .error reason
  acked_le : (Exchange.acked talk).length ≤ p.bytes.length
  /-- A block fits the sixteen bits of its length, and its message fits the link. -/
  block_length : ∀ e ∈ talk, e.message.data.length ≤ 65535
  block_fits : 8 ≤ maxMessage → ∀ e ∈ talk, ∀ offset data, e.message = .bulkData offset data →
    e.message.encode.length ≤ maxMessage

namespace Transfer

variable {σ : Type} {p : Payload}

/-- **A transfer is safe against any peer.** Whatever a peer answers to its requests, a transfer
of a payload that can be announced sends the announcement, the setup, blocks that cover the
payload and the commit, in this order, each message only after the one before it has been
acknowledged; its result says how far it came. -/
theorem conduct_run (peer : Peer σ) (s : σ) (hlen : p.bytes.length < 2 ^ 32)
    (asked maxMessage : ℕ) :
    ∃ talk, Conduct peer s p asked maxMessage (run peer s p asked maxMessage) talk := by
  have hpos := blockSize_pos asked maxMessage
  obtain ⟨hready, hrem⟩ := ready_start hlen asked maxMessage
  have hfuel : (start p asked maxMessage).remaining.length ≤ p.bytes.length + 3 := by
    have hblocks := length_blocks_le (blockSize asked maxMessage) 0 p.bytes
    rw [hrem, script, List.length_append, beforeCommit, List.length_cons, List.length_cons,
      List.length_singleton]
    omega
  obtain ⟨talk, hrequests, hconverses⟩ := hready.converses hfuel peer s
  rw [hrem] at hconverses
  have htalk : Converses peer p.bytes.length s 0 (script p (blockSize asked maxMessage)) talk
    (run peer s p asked maxMessage).result := hconverses
  have hmem : ∀ e ∈ talk, e.message ∈ script p (blockSize asked maxMessage) :=
    fun e he => htalk.isPrefix.subset (List.mem_map_of_mem he)
  have hdata := flatMap_beforeCommit hlen hpos
  have hacked : Exchange.acked talk <+: p.bytes := by
    simpa [script, hdata, Message.data] using htalk.acked_prefix
  obtain ⟨hupToDate, halone⟩ := htalk.upToDate_iff fun m => not_announces
  refine ⟨talk, {
    requests := hrequests
    replies := htalk.replies_eq.trans (congrArg _ hrequests.symm)
    in_order := htalk.isPrefix
    covers := covers_blocks hpos (by rwa [Nat.zero_add])
    acknowledged := htalk.acknowledged
    goes_on := htalk.goes_on
    committed := fun hcommit => (htalk.acked_of_mem (commit_notMem _ _ _) hcommit).trans hdata
    transferred_iff := htalk.transferred_iff
    upToDate_iff := hupToDate
    upToDate_alone := halone
    incomplete_iff := fun n size reason => ?_
    acked_le := hacked.length_le
    block_length := fun e he => ?_
    block_fits := fun hmax e he offset data hblock => ?_ }⟩
  · rw [htalk.incomplete_iff, Nat.zero_add]
  · have hlt := blockSize_lt asked maxMessage
    have hle := data_length_le (hmem e he)
    omega
  · have hle := data_length_le (hmem e he)
    rw [hblock] at hle ⊢
    have hsize : blockSize asked maxMessage ≤ maxMessage - 7 := by
      rw [blockSize, Message.blockOverhead]
      omega
    rw [Message.length_encode_bulkData]
    change data.length ≤ _ at hle
    omega

/-- A peer that gives the replies of a list, and is gone after the last one. -/
def recorded : Peer (List (Except LinkError (List UInt8)))
  | [], _ => (.error .disconnected, [])
  | reply :: replies, _ => (reply, replies)

/-- A peer that is gone after it has acknowledged two of three bytes. -/
theorem conduct_run_recorded :
    let replies := [Message.transferAck .download, .bulkSetupAck, .bulkDataAck 0].map
      fun m => (.ok m.encode : Except LinkError (List UInt8))
    (run recorded replies ⟨.firmware, [1, 2, 3], 0⟩ 2 9).result
        = .error (.incomplete 2 3 .disconnected)
      ∧ ∃ talk, Conduct recorded replies ⟨.firmware, [1, 2, 3], 0⟩ 2 9
        (run recorded replies ⟨.firmware, [1, 2, 3], 0⟩ 2 9) talk :=
  ⟨rfl, conduct_run recorded _ (by decide) 2 9⟩

end Transfer

end DiceHost.Link
