/-
What a transfer sends when every message is acknowledged.

* `Message.isAcknowledgedBy`: the answers that let a transfer go on;
* `Covers`: blocks that cover some bytes once and in order, with no gap and no overlap;
* `Transfer.blocks`, `Transfer.covers_blocks`: the blocks of a payload, and that they cover it;
* `Transfer.script`: the announcement, the setup, the blocks and the commit;
* `Transfer.remaining`, `Transfer.ready_start`: what a transfer in progress has still to send,
  and that at first this is the whole script;
* `Transfer.Ready.receive`: **an acknowledgement takes the first message off what remains**;
* `Transfer.Halts`, `Transfer.halts_of_answer`: any other answer ends the transfer.
-/
import DiceHost.Proofs.Link.Lockstep

namespace DiceHost.Link

/-! ### Acknowledgements -/

namespace Message

/-- The bytes of the payload that a message carries. -/
def data : Message → List UInt8
  | bulkData _ data => data
  | _ => []

/-- The answer that a message of the host waits for; a block waits for its own place. -/
def isAcknowledgedBy : Message → Message → Bool
  | transferPayload .., transferAck verdict => verdict = .download
  | bulkSetup _, bulkSetupAck => true
  | bulkData offset _, bulkDataAck acked => acked = offset
  | commit _, commitAck ok => ok
  | _, _ => false

variable {a : Message} {kind : PayloadKind} {size hash offset : UInt32} {data : List UInt8}

@[simp] lemma isAcknowledgedBy_transferPayload :
    (transferPayload kind size hash).isAcknowledgedBy a ↔ a = transferAck .download := by
  cases a <;> simp [isAcknowledgedBy]

@[simp] lemma isAcknowledgedBy_bulkSetup :
    (bulkSetup size).isAcknowledgedBy a ↔ a = bulkSetupAck := by
  cases a <;> simp [isAcknowledgedBy]

@[simp] lemma isAcknowledgedBy_bulkData :
    (bulkData offset data).isAcknowledgedBy a ↔ a = bulkDataAck offset := by
  cases a <;> simp [isAcknowledgedBy]

@[simp] lemma isAcknowledgedBy_commit :
    (commit hash).isAcknowledgedBy a ↔ a = commitAck true := by
  cases a <;> simp [isAcknowledgedBy]

/-- A message announces a transfer. -/
def Announces : Message → Prop
  | transferPayload .. => True
  | _ => False

end Message

/-! ### Blocks -/

/-- Blocks that cover some bytes from a place on: each of them begins where the one before it
ends, and none is empty. -/
inductive Covers : ℕ → List UInt8 → List Message → Prop where
  | nil (place : ℕ) : Covers place [] []
  | cons {place : ℕ} {offset : UInt32} {data bytes : List UInt8} {ms : List Message}
      (hoffset : offset.toNat = place) (hdata : data ≠ [])
      (h : Covers (place + data.length) bytes ms) :
      Covers place (data ++ bytes) (.bulkData offset data :: ms)

/-- Together the blocks carry the bytes. -/
lemma Covers.flatMap_data {place : ℕ} {bytes : List UInt8} {ms : List Message}
    (h : Covers place bytes ms) : ms.flatMap Message.data = bytes := by
  induction h with
  | nil => rfl
  | cons _ _ _ ih => rw [List.flatMap_cons, ih, Message.data]

namespace Transfer

/-- The blocks of a size of some bytes, the first one at a place. -/
def blocks (chunk place : ℕ) (bytes : List UInt8) : List Message :=
  if bytes = [] ∨ chunk = 0 then []
  else .bulkData (UInt32.ofNat place) (bytes.take chunk)
    :: blocks chunk (place + (bytes.take chunk).length) (bytes.drop chunk)
termination_by bytes.length
decreasing_by
  have := List.length_pos_iff.mpr (not_or.mp ‹_›).1
  rw [List.length_drop]
  omega

/-- The messages of a transfer before the commit: the announcement, the setup, the blocks. -/
def beforeCommit (p : Payload) (chunk : ℕ) : List Message :=
  .transferPayload p.kind (UInt32.ofNat p.bytes.length) p.hash
    :: .bulkSetup (UInt32.ofNat p.bytes.length) :: blocks chunk 0 p.bytes

/-- The messages of a transfer of a payload in blocks of a size. -/
def script (p : Payload) (chunk : ℕ) : List Message := beforeCommit p chunk ++ [.commit p.hash]

section Blocks

variable {chunk place : ℕ} {bytes : List UInt8}

@[simp] lemma blocks_nil : blocks chunk place [] = [] := by
  rw [blocks, if_pos (.inl rfl)]

lemma blocks_of_ne (hpos : 0 < chunk) (h : bytes ≠ []) : blocks chunk place bytes
    = .bulkData (UInt32.ofNat place) (bytes.take chunk)
      :: blocks chunk (place + (bytes.take chunk).length) (bytes.drop chunk) := by
  rw [blocks, if_neg]
  rintro (hnil | hzero)
  · exact h hnil
  · omega

/-- **The blocks of some bytes cover them**, as far as places have 32 bits. -/
lemma covers_blocks (hpos : 0 < chunk) (h : place + bytes.length < 2 ^ 32) :
    Covers place bytes (blocks chunk place bytes) := by
  fun_induction blocks chunk place bytes with
  | case1 place bytes hstop =>
      obtain rfl : bytes = [] := hstop.resolve_right hpos.ne'
      exact .nil place
  | case2 place bytes hgo ih =>
      have hne := (not_or.mp hgo).1
      have hsplit : (bytes.take chunk).length + (bytes.drop chunk).length = bytes.length := by
        rw [← List.length_append, List.take_append_drop]
      have hcovers := Covers.cons (UInt32.toNat_ofNat_of_lt' (by omega : place < 2 ^ 32))
        (by simpa [List.take_eq_nil_iff, hne] using hpos.ne') (ih (by omega))
      rwa [List.take_append_drop] at hcovers

/-- A block of the payload, no longer than the blocks are to be. -/
lemma of_mem_blocks {m : Message} (h : m ∈ blocks chunk place bytes) :
    ∃ offset data, m = .bulkData offset data ∧ data.length ≤ chunk := by
  fun_induction blocks chunk place bytes with
  | case1 => cases h
  | case2 place bytes _ ih =>
      rcases List.mem_cons.mp h with rfl | h
      · exact ⟨_, _, rfl, List.length_take_le _ _⟩
      · exact ih h

/-- There are no more blocks than bytes. -/
lemma length_blocks_le (chunk place : ℕ) (bytes : List UInt8) :
    (blocks chunk place bytes).length ≤ bytes.length := by
  fun_induction blocks chunk place bytes with
  | case1 => exact Nat.zero_le _
  | case2 place bytes hgo ih =>
      have hne := List.length_pos_iff.mpr (not_or.mp hgo).1
      rw [List.length_drop] at ih
      rw [List.length_cons]
      omega

end Blocks

section Script

variable {p : Payload} {chunk : ℕ} {m : Message}

/-- The bytes that the messages before the commit carry are those of the payload. -/
lemma flatMap_beforeCommit (hlen : p.bytes.length < 2 ^ 32) (hpos : 0 < chunk) :
    (beforeCommit p chunk).flatMap Message.data = p.bytes := by
  have hcovers : Covers 0 p.bytes (blocks chunk 0 p.bytes) :=
    covers_blocks hpos (by rwa [Nat.zero_add])
  rw [beforeCommit, List.flatMap_cons, List.flatMap_cons, hcovers.flatMap_data]
  rfl

/-- A block of a script is no longer than asked for, and no other message carries anything. -/
lemma data_length_le (h : m ∈ script p chunk) : m.data.length ≤ chunk := by
  rw [script, beforeCommit, List.mem_append, List.mem_cons, List.mem_cons,
    List.mem_singleton] at h
  rcases h with (rfl | rfl | h) | rfl
  · exact Nat.zero_le _
  · exact Nat.zero_le _
  · obtain ⟨offset, data, rfl, hle⟩ := of_mem_blocks h
    exact hle
  · exact Nat.zero_le _

/-- The commit comes last only. -/
lemma commit_notMem (p : Payload) (chunk : ℕ) (hash : UInt32) :
    Message.commit hash ∉ beforeCommit p chunk := by
  intro h
  rw [beforeCommit, List.mem_cons, List.mem_cons] at h
  rcases h with h | h | h
  · cases h
  · cases h
  · obtain ⟨_, _, h, -⟩ := of_mem_blocks h
    cases h

/-- The payload is announced first only. -/
lemma not_announces (h : m ∈ (script p chunk).tail) : ¬ m.Announces := by
  rw [script, beforeCommit, List.cons_append, List.tail_cons, List.cons_append, List.mem_cons,
    List.mem_append, List.mem_singleton] at h
  rcases h with rfl | h | rfl
  · exact id
  · obtain ⟨_, _, rfl, -⟩ := of_mem_blocks h
    exact id
  · exact id

end Script

/-! ### What remains -/

variable {t : Transfer} {m a : Message} {ms : List Message}

/-- What is sent after the setup. -/
def closing (t : Transfer) : List Message :=
  blocks t.chunk t.sent t.rest ++ [.commit t.payload.hash]

/-- What a transfer still sends when every message is acknowledged. -/
def remaining (t : Transfer) : List Message :=
  match t.phase with
  | .announcing =>
    .transferPayload t.payload.kind (UInt32.ofNat t.total) t.payload.hash
      :: .bulkSetup (UInt32.ofNat t.total) :: t.closing
  | .settingUp => .bulkSetup (UInt32.ofNat t.total) :: t.closing
  | .sending => t.closing
  | .committing => [.commit t.payload.hash]
  | .finished _ => []

lemma payload_receive (t : Transfer) (m : Message) : (t.receive m).payload = t.payload := by
  rw [receive.eq_def]
  split
  all_goals first | rfl | (split_ifs <;> rfl)

/-- An answer does not change what is transferred. -/
lemma payload_answer (t : Transfer) (reply : Except LinkError (List UInt8)) :
    (t.answer reply).1.payload = t.payload := by
  rw [answer.eq_def]
  cases reply with
  | error reason => rfl
  | ok bytes =>
      dsimp only
      cases Message.decode bytes with
      | error e => rfl
      | ok m => exact t.payload_receive m

/-- A transfer in which nothing has gone wrong so far. -/
structure Ready (t : Transfer) : Prop where
  chunk_pos : 0 < t.chunk
  rest_ne : t.phase = .sending → t.rest ≠ []
  result_eq : ∀ x, t.phase = .finished x → x = .ok .transferred

lemma ready_proceed (hpos : 0 < t.chunk) : t.proceed.Ready where
  chunk_pos := hpos
  rest_ne := by
    intro hp
    change t.rest ≠ []
    rintro hnil
    rw [proceed, hnil] at hp
    cases hp
  result_eq := by
    intro x hp
    rw [proceed] at hp
    split_ifs at hp

lemma remaining_proceed (t : Transfer) : t.proceed.remaining = t.closing := by
  rw [remaining, proceed]
  by_cases hnil : t.rest = []
  · simp [hnil, closing]
  · have hempty : t.rest.isEmpty = false := by simpa using hnil
    simp only [hempty]
    rfl

/-- The first of what remains is the message that waits for an answer. -/
lemma Ready.request (h : t.Ready) (hrem : t.remaining = m :: ms) : t.request? = some m := by
  rw [remaining] at hrem
  rw [request?]
  cases hp : t.phase with
  | announcing | settingUp | committing =>
      simp only [hp] at hrem ⊢
      rw [(List.cons.inj hrem).1]
  | sending =>
      simp only [hp] at hrem ⊢
      rw [closing, blocks_of_ne h.chunk_pos (h.rest_ne hp)] at hrem
      rw [(List.cons.inj hrem).1]
  | finished x => simp [hp] at hrem

/-- A transfer has gone on to what remains after a message. -/
structure Proceeds (t : Transfer) (m : Message) (ms : List Message) (t' : Transfer) : Prop where
  ready : t'.Ready
  remaining : t'.remaining = ms
  sent : t'.sent = t.sent + m.data.length
  total : t'.total = t.total

/-- **An acknowledgement takes the first message off what remains.** -/
lemma Ready.receive (h : t.Ready) (hrem : t.remaining = m :: ms) (hack : m.isAcknowledgedBy a) :
    t.Proceeds m ms (t.receive a) := by
  rw [Transfer.remaining] at hrem
  rw [Transfer.receive.eq_def]
  cases hp : t.phase with
  | announcing =>
      simp only [hp] at hrem ⊢
      obtain ⟨rfl, rfl⟩ := List.cons.inj hrem
      obtain rfl := Message.isAcknowledgedBy_transferPayload.mp hack
      exact ⟨⟨h.chunk_pos, by simp, by simp⟩, rfl, rfl, rfl⟩
  | settingUp =>
      simp only [hp] at hrem ⊢
      obtain ⟨rfl, rfl⟩ := List.cons.inj hrem
      obtain rfl := Message.isAcknowledgedBy_bulkSetup.mp hack
      exact ⟨ready_proceed h.chunk_pos, remaining_proceed t, rfl, rfl⟩
  | sending =>
      simp only [hp] at hrem ⊢
      rw [closing, blocks_of_ne h.chunk_pos (h.rest_ne hp), List.cons_append] at hrem
      obtain ⟨rfl, rfl⟩ := List.cons.inj hrem
      obtain rfl := Message.isAcknowledgedBy_bulkData.mp hack
      simp only [if_true]
      exact ⟨ready_proceed h.chunk_pos, remaining_proceed _, rfl, rfl⟩
  | committing =>
      simp only [hp] at hrem ⊢
      obtain ⟨rfl, rfl⟩ := List.cons.inj hrem
      obtain rfl := Message.isAcknowledgedBy_commit.mp hack
      refine ⟨⟨h.chunk_pos, by simp [finish], fun x hx => ?_⟩, rfl, rfl, rfl⟩
      cases hx
      rfl
  | finished x => simp [hp] at hrem

/-- A transfer that can be announced starts with the whole script before it. -/
lemma ready_start {p : Payload} (hlen : p.bytes.length < 2 ^ 32) (asked maxMessage : ℕ) :
    (start p asked maxMessage).Ready
      ∧ (start p asked maxMessage).remaining = script p (blockSize asked maxMessage) := by
  have hphase : (start p asked maxMessage).phase = .announcing := if_pos hlen
  refine ⟨⟨blockSize_pos asked maxMessage, ?_, ?_⟩, ?_⟩
  · simp [hphase]
  · simp [hphase]
  · rw [remaining, hphase]
    rfl

/-! ### Any other answer -/

/-- A transfer is over without success, unless the die has the payload already. -/
structure Halts (m : Message) (reply : Except LinkError (List UInt8)) (sent total : ℕ)
    (x : Except TransferError Outcome) : Prop where
  not_transferred : x ≠ .ok .transferred
  upToDate_iff : x = .ok .alreadyUpToDate ↔ m.Announces
    ∧ ∃ bytes, reply = .ok bytes ∧ Message.decode bytes = .ok (.transferAck .upToDate)
  incomplete_iff : ∀ n size reason, x = .error (.incomplete n size reason) ↔
    n = sent ∧ size = total ∧ reply = .error reason

/-- The result of a transfer whose message is answered by something else than its
acknowledgement: only a die that has the payload already makes it a success. -/
structure Refused (m a : Message) (x : Except TransferError Outcome) : Prop where
  not_transferred : x ≠ .ok .transferred
  upToDate_iff : x = .ok .alreadyUpToDate ↔ m.Announces ∧ a = .transferAck .upToDate
  not_incomplete : ∀ n size reason, x ≠ .error (.incomplete n size reason)

/-- A transfer is not to be tried again when its message is refused. -/
lemma Refused.of_error {e : TransferError} (he : e.isRetryable = false)
    (hno : ¬ (m.Announces ∧ a = .transferAck .upToDate)) : Refused m a (.error e) where
  not_transferred := by simp
  upToDate_iff := by simpa using hno
  not_incomplete := by
    rintro n size reason h
    rw [Except.error.inj h] at he
    cases he

/-- A message that is not the acknowledgement ends the transfer. -/
lemma refused_of_receive (hreq : t.request? = some m) (hack : ¬ m.isAcknowledgedBy a) :
    ∃ x, (t.receive a).phase = .finished x ∧ Refused m a x := by
  rw [request?] at hreq
  rw [receive.eq_def]
  cases hp : t.phase with
  | announcing =>
      simp only [hp, Option.some.injEq] at hreq ⊢
      subst hreq
      cases a with
      | transferAck verdict =>
          cases verdict with
          | download => exact absurd rfl hack
          | upToDate => exact ⟨_, rfl, by simp, by simp [Message.Announces], by simp⟩
          | noMemory => exact ⟨_, rfl, .of_error rfl (by simp)⟩
      | _ => exact ⟨_, rfl, .of_error rfl (by simp)⟩
  | settingUp =>
      simp only [hp, Option.some.injEq] at hreq ⊢
      subst hreq
      cases a with
      | bulkSetupAck => exact absurd rfl hack
      | _ => exact ⟨_, rfl, .of_error rfl And.left⟩
  | sending =>
      simp only [hp, Option.some.injEq] at hreq ⊢
      subst hreq
      cases a with
      | bulkDataAck acked =>
          rw [Message.isAcknowledgedBy_bulkData, Message.bulkDataAck.injEq] at hack
          simp only [if_neg hack]
          exact ⟨_, rfl, .of_error rfl And.left⟩
      | _ => exact ⟨_, rfl, .of_error rfl And.left⟩
  | committing =>
      simp only [hp, Option.some.injEq] at hreq ⊢
      subst hreq
      cases a with
      | commitAck ok =>
          cases ok with
          | true => exact absurd rfl hack
          | false => exact ⟨_, rfl, .of_error rfl And.left⟩
      | _ => exact ⟨_, rfl, .of_error rfl And.left⟩
  | finished x => simp [hp] at hreq

/-- **Any other answer ends the transfer**, whatever its bytes are, and so does the loss of the
link. -/
lemma halts_of_answer (hreq : t.request? = some m) {reply : Except LinkError (List UInt8)}
    (hack : ∀ bytes a, reply = .ok bytes → Message.decode bytes = .ok a →
      ¬ m.isAcknowledgedBy a) :
    ∃ x, (t.answer reply).1.phase = .finished x ∧ Halts m reply t.sent t.total x := by
  cases reply with
  | error reason =>
      refine ⟨_, rfl, by simp, by simp, fun n size reason' => ?_⟩
      simp only [Except.error.injEq, TransferError.incomplete.injEq]
      tauto
  | ok bytes =>
      cases hdec : Message.decode bytes with
      | error e =>
          rw [answer, hdec]
          exact ⟨_, rfl, by simp, by simp [hdec], by simp⟩
      | ok a =>
          obtain ⟨x, hx, hrefused⟩ := refused_of_receive hreq (hack bytes a rfl hdec)
          rw [answer, hdec]
          refine ⟨x, hx, hrefused.not_transferred, ?_, fun n size reason => ?_⟩
          · rw [hrefused.upToDate_iff]
            simp [hdec]
          · simp [hrefused.not_incomplete n size reason]

end Transfer

end DiceHost.Link
