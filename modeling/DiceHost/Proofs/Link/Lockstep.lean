/-
Host and die in step.

* `Transfer.blockCount`: the number of blocks of a payload;
* `overwrite_take`: a block written at the end of what has been received extends it;
* `Line.Ends`: how a transfer over a link ends, and in what state it leaves link and radio;
* `Line.Ends.of_reply`, `Line.Ends.of_drop`: one request, read and answered by the die;
* `InStep`: while the blocks are sent, **the die has received just what the host has sent**;
* `InStep.committed`, `InStep.interrupted`: how the sending ends.
-/
import DiceHost.Link.Radio
import DiceHost.Proofs.Link.Message
import DiceHost.Proofs.PixelMap

namespace DiceHost.Link

/-! ### Blocks -/

namespace Transfer

/-- The number of blocks of a size that some bytes need. -/
def blockCount (chunk size : ℕ) : ℕ := (size + chunk - 1) / chunk

/-- More blocks are needed than some number when so many do not hold all the bytes. -/
lemma lt_blockCount {chunk size k : ℕ} (h : 0 < chunk) :
    k < blockCount chunk size ↔ k * chunk < size := by
  rw [blockCount, ← Nat.succ_le_iff, Nat.le_div_iff_mul_le h, Nat.succ_mul]
  omega

lemma blockSize_pos (asked maxMessage : ℕ) : 0 < blockSize asked maxMessage := by
  rw [blockSize]
  omega

/-- A block has a length of sixteen bits. -/
lemma blockSize_lt (asked maxMessage : ℕ) : blockSize asked maxMessage < 2 ^ 16 := by
  rw [blockSize]
  omega

end Transfer

/-- A block that follows what has been received, the rest being zeros, is received too. -/
lemma overwrite_take {bytes : List UInt8} {n : ℕ} (h : n ≤ bytes.length) (chunk : ℕ) :
    overwrite (bytes.take n ++ List.replicate (bytes.length - n) 0) n ((bytes.drop n).take chunk)
      = bytes.take (n + ((bytes.drop n).take chunk).length)
        ++ List.replicate (bytes.length - (n + ((bytes.drop n).take chunk).length)) 0 := by
  have hn : (bytes.take n).length = n := List.length_take_of_le h
  have hblock : (bytes.drop n).take ((bytes.drop n).take chunk).length
      = (bytes.drop n).take chunk := by
    rw [List.length_take, ← List.take_eq_take_min]
  rw [overwrite, List.take_left' hn, ← List.drop_drop, List.drop_left' hn, List.drop_replicate,
    List.take_add, hblock, Nat.sub_sub]

/-! ### Requests -/

namespace Line

open Transfer

/-- A link to a die and the radio with that die in some state. -/
def toDie (c : Connection) (r : Radio) (d : Die) (elapsed : ℕ) : Line :=
  ⟨c, r.modifyDie c.pixel fun _ => d, elapsed⟩

/-- A transfer over a link ends with a result and leaves link and radio in some state. -/
structure Ends (out : Run Line) (result : Except TransferError Outcome) (link : Connection)
    (radio : Radio) : Prop where
  result_eq : out.result = result
  link_eq : out.peer.link = link
  radio_eq : out.peer.radio = radio

variable {c : Connection} {r : Radio} {d d' : Die} {m m' : Message}

/-- The die at the other end of a link. -/
lemma die?_toDie (h : (r.die? c.pixel).isSome) (e : ℕ) :
    (toDie c r d e).radio.die? c.pixel = some d := by
  obtain ⟨d₀, hd₀⟩ := Option.isSome_iff_exists.mp h
  change (r.dice.modify c.pixel fun _ => d).get? c.pixel = _
  rw [PixelMap.get?_modify, if_pos rfl]
  exact congrArg (Option.map fun _ => d) hd₀

/-- A radio whose die changes twice. -/
lemma modifyDie_toDie (e : ℕ) : (toDie c r d e).radio.modifyDie c.pixel (fun _ => d')
    = r.modifyDie c.pixel fun _ => d' := by
  simp only [toDie, Radio.modifyDie, PixelMap.modify_modify]

lemma request_eq (l : Line) (bytes : List UInt8) : l.request bytes
    = ((l.radio.request l.link bytes).1, ⟨(l.radio.request l.link bytes).2.1,
      (l.radio.request l.link bytes).2.2, l.elapsed + Radio.requestDelay l.link bytes⟩) := rfl

/-- A message over an open link is answered by the die. -/
lemma request_reply (hopen : c.isOpen = true) (hd : (r.die? c.pixel).isSome) (hm : m.Fits)
    (h : d.respond m = (.reply m', d')) (e : ℕ) :
    ∃ e', Line.request (toDie c r d e) m.encode = (.ok m'.encode, toDie c r d' e') := by
  have hrequest : (toDie c r d e).radio.request (toDie c r d e).link m.encode
      = (.ok m'.encode, c, r.modifyDie c.pixel fun _ => d') := by
    change Radio.request _ c _ = _
    simp only [Radio.request, hopen, Message.decode_encode hm, die?_toDie hd, h, modifyDie_toDie]
    rfl
  rw [request_eq, hrequest]
  exact ⟨_, rfl⟩

/-- A message over an open link at which the die drops the link. -/
lemma request_drop (hopen : c.isOpen = true) (hd : (r.die? c.pixel).isSome) (hm : m.Fits)
    (h : d.respond m = (.drop, d')) (e : ℕ) :
    ∃ e', Line.request (toDie c r d e) m.encode
      = (.error .disconnected, ⟨((r.modifyDie c.pixel fun _ => d').close c).1,
        ((r.modifyDie c.pixel fun _ => d').close c).2, e'⟩) := by
  have hrequest : (toDie c r d e).radio.request (toDie c r d e).link m.encode
      = (.error .disconnected, (r.modifyDie c.pixel fun _ => d').close c) := by
    change Radio.request _ c _ = _
    simp only [Radio.request, hopen, Message.decode_encode hm, die?_toDie hd, h, modifyDie_toDie]
    rfl
  rw [request_eq, hrequest]
  exact ⟨_, rfl⟩

end Line

/-! ### Transfers followed -/

namespace Transfer

variable {σ : Type} {t : Transfer} {m : Message}

/-- A transfer with a message to send has no result yet. -/
lemma result?_of_request? (h : t.request? = some m) : t.result? = none := by
  cases hp : t.phase with
  | finished x =>
      rw [request?, hp] at h
      cases h
  | announcing | settingUp | sending | committing =>
      rw [result?]
      simp only [hp]

lemma follow_finished (peer : Peer σ) (fuel : ℕ) {x : Except TransferError Outcome}
    (h : t.phase = .finished x) (s : σ) : follow peer fuel t s = ⟨x, s, [], []⟩ := by
  have hres : t.result? = some x := by
    rw [result?]
    simp only [h]
  rw [follow.eq_def]
  simp only [hres]

/-- A message is sent, and the transfer goes on after the answer to it. -/
lemma follow_request (peer : Peer σ) (fuel : ℕ) (h : t.request? = some m) (s : σ) :
    (follow peer (fuel + 1) t s).result
        = (follow peer fuel (t.answer (peer s m.encode).1).1 (peer s m.encode).2).result
      ∧ (follow peer (fuel + 1) t s).peer
        = (follow peer fuel (t.answer (peer s m.encode).1).1 (peer s m.encode).2).peer := by
  rw [follow.eq_def]
  simp only [result?_of_request? h, h, and_self]

end Transfer

namespace Line.Ends

open Transfer

variable {c : Connection} {r : Radio} {d d' : Die} {m m' : Message} {t : Transfer}
variable {result : Except TransferError Outcome} {link : Connection} {radio : Radio}

/-- A finished transfer ends where it is. -/
lemma of_finished (h : t.phase = .finished result) (fuel : ℕ) (e : ℕ) :
    Ends (follow Line.request fuel t (toDie c r d e)) result c
      (r.modifyDie c.pixel fun _ => d) := by
  rw [follow_finished _ _ h]
  exact ⟨rfl, rfl, rfl⟩

/-- A transfer whose message is answered ends as the transfer after the answer does. -/
lemma of_reply (hopen : c.isOpen = true) (hd : (r.die? c.pixel).isSome)
    (hreq : t.request? = some m) (hm : m.Fits) (h : d.respond m = (.reply m', d'))
    (hm' : m'.Fits) {fuel : ℕ}
    (hnext : ∀ reported e, Ends (follow Line.request fuel { t.receive m' with reported }
      (toDie c r d' e)) result link radio) (e : ℕ) :
    Ends (follow Line.request (fuel + 1) t (toDie c r d e)) result link radio := by
  obtain ⟨e', he'⟩ := request_reply hopen hd hm h e
  obtain ⟨hresult, hpeer⟩ := follow_request Line.request fuel hreq (toDie c r d e)
  obtain ⟨hresult', hlink, hradio⟩ := hnext ((t.progress? m').or t.reported) e'
  simp only [he', answer, Message.decode_encode hm'] at hresult hpeer
  exact ⟨hresult.trans hresult', (congrArg Line.link hpeer).trans hlink,
    (congrArg Line.radio hpeer).trans hradio⟩

/-- A transfer at whose message the die drops the link is incomplete. -/
lemma of_drop (hopen : c.isOpen = true) (hd : (r.die? c.pixel).isSome)
    (hreq : t.request? = some m) (hm : m.Fits) (h : d.respond m = (.drop, d')) (fuel : ℕ)
    (e : ℕ) :
    Ends (follow Line.request (fuel + 1) t (toDie c r d e))
      (.error (.incomplete t.sent t.total .disconnected))
      ((r.modifyDie c.pixel fun _ => d').close c).1
      ((r.modifyDie c.pixel fun _ => d').close c).2 := by
  obtain ⟨e', he'⟩ := request_drop hopen hd hm h e
  obtain ⟨hresult, hpeer⟩ := follow_request Line.request fuel hreq (toDie c r d e)
  have hfail : (t.fail (.incomplete t.sent t.total .disconnected)).phase
      = .finished (.error (.incomplete t.sent t.total .disconnected)) := rfl
  simp only [he', answer, follow_finished _ _ hfail] at hresult hpeer
  exact ⟨hresult, congrArg Line.link hpeer, congrArg Line.radio hpeer⟩

end Line.Ends

/-! ### The sending of blocks -/

/-- A transfer that has received one more block. -/
def Incoming.add (i : Incoming) (offset : ℕ) (data : List UInt8) : Incoming :=
  { i with blocks := (offset, data) :: i.blocks }

/-- A die in the middle of a transfer. -/
def Die.receiving (d : Die) (i : Incoming) : Die := { d with incoming := some i }

/-- A die after the last message of a transfer: it keeps a payload that it accepts. -/
def Die.received (d : Die) (p : Payload) : Die :=
  if Die.accepts p.kind p.bytes p.hash then
    { d with stored := d.stored.put ⟨p.hash, p.bytes⟩ p.kind, incoming := none }
  else { d with incoming := none }

/-- A die after it has dropped a link: it will not do so again. -/
def Die.disarmed (d : Die) : Die :=
  { d with options := { d.options with dropAfter := none }, incoming := none }

/-- While the blocks of a payload are sent, the die has received just what the host has
sent: the blocks so far are whole ones, except for the last block of all. -/
structure InStep (p : Payload) (chunk : ℕ) (t : Transfer) (i : Incoming) : Prop where
  payload : t.payload = p
  chunk_eq : t.chunk = chunk
  phase : t.phase = if t.rest.isEmpty then .committing else .sending
  rest : t.rest = p.bytes.drop t.sent
  sent : t.sent = min (i.blocks.length * chunk) p.bytes.length
  kind : i.kind = p.kind
  size : i.size = p.bytes.length
  buffer : i.buffer = p.bytes.take t.sent ++ List.replicate (p.bytes.length - t.sent) 0

namespace InStep

open Transfer Line

variable {p : Payload} {chunk : ℕ} {t : Transfer} {i : Incoming} {c : Connection} {r : Radio}
variable {d : Die} {e fuel : ℕ}

/-- The die as it receives some blocks. -/
lemma start {t : Transfer} (hp : t.payload = p) (hc : t.chunk = chunk) (hs : t.sent = 0)
    (hr : t.rest = p.bytes) :
    InStep p chunk t.proceed { kind := p.kind, size := p.bytes.length } where
  payload := hp
  chunk_eq := hc
  phase := rfl
  rest := by
    change t.rest = p.bytes.drop t.sent
    rw [hr, hs, List.drop_zero]
  sent := by
    change t.sent = min (0 * chunk) _
    rw [hs, Nat.zero_mul, Nat.zero_min]
  kind := rfl
  size := rfl
  buffer := by
    change List.replicate _ _ = p.bytes.take t.sent ++ List.replicate (_ - t.sent) 0
    rw [hs, List.take_zero, List.nil_append, Nat.sub_zero]

lemma sent_le (h : InStep p chunk t i) : t.sent ≤ p.bytes.length := by
  rw [h.sent]
  exact Nat.min_le_right _ _

/-- Before the last block all blocks are whole. -/
lemma sent_eq (h : InStep p chunk t i) (hrest : t.rest ≠ []) :
    t.sent < p.bytes.length ∧ t.sent = i.blocks.length * chunk := by
  have hlt : t.sent < p.bytes.length := by
    rw [h.rest, ne_eq, List.drop_eq_nil_iff] at hrest
    omega
  have hsent := h.sent
  omega

/-- The next block is sent. -/
lemma request (h : InStep p chunk t i) (hrest : t.rest ≠ []) :
    t.request? = some (.bulkData (UInt32.ofNat t.sent) (t.rest.take chunk)) := by
  have hphase := h.phase
  rw [if_neg (by simpa using hrest)] at hphase
  rw [request?]
  simp only [hphase, h.chunk_eq]

lemma fits (hchunk : chunk < 2 ^ 16) :
    (Message.bulkData (UInt32.ofNat t.sent) (t.rest.take chunk)).Fits := by
  change (t.rest.take chunk).length < 2 ^ 16
  rw [List.length_take]
  omega

/-- The die takes the next block, unless it drops the link. -/
lemma respond (h : InStep p chunk t i) (hlen : p.bytes.length < 2 ^ 32)
    (hdrop : d.options.dropAfter ≠ some i.blocks.length) :
    (d.receiving i).respond (.bulkData (UInt32.ofNat t.sent) (t.rest.take chunk))
      = (.reply (.bulkDataAck (UInt32.ofNat t.sent)),
        d.receiving (i.add t.sent (t.rest.take chunk))) := by
  have hsent : (UInt32.ofNat t.sent).toNat = t.sent :=
    UInt32.toNat_ofNat_of_lt' (lt_of_le_of_lt h.sent_le hlen)
  have hfit : ¬ i.size < t.sent + (t.rest.take chunk).length := by
    rw [h.size, h.rest, List.length_take, List.length_drop]
    have := h.sent_le
    omega
  have hdrop' : (d.receiving i).options.dropAfter ≠ some i.blocks.length := hdrop
  change (d.receiving i).block i _ _ = _
  rw [Die.block, if_neg hdrop', hsent, if_neg hfit]
  rfl

/-- The block at which the die drops the link. -/
lemma respond_drop (hdrop : d.options.dropAfter = some i.blocks.length) (offset : UInt32)
    (data : List UInt8) :
    (d.receiving i).respond (.bulkData offset data) = (.drop, d.disarmed) := by
  have hdrop' : (d.receiving i).options.dropAfter = some i.blocks.length := hdrop
  change (d.receiving i).block i _ _ = _
  rw [Die.block, if_pos hdrop']
  rfl

/-- The host goes on after the acknowledgement of a block. -/
lemma receive_ack (h : InStep p chunk t i) (hrest : t.rest ≠ []) :
    t.receive (.bulkDataAck (UInt32.ofNat t.sent))
      = ({ t with sent := t.sent + (t.rest.take chunk).length, rest := t.rest.drop chunk }
          : Transfer).proceed := by
  have hphase := h.phase
  rw [if_neg (by simpa using hrest)] at hphase
  rw [receive.eq_def]
  simp only [hphase, if_true, h.chunk_eq]

/-- After the acknowledgement host and die are in step again. -/
lemma next (h : InStep p chunk t i) (hrest : t.rest ≠ []) (reported : Option ℕ) :
    InStep p chunk { t.receive (.bulkDataAck (UInt32.ofNat t.sent)) with reported }
      (i.add t.sent (t.rest.take chunk)) := by
  obtain ⟨hlt, hsent⟩ := h.sent_eq hrest
  have hlen : (t.rest.take chunk).length = min chunk (p.bytes.length - t.sent) := by
    rw [h.rest, List.length_take, List.length_drop]
  rw [h.receive_ack hrest]
  refine ⟨h.payload, h.chunk_eq, rfl, ?_, ?_, h.kind, h.size, ?_⟩
  · change t.rest.drop chunk = p.bytes.drop (t.sent + (t.rest.take chunk).length)
    rw [hlen, h.rest, List.drop_drop]
    rcases Nat.le_total chunk (p.bytes.length - t.sent) with hle | hle
    · rw [Nat.min_eq_left hle]
    · rw [Nat.min_eq_right hle, List.drop_of_length_le (by omega),
        List.drop_of_length_le (by omega)]
  · change t.sent + (t.rest.take chunk).length
      = min ((i.blocks.length + 1) * chunk) p.bytes.length
    rw [hlen, Nat.succ_mul]
    omega
  · change overwrite i.buffer t.sent (t.rest.take chunk)
      = p.bytes.take (t.sent + (t.rest.take chunk).length)
        ++ List.replicate (p.bytes.length - (t.sent + (t.rest.take chunk).length)) 0
    rw [h.buffer, h.rest]
    exact overwrite_take h.sent_le chunk

/-- There is less to send after a block. -/
lemma length_rest_lt (h : InStep p chunk t i) (hpos : 0 < chunk) (hrest : t.rest ≠ []) :
    (t.receive (.bulkDataAck (UInt32.ofNat t.sent))).rest.length < t.rest.length := by
  rw [h.receive_ack hrest]
  change (t.rest.drop chunk).length < t.rest.length
  have := List.length_pos_iff.mpr hrest
  rw [List.length_drop]
  omega

/-- The die has received the whole payload when there is nothing more to send. -/
lemma respond_commit (h : InStep p chunk t i) (hrest : t.rest = []) :
    (d.receiving i).respond (.commit p.hash)
      = (.reply (.commitAck (Die.accepts p.kind p.bytes p.hash)), d.received p) := by
  have hsent : p.bytes.length ≤ t.sent := by
    rw [h.rest, List.drop_eq_nil_iff] at hrest
    exact hrest
  have hbuffer : i.buffer = p.bytes := by
    rw [h.buffer, List.take_of_length_le hsent, Nat.sub_eq_zero_of_le hsent,
      List.replicate_zero, List.append_nil]
  simp only [Die.receiving, Die.respond, Die.commit, hbuffer, h.kind, Die.received]
  cases Die.accepts p.kind p.bytes p.hash <;> rfl

/-- A link that holds until all blocks are sent: the payload is kept or rejected. -/
lemma committed (h : InStep p chunk t i) (hlen : p.bytes.length < 2 ^ 32) (hpos : 0 < chunk)
    (hlt : chunk < 2 ^ 16) (hopen : c.isOpen = true) (hd : (r.die? c.pixel).isSome)
    (hdrop : ∀ k, d.options.dropAfter = some k → p.bytes.length ≤ k * chunk)
    (hfuel : t.rest.length < fuel) :
    Ends (follow Line.request fuel t (toDie c r (d.receiving i) e))
      (if Die.accepts p.kind p.bytes p.hash then .ok .transferred else .error .rejected) c
      (r.modifyDie c.pixel fun _ => d.received p) := by
  induction fuel generalizing t i e with
  | zero => omega
  | succ fuel ih =>
      by_cases hrest : t.rest = []
      · have hphase : t.phase = .committing := by
          rw [h.phase, hrest]
          rfl
        have hreq : t.request? = some (.commit p.hash) := by
          rw [request?]
          simp only [hphase, h.payload]
        refine Ends.of_reply hopen hd hreq trivial (h.respond_commit hrest) trivial ?_ e
        intro reported e'
        refine Ends.of_finished ?_ fuel e'
        rw [receive.eq_def]
        simp only [hphase]
        cases Die.accepts p.kind p.bytes p.hash <;> rfl
      · obtain ⟨hsent, heq⟩ := h.sent_eq hrest
        have hk : d.options.dropAfter ≠ some i.blocks.length := by
          intro hk
          have := hdrop _ hk
          omega
        refine Ends.of_reply hopen hd (h.request hrest) (fits hlt)
          (h.respond hlen hk) trivial ?_ e
        intro reported e'
        have hless := h.length_rest_lt hpos hrest
        exact ih (h.next hrest reported) (show (t.receive _).rest.length < fuel by omega)

/-- A link that the die drops before the last block. -/
lemma interrupted {k : ℕ} (h : InStep p chunk t i) (hlen : p.bytes.length < 2 ^ 32)
    (hpos : 0 < chunk) (hlt : chunk < 2 ^ 16) (hopen : c.isOpen = true)
    (hd : (r.die? c.pixel).isSome) (hk : d.options.dropAfter = some k)
    (hmore : k * chunk < p.bytes.length) (hle : i.blocks.length ≤ k)
    (hfuel : t.rest.length < fuel) :
    Ends (follow Line.request fuel t (toDie c r (d.receiving i) e))
      (.error (.incomplete (k * chunk) p.bytes.length .disconnected))
      ((r.modifyDie c.pixel fun _ => d.disarmed).close c).1
      ((r.modifyDie c.pixel fun _ => d.disarmed).close c).2 := by
  induction fuel generalizing t i e with
  | zero => omega
  | succ fuel ih =>
      have hblocks : i.blocks.length * chunk ≤ k * chunk := Nat.mul_le_mul_right _ hle
      have hsent := h.sent
      have hrest : t.rest ≠ [] := by
        rw [h.rest, ne_eq, List.drop_eq_nil_iff]
        omega
      rcases Nat.lt_or_eq_of_le hle with hbefore | rfl
      · have hk' : d.options.dropAfter ≠ some i.blocks.length := by
          rw [hk, ne_eq, Option.some_inj]
          omega
        refine Ends.of_reply hopen hd (h.request hrest) (fits hlt)
          (h.respond hlen hk') trivial ?_ e
        intro reported e'
        have hless := h.length_rest_lt hpos hrest
        exact ih (h.next hrest reported) hbefore (show (t.receive _).rest.length < fuel by omega)
      · have hends := Ends.of_drop hopen hd (h.request hrest) (fits hlt)
          (respond_drop hk _ _) fuel e
        rw [Transfer.total, h.payload, (h.sent_eq hrest).2] at hends
        exact hends

end InStep

end DiceHost.Link
