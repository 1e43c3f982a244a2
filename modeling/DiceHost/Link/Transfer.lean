/-
The host's side of a transfer.

* `Progress`: a reporter of percentages, only of increases;
* `Transfer`: a transfer in progress; it announces a payload, sets up the bulk transfer,
  sends the bytes in acknowledged blocks, and commits;
* `Transfer.request?`: the message that waits for an answer;
* `Transfer.answer`: the transfer after an answer or the loss of the link;
* `Transfer.run`: a whole transfer over any peer.

A transfer never goes on from where another one broke off: it starts over.
-/
import DiceHost.DataSet.Hash
import DiceHost.Link.Message
import DiceHost.Timestamp

namespace DiceHost.Link

/-- Why a link does not answer. -/
inductive LinkError where
  | connectionFailed (reason : String)
  | disconnected
  | adapterUnavailable
deriving DecidableEq, Repr

/-- The error in words. -/
def LinkError.message : LinkError → String
  | connectionFailed reason => "connection failed: " ++ reason
  | disconnected => "peripheral disconnected"
  | adapterUnavailable => "bluetooth adapter unavailable"

/-- The kinds of answers that a transfer waits for. -/
inductive Expectation where
  | transferAck
  | bulkSetupAck
  | bulkDataAck
  | commitAck
deriving DecidableEq, Repr

/-- The name of an answer. -/
def Expectation.name : Expectation → String
  | transferAck => "TransferAck"
  | bulkSetupAck => "BulkSetupAck"
  | bulkDataAck => "BulkDataAck"
  | commitAck => "CommitAck"

/-- Why a transfer failed. -/
inductive TransferError where
  | incomplete (sent total : Nat) (reason : LinkError)
  | noMemory (size : Nat)
  | rejected
  | unexpectedReply (expected : Expectation) (got : String)
  | badReply (e : MessageError)
  | tooLarge (size : Nat)
deriving DecidableEq, Repr

namespace TransferError

/-- The error in words. -/
def message : TransferError → String
  | incomplete sent total reason =>
    s!"transfer interrupted after {sent} of {total} bytes: {reason.message}"
  | noMemory size => s!"die has no room for {size} bytes"
  | rejected => "die rejected the committed payload"
  | unexpectedReply expected got => s!"expected {expected.name} reply, got {got}"
  | badReply e => "bad reply: " ++ e.message
  | tooLarge size => s!"payload of {size} bytes is too large to announce"

/-- Whether a new session may succeed. -/
def isRetryable : TransferError → Bool
  | incomplete .. => true
  | _ => false

end TransferError

/-- How a transfer succeeded. -/
inductive Outcome where
  | transferred
  /-- The die held a payload with this hash before. -/
  | alreadyUpToDate
deriving DecidableEq, Repr

/-- Bytes to be transferred. -/
structure Payload where
  kind : PayloadKind
  bytes : List UInt8
  hash : UInt32
deriving DecidableEq, Repr

/-- Bytes with their hash. -/
def Payload.ofBytes (kind : PayloadKind) (bytes : List UInt8) : Payload :=
  ⟨kind, bytes, DataSet.hash bytes⟩

/-- The images of a firmware update. -/
structure FirmwareImage where
  firmware : List UInt8
  bootloader : Option (List UInt8)
  timestamp : Timestamp
deriving DecidableEq, Repr

namespace FirmwareImage

/-- The images in the order in which they are written. -/
def payloads (f : FirmwareImage) : List Payload :=
  (f.bootloader.map (Payload.ofBytes .bootloader)).toList ++ [.ofBytes .firmware f.firmware]

/-- The number of bytes of all images. -/
def totalSize (f : FirmwareImage) : Nat :=
  f.firmware.length + f.bootloader.elim 0 List.length

end FirmwareImage

/-! ### Progress -/

/-- A product does not fit 64 bits, which stops the program. -/
structure Overflow
deriving DecidableEq, Repr

/-- The part that is done in percent; nothing to do is all done. -/
def percent (done total : Nat) : Except Overflow Nat :=
  if total = 0 then .ok 100
  else if min done total * 100 < UInt64.size then .ok (min done total * 100 / total)
  else .error {}

/-- The percentage to be reported after the last one: only an increase is. -/
def increase (last : Option Nat) (done total : Nat) : Except Overflow (Option Nat) := do
  let p ← percent done total
  return if last.all (· < p) then some p else none

/-- A reporter of percentages: the last one, and all of them in their order. -/
structure Progress where
  last : Option Nat := none
  seen : List Nat := []
deriving DecidableEq, Repr

namespace Progress

/-- The reporter after an update of the part that is done. -/
def update (p : Progress) (done total : Nat) : Except Overflow Progress := do
  match ← increase p.last done total with
  | some n => return ⟨some n, p.seen ++ [n]⟩
  | none => return p

/-- The reporter after some updates; one that overflows is the last. -/
def run (p : Progress) : List (Nat × Nat) → Progress × Option Overflow
  | [] => (p, none)
  | (done, total) :: updates =>
    match p.update done total with
    | .ok p => p.run updates
    | .error e => (p, some e)

end Progress

/-- The percentage that a transfer reports after the last one. It refuses what does not fit 32
bits before any update, so that none overflows. -/
def increase? (last : Option Nat) (done total : Nat) : Option Nat :=
  (increase last done total).toOption.join

/-! ### Transfers -/

/-- What a transfer waits for. -/
inductive Phase where
  | announcing
  | settingUp
  | sending
  | committing
  | finished (result : Except TransferError Outcome)

/-- A transfer in progress. -/
structure Transfer where
  payload : Payload
  /-- The most bytes of a block. -/
  chunk : Nat
  phase : Phase
  /-- The bytes acknowledged so far. -/
  sent : Nat := 0
  /-- The bytes not yet acknowledged. -/
  rest : List UInt8
  /-- The percentage reported last. -/
  reported : Option Nat := none

namespace Transfer

/-- The number of bytes of the payload. -/
def total (t : Transfer) : Nat := t.payload.bytes.length

/-- The size of blocks: as asked for, but within a message and a 16-bit length, and never
zero. -/
def blockSize (asked maxMessage : Nat) : Nat :=
  min (max 1 (min asked (maxMessage - Message.blockOverhead))) 65535

/-- A new transfer. A payload whose size does not fit 32 bits is refused at once. -/
def start (p : Payload) (asked maxMessage : Nat) : Transfer where
  payload := p
  chunk := blockSize asked maxMessage
  phase :=
    if p.bytes.length < UInt32.size then .announcing
    else .finished (.error (.tooLarge p.bytes.length))
  rest := p.bytes

/-- The message that waits for an answer; none when the transfer is finished. -/
def request? (t : Transfer) : Option Message :=
  match t.phase with
  | .announcing => some (.transferPayload t.payload.kind (UInt32.ofNat t.total) t.payload.hash)
  | .settingUp => some (.bulkSetup (UInt32.ofNat t.total))
  | .sending => some (.bulkData (UInt32.ofNat t.sent) (t.rest.take t.chunk))
  | .committing => some (.commit t.payload.hash)
  | .finished _ => none

/-- The result of a finished transfer. -/
def result? (t : Transfer) : Option (Except TransferError Outcome) :=
  match t.phase with
  | .finished r => some r
  | _ => none

/-- The transfer with a result. -/
def finish (t : Transfer) (r : Except TransferError Outcome) : Transfer :=
  { t with phase := .finished r }

/-- The transfer fails. -/
def fail (t : Transfer) (e : TransferError) : Transfer :=
  t.finish (.error e)

/-- The transfer fails because of an answer of the wrong type. -/
def unexpected (t : Transfer) (expected : Expectation) (got : Message) : Transfer :=
  t.fail (.unexpectedReply expected got.name)

/-- The next block is sent, or the transfer is committed. -/
def proceed (t : Transfer) : Transfer :=
  { t with phase := if t.rest.isEmpty then .committing else .sending }

/-- The transfer after a message. -/
def receive (t : Transfer) (m : Message) : Transfer :=
  match t.phase, m with
  | .announcing, .transferAck .download => { t with phase := .settingUp }
  | .announcing, .transferAck .upToDate => t.finish (.ok .alreadyUpToDate)
  | .announcing, .transferAck .noMemory => t.fail (.noMemory t.total)
  | .announcing, m => t.unexpected .transferAck m
  | .settingUp, .bulkSetupAck => t.proceed
  | .settingUp, m => t.unexpected .bulkSetupAck m
  | .sending, .bulkDataAck offset =>
    if offset = UInt32.ofNat t.sent then
      let block := t.rest.take t.chunk
      { t with sent := t.sent + block.length, rest := t.rest.drop t.chunk }.proceed
    else t.unexpected .bulkDataAck m
  | .sending, m => t.unexpected .bulkDataAck m
  | .committing, .commitAck true => t.finish (.ok .transferred)
  | .committing, .commitAck false => t.fail .rejected
  | .committing, m => t.unexpected .commitAck m
  | .finished _, _ => t

/-- What a message tells of the progress: the die is up to date, is ready for the bytes,
or has acknowledged some of them. -/
def progress? (t : Transfer) (m : Message) : Option Nat :=
  match t.phase, m with
  | .announcing, .transferAck .upToDate => increase? t.reported t.total t.total
  | .settingUp, .bulkSetupAck => increase? t.reported 0 t.total
  | .sending, .bulkDataAck offset =>
    if offset = UInt32.ofNat t.sent then
      increase? t.reported (t.sent + (t.rest.take t.chunk).length) t.total
    else none
  | _, _ => none

/-- The transfer after an answer or the loss of the link, and the percentage to be
reported. -/
def answer (t : Transfer) (reply : Except LinkError (List UInt8)) : Transfer × Option Nat :=
  match reply with
  | .error reason => (t.fail (.incomplete t.sent t.total reason), none)
  | .ok bytes =>
    match Message.decode bytes with
    | .error e => (t.fail (.badReply e), none)
    | .ok m =>
      let p := t.progress? m
      ({ t.receive m with reported := p.or t.reported }, p)

/-- A peer with a state of its own: what it answers to some bytes. -/
abbrev Peer (σ : Type) := σ → List UInt8 → Except LinkError (List UInt8) × σ

/-- What a whole transfer leaves behind: its result, the state of the peer, the requests
that were sent and the percentages that were reported. -/
structure Run (σ : Type) where
  result : Except TransferError Outcome
  peer : σ
  requests : List (List UInt8)
  reports : List Nat

/-- A transfer followed to its end; `fuel` bounds the number of requests. -/
def follow {σ : Type} (peer : Peer σ) : Nat → Transfer → σ → Run σ
  | fuel, t, s =>
    match t.result?, t.request?, fuel with
    | some r, _, _ => ⟨r, s, [], []⟩
    | none, some m, fuel + 1 =>
      let (reply, s) := peer s m.encode
      let (t, p) := t.answer reply
      let run := follow peer fuel t s
      { run with requests := m.encode :: run.requests, reports := p.toList ++ run.reports }
    | none, _, _ => ⟨.error (.incomplete t.sent t.total .disconnected), s, [], []⟩

/-- A whole transfer. There are an announcement, a setup and a commit, and every block has
at least one byte, so the payload bounds the number of requests. -/
def run {σ : Type} (peer : Peer σ) (s : σ) (p : Payload) (asked maxMessage : Nat) : Run σ :=
  follow peer (p.bytes.length + 3) (start p asked maxMessage) s

end Transfer

end DiceHost.Link
