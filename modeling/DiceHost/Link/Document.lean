/-
Messages, transfers and the radio as documents.

* `Message.toJson`, `Message.decodeObject`: messages; the form of a block's bytes is given;
* `MessageError.toJson`, `LinkError.toJson`, `TransferError.toJson`: failures;
* `Transfer.resultJson`, `FirmwareImage.toJson`: transfers;
* `Radio.Adjustment.decode`, `Radio.summary`, `Radio.storedJson`: the radio and its dice.
-/
import DiceHost.Link.Radio

namespace DiceHost.Link

open Json

/-- A 32-bit word as a number. -/
def wordJson (w : UInt32) : Json := .nat w.toNat

/-- A kind of payload as its name. -/
def PayloadKind.toJson (k : PayloadKind) : Json := .str k.name

/-- A kind of payload from its name. -/
def PayloadKind.decode : Decoder PayloadKind := Decoder.word PayloadKind.ofName?

/-! ### Messages -/

namespace Message

/-- The fields of a message. -/
def fields (bytes : List UInt8 → Json) : Message → List (String × Json)
  | transferPayload kind size hash =>
    [("kind", kind.toJson), ("size", wordJson size), ("hash", wordJson hash)]
  | transferAck verdict => [("result", .str verdict.name)]
  | bulkSetup size => [("size", wordJson size)]
  | bulkSetupAck => []
  | bulkData offset data => [("offset", wordJson offset), ("data", bytes data)]
  | bulkDataAck offset => [("offset", wordJson offset)]
  | commit hash => [("hash", wordJson hash)]
  | commitAck ok => [("ok", .bool ok)]

/-- A message as an object. -/
def toJson (bytes : List UInt8 → Json) (m : Message) : Json :=
  .obj (("type", .str m.name) :: m.fields bytes)

/-- The types of messages with their fields. -/
def variants (bytes : Decoder (List UInt8)) : List (String × Record Message) :=
  [("TransferPayload", transferPayload <$> .field "kind" PayloadKind.decode
      <*> .field "size" Decoder.word32 <*> .field "hash" Decoder.word32),
    ("TransferAck", transferAck <$> .field "result" (Decoder.word Verdict.ofName?)),
    ("BulkSetup", bulkSetup <$> .field "size" Decoder.word32),
    ("BulkSetupAck", pure bulkSetupAck),
    ("BulkData", bulkData <$> .field "offset" Decoder.word32 <*> .field "data" bytes),
    ("BulkDataAck", bulkDataAck <$> .field "offset" Decoder.word32),
    ("Commit", commit <$> .field "hash" Decoder.word32),
    ("CommitAck", commitAck <$> .field "ok" Decoder.bool)]

/-- A message from an object. -/
def decodeObject (bytes : Decoder (List UInt8)) : Decoder Message
  | .obj es => taggedEntries "type" (variant? (variants bytes)) es
  | n => Decoder.refuse n

end Message

/-! ### Failures -/

/-- The error as an object. -/
def MessageError.toJson (e : MessageError) : Json :=
  .failure (match e with
    | empty => "Empty"
    | unknownType _ => "UnknownType"
    | truncated .. => "Truncated"
    | invalidKind _ | invalidVerdict _ => "InvalidValue") e.message

/-- The error as an object. -/
def LinkError.toJson (e : LinkError) : Json :=
  .failure (match e with
    | connectionFailed _ => "ConnectionFailed"
    | disconnected => "Disconnected"
    | adapterUnavailable => "AdapterUnavailable") e.message

/-- The error as an object. -/
def TransferError.toJson (e : TransferError) : Json :=
  .failure (match e with
    | incomplete .. => "Incomplete"
    | noMemory _ => "NoMemory"
    | rejected => "Rejected"
    | unexpectedReply .. => "UnexpectedReply"
    | badReply _ => "Message"
    | tooLarge _ => "TooLarge") e.message [("retryable", .bool e.isRetryable)]

/-! ### Transfers -/

/-- The result of a transfer as a name, or why it failed. -/
def Transfer.resultJson : Except TransferError Outcome → Json
  | .ok .transferred => .str "transferred"
  | .ok .alreadyUpToDate => .str "already_up_to_date"
  | .error e => e.toJson

/-- What is shown of a payload. -/
def Payload.summary (p : Payload) : Json :=
  .obj [("kind", p.kind.toJson), ("len", .nat p.bytes.length), ("hash", wordJson p.hash)]

/-- What is shown of the images of an update. -/
def FirmwareImage.summary (f : FirmwareImage) : Json :=
  .obj [("total_size", .nat f.totalSize), ("payloads", .list Payload.summary f.payloads)]

/-! ### The radio -/

/-- The behaviour of a die from an object; each part has a default. -/
def DieOptions.record : Record DieOptions :=
  DieOptions.mk <$> .defaulted "memory" Decoder.size 1048576
    <*> .defaulted "max_message_size" Decoder.size 512
    <*> .optional "drop_after_chunks" Decoder.size
    <*> .defaulted "chunk_delay_ms" Decoder.size 0

/-- A die with its behaviour, from an object. -/
def DieOptions.placed : Record (PixelId × DieOptions) :=
  Prod.mk <$> .field "pixel" PixelId.decode <*> record

namespace Radio

/-- The adjustments by name, with their fields. -/
def Adjustment.variants : List (String × Record Adjustment) :=
  [("add_die", (fun x => .addDie x.1 x.2) <$> DieOptions.placed),
    ("fail_next", (fun p n => .failNext p (UInt32.toNat n))
      <$> .field "pixel" PixelId.decode <*> .field "count" Decoder.word32),
    ("always_fail", .alwaysFail <$> .field "pixel" PixelId.decode
      <*> .field "fail" Decoder.bool),
    ("drop_after", .dropAfter <$> .field "pixel" PixelId.decode
      <*> .field "chunks" Decoder.size)]

/-- What is shown of the links that were opened. -/
def summary (r : Radio) : Json :=
  .obj [("connect_order", .list PixelId.toJson r.connected), ("active_links", .nat r.active),
    ("max_concurrent", .nat r.maxActive)]

/-- What is shown of a payload that a die keeps; nulls if it keeps none of the kind. -/
def storedJson (r : Radio) (bytes : List UInt8 → Json) (p : PixelId) (k : PayloadKind) : Json :=
  let stored := (r.die? p).bind (·.stored.get? k)
  .obj [("hash", .opt (wordJson ·.hash) stored), ("payload", .opt (bytes ·.bytes) stored)]

end Radio

end DiceHost.Link
