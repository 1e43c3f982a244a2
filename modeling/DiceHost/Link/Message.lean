/-
The messages between host and die.

* `Message`: what the two sides tell each other during a transfer;
* `Message.encode`: a byte for the type, then the fields, words little-endian;
* `Message.decode`: the message that some bytes begin with, or why there is none; what
  follows the message is passed over.
-/
import DiceHost.DataSet.Words
import DiceHost.Text.Hex

namespace DiceHost.Link

open DataSet (bytes16 bytes32 word16 word32)

/-- What a transfer carries. -/
inductive PayloadKind where
  | dataSet
  | firmware
  | bootloader
deriving DecidableEq, Repr

namespace PayloadKind

/-- The number of a kind in messages. -/
def code : PayloadKind → UInt8
  | dataSet => 1
  | firmware => 2
  | bootloader => 3

/-- The kind of a number. -/
def ofCode? (n : UInt8) : Option PayloadKind :=
  if n = 1 then some dataSet else if n = 2 then some firmware
  else if n = 3 then some bootloader else none

/-- The name of a kind. -/
def name : PayloadKind → String
  | dataSet => "data_set"
  | firmware => "firmware"
  | bootloader => "bootloader"

/-- The kind of a name. -/
def ofName? : String → Option PayloadKind
  | "data_set" => some dataSet
  | "firmware" => some firmware
  | "bootloader" => some bootloader
  | _ => none

end PayloadKind

/-- How a die answers the announcement of a transfer. -/
inductive Verdict where
  | download
  | upToDate
  | noMemory
deriving DecidableEq, Repr

namespace Verdict

/-- The number of a verdict in messages. -/
def code : Verdict → UInt8
  | download => 0
  | upToDate => 1
  | noMemory => 2

/-- The verdict of a number. -/
def ofCode? (n : UInt8) : Option Verdict :=
  if n = 0 then some download else if n = 1 then some upToDate
  else if n = 2 then some noMemory else none

/-- The name of a verdict. -/
def name : Verdict → String
  | download => "download"
  | upToDate => "up_to_date"
  | noMemory => "no_memory"

/-- The verdict of a name. -/
def ofName? : String → Option Verdict
  | "download" => some download
  | "up_to_date" => some upToDate
  | "no_memory" => some noMemory
  | _ => none

end Verdict

/-- What host and die tell each other. -/
inductive Message where
  /-- The host announces a transfer. -/
  | transferPayload (kind : PayloadKind) (size hash : UInt32)
  | transferAck (verdict : Verdict)
  /-- The host is about to send the bytes. -/
  | bulkSetup (size : UInt32)
  | bulkSetupAck
  | bulkData (offset : UInt32) (data : List UInt8)
  | bulkDataAck (offset : UInt32)
  /-- The host has sent all bytes. -/
  | commit (hash : UInt32)
  | commitAck (ok : Bool)
deriving DecidableEq, Repr

/-- Why some bytes are no message. -/
inductive MessageError where
  | empty
  | unknownType (code : UInt8)
  | truncated (code : UInt8) (expected actual : Nat)
  | invalidKind (value : UInt8)
  | invalidVerdict (value : UInt8)
deriving DecidableEq, Repr

/-- The number of a type of message: `0x` and two digits. -/
def codeText (code : UInt8) : String :=
  "0x" ++ String.ofList (Text.Hex.lower 2 code.toNat)

/-- The error in words. -/
def MessageError.message : MessageError → String
  | empty => "empty message"
  | unknownType code => "unknown message type " ++ codeText code
  | truncated code expected actual =>
    "message type " ++ codeText code ++ s!" needs {expected} bytes, got {actual}"
  | invalidKind value => s!"invalid transfer kind value {value.toNat}"
  | invalidVerdict value => s!"invalid transfer ack value {value.toNat}"

namespace Message

/-- The bytes of a block message beside its data. -/
def blockOverhead : Nat := 7

/-- The name of the type of a message. -/
def name : Message → String
  | transferPayload .. => "TransferPayload"
  | transferAck _ => "TransferAck"
  | bulkSetup _ => "BulkSetup"
  | bulkSetupAck => "BulkSetupAck"
  | bulkData .. => "BulkData"
  | bulkDataAck _ => "BulkDataAck"
  | commit _ => "Commit"
  | commitAck _ => "CommitAck"

/-- The bytes of a message. The length of a block is kept in sixteen bits. -/
def encode : Message → List UInt8
  | transferPayload kind size hash => 1 :: kind.code :: (bytes32 size ++ bytes32 hash)
  | transferAck verdict => [2, verdict.code]
  | bulkSetup size => 3 :: bytes32 size
  | bulkSetupAck => [4]
  | bulkData offset data => 5 :: (bytes32 offset ++ bytes16 (UInt16.ofNat data.length) ++ data)
  | bulkDataAck offset => 6 :: bytes32 offset
  | commit hash => 7 :: bytes32 hash
  | commitAck ok => [8, if ok then 1 else 0]

/-- The error of a message that ends too early. -/
def short (code : UInt8) (expected : Nat) (fields : List UInt8) : MessageError :=
  .truncated code expected (fields.length + 1)

/-- A message whose only field is a word. -/
def decodeWord (code : UInt8) (make : UInt32 → Message) :
    List UInt8 → Except MessageError Message
  | a :: b :: c :: d :: _ => .ok (make (word32 a b c d))
  | fields => .error (short code 5 fields)

/-- The announcement of a transfer. -/
def decodeAnnouncement : List UInt8 → Except MessageError Message
  | k :: a :: b :: c :: d :: e :: f :: g :: h :: _ =>
    match PayloadKind.ofCode? k with
    | some kind => .ok (transferPayload kind (word32 a b c d) (word32 e f g h))
    | none => .error (.invalidKind k)
  | fields => .error (short 1 10 fields)

/-- The answer to an announcement. -/
def decodeVerdict : List UInt8 → Except MessageError Message
  | v :: _ =>
    match Verdict.ofCode? v with
    | some verdict => .ok (transferAck verdict)
    | none => .error (.invalidVerdict v)
  | fields => .error (short 2 2 fields)

/-- A block of data. -/
def decodeBlock : List UInt8 → Except MessageError Message
  | a :: b :: c :: d :: l₀ :: l₁ :: rest =>
    let length := (word16 l₀ l₁).toNat
    if rest.length < length then
      .error (.truncated 5 (blockOverhead + length) (blockOverhead + rest.length))
    else .ok (bulkData (word32 a b c d) (rest.take length))
  | fields => .error (short 5 blockOverhead fields)

/-- The answer to the end of a transfer. -/
def decodeOutcome : List UInt8 → Except MessageError Message
  | v :: _ => .ok (commitAck (v ≠ 0))
  | fields => .error (short 8 2 fields)

/-- The message that some bytes begin with. -/
def decode : List UInt8 → Except MessageError Message
  | [] => .error .empty
  | code :: fields =>
    if code = 1 then decodeAnnouncement fields
    else if code = 2 then decodeVerdict fields
    else if code = 3 then decodeWord 3 bulkSetup fields
    else if code = 4 then .ok bulkSetupAck
    else if code = 5 then decodeBlock fields
    else if code = 6 then decodeWord 6 bulkDataAck fields
    else if code = 7 then decodeWord 7 commit fields
    else if code = 8 then decodeOutcome fields
    else .error (.unknownType code)

end Message

end DiceHost.Link
