/-
Messages read back.

* `PayloadKind.ofCode?_code`, `Verdict.ofCode?_code`: kinds and verdicts by their numbers;
* `Message.Fits`: the length of a block fits its sixteen bits;
* `Message.decode_encode_append`: **a message that fits is read back from its bytes**,
  whatever follows them.
-/
import DiceHost.Link.Message
import DiceHost.Proofs.DataSet.RoundTrip

namespace DiceHost.Link

open DataSet (bytes16 bytes32 word16 word32 word16_bytes word32_bytes)

@[simp] lemma PayloadKind.ofCode?_code (k : PayloadKind) : ofCode? k.code = some k := by
  cases k <;> rfl

@[simp] lemma Verdict.ofCode?_code (v : Verdict) : ofCode? v.code = some v := by
  cases v <;> rfl

namespace Message

/-- The length of a block fits its sixteen bits. Any other message fits. -/
def Fits : Message → Prop
  | bulkData _ data => data.length < 2 ^ 16
  | _ => True

/-- The message of a block has seven bytes more than the block. -/
lemma length_encode_bulkData (offset : UInt32) (data : List UInt8) :
    (bulkData offset data).encode.length = 7 + data.length := by
  rw [encode, List.length_cons, List.length_append, Nat.add_right_comm]
  rfl

/-- The fields of a block are read back, and its data end where they should. -/
lemma decodeBlock_append {offset : UInt32} {data : List UInt8} (h : data.length < 2 ^ 16)
    (rest : List UInt8) :
    decodeBlock (bytes32 offset ++ bytes16 (UInt16.ofNat data.length) ++ data ++ rest)
      = .ok (bulkData offset data) := by
  have hlen : (UInt16.ofNat data.length).toNat = data.length := UInt16.toNat_ofNat_of_lt' h
  have hshort : ¬ (data ++ rest).length < data.length := by
    rw [List.length_append]
    omega
  simp only [bytes32, bytes16, List.cons_append, List.nil_append, decodeBlock, word16_bytes,
    word32_bytes, hlen, if_neg hshort, List.take_left]

/-- **Reading back**: a message that fits is the message of its bytes. -/
lemma decode_encode_append {m : Message} (h : m.Fits) (rest : List UInt8) :
    decode (m.encode ++ rest) = .ok m := by
  cases m with
  | transferPayload kind size hash =>
      simp [encode, decode, decodeAnnouncement, bytes32, word32_bytes]
  | transferAck verdict => simp [encode, decode, decodeVerdict]
  | bulkSetup size => simp [encode, decode, decodeWord, bytes32, word32_bytes]
  | bulkSetupAck => rfl
  | bulkData offset data => exact decodeBlock_append h rest
  | bulkDataAck offset => simp [encode, decode, decodeWord, bytes32, word32_bytes]
  | commit hash => simp [encode, decode, decodeWord, bytes32, word32_bytes]
  | commitAck ok => cases ok <;> rfl

lemma decode_encode {m : Message} (h : m.Fits) : decode m.encode = .ok m := by
  have happend := decode_encode_append h []
  rwa [List.append_nil] at happend

end Message

end DiceHost.Link
