/-
Messages and their bytes determine each other.

* `Message.look?`: a message whose fields are looked up at their places; it is the message that
  is decoded, so **decoding looks at no place outside its bytes**;
* `Message.Begins`: some bytes begin with those of a message;
* `Message.decode_eq_ok_iff`: just these bytes are decoded to the message;
* `Message.EndsEarly`, `Message.endsEarly_of_prefix`: what is cut short is reported as such;
* `Message.decode_exact`: all of this together.
-/
import DiceHost.Proofs.DataSet.Places
import DiceHost.Proofs.Link.Message

namespace DiceHost.Link

open DataSet (bytes16 bytes32 word16 word32 bytes16_word16 bytes32_word32 word16_bytes
  word32_bytes slice? slice?_eq_some word16At? word32At?)

/-! ### Kinds and verdicts -/

/-- A kind has one number. -/
lemma PayloadKind.code_of_ofCode? {n : UInt8} {k : PayloadKind} (h : ofCode? n = some k) :
    k.code = n := by
  rw [ofCode?] at h
  split_ifs at h with h₁ h₂ h₃ <;> cases h
  · exact h₁.symm
  · exact h₂.symm
  · exact h₃.symm

/-- A verdict has one number. -/
lemma Verdict.code_of_ofCode? {n : UInt8} {v : Verdict} (h : ofCode? n = some v) :
    v.code = n := by
  rw [ofCode?] at h
  split_ifs at h with h₁ h₂ h₃ <;> cases h
  · exact h₁.symm
  · exact h₂.symm
  · exact h₃.symm

namespace Message

/-! ### Fields at their places -/

/-- What is looked up in bytes that are as many as a message needs; fewer are reported. -/
def whenLong (code : UInt8) (expected : ℕ) (bytes : List UInt8)
    (found : Option (Except MessageError Message)) : Option (Except MessageError Message) :=
  if bytes.length < expected then some (.error (.truncated code expected bytes.length)) else found

/-- A message whose only field is a word, looked up. -/
def lookWord (code : UInt8) (make : UInt32 → Message) (bytes : List UInt8) :
    Option (Except MessageError Message) :=
  whenLong code 5 bytes do return .ok (make (← word32At? bytes 1))

/-- The announcement of a transfer, looked up. -/
def lookAnnouncement (bytes : List UInt8) : Option (Except MessageError Message) :=
  whenLong 1 10 bytes do
    let k ← bytes[1]?
    let size ← word32At? bytes 2
    let hash ← word32At? bytes 6
    return match PayloadKind.ofCode? k with
      | some kind => .ok (transferPayload kind size hash)
      | none => .error (.invalidKind k)

/-- The answer to an announcement, looked up. -/
def lookVerdict (bytes : List UInt8) : Option (Except MessageError Message) :=
  whenLong 2 2 bytes do
    let v ← bytes[1]?
    return match Verdict.ofCode? v with
      | some verdict => .ok (transferAck verdict)
      | none => .error (.invalidVerdict v)

/-- A block of data, looked up: the length first, then as many bytes as it tells. -/
def lookBlock (bytes : List UInt8) : Option (Except MessageError Message) :=
  whenLong 5 blockOverhead bytes do
    let length := (← word16At? bytes 5).toNat
    whenLong 5 (blockOverhead + length) bytes do
      return .ok (bulkData (← word32At? bytes 1) (← slice? bytes blockOverhead length))

/-- The answer to the end of a transfer, looked up. -/
def lookOutcome (bytes : List UInt8) : Option (Except MessageError Message) :=
  whenLong 8 2 bytes do return .ok (commitAck ((← bytes[1]?) ≠ 0))

/-- The message of some bytes, every field looked up at its place: nothing if one of the places
held no byte. -/
def look? (bytes : List UInt8) : Option (Except MessageError Message) :=
  match bytes.head? with
  | none => some (.error .empty)
  | some code =>
    if code = 1 then lookAnnouncement bytes
    else if code = 2 then lookVerdict bytes
    else if code = 3 then lookWord 3 bulkSetup bytes
    else if code = 4 then some (.ok bulkSetupAck)
    else if code = 5 then lookBlock bytes
    else if code = 6 then lookWord 6 bulkDataAck bytes
    else if code = 7 then lookWord 7 commit bytes
    else if code = 8 then lookOutcome bytes
    else some (.error (.unknownType code))

lemma lookWord_cons (code : UInt8) (make : UInt32 → Message) (fields : List UInt8) :
    lookWord code make (code :: fields) = some (decodeWord code make fields) := by
  rcases fields with _ | ⟨a, _ | ⟨b, _ | ⟨c, _ | ⟨d, rest⟩⟩⟩⟩
  all_goals rfl

lemma lookAnnouncement_cons (fields : List UInt8) :
    lookAnnouncement (1 :: fields) = some (decodeAnnouncement fields) := by
  rcases fields with _ | ⟨k, _ | ⟨a, _ | ⟨b, _ | ⟨c, _ | ⟨d, _ | ⟨e, _ | ⟨f, _ | ⟨g, _ | ⟨h,
    rest⟩⟩⟩⟩⟩⟩⟩⟩⟩
  all_goals rfl

lemma lookVerdict_cons (fields : List UInt8) :
    lookVerdict (2 :: fields) = some (decodeVerdict fields) := by
  cases fields with
  | nil => rfl
  | cons v rest => rfl

lemma lookBlock_cons (fields : List UInt8) :
    lookBlock (5 :: fields) = some (decodeBlock fields) := by
  rcases fields with _ | ⟨a, _ | ⟨b, _ | ⟨c, _ | ⟨d, _ | ⟨l₀, _ | ⟨l₁, rest⟩⟩⟩⟩⟩⟩
  case cons.cons.cons.cons.cons.cons =>
    change whenLong 5 (blockOverhead + (word16 l₀ l₁).toNat) _ _ = _
    rw [whenLong, decodeBlock]
    have hlen : (5 :: a :: b :: c :: d :: l₀ :: l₁ :: rest).length
        = blockOverhead + rest.length := by
      rw [blockOverhead]
      simp only [List.length_cons]
      omega
    by_cases hshort : rest.length < (word16 l₀ l₁).toNat
    · rw [if_pos (by omega), hlen]
      simp only [if_pos hshort]
    · rw [if_neg (by omega), slice?_eq_some (by omega)]
      simp only [if_neg hshort]
      rfl
  all_goals rfl

lemma lookOutcome_cons (fields : List UInt8) :
    lookOutcome (8 :: fields) = some (decodeOutcome fields) := by
  cases fields with
  | nil => rfl
  | cons v rest => rfl

/-- **Decoding looks at no place outside its bytes**: with all fields looked up at their places
it comes to the same. -/
lemma look?_eq (bytes : List UInt8) : look? bytes = some (decode bytes) := by
  cases bytes with
  | nil => rfl
  | cons code fields =>
      rw [look?, decode]
      simp only [List.head?_cons]
      split_ifs with h₁ h₂ h₃ h₄ h₅ h₆ h₇ h₈
      · exact h₁ ▸ lookAnnouncement_cons fields
      · exact h₂ ▸ lookVerdict_cons fields
      · exact h₃ ▸ lookWord_cons 3 bulkSetup fields
      · rfl
      · exact h₅ ▸ lookBlock_cons fields
      · exact h₆ ▸ lookWord_cons 6 bulkDataAck fields
      · exact h₇ ▸ lookWord_cons 7 commit fields
      · exact h₈ ▸ lookOutcome_cons fields
      · rfl

/-! ### The bytes of a message -/

/-- Some bytes begin with those of a message. The flag of a success may be any byte other than
zero. -/
def Begins (m : Message) (bytes : List UInt8) : Prop :=
  m.encode <+: bytes
    ∨ m = commitAck true ∧ ∃ flag rest, flag ≠ 0 ∧ bytes = 8 :: flag :: rest

lemma begins_word {code : UInt8} {make : UInt32 → Message} {fields : List UInt8} {m : Message}
    (h : decodeWord code make fields = .ok m) :
    ∃ w, m = make w ∧ code :: bytes32 w <+: code :: fields := by
  rw [decodeWord.eq_def] at h
  split at h
  · cases h
    refine ⟨_, rfl, ?_⟩
    rw [bytes32_word32]
    exact List.prefix_append _ _
  · cases h

lemma begins_announcement {fields : List UInt8} {m : Message}
    (h : decodeAnnouncement fields = .ok m) : m.Fits ∧ m.Begins (1 :: fields) := by
  rw [decodeAnnouncement.eq_def] at h
  split at h
  · split at h
    · next kind hkind =>
        cases h
        refine ⟨trivial, .inl ?_⟩
        rw [encode, PayloadKind.code_of_ofCode? hkind, bytes32_word32, bytes32_word32]
        exact List.prefix_append _ _
    · cases h
  · cases h

lemma begins_verdict {fields : List UInt8} {m : Message} (h : decodeVerdict fields = .ok m) :
    m.Fits ∧ m.Begins (2 :: fields) := by
  rw [decodeVerdict.eq_def] at h
  split at h
  · split at h
    · next verdict hverdict =>
        cases h
        refine ⟨trivial, .inl ?_⟩
        rw [encode, Verdict.code_of_ofCode? hverdict]
        exact List.prefix_append _ _
    · cases h
  · cases h

lemma begins_block {fields : List UInt8} {m : Message} (h : decodeBlock fields = .ok m) :
    m.Fits ∧ m.Begins (5 :: fields) := by
  rw [decodeBlock.eq_def] at h
  split at h
  · next a b c d l₀ l₁ rest =>
      dsimp only at h
      split_ifs at h with hshort
      cases h
      have hlen : (rest.take (word16 l₀ l₁).toNat).length = (word16 l₀ l₁).toNat :=
        List.length_take_of_le (Nat.le_of_not_lt hshort)
      constructor
      · rw [Fits, hlen]
        exact (word16 l₀ l₁).toNat_lt
      · left
        rw [encode, hlen, UInt16.ofNat_toNat, bytes32_word32, bytes16_word16]
        exact (List.prefix_append_right_inj [5, a, b, c, d, l₀, l₁]).mpr (List.take_prefix _ _)
  · cases h

lemma begins_outcome {fields : List UInt8} {m : Message} (h : decodeOutcome fields = .ok m) :
    m.Fits ∧ m.Begins (8 :: fields) := by
  rw [decodeOutcome.eq_def] at h
  split at h
  · next v rest =>
      cases h
      by_cases hv : v = 0
      · subst hv
        exact ⟨trivial, .inl (List.prefix_append [8, 0] rest)⟩
      · have hflag : decide (v ≠ 0) = true := decide_eq_true hv
        rw [hflag]
        exact ⟨trivial, .inr ⟨rfl, v, rest, hv, rfl⟩⟩
  · cases h

/-- What is decoded fits, and the bytes begin with it. -/
lemma begins_of_decode {bytes : List UInt8} {m : Message} (h : decode bytes = .ok m) :
    m.Fits ∧ m.Begins bytes := by
  cases bytes with
  | nil => cases h
  | cons code fields =>
      rw [decode] at h
      split_ifs at h with h₁ h₂ h₃ h₄ h₅ h₆ h₇ h₈
      · exact h₁ ▸ begins_announcement h
      · exact h₂ ▸ begins_verdict h
      · obtain ⟨w, rfl, hw⟩ := begins_word h
        exact ⟨trivial, .inl (h₃ ▸ hw)⟩
      · cases h
        exact ⟨trivial, .inl (h₄ ▸ List.prefix_append [4] fields)⟩
      · exact h₅ ▸ begins_block h
      · obtain ⟨w, rfl, hw⟩ := begins_word h
        exact ⟨trivial, .inl (h₆ ▸ hw)⟩
      · obtain ⟨w, rfl, hw⟩ := begins_word h
        exact ⟨trivial, .inl (h₇ ▸ hw)⟩
      · exact h₈ ▸ begins_outcome h

/-- **Just the bytes of a message that fits are decoded to it**, whatever follows them. -/
lemma decode_eq_ok_iff {bytes : List UInt8} {m : Message} :
    decode bytes = .ok m ↔ m.Fits ∧ m.Begins bytes := by
  refine ⟨begins_of_decode, ?_⟩
  rintro ⟨hfits, ⟨rest, rfl⟩ | ⟨rfl, flag, rest, hflag, rfl⟩⟩
  · exact decode_encode_append hfits rest
  · change Except.ok (commitAck (decide (flag ≠ 0))) = _
    rw [decide_eq_true hflag]

/-! ### Messages cut short -/

/-- What is reported of bytes that end within a message of some length: that there are none, or
that more of them are needed for the message of their first byte. -/
def EndsEarly (length : ℕ) (bytes : List UInt8) (read : Except MessageError Message) : Prop :=
  bytes = [] ∧ read = .error .empty
    ∨ ∃ code fields expected, bytes = code :: fields ∧ bytes.length < expected
      ∧ expected ≤ length ∧ read = .error (.truncated code expected bytes.length)

lemma decodeWord_short (code : UInt8) (make : UInt32 → Message) {fields : List UInt8}
    (h : fields.length < 4) : decodeWord code make fields = .error (short code 5 fields) := by
  rw [decodeWord.eq_def]
  split
  · simp only [List.length_cons] at h
    omega
  · rfl

lemma decodeAnnouncement_short {fields : List UInt8} (h : fields.length < 9) :
    decodeAnnouncement fields = .error (short 1 10 fields) := by
  rw [decodeAnnouncement.eq_def]
  split
  · simp only [List.length_cons] at h
    omega
  · rfl

/-- A block that ends before its data is reported with the length of its fields, and one that
ends within them with the length that it tells. -/
lemma decodeBlock_short {offset : UInt32} {data fields : List UInt8} (hdata : data.length < 2 ^ 16)
    (hbegin : fields <+: bytes32 offset ++ bytes16 (UInt16.ofNat data.length) ++ data)
    (hshort : fields.length < 6 + data.length) :
    ∃ expected, fields.length + 1 < expected ∧ expected ≤ 7 + data.length
      ∧ decodeBlock fields = .error (short 5 expected fields) := by
  by_cases hhead : fields.length < 6
  · refine ⟨blockOverhead, by rw [blockOverhead]; omega, Nat.le_add_right _ _, ?_⟩
    rw [decodeBlock.eq_def]
    split
    · simp only [List.length_cons] at hhead
      omega
    · rfl
  · -- the fields are complete, and the data are cut short
    obtain ⟨part, rfl⟩ : bytes32 offset ++ bytes16 (UInt16.ofNat data.length) <+: fields :=
      List.prefix_of_prefix_length_le (List.prefix_append _ data) hbegin (Nat.le_of_not_lt hhead)
    have hlen : (UInt16.ofNat data.length).toNat = data.length := UInt16.toNat_ofNat_of_lt' hdata
    have hpart : (bytes32 offset ++ bytes16 (UInt16.ofNat data.length) ++ part).length
        = 6 + part.length := List.length_append
    refine ⟨7 + data.length, by omega, le_rfl, ?_⟩
    rw [short, hpart]
    simp only [bytes32, bytes16, List.cons_append, List.nil_append, decodeBlock, word16_bytes,
      hlen, if_pos (show part.length < data.length by omega)]
    rw [blockOverhead, Nat.add_right_comm]

/-- **A message that is cut short is reported as such.** -/
lemma endsEarly_of_prefix {m : Message} (hm : m.Fits) {bytes : List UInt8}
    (hbegin : bytes <+: m.encode) (hne : bytes ≠ m.encode) :
    EndsEarly m.encode.length bytes (decode bytes) := by
  have hshort : bytes.length < m.encode.length :=
    lt_of_le_of_ne hbegin.length_le fun h => hne (hbegin.eq_of_length h)
  cases bytes with
  | nil => exact .inl ⟨rfl, rfl⟩
  | cons code fields =>
      right
      cases m with
      | transferPayload kind size hash =>
          obtain ⟨rfl, -⟩ := List.cons_prefix_cons.mp hbegin
          have hfields : fields.length < 9 := Nat.lt_of_succ_lt_succ hshort
          exact ⟨1, fields, 10, rfl, hshort, le_rfl, decodeAnnouncement_short hfields⟩
      | transferAck verdict =>
          obtain ⟨rfl, -⟩ := List.cons_prefix_cons.mp hbegin
          obtain rfl : fields = [] := List.length_eq_zero_iff.mp
            (Nat.lt_one_iff.mp (Nat.lt_of_succ_lt_succ hshort))
          exact ⟨2, [], 2, rfl, hshort, le_rfl, rfl⟩
      | bulkSetup size =>
          obtain ⟨rfl, -⟩ := List.cons_prefix_cons.mp hbegin
          have hfields : fields.length < 4 := Nat.lt_of_succ_lt_succ hshort
          exact ⟨3, fields, 5, rfl, hshort, le_rfl, decodeWord_short 3 bulkSetup hfields⟩
      | bulkSetupAck => exact absurd (Nat.lt_of_succ_lt_succ hshort) (Nat.not_lt_zero _)
      | bulkData offset data =>
          obtain ⟨rfl, hfields⟩ := List.cons_prefix_cons.mp hbegin
          rw [length_encode_bulkData] at hshort ⊢
          rw [List.length_cons] at hshort
          obtain ⟨expected, hlt, hle, hread⟩ := decodeBlock_short hm hfields (by omega)
          exact ⟨5, fields, expected, rfl, hlt, hle, hread⟩
      | bulkDataAck offset =>
          obtain ⟨rfl, -⟩ := List.cons_prefix_cons.mp hbegin
          have hfields : fields.length < 4 := Nat.lt_of_succ_lt_succ hshort
          exact ⟨6, fields, 5, rfl, hshort, le_rfl, decodeWord_short 6 bulkDataAck hfields⟩
      | commit hash =>
          obtain ⟨rfl, -⟩ := List.cons_prefix_cons.mp hbegin
          have hfields : fields.length < 4 := Nat.lt_of_succ_lt_succ hshort
          exact ⟨7, fields, 5, rfl, hshort, le_rfl, decodeWord_short 7 commit hfields⟩
      | commitAck ok =>
          obtain ⟨rfl, -⟩ := List.cons_prefix_cons.mp hbegin
          obtain rfl : fields = [] := List.length_eq_zero_iff.mp
            (Nat.lt_one_iff.mp (Nat.lt_of_succ_lt_succ hshort))
          exact ⟨8, [], 2, rfl, hshort, le_rfl, rfl⟩

/-- **Messages and their bytes determine each other.** A message that fits is read back whatever
follows it; cut short anywhere, it is reported to be so; bytes are decoded to a message only if
they begin with it, a success with any flag that is set; and no place outside the bytes is looked
at. -/
theorem decode_exact :
    (∀ m : Message, m.Fits → ∀ rest, decode (m.encode ++ rest) = .ok m)
      ∧ (∀ m : Message, m.Fits → ∀ bytes, bytes <+: m.encode → bytes ≠ m.encode →
        EndsEarly m.encode.length bytes (decode bytes))
      ∧ (∀ bytes m, decode bytes = .ok m ↔ m.Fits ∧ m.Begins bytes)
      ∧ ∀ bytes, look? bytes = some (decode bytes) :=
  ⟨fun _ hm rest => decode_encode_append hm rest,
    fun _ hm _ hbegin hne => endsEarly_of_prefix hm hbegin hne,
    fun _ _ => decode_eq_ok_iff,
    look?_eq⟩

/-- A block of three bytes, read back before other bytes, and cut short within its data. -/
theorem decode_exact_block :
    decode ((bulkData 200 [1, 2, 3]).encode ++ [9]) = .ok (bulkData 200 [1, 2, 3])
      ∧ EndsEarly 10 [5, 200, 0, 0, 0, 3, 0, 1] (decode [5, 200, 0, 0, 0, 3, 0, 1]) := by
  obtain ⟨hread, hshort, -, -⟩ := decode_exact
  have hfits : (bulkData 200 [1, 2, 3]).Fits := by
    change 3 < 2 ^ 16
    decide
  exact ⟨hread _ hfits [9], hshort _ hfits _ (by decide) (by decide)⟩

end Message

end DiceHost.Link
