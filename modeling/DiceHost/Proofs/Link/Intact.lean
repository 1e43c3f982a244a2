/-
Dice that are never left half written.

* `Incoming.buffer?`: the bytes of a transfer, every block written with a check of its places;
* `Die.Intact`: what is stored is what was announced and fits the memory, and the blocks that
  were taken lie in the buffer;
* `Die.Rests`: a die stores what it has stored, and receives at most what it has received;
* `Die.Does`: all that a die does with a message: it rests, begins a transfer, takes a block or
  keeps a payload;
* `Die.does_respond`, `Die.Intact.does`: **whatever the message, a die does one of these, and
  stays intact**;
* `Die.Does.kept_of_changed`: what a die stores changes by an acknowledged commit only.
-/
import DiceHost.Proofs.Link.Exchange

namespace DiceHost.Link

open DataSet (Contents)

/-! ### Buffers -/

/-- A block written into a buffer; nothing when one of its places is outside. -/
def write? (buffer : List UInt8) (offset : ℕ) (data : List UInt8) : Option (List UInt8) :=
  if offset + data.length ≤ buffer.length then some (overwrite buffer offset data) else none

/-- The bytes of a transfer, every block written with a check of its places. -/
def Incoming.buffer? (i : Incoming) : Option (List UInt8) :=
  i.blocks.foldr (fun (offset, data) written => written.bind (write? · offset data))
    (some (List.replicate i.size 0))

/-- A block in the middle of a buffer leaves its length. -/
lemma length_overwrite {buffer data : List UInt8} {offset : ℕ}
    (h : offset + data.length ≤ buffer.length) :
    (overwrite buffer offset data).length = buffer.length := by
  rw [overwrite, List.length_append, List.length_append, List.length_take, List.length_drop]
  omega

/-- A transfer whose blocks all lie in its buffer. -/
structure Incoming.Inside (i : Incoming) : Prop where
  buffer?_eq : i.buffer? = some i.buffer
  length_eq : i.buffer.length = i.size

namespace Incoming.Inside

lemma empty (kind : PayloadKind) (size : ℕ) : Incoming.Inside { kind, size } :=
  ⟨rfl, List.length_replicate⟩

/-- Another block that lies in the buffer. -/
lemma add {i : Incoming} (h : i.Inside) {offset : ℕ} {data : List UInt8}
    (hle : offset + data.length ≤ i.size) : (i.add offset data).Inside := by
  rw [← h.length_eq] at hle
  constructor
  · change i.buffer?.bind (write? · offset data) = _
    rw [h.buffer?_eq, Option.bind_some, write?, if_pos hle]
    rfl
  · exact (length_overwrite hle).trans h.length_eq

end Incoming.Inside

/-! ### Dice -/

namespace Die

/-- What a die stores is what was announced and has room in its memory, and so has what it
receives; no block that it has taken was written outside the buffer. -/
structure Intact (d : Die) : Prop where
  stored : ∀ kind x, d.stored.get? kind = some x →
    Payload.Genuine ⟨kind, x.bytes, x.hash⟩ ∧ x.bytes.length ≤ d.options.memory
  incoming : ∀ i, d.incoming = some i → i.Inside ∧ i.size ≤ d.options.memory

/-- A die stores what it has stored, and receives at most what it has received. -/
structure Rests (d d' : Die) : Prop where
  stored : d'.stored = d.stored
  memory : d'.options.memory = d.options.memory
  incoming : ∀ i, d'.incoming = some i → d.incoming = some i

/-- A new die is intact. -/
lemma intact_new (options : DieOptions) : Intact { options } where
  stored := by
    intro kind x h
    cases kind <;> cases h
  incoming := by simp

variable {d d' : Die} {m : Message}

lemma Rests.refl (d : Die) : d.Rests d := ⟨rfl, rfl, fun _ => id⟩

/-- A die that ends its transfer rests. -/
lemma Rests.ended (d : Die) : d.Rests { d with incoming := none } := ⟨rfl, rfl, by simp⟩

lemma Intact.rests (h : d.Intact) (hr : d.Rests d') : d'.Intact where
  stored := by
    rw [hr.stored, hr.memory]
    exact h.stored
  incoming := by
    rw [hr.memory]
    exact fun i hi => h.incoming i (hr.incoming i hi)

/-- All that a die does with a message. -/
inductive Does (d : Die) : Message → Response → Die → Prop where
  | rests {m : Message} {r : Response} {d' : Die} (h : d.Rests d')
      (hr : r ≠ .reply (.transferAck .download)) : Does d m r d'
  | announced {kind : PayloadKind} {size hash : UInt32} (h : size.toNat ≤ d.options.memory) :
      Does d (.transferPayload kind size hash) (.reply (.transferAck .download))
        (d.receiving { kind, size := size.toNat })
  | received {i : Incoming} {offset : UInt32} {data : List UInt8} (hi : d.incoming = some i)
      (h : offset.toNat + data.length ≤ i.size) :
      Does d (.bulkData offset data) (.reply (.bulkDataAck offset))
        (d.receiving (i.add offset.toNat data))
  | kept {i : Incoming} {hash : UInt32} (hi : d.incoming = some i)
      (h : accepts i.kind i.buffer hash = true) :
      Does d (.commit hash) (.reply (.commitAck true))
        { d with stored := d.stored.put ⟨hash, i.buffer⟩ i.kind, incoming := none }

/-- **Whatever the message**, a die rests, begins a transfer, takes a block or keeps a
payload. -/
lemma does_respond (d : Die) (m : Message) : d.Does m (d.respond m).1 (d.respond m).2 := by
  cases m with
  | transferPayload kind size hash =>
      rw [respond, announce]
      split_ifs with hstored hmemory
      · exact .rests (.refl d) (by simp)
      · exact .rests (.refl d) (by simp)
      · exact .announced (Nat.not_lt.mp hmemory)
  | bulkSetup size =>
      rw [respond]
      split_ifs
      · exact .rests (.refl d) (by simp)
      · exact .rests (.refl d) (by simp)
  | bulkData offset data =>
      cases hi : d.incoming with
      | none => simpa [respond, hi] using .rests (.refl d) (by simp)
      | some i =>
          simp only [respond, hi, block]
          split_ifs with hdrop hsize
          · exact .rests ⟨rfl, rfl, by simp⟩ (by simp)
          · exact .rests (.refl d) (by simp)
          · exact .received hi (Nat.not_lt.mp hsize)
  | commit hash =>
      cases hi : d.incoming with
      | none => simpa [respond, hi] using .rests (.refl d) (by simp)
      | some i =>
          simp only [respond, hi, commit]
          split_ifs with haccepts
          · exact .kept hi haccepts
          · exact .rests (.ended d) (by simp)
  | transferAck | bulkSetupAck | bulkDataAck | commitAck =>
      exact .rests (.refl d) (by simp [respond])

/-- **A die stays intact**, whatever it does. -/
lemma Intact.does (h : d.Intact) {r : Response} (hdoes : d.Does m r d') : d'.Intact := by
  cases hdoes with
  | rests hrests => exact h.rests hrests
  | announced hsize =>
      refine ⟨h.stored, fun i hi => ?_⟩
      obtain rfl := Option.some.inj hi
      exact ⟨.empty _ _, hsize⟩
  | received hi hsize =>
      obtain ⟨hinside, hmemory⟩ := h.incoming _ hi
      refine ⟨h.stored, fun i' hi' => ?_⟩
      obtain rfl := Option.some.inj hi'
      exact ⟨hinside.add hsize, hmemory⟩
  | @kept i hash hi haccepts =>
      obtain ⟨hinside, hmemory⟩ := h.incoming _ hi
      refine ⟨fun kind x hx => ?_, by simp⟩
      rw [Storage.get?_put] at hx
      split_ifs at hx with hkind
      · obtain rfl := Option.some.inj hx
        subst hkind
        exact ⟨(accepts_iff ⟨i.kind, i.buffer, hash⟩).mp haccepts,
          hinside.length_eq.trans_le hmemory⟩
      · exact h.stored kind x hx

/-- **What a die stores changes by a commit that it acknowledges only**, and then for the kind
that it receives. -/
lemma Does.kept_of_changed {r : Response} {kind : PayloadKind} (h : d.Does m r d')
    (hchanged : d'.stored.get? kind ≠ d.stored.get? kind) :
    ∃ i hash, d.incoming = some i ∧ i.kind = kind ∧ m = .commit hash
      ∧ r = .reply (.commitAck true) ∧ d'.stored.get? kind = some ⟨hash, i.buffer⟩ := by
  cases h with
  | rests hrests => exact absurd (by rw [hrests.stored]) hchanged
  | announced => exact absurd rfl hchanged
  | received => exact absurd rfl hchanged
  | @kept i hash hi =>
      have hget := Storage.get?_put d.stored ⟨hash, i.buffer⟩ i.kind kind
      by_cases hkind : kind = i.kind
      · exact ⟨i, hash, hi, hkind.symm, rfl, rfl, hget.trans (if_pos hkind)⟩
      · exact absurd (hget.trans (if_neg hkind)) hchanged

end Die

end DiceHost.Link
