/-
What the requests of a transfer do to the dice in range.

* `Radio.dataSetHash?`, `Radio.incoming?`: the data set that a die stores, and the transfer that
  it receives;
* `Radio.Backs`: the record of a die tells the data set that the die stores, if any;
* `Radio.Keeps`: a die stores what it has stored and receives nothing new; links that are opened
  or closed, and dice that come into range, leave it so;
* `Transfer.Matches`: the die receives a payload of the kind that the host sends;
* `Transfer.Advances`: **one answer of a die replaces its data set only when it ends the
  transfer of a data set with success**, and then by that data set;
* `Radio.exchanged`: the same for a request over any link.
-/
import DiceHost.Die.Peripheral
import DiceHost.Proofs.Link.Delivery

namespace DiceHost.Link

/-! ### What dice keep -/

namespace Radio

variable {r r' : Radio} {p q : PixelId}

/-- The hash of the data set that a die stores. -/
def dataSetHash? (r : Radio) (p : PixelId) : Option UInt32 :=
  (r.die? p).bind fun d => d.stored.dataSet.map (·.hash)

/-- A record tells the data set that its die stores, or none. -/
def Backs (r : Radio) (record : Peripheral) : Prop :=
  record.profileHash = none ∨ record.profileHash = r.dataSetHash? record.pixel

lemma dataSetHash?_eq_some {h : UInt32} : r.dataSetHash? p = some h
    ↔ ∃ die stored, r.die? p = some die ∧ die.stored.dataSet = some stored ∧ stored.hash = h := by
  simp only [dataSetHash?, Option.bind_eq_some_iff, Option.map_eq_some_iff]
  constructor
  · rintro ⟨die, hdie, stored, hstored, hh⟩
    exact ⟨die, stored, hdie, hstored, hh⟩
  · rintro ⟨die, stored, hdie, hstored, hh⟩
    exact ⟨die, hdie, stored, hstored, hh⟩

/-- The transfer that a die receives. -/
def incoming? (r : Radio) (p : PixelId) : Option Incoming :=
  (r.die? p).bind (·.incoming)

/-- A die stores the data set that it has stored, and receives nothing that it has not. -/
structure Keeps (r r' : Radio) (p : PixelId) : Prop where
  stored : ∀ h, r.dataSetHash? p = some h → r'.dataSetHash? p = some h
  incoming : ∀ i, r'.incoming? p = some i → r.incoming? p = some i

namespace Keeps

/-- A die that is the same keeps everything. -/
lemma of_die?_eq (h : r'.die? p = r.die? p) : r.Keeps r' p := by
  constructor
  · intro x hx
    rw [dataSetHash?, h]
    exact hx
  · intro i hi
    rw [incoming?, h] at hi
    exact hi

lemma refl (r : Radio) (p : PixelId) : r.Keeps r p :=
  of_die?_eq rfl

end Keeps

lemma die?_modifyDie (r : Radio) (p q : PixelId) (f : Die → Die) :
    (r.modifyDie p f).die? q = if q = p then (r.die? q).map f else r.die? q :=
  PixelMap.get?_modify _ _ _ _

/-- A die that is changed keeps what the change keeps. -/
lemma keeps_modifyDie (r : Radio) (p q : PixelId) {f : Die → Die}
    (hstored : ∀ d, (f d).stored = d.stored)
    (hincoming : ∀ d i, (f d).incoming = some i → d.incoming = some i) :
    r.Keeps (r.modifyDie p f) q := by
  by_cases hq : q = p
  · cases hd : r.die? q with
    | none => exact .of_die?_eq (by rw [die?_modifyDie, if_pos hq, hd]; rfl)
    | some d =>
        have hd' : (r.modifyDie p f).die? q = some (f d) := by
          rw [die?_modifyDie, if_pos hq, hd]
          rfl
        constructor
        · intro h hh
          rw [dataSetHash?, hd, Option.bind_some] at hh
          rw [dataSetHash?, hd', Option.bind_some, hstored]
          exact hh
        · intro i hi
          rw [incoming?, hd', Option.bind_some] at hi
          rw [incoming?, hd, Option.bind_some]
          exact hincoming d i hi
  · exact .of_die?_eq (by rw [die?_modifyDie, if_neg hq])

/-- A link that is closed leaves the dice as they are. -/
lemma keeps_close (r : Radio) (c : Connection) (q : PixelId) : r.Keeps (r.close c).2 q := by
  rw [close]
  split_ifs
  · exact .of_die?_eq rfl
  · exact .refl r q

/-- An attempt to connect ends a transfer, and leaves what is stored. -/
lemma keeps_accept (r : Radio) (p q : PixelId) : r.Keeps (r.accept p).2 q := by
  rw [accept]
  cases r.die? p with
  | none => exact .refl r q
  | some d =>
      dsimp only
      split_ifs
      · exact .refl r q
      · exact keeps_modifyDie r p q (fun _ => rfl) (fun _ _ => id)
      · have hcleared : r.Keeps (r.modifyDie p fun d => { d with incoming := none }) q :=
          keeps_modifyDie r p q (fun _ => rfl) (by simp)
        exact ⟨hcleared.stored, hcleared.incoming⟩

/-- A link leads to the die that was asked for. -/
lemma pixel_of_accept {link : Connection} (h : (r.accept p).1 = .ok link) : link.pixel = p := by
  rw [accept] at h
  cases hd : r.die? p with
  | none =>
      rw [hd] at h
      cases h
  | some d =>
      rw [hd] at h
      dsimp only at h
      split_ifs at h
      cases h
      rfl

/-- What is changed about the dice in range concerns neither what they store nor what they
receive, unless a die is put in the place of another. -/
lemma keeps_adjust (r : Radio) (a : Radio.Adjustment) (q : PixelId)
    (hnew : ∀ p options, a = .addDie p options → r.die? p = none) : r.Keeps (r.adjust a) q := by
  cases a with
  | addDie p options =>
      have hd : r.die? p = none := hnew p options rfl
      have hget : (r.adjust (.addDie p options)).die? q
          = if q = p then some { options } else r.die? q := PixelMap.get?_insert _ _ _ _
      by_cases hq : q = p
      · subst hq
        rw [if_pos rfl] at hget
        constructor
        · intro h hh
          rw [dataSetHash?, hd] at hh
          cases hh
        · intro i hi
          rw [incoming?, hget] at hi
          cases hi
      · exact .of_die?_eq (by rw [hget, if_neg hq])
  | failNext p count => exact keeps_modifyDie r p q (fun _ => rfl) (fun _ _ => id)
  | alwaysFail p fail => exact keeps_modifyDie r p q (fun _ => rfl) (fun _ _ => id)
  | dropAfter p blocks => exact keeps_modifyDie r p q (fun _ => rfl) (fun _ _ => id)

end Radio

/-! ### Transfers and dice -/

namespace Transfer

/-- A transfer has ended with success. -/
def Succeeded (t : Transfer) : Prop := ∃ outcome, t.phase = .finished (.ok outcome)

/-- Once a transfer is announced, the die receives a payload of its kind, if any. -/
def Matches (t : Transfer) (incoming : Option Incoming) : Prop :=
  match t.phase with
  | .settingUp | .sending | .committing => ∀ i, incoming = some i → i.kind = t.payload.kind
  | .announcing | .finished _ => True

/-- A transfer and its die before and after an answer. -/
structure Advances (t : Transfer) (d : Die) (t' : Transfer) (d' : Die) : Prop where
  payload : t'.payload = t.payload
  chunk : t'.chunk = t.chunk
  matching : t'.Matches d'.incoming
  /-- After success with a data set the die stores it. -/
  delivered : t'.Succeeded → t.payload.kind = .dataSet →
    d'.stored.dataSet.map (·.hash) = some t.payload.hash
  /-- What is stored changes by such a success only. -/
  stored : d'.stored.dataSet = d.stored.dataSet ∨ t.payload.kind = .dataSet ∧ t'.Succeeded

variable {t : Transfer} {d : Die} {m : Message}

lemma not_succeeded_fail (t : Transfer) (e : TransferError) : ¬ (t.fail e).Succeeded := by
  rintro ⟨outcome, h⟩
  cases h

/-- A transfer that fails changes nothing. -/
lemma Advances.of_fail {d' : Die} (e : TransferError) (h : d'.stored = d.stored) :
    t.Advances d (t.fail e) d' where
  payload := rfl
  chunk := rfl
  matching := trivial
  delivered := fun hs => absurd hs (t.not_succeeded_fail e)
  stored := .inl (by rw [h])

/-- A message that fits is read as it was sent. -/
lemma fits_of_request? (h : t.request? = some m) (hchunk : t.chunk < 2 ^ 16) : m.Fits := by
  rw [request?] at h
  cases hp : t.phase with
  | announcing | settingUp | committing =>
      rw [hp] at h
      cases h
      trivial
  | sending =>
      rw [hp] at h
      cases h
      change (t.rest.take t.chunk).length < 2 ^ 16
      rw [List.length_take]
      omega
  | finished result =>
      rw [hp] at h
      cases h

/-- The answer to an announcement. -/
lemma advances_announce (hp : t.phase = .announcing) (size : UInt32) :
    (d.announce t.payload.kind size t.payload.hash).1.Fits
      ∧ t.Advances d (t.receive (d.announce t.payload.kind size t.payload.hash).1)
        (d.announce t.payload.kind size t.payload.hash).2 := by
  rw [Die.announce]
  by_cases hsame : (d.stored.get? t.payload.kind).any (·.hash = t.payload.hash) = true
  · rw [if_pos hsame]
    refine ⟨trivial, ?_⟩
    have hreceive : t.receive (.transferAck .upToDate) = t.finish (.ok .alreadyUpToDate) := by
      rw [receive.eq_def]
      simp only [hp]
    rw [hreceive]
    refine ⟨rfl, rfl, trivial, fun _ hkind => ?_, .inl rfl⟩
    obtain ⟨x, hx, hhash⟩ := (Die.any_stored d t.payload).mp hsame
    rw [hkind] at hx
    change d.stored.dataSet = some x at hx
    rw [hx, Option.map_some, hhash]
  · rw [if_neg hsame]
    by_cases hroom : d.options.memory < size.toNat
    · rw [if_pos hroom]
      refine ⟨trivial, ?_⟩
      have hreceive : t.receive (.transferAck .noMemory) = t.fail (.noMemory t.total) := by
        rw [receive.eq_def]
        simp only [hp]
      rw [hreceive]
      exact .of_fail _ rfl
    · rw [if_neg hroom]
      refine ⟨trivial, ?_⟩
      have hreceive : t.receive (.transferAck .download) = { t with phase := .settingUp } := by
        rw [receive.eq_def]
        simp only [hp]
      rw [hreceive]
      refine ⟨rfl, rfl, ?_, ?_, .inl rfl⟩
      · intro i hi
        cases hi
        rfl
      · rintro ⟨outcome, h⟩
        cases h

/-- A transfer that goes on to the next block or to the commit has not ended. -/
lemma advances_proceed {t' : Transfer} {d' : Die} (hpayload : t'.payload = t.payload)
    (hchunk : t'.chunk = t.chunk) (hstored : d'.stored = d.stored)
    (hkind : ∀ i, d'.incoming = some i → i.kind = t.payload.kind) :
    t.Advances d t'.proceed d' := by
  have hphase : t'.proceed.phase = .committing ∨ t'.proceed.phase = .sending := by
    rw [proceed]
    cases t'.rest.isEmpty with
    | true => exact .inl rfl
    | false => exact .inr rfl
  refine ⟨hpayload, hchunk, ?_, ?_, .inl (by rw [hstored])⟩
  · have hkind' : ∀ i, d'.incoming = some i → i.kind = t'.proceed.payload.kind := by
      intro i hi
      exact (hkind i hi).trans (congrArg Payload.kind hpayload.symm)
    rw [Matches]
    rcases hphase with h | h <;> rw [h] <;> exact hkind'
  · rintro ⟨outcome, h⟩
    rcases hphase with h' | h' <;> rw [h'] at h <;> cases h

/-- An answer of the wrong type changes nothing. -/
lemma advances_unexpected {d' : Die} (expected : Expectation)
    (hreceive : t.receive m = t.unexpected expected m) (h : d'.stored = d.stored) :
    t.Advances d (t.receive m) d' := by
  rw [hreceive]
  exact .of_fail _ h

/-- The answer of a die to a transfer that is set up. -/
lemma advances_setup (hp : t.phase = .settingUp) (hmatch : t.Matches d.incoming)
    (size : UInt32) :
    ∃ m', d.respond (.bulkSetup size) = (.reply m', d) ∧ m'.Fits
      ∧ t.Advances d (t.receive m') d := by
  rw [Die.respond]
  rw [Matches, hp] at hmatch
  split_ifs
  · refine ⟨_, rfl, trivial, ?_⟩
    have hreceive : t.receive .bulkSetupAck = t.proceed := by
      rw [receive.eq_def]
      simp only [hp]
    rw [hreceive]
    exact advances_proceed rfl rfl rfl hmatch
  · refine ⟨_, rfl, trivial, advances_unexpected .bulkSetupAck ?_ rfl⟩
    rw [receive.eq_def]
    simp only [hp]

/-- The answer of a die to a block; it may drop the link instead. -/
lemma advances_block (hp : t.phase = .sending) (hmatch : t.Matches d.incoming)
    (data : List UInt8) :
    (∃ m' d', d.respond (.bulkData (UInt32.ofNat t.sent) data) = (.reply m', d') ∧ m'.Fits
        ∧ t.Advances d (t.receive m') d')
      ∨ ∃ d', d.respond (.bulkData (UInt32.ofNat t.sent) data) = (.drop, d')
        ∧ d'.stored = d.stored := by
  have hwrong : ∀ d' : Die, d'.stored = d.stored →
      t.Advances d (t.receive (.commitAck false)) d' := by
    intro d' hd'
    refine advances_unexpected .bulkDataAck ?_ hd'
    rw [receive.eq_def]
    simp only [hp]
  rw [Matches, hp] at hmatch
  rw [Die.respond]
  cases hi : d.incoming with
  | none => exact .inl ⟨_, _, rfl, trivial, hwrong d rfl⟩
  | some i =>
      dsimp only
      rw [Die.block]
      split_ifs
      · exact .inr ⟨_, rfl, rfl⟩
      · exact .inl ⟨_, _, rfl, trivial, hwrong d rfl⟩
      · refine .inl ⟨_, _, rfl, trivial, ?_⟩
        have hreceive : t.receive (.bulkDataAck (UInt32.ofNat t.sent))
            = ({ t with sent := t.sent + (t.rest.take t.chunk).length
                        rest := t.rest.drop t.chunk } : Transfer).proceed := by
          rw [receive.eq_def]
          simp only [hp, if_true]
        rw [hreceive]
        refine advances_proceed rfl rfl rfl ?_
        intro i' hi'
        cases hi'
        exact hmatch i hi

/-- The answer of a die to a commit: it stores the payload, or nothing changes. -/
lemma advances_commit (hp : t.phase = .committing) (hmatch : t.Matches d.incoming) :
    ∃ m' d', d.respond (.commit t.payload.hash) = (.reply m', d') ∧ m'.Fits
      ∧ t.Advances d (t.receive m') d' := by
  have hrejected : t.receive (.commitAck false) = t.fail .rejected := by
    rw [receive.eq_def]
    simp only [hp]
  have hdone : t.receive (.commitAck true) = t.finish (.ok .transferred) := by
    rw [receive.eq_def]
    simp only [hp]
  rw [Matches, hp] at hmatch
  rw [Die.respond]
  cases hi : d.incoming with
  | none =>
      refine ⟨_, _, rfl, trivial, ?_⟩
      rw [hrejected]
      exact .of_fail _ rfl
  | some i =>
      have hkind := hmatch i hi
      dsimp only
      rw [Die.commit]
      split_ifs
      · refine ⟨_, _, rfl, trivial, ?_⟩
        rw [hdone]
        have hput (kind : PayloadKind) :
            (d.stored.put ⟨t.payload.hash, i.buffer⟩ i.kind).get? kind
              = if kind = i.kind then some ⟨t.payload.hash, i.buffer⟩
                else d.stored.get? kind := Storage.get?_put _ _ _ _
        refine ⟨rfl, rfl, trivial, fun _ hset => ?_, ?_⟩
        · have hget := hput .dataSet
          rw [hkind, hset, if_pos rfl] at hget
          rw [hkind, hset]
          exact congrArg (Option.map Stored.hash) hget
        · by_cases hset : t.payload.kind = .dataSet
          · exact .inr ⟨hset, _, rfl⟩
          · have hget := hput .dataSet
            rw [hkind, if_neg (Ne.symm hset)] at hget
            rw [hkind]
            exact .inl hget
      · refine ⟨_, _, rfl, trivial, ?_⟩
        rw [hrejected]
        exact .of_fail _ rfl

/-- **One answer of a die to its transfer**: it advances the transfer, or drops the link and
leaves what is stored. -/
lemma advances (hreq : t.request? = some m) (hmatch : t.Matches d.incoming) :
    (∃ m' d', d.respond m = (.reply m', d') ∧ m'.Fits ∧ t.Advances d (t.receive m') d')
      ∨ ∃ d', d.respond m = (.drop, d') ∧ d'.stored = d.stored := by
  rw [request?] at hreq
  cases hp : t.phase with
  | announcing =>
      rw [hp] at hreq
      cases hreq
      exact .inl ⟨_, _, rfl, advances_announce hp _⟩
  | settingUp =>
      rw [hp] at hreq
      cases hreq
      obtain ⟨m', hm'⟩ := advances_setup hp hmatch (UInt32.ofNat t.total)
      exact .inl ⟨m', d, hm'⟩
  | sending =>
      rw [hp] at hreq
      cases hreq
      exact advances_block hp hmatch _
  | committing =>
      rw [hp] at hreq
      cases hreq
      exact .inl (advances_commit hp hmatch)
  | finished result =>
      rw [hp] at hreq
      cases hreq

end Transfer

/-! ### Requests over links -/

/-- A transfer over a link to a die, and the radio, before and after a request. -/
structure Radio.Exchanged (r : Radio) (p : PixelId) (t t' : Transfer) (r' : Radio) : Prop where
  payload : t'.payload = t.payload
  chunk : t'.chunk = t.chunk
  matching : t'.Matches (r'.incoming? p)
  /-- The other dice are left alone. -/
  others : ∀ q, q ≠ p → r.Keeps r' q
  delivered : t'.Succeeded → t.payload.kind = .dataSet →
    r'.dataSetHash? p = some t.payload.hash
  stored : r'.dataSetHash? p = r.dataSetHash? p ∨ t.payload.kind = .dataSet ∧ t'.Succeeded

namespace Radio

variable {r : Radio} {c : Connection} {t : Transfer} {m : Message}

/-- A request that fails without reaching the die changes nothing. -/
lemma Exchanged.of_fail (r : Radio) (p : PixelId) (t : Transfer) (e : TransferError) :
    r.Exchanged p t (t.fail e) r where
  payload := rfl
  chunk := rfl
  matching := trivial
  others := fun q _ => .refl r q
  delivered := fun hs => absurd hs (t.not_succeeded_fail e)
  stored := .inl rfl

/-- What becomes of a die becomes of the radio. -/
lemma Exchanged.of_advances {p : PixelId} {d d' : Die} {t' : Transfer} {r' : Radio}
    (hd : r.die? p = some d) (hd' : r'.die? p = some d')
    (hothers : ∀ q, q ≠ p → r.Keeps r' q) (h : t.Advances d t' d') :
    r.Exchanged p t t' r' where
  payload := h.payload
  chunk := h.chunk
  matching := by
    rw [incoming?, hd', Option.bind_some]
    exact h.matching
  others := hothers
  delivered := by
    intro hs hkind
    rw [dataSetHash?, hd', Option.bind_some]
    exact h.delivered hs hkind
  stored := by
    rcases h.stored with h | h
    · exact .inl (by rw [dataSetHash?, dataSetHash?, hd, hd', Option.bind_some,
        Option.bind_some, h])
    · exact .inr h

/-- The percentage that is reported is no matter of the exchange. -/
lemma Exchanged.reported {p : PixelId} {t' : Transfer} {r' : Radio}
    (h : r.Exchanged p t t' r') (reported : Option ℕ) :
    r.Exchanged p t { t' with reported } r' :=
  ⟨h.payload, h.chunk, h.matching, h.others, h.delivered, h.stored⟩

/-- **A request of a transfer over any link**: the data set of the die is replaced by a success
with a data set only, and then by that data set; other dice are left alone. -/
lemma exchanged (hreq : t.request? = some m) (hchunk : t.chunk < 2 ^ 16)
    (hmatch : t.Matches (r.incoming? c.pixel)) :
    (r.request c m.encode).2.1.pixel = c.pixel
      ∧ r.Exchanged c.pixel t (t.answer (r.request c m.encode).1).1
        (r.request c m.encode).2.2 := by
  rw [request]
  by_cases hopen : c.isOpen = true
  · rw [hopen, Message.decode_encode (Transfer.fits_of_request? hreq hchunk)]
    cases hd : r.die? c.pixel with
    | none => exact ⟨rfl, .of_fail r c.pixel t _⟩
    | some d =>
        rw [incoming?, hd, Option.bind_some] at hmatch
        have hself (d' : Die) : (r.modifyDie c.pixel fun _ => d').die? c.pixel = some d' := by
          rw [die?_modifyDie, if_pos rfl, hd]
          rfl
        have hothers (d' : Die) (q : PixelId) (hq : q ≠ c.pixel) :
            r.Keeps (r.modifyDie c.pixel fun _ => d') q :=
          .of_die?_eq (by rw [die?_modifyDie, if_neg hq])
        obtain ⟨m', d', hm', hfits, hadv⟩ | ⟨d', hm', hstored⟩ := Transfer.advances hreq hmatch
        · simp only [Bool.not_true, Bool.false_eq_true, if_false, hm', Transfer.answer,
            Message.decode_encode hfits]
          exact ⟨trivial, (Exchanged.of_advances hd (hself d') (hothers d') hadv).reported _⟩
        · simp only [Bool.not_true, Bool.false_eq_true, if_false, hm', Transfer.answer]
          have hclose (q : PixelId) : ((r.modifyDie c.pixel fun _ => d').close c).2.die? q
              = (r.modifyDie c.pixel fun _ => d').die? q := by
            rw [close, if_pos hopen]
            rfl
          refine ⟨by rw [close, if_pos hopen], ?_⟩
          refine .of_advances hd ((hclose c.pixel).trans (hself d')) ?_ (.of_fail _ hstored)
          intro q hq
          exact .of_die?_eq ((hclose q).trans (by rw [die?_modifyDie, if_neg hq]))
  · rw [Bool.not_eq_true] at hopen
    rw [hopen]
    exact ⟨rfl, .of_fail r c.pixel t _⟩

end Radio

end DiceHost.Link
