/-
What becomes of a payload that is sent to a die.

* `Die.Stores`, `Die.Drops`: the die has a payload of this hash, or drops the link before the
  last block;
* `Payload.Genuine`: the bytes are what was announced;
* `Delivery`: how a transfer ends in every case, and what it leaves behind;
* `delivery_run`: **a transfer over an open link to a die ends as it should**, and a compiled
  data set for which there is room is never rejected.
-/
import DiceHost.Proofs.DataSet.Faithful
import DiceHost.Proofs.Link.Lockstep

namespace DiceHost.Link

open DataSet (Contents Compiled CompileOptions compile)

/-! ### What a die makes of a payload -/

/-- A payload is put where its kind is, and nowhere else. -/
lemma Storage.get?_put (s : Storage) (x : Stored) (kind kind' : PayloadKind) :
    (s.put x kind).get? kind' = if kind' = kind then some x else s.get? kind' := by
  cases kind <;> cases kind' <;> rfl

/-- A payload is what was announced: its bytes have its hash, and are those of a data set if
it is one. -/
def Payload.Genuine (p : Payload) : Prop :=
  DataSet.hash p.bytes = p.hash ∧ (p.kind = .dataSet → ∃ c, Contents.parse p.bytes = .ok c)

namespace Die

/-- A die has a payload of the kind and the hash of a payload. -/
def Stores (d : Die) (p : Payload) : Prop :=
  ∃ x, d.stored.get? p.kind = some x ∧ x.hash = p.hash

/-- A die drops the link after a number of blocks, and more are needed. -/
def Drops (d : Die) (p : Payload) (chunk k : ℕ) : Prop :=
  d.options.dropAfter = some k ∧ k < Transfer.blockCount chunk p.bytes.length

lemma accepts_iff (p : Payload) : accepts p.kind p.bytes p.hash = true ↔ p.Genuine := by
  have hparse : (Contents.parse p.bytes).toBool = true ↔ ∃ c, Contents.parse p.bytes = .ok c := by
    cases Contents.parse p.bytes <;> simp [Except.toBool]
  rw [accepts, Bool.and_eq_true, Bool.or_eq_true, decide_eq_true_iff, decide_eq_true_iff, hparse,
    Payload.Genuine, imp_iff_not_or]

lemma any_stored (d : Die) (p : Payload) :
    (d.stored.get? p.kind).any (·.hash = p.hash) = true ↔ d.Stores p := by
  rw [Stores]
  cases d.stored.get? p.kind <;> simp

variable {d : Die} {p : Payload}

/-! #### The answers before the first block -/

/-- The die tells that it has the payload. -/
lemma respond_upToDate (h : d.Stores p) :
    d.respond (.transferPayload p.kind (UInt32.ofNat p.bytes.length) p.hash)
      = (.reply (.transferAck .upToDate), d) := by
  simp only [respond, announce, (any_stored d p).mpr h, if_true]

/-- The die tells that it has no room for the payload. -/
lemma respond_noMemory (h : ¬ d.Stores p) (hlen : p.bytes.length < 2 ^ 32)
    (hmem : d.options.memory < p.bytes.length) :
    d.respond (.transferPayload p.kind (UInt32.ofNat p.bytes.length) p.hash)
      = (.reply (.transferAck .noMemory), d) := by
  rw [← any_stored] at h
  simp only [respond, announce, h, UInt32.toNat_ofNat_of_lt' hlen, hmem, if_true]
  rfl

/-- The die makes ready for the payload. -/
lemma respond_download (h : ¬ d.Stores p) (hlen : p.bytes.length < 2 ^ 32)
    (hmem : p.bytes.length ≤ d.options.memory) :
    d.respond (.transferPayload p.kind (UInt32.ofNat p.bytes.length) p.hash)
      = (.reply (.transferAck .download),
        d.receiving { kind := p.kind, size := p.bytes.length }) := by
  rw [← any_stored] at h
  simp only [respond, announce, h, UInt32.toNat_ofNat_of_lt' hlen, Nat.not_lt.mpr hmem, if_false]
  rfl

/-- The die is ready for the blocks. -/
lemma respond_setup (hlen : p.bytes.length < 2 ^ 32) :
    (d.receiving { kind := p.kind, size := p.bytes.length }).respond
        (.bulkSetup (UInt32.ofNat p.bytes.length))
      = (.reply .bulkSetupAck, d.receiving { kind := p.kind, size := p.bytes.length }) := by
  simp only [respond, receiving, Option.any_some, UInt32.toNat_ofNat_of_lt' hlen, decide_true,
    if_true]

end Die

/-! ### Deliveries -/

/-- How a transfer over a link to a die ends, and what it leaves behind. -/
structure Delivery (l : Line) (d : Die) (p : Payload) (chunk : ℕ) (out : Transfer.Run Line) :
    Prop where
  /-- The die has the payload: nothing changes. -/
  upToDate : d.Stores p → Line.Ends out (.ok .alreadyUpToDate) l.link l.radio
  /-- There is no room for the payload: nothing changes. -/
  noMemory : ¬ d.Stores p → d.options.memory < p.bytes.length →
    Line.Ends out (.error (.noMemory p.bytes.length)) l.link l.radio
  /-- The link is dropped, and will not be again; the die keeps what it had. -/
  dropped : ∀ k, ¬ d.Stores p → p.bytes.length ≤ d.options.memory → d.Drops p chunk k →
    Line.Ends out (.error (.incomplete (k * chunk) p.bytes.length .disconnected))
      { l.link with isOpen := false }
      { l.radio.modifyDie l.link.pixel (fun _ =>
          { d with options := { d.options with dropAfter := none }, incoming := none })
        with active := l.radio.active - 1 }
  /-- The payload is not what was announced; the die keeps what it had. -/
  rejected : ¬ d.Stores p → p.bytes.length ≤ d.options.memory → (∀ k, ¬ d.Drops p chunk k) →
    ¬ p.Genuine → Line.Ends out (.error .rejected) l.link
      (l.radio.modifyDie l.link.pixel fun _ => { d with incoming := none })
  /-- The die has the payload in place of any other of its kind. -/
  transferred : ¬ d.Stores p → p.bytes.length ≤ d.options.memory → (∀ k, ¬ d.Drops p chunk k) →
    p.Genuine → ∃ stored, Line.Ends out (.ok .transferred) l.link
        (l.radio.modifyDie l.link.pixel fun _ => { d with stored, incoming := none })
      ∧ stored.get? p.kind = some ⟨p.hash, p.bytes⟩
      ∧ ∀ kind, kind ≠ p.kind → stored.get? kind = d.stored.get? kind

section Runs

open Transfer Line

variable {l : Line} {d : Die} {p : Payload}

/-- A link to a die is a link to the die as it is. -/
lemma toDie_self (hd : l.radio.die? l.link.pixel = some d) :
    toDie l.link l.radio d l.elapsed = l := by
  have hdice : l.radio.dice.modify l.link.pixel (fun _ => d) = l.radio.dice :=
    PixelMap.modify_of_get? hd
  rw [toDie, Radio.modifyDie, hdice]

lemma request?_start (hlen : p.bytes.length < 2 ^ 32) (asked maxMessage : ℕ) :
    (start p asked maxMessage).phase = .announcing
      ∧ (start p asked maxMessage).request?
        = some (.transferPayload p.kind (UInt32.ofNat p.bytes.length) p.hash) := by
  have hphase : (start p asked maxMessage).phase = .announcing := if_pos hlen
  refine ⟨hphase, ?_⟩
  rw [request?]
  simp only [hphase]
  rfl

/-- A transfer whose announcement is answered by the end of it. -/
lemma ends_of_answer {verdict : Verdict} {result : Except TransferError Outcome}
    (hopen : l.link.isOpen = true) (hd : l.radio.die? l.link.pixel = some d)
    (hlen : p.bytes.length < 2 ^ 32) (asked : ℕ)
    (h : d.respond (.transferPayload p.kind (UInt32.ofNat p.bytes.length) p.hash)
      = (.reply (.transferAck verdict), d))
    (hresult : ((start p asked l.link.maxMessage).receive (.transferAck verdict)).phase
      = .finished result) :
    Ends (run Line.request l p asked l.link.maxMessage) result l.link l.radio := by
  obtain ⟨hphase, hreq⟩ := request?_start hlen asked l.link.maxMessage
  have hradio : l.radio.modifyDie l.link.pixel (fun _ => d) = l.radio :=
    congrArg Line.radio (toDie_self hd)
  have hends : Ends (follow Line.request (p.bytes.length + 2 + 1) (start p asked l.link.maxMessage)
      (toDie l.link l.radio d l.elapsed)) result l.link
      (l.radio.modifyDie l.link.pixel fun _ => d) := by
    refine Ends.of_reply hopen (Option.isSome_of_eq_some hd) hreq trivial h trivial ?_ _
    intro reported e
    refine Ends.of_finished ?_ _ e
    exact hresult
  rwa [toDie_self hd, hradio] at hends

/-- A transfer that the die makes ready for goes on to the blocks. -/
lemma ends_of_blocks {result : Except TransferError Outcome} {link : Connection} {radio : Radio}
    (hopen : l.link.isOpen = true) (hd : l.radio.die? l.link.pixel = some d)
    (hlen : p.bytes.length < 2 ^ 32) (asked : ℕ) (hstores : ¬ d.Stores p)
    (hmem : p.bytes.length ≤ d.options.memory)
    (h : ∀ t i e, InStep p (blockSize asked l.link.maxMessage) t i → i.blocks = [] →
      t.rest.length < p.bytes.length + 1 →
      Ends (follow Line.request (p.bytes.length + 1) t (toDie l.link l.radio (d.receiving i) e))
        result link radio) :
    Ends (run Line.request l p asked l.link.maxMessage) result link radio := by
  obtain ⟨hphase, hreq⟩ := request?_start hlen asked l.link.maxMessage
  have hd' := Option.isSome_of_eq_some hd
  have hends : Ends (follow Line.request (p.bytes.length + 2 + 1) (start p asked l.link.maxMessage)
      (toDie l.link l.radio d l.elapsed)) result link radio := by
    have hreply := Die.respond_download hstores hlen hmem
    refine Ends.of_reply hopen hd' hreq trivial hreply trivial ?_ _
    intro reported e
    have hreceive : (start p asked l.link.maxMessage).receive (.transferAck .download)
        = { start p asked l.link.maxMessage with phase := .settingUp } := by
      rw [receive.eq_def]
      simp only [hphase]
    have hreq' : ({ start p asked l.link.maxMessage with phase := .settingUp, reported }
        : Transfer).request? = some (.bulkSetup (UInt32.ofNat p.bytes.length)) := rfl
    rw [hreceive]
    refine Ends.of_reply hopen hd' hreq' trivial (Die.respond_setup hlen) trivial ?_ e
    intro reported' e'
    have hstart : InStep p (blockSize asked l.link.maxMessage)
        ({ start p asked l.link.maxMessage with reported := reported' } : Transfer).proceed
        { kind := p.kind, size := p.bytes.length } := InStep.start rfl rfl rfl rfl
    exact h _ _ e' hstart rfl (Nat.lt_succ_self _)
  rwa [toDie_self hd] at hends

/-- Every transfer over an open link to a die is a delivery. -/
lemma delivery (hopen : l.link.isOpen = true) (hd : l.radio.die? l.link.pixel = some d)
    (hlen : p.bytes.length < 2 ^ 32) (asked : ℕ) :
    Delivery l d p (blockSize asked l.link.maxMessage)
      (run Line.request l p asked l.link.maxMessage) := by
  have hpos := blockSize_pos asked l.link.maxMessage
  have hlt := blockSize_lt asked l.link.maxMessage
  have hd' : (l.radio.die? l.link.pixel).isSome := Option.isSome_of_eq_some hd
  obtain ⟨hphase, -⟩ := request?_start hlen asked l.link.maxMessage
  -- a link that is not dropped ends with the answer to the last message
  have hcommit : ¬ d.Stores p → p.bytes.length ≤ d.options.memory →
      (∀ k, ¬ d.Drops p (blockSize asked l.link.maxMessage) k) →
      Ends (run Line.request l p asked l.link.maxMessage)
        (if Die.accepts p.kind p.bytes p.hash then .ok .transferred else .error .rejected) l.link
        (l.radio.modifyDie l.link.pixel fun _ => d.received p) := by
    intro hstores hmem hdrops
    refine ends_of_blocks hopen hd hlen asked hstores hmem ?_
    intro t i e hstep _ hfuel
    refine hstep.committed hlen hpos hlt hopen hd' ?_ hfuel
    intro k hk
    by_contra hmore
    exact hdrops k ⟨hk, (lt_blockCount hpos).mpr (Nat.lt_of_not_le hmore)⟩
  constructor
  case upToDate =>
    intro hstores
    refine ends_of_answer hopen hd hlen asked (Die.respond_upToDate hstores) ?_
    rw [receive.eq_def]
    simp only [hphase]
    rfl
  case noMemory =>
    intro hstores hmem
    refine ends_of_answer hopen hd hlen asked (Die.respond_noMemory hstores hlen hmem) ?_
    rw [receive.eq_def]
    simp only [hphase]
    rfl
  case dropped =>
    rintro k hstores hmem ⟨hk, hmore⟩
    rw [lt_blockCount hpos] at hmore
    have hclose : (l.radio.modifyDie l.link.pixel fun _ => d.disarmed).close l.link
        = ({ l.link with isOpen := false },
          { l.radio.modifyDie l.link.pixel (fun _ => d.disarmed)
            with active := l.radio.active - 1 }) := by
      rw [Radio.close, if_pos hopen]
      rfl
    refine ends_of_blocks hopen hd hlen asked hstores hmem ?_
    intro t i e hstep hblocks hfuel
    have hends := hstep.interrupted (e := e) hlen hpos hlt hopen hd' hk hmore
      (by rw [hblocks]; exact Nat.zero_le k) hfuel
    rw [hclose] at hends
    exact hends
  case rejected =>
    intro hstores hmem hdrops hgenuine
    rw [← Die.accepts_iff] at hgenuine
    have hends := hcommit hstores hmem hdrops
    rw [if_neg hgenuine, Die.received, if_neg hgenuine] at hends
    exact hends
  case transferred =>
    intro hstores hmem hdrops hgenuine
    rw [← Die.accepts_iff] at hgenuine
    have hends := hcommit hstores hmem hdrops
    rw [if_pos hgenuine, Die.received, if_pos hgenuine] at hends
    refine ⟨_, hends, ?_, ?_⟩
    · rw [Storage.get?_put, if_pos rfl]
    · intro kind hkind
      rw [Storage.get?_put, if_neg hkind]

/-- A compiled data set is what it is announced as. -/
lemma genuine_of_coherent {c : Compiled} (h : c.Coherent) :
    Payload.Genuine ⟨.dataSet, c.bytes, c.hash⟩ :=
  ⟨h.hash_eq.symm, fun _ => ⟨c.contents, h.parse⟩⟩

/-- **A transfer over an open link to a die ends as it should**, whatever the die has stored,
its room and its drops, and whatever the payload, its hash and the size of blocks. A compiled
data set for which there is room is never rejected over a link that holds. -/
theorem delivery_run (l : Line) (d : Die) (asked : ℕ) (hopen : l.link.isOpen = true)
    (hd : l.radio.die? l.link.pixel = some d) :
    (∀ p : Payload, p.bytes.length < 2 ^ 32 →
      Delivery l d p (blockSize asked l.link.maxMessage)
        (run Line.request l p asked l.link.maxMessage))
      ∧ ∀ profile library options c, compile profile library options = .ok c →
        c.bytes.length ≤ d.options.memory →
        (∀ k, ¬ d.Drops ⟨.dataSet, c.bytes, c.hash⟩ (blockSize asked l.link.maxMessage) k) →
        (run Line.request l ⟨.dataSet, c.bytes, c.hash⟩ asked l.link.maxMessage).result
          ∈ [.ok .alreadyUpToDate, .ok .transferred] := by
  refine ⟨fun p hlen => delivery hopen hd hlen asked, ?_⟩
  intro profile library options c hc hmem hdrops
  obtain ⟨hcoherent, -⟩ := DataSet.compile_sound hc
  have hdelivery := delivery (p := ⟨.dataSet, c.bytes, c.hash⟩) hopen hd hcoherent.length_lt asked
  by_cases hstores : d.Stores ⟨.dataSet, c.bytes, c.hash⟩
  · rw [(hdelivery.upToDate hstores).result_eq]
    exact List.mem_cons_self
  · obtain ⟨stored, hends, -⟩ :=
      hdelivery.transferred hstores hmem hdrops (genuine_of_coherent hcoherent)
    rw [hends.result_eq]
    exact List.mem_cons_of_mem _ List.mem_cons_self

/-- A link to a die that drops it after two blocks. -/
def shakyLine : Line where
  link := ⟨⟨7⟩, 512, 0, true⟩
  radio := { dice := .ofList (fun _ => ⟨7⟩) [{ options := { dropAfter := some 2 } }] }

/-- Three blocks of a byte are too many for such a link, a small data set is not. -/
theorem delivery_shakyLine :
    (run Line.request shakyLine ⟨.firmware, [1, 2, 3], 0⟩ 1 512).result
        = .error (.incomplete 2 3 .disconnected)
      ∧ ∃ c, compile DataSet.Sample.profile DataSet.Sample.shelf {} = .ok c
        ∧ (run Line.request shakyLine ⟨.dataSet, c.bytes, c.hash⟩ 512 512).result
          ∈ [.ok .alreadyUpToDate, .ok .transferred] := by
  have hdie : shakyLine.radio.die? shakyLine.link.pixel
      = some { options := { dropAfter := some 2 } } := by decide
  have hsize : (compile DataSet.Sample.profile DataSet.Sample.shelf {}).toOption.map
      (·.bytes.length) = some 168 := by decide +kernel
  constructor
  · have hdelivery := (delivery_run shakyLine _ 1 rfl hdie).1 ⟨.firmware, [1, 2, 3], 0⟩ (by decide)
    refine (hdelivery.dropped 2 ?_ (by decide) ⟨rfl, by decide⟩).result_eq
    rintro ⟨x, hx, -⟩
    cases hx
  · cases hc : compile DataSet.Sample.profile DataSet.Sample.shelf {} with
    | error e =>
        rw [hc] at hsize
        cases hsize
    | ok c =>
        rw [hc] at hsize
        have hlen : c.bytes.length = 168 := Option.some_inj.mp hsize
        refine ⟨c, rfl, (delivery_run shakyLine _ 512 rfl hdie).2 _ _ _ c hc ?_ ?_⟩
        · rw [hlen]
          decide
        · rintro k ⟨hk, hmore⟩
          cases hk
          rw [hlen] at hmore
          revert hmore
          decide

end Runs

end DiceHost.Link
