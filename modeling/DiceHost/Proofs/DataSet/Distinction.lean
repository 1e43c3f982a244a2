/-
Data sets that differ in a single byte.

* `hashStep_left_injective`, `hashStep_right_injective`: a step of the hash is undone by another
  multiplication, and its byte can be told from it;
* `hash_append_ne`: **another byte at one place gives another hash**, whatever stands before and
  after it;
* `DifferOnce`: bytes that are the same but at a single place;
* `ToldApart`: host and die tell some bytes from others: a record of the ones is no record of the
  others, a die that stores the ones asks for the others, and a commit of the ones is declined
  when the others were received;
* `byte_told_apart`: **bytes that differ once are told apart**, data sets in particular.
-/
import DiceHost.Proofs.DataSet.Faithful
import DiceHost.Proofs.Link.Bench
import DiceHost.Scheduler.Request

namespace DiceHost.DataSet

/-! ### The hash -/

/-- The multiplication by 33 has an inverse among the numbers of 32 bits. -/
lemma mul_thirtyThree_mul (h : UInt32) : h * 33 * 1041204193 = h := by
  have hinverse : (33 * 1041204193 : UInt32) = 1 := by decide
  rw [UInt32.mul_assoc, hinverse, UInt32.mul_one]

/-- The hash before a byte can be told from the hash after it. -/
lemma hashStep_left_injective (b : UInt8) : Function.Injective (hashStep · b) := by
  intro h h' heq
  have hmul : h * 33 = h' * 33 := (UInt32.xor_left_inj _).mp heq
  calc h = h * 33 * 1041204193 := (mul_thirtyThree_mul h).symm
    _ = h' * 33 * 1041204193 := by rw [hmul]
    _ = h' := mul_thirtyThree_mul h'

/-- A byte can be told from the hashes before and after it. -/
lemma hashStep_right_injective (h : UInt32) : Function.Injective (hashStep h) :=
  fun _ _ heq => UInt8.toUInt32_inj.mp ((UInt32.xor_right_inj _).mp heq)

/-- The hash before some bytes can be told from the hash after them. -/
lemma foldl_hashStep_injective (s : List UInt8) : Function.Injective (s.foldl hashStep) := by
  induction s with
  | nil => exact Function.injective_id
  | cons b s ih => exact ih.comp (hashStep_left_injective b)

/-- **Another byte at one place gives another hash.** -/
lemma hash_append_ne (p s : List UInt8) {x y : UInt8} (hxy : x ≠ y) :
    hash (p ++ [x] ++ s) ≠ hash (p ++ [y] ++ s) := by
  intro heq
  rw [hash, hash, List.foldl_append, List.foldl_append, List.foldl_append, List.foldl_append]
    at heq
  exact hxy (hashStep_right_injective _ (foldl_hashStep_injective s heq))

/-! ### One byte -/

/-- As many bytes, and the same ones but at a single place. -/
structure DifferOnce (a b : List UInt8) (i : ℕ) : Prop where
  length_eq : a.length = b.length
  ne : a[i]? ≠ b[i]?
  eq_of_ne : ∀ j, j ≠ i → a[j]? = b[j]?

namespace DifferOnce

variable {a b : List UInt8} {i : ℕ}

/-- The bytes before the place, those after it, and the two bytes at it. -/
lemma exists_append (h : DifferOnce a b i) :
    ∃ p s x y, x ≠ y ∧ a = p ++ [x] ++ s ∧ b = p ++ [y] ++ s := by
  have hi : i < a.length := by
    by_contra hle
    have hle' : b.length ≤ i := h.length_eq ▸ Nat.le_of_not_lt hle
    exact h.ne ((List.getElem?_eq_none (Nat.le_of_not_lt hle)).trans
      (List.getElem?_eq_none hle').symm)
  have hi' : i < b.length := h.length_eq ▸ hi
  have htake : a.take i = b.take i := by
    refine List.ext_getElem? fun j => ?_
    rw [List.getElem?_take, List.getElem?_take]
    split_ifs with hj
    · exact h.eq_of_ne j hj.ne
    · rfl
  have hdrop : a.drop (i + 1) = b.drop (i + 1) := by
    refine List.ext_getElem? fun j => ?_
    rw [List.getElem?_drop, List.getElem?_drop]
    exact h.eq_of_ne _ (by omega)
  have hsplit {bs : List UInt8} (hlt : i < bs.length) :
      bs = bs.take i ++ [bs[i]] ++ bs.drop (i + 1) := by
    rw [List.append_assoc, List.singleton_append, List.getElem_cons_drop, List.take_append_drop]
  refine ⟨a.take i, a.drop (i + 1), a[i], b[i], fun heq => h.ne ?_, hsplit hi, ?_⟩
  · rw [List.getElem?_eq_getElem hi, List.getElem?_eq_getElem hi', heq]
  · rw [htake, hdrop]
    exact hsplit hi'

lemma symm (h : DifferOnce a b i) : DifferOnce b a i :=
  ⟨h.length_eq.symm, h.ne.symm, fun j hj => (h.eq_of_ne j hj).symm⟩

/-- Bytes of which one is replaced by another. -/
lemma of_set {x y : UInt8} (hx : a[i]? = some x) (hxy : x ≠ y) : DifferOnce a (a.set i y) i where
  length_eq := List.length_set.symm
  ne := by
    obtain ⟨hi, -⟩ := List.getElem?_eq_some_iff.mp hx
    rw [List.getElem?_set_self hi, hx]
    exact fun heq => hxy (Option.some.inj heq)
  eq_of_ne j hj := (List.getElem?_set_ne hj.symm).symm

lemma hash_ne (h : DifferOnce a b i) : hash a ≠ hash b := by
  obtain ⟨p, s, x, y, hxy, rfl, rfl⟩ := h.exists_append
  exact hash_append_ne p s hxy

end DifferOnce

/-! ### Host and die -/

/-- Host and die tell some bytes `a` from others, `b`. -/
structure ToldApart (a b : List UInt8) : Prop where
  /-- A record of the ones is no record of the others. -/
  recorded : ∀ r : Peripheral, r.isUpToDate (hash a) = true → r.isUpToDate (hash b) = false
  /-- The scheduler accepts the others for a die whose record tells the ones. -/
  scheduled : ∀ (s : Scheduler.State) pixel m profile priority, s.member? pixel = some m →
    m.state.isGivenUp = false → m.peripheral.profileHash = some (hash a) →
    ∃ change, s.handle (.program pixel ⟨profile, b, hash b⟩ priority) = .ok (.queued, change)
  /-- A die that stores the ones is not up to date when the others are announced, whatever has
  happened to it. -/
  announced : ∀ moves pixel d kind x, (Link.Bench.run {} moves).radio.die? pixel = some d →
    d.stored.get? kind = some x → x.bytes = a →
    ∀ size, (d.respond (.transferPayload kind size (hash b))).1 ≠ .reply (.transferAck .upToDate)
  /-- A die that has received the others declines a commit of the ones, and stores what it has
  stored. -/
  committed : ∀ (d : Link.Die) i, d.incoming = some i → i.buffer = b →
    d.respond (.commit (hash a)) = (.reply (.commitAck false), { d with incoming := none })
  /-- The others do not pass for the ones in a transfer. -/
  delivered : ∀ (l : Link.Line) d kind asked, l.link.isOpen = true →
    l.radio.die? l.link.pixel = some d → b.length < 2 ^ 32 →
    (Link.Transfer.run Link.Line.request l ⟨kind, b, hash a⟩ asked l.link.maxMessage).result
      ≠ .ok .transferred

section Told

variable {a b : List UInt8}

/-- Bytes with another hash are not what was announced. -/
lemma not_genuine (h : hash a ≠ hash b) (kind : Link.PayloadKind) :
    ¬ Link.Payload.Genuine ⟨kind, b, hash a⟩ :=
  fun hgenuine => h hgenuine.1.symm

/-- **Bytes with another hash are told apart.** -/
lemma toldApart (h : hash a ≠ hash b) : ToldApart a b where
  recorded r hr := by
    have htells : r.profileHash = some (hash a) := of_decide_eq_true hr
    rw [Peripheral.isUpToDate, htells]
    exact decide_eq_false fun heq => h (Option.some.inj heq)
  scheduled s pixel m profile priority hm hhope htells := by
    have hstale : m.peripheral.isUpToDate (hash b) = false := by
      rw [Peripheral.isUpToDate, htells]
      exact decide_eq_false fun heq => h (Option.some.inj heq)
    rw [Scheduler.State.handle, Scheduler.State.withHope, Scheduler.State.withMember, hm]
    simp only [hhope, Bool.false_eq_true, if_false, Scheduler.State.program, hstale, Bool.and_false]
    exact ⟨_, rfl⟩
  announced moves pixel d kind x hd hx hbytes size := by
    have hintact := (Link.Bench.intact_start.run moves).dice pixel d hd
    have hhash : hash x.bytes = x.hash := (hintact.stored kind x hx).1.1
    have hother : ¬ (d.stored.get? kind).any (·.hash = hash b) = true := by
      rw [hx, Option.any_some, decide_eq_true_iff, ← hhash, hbytes]
      exact h
    rw [Link.Die.respond, Link.Die.announce, if_neg hother]
    split_ifs <;> simp
  committed d i hi hbuffer := by
    have hdeclined : ¬ Link.Die.accepts i.kind i.buffer (hash a) = true := by
      rw [hbuffer]
      exact fun haccepts =>
        not_genuine h i.kind ((Link.Die.accepts_iff ⟨i.kind, b, hash a⟩).mp haccepts)
    simp only [Link.Die.respond, hi, Link.Die.commit, if_neg hdeclined]
  delivered l d kind asked hopen hd hlen hresult := by
    have hdelivery := Link.delivery (p := ⟨kind, b, hash a⟩) hopen hd hlen asked
    by_cases hstores : d.Stores ⟨kind, b, hash a⟩
    · rw [(hdelivery.upToDate hstores).result_eq] at hresult
      cases hresult
    by_cases hmemory : d.options.memory < b.length
    · rw [(hdelivery.noMemory hstores hmemory).result_eq] at hresult
      cases hresult
    have hroom : b.length ≤ d.options.memory := Nat.le_of_not_lt hmemory
    by_cases hdrops : ∃ k, d.Drops ⟨kind, b, hash a⟩
        (Link.Transfer.blockSize asked l.link.maxMessage) k
    · obtain ⟨k, hk⟩ := hdrops
      rw [(hdelivery.dropped k hstores hroom hk).result_eq] at hresult
      cases hresult
    · rw [(hdelivery.rejected hstores hroom (not_exists.mp hdrops) (not_genuine h kind)).result_eq]
        at hresult
      cases hresult

end Told

/-- **A single byte is told.** Another byte at one place gives another hash, whatever stands before
and after it. So bytes that differ at one place are told apart, by the host and by the die, and the
data sets of two profiles that differ so have different hashes. -/
theorem byte_told_apart :
    (∀ (p s : List UInt8) (x y : UInt8), x ≠ y → hash (p ++ [x] ++ s) ≠ hash (p ++ [y] ++ s))
      ∧ (∀ a b i, DifferOnce a b i → ToldApart a b ∧ ToldApart b a)
      ∧ ∀ profile library options c profile' library' options' c' i,
        compile profile library options = .ok c → compile profile' library' options' = .ok c' →
        DifferOnce c.bytes c'.bytes i →
        c.hash = hash c.bytes ∧ c'.hash = hash c'.bytes ∧ c.hash ≠ c'.hash := by
  refine ⟨fun p s x y => hash_append_ne p s, fun a b i h => ?_, ?_⟩
  · exact ⟨toldApart h.hash_ne, toldApart h.symm.hash_ne⟩
  · intro profile library options c profile' library' options' c' i hc hc' h
    have hhash := (compile_sound hc).1.hash_eq
    have hhash' := (compile_sound hc').1.hash_eq
    refine ⟨hhash, hhash', ?_⟩
    rw [hhash, hhash']
    exact h.hash_ne

namespace Sample

/-- The second animation begins in another shade of red. -/
def scarlet : Animation :=
  { tinted with kind := .gradientPattern ring.uuid (.linear ⟨254, 0, 0⟩ ⟨0, 255, 0⟩) false }

/-- The library with this animation in the place of the other. -/
def scarletShelf : Library :=
  { shelf with animations := ((({} : Table Animation).put spin).1.put scarlet).1 }

end Sample

/-- Two shades of red are a single byte of a data set. -/
theorem scarlet_told_apart : ∃ c c', compile Sample.profile Sample.shelf {} = .ok c
    ∧ compile Sample.profile Sample.scarletShelf {} = .ok c' ∧ DifferOnce c.bytes c'.bytes 158
    ∧ c.hash ≠ c'.hash ∧ ToldApart c.bytes c'.bytes := by
  have hred : (compile Sample.profile Sample.shelf {}).toOption.map (fun c => c.bytes[158]?)
      = some (some 255) := by decide +kernel
  have hset : (compile Sample.profile Sample.scarletShelf {}).toOption.map Compiled.bytes
      = (compile Sample.profile Sample.shelf {}).toOption.map (fun c => c.bytes.set 158 254) := by
    decide +kernel
  cases hc : compile Sample.profile Sample.shelf {} with
  | error e =>
      rw [hc] at hred
      cases hred
  | ok c =>
      rw [hc] at hred hset
      cases hc' : compile Sample.profile Sample.scarletShelf {} with
      | error e =>
          rw [hc'] at hset
          cases hset
      | ok c' =>
          rw [hc'] at hset
          have hbytes : c'.bytes = c.bytes.set 158 254 := Option.some.inj hset
          have hdiffer : DifferOnce c.bytes c'.bytes 158 :=
            hbytes ▸ .of_set (Option.some.inj hred) (by decide)
          obtain ⟨-, htold, hhash⟩ := byte_told_apart
          exact ⟨c, c', rfl, rfl, hdiffer, (hhash _ _ _ c _ _ _ c' _ hc hc' hdiffer).2.2,
            (htold _ _ _ hdiffer).1⟩

end DiceHost.DataSet
