/-
Written values are decoded as they were.

* `Decoder.word32_node`, `Decoder.list_node`: words and lists are decoded from what is read where
  they were written;
* `Decoder.nullable_node`: so is a value that may be absent;
* `Record.Restores`: a record finds a value among entries; `Restores.map`, `Restores.seq`,
  `Restores.field` and `Restores.optional` follow the way in which records are built;
* `Record.decode_node`, `tagged_node`: so an object is decoded by a record, or by the record that
  its tag names;
* `Uuid.decode_node`, `Flags.decode_node`, `DieKind.decode_node`: so are identifiers, sets of flags
  and names.
-/
import DiceHost.Proofs.Json.Entities
import DiceHost.Proofs.Json.Reading

namespace DiceHost

open Numeric

namespace Json

/-! ### Words and lists -/

namespace Decoder

lemma natBelow_node {n limit : ℕ} (h : n < limit) : natBelow limit (nat n).node = .ok n := by
  have hn : (0 : ℤ) ≤ n ∧ (n : ℤ) < limit := ⟨Int.natCast_nonneg n, by exact_mod_cast h⟩
  change (if (0 : ℤ) ≤ n ∧ (n : ℤ) < limit then Except.ok (n : ℤ).toNat else _) = _
  rw [if_pos hn, Int.toNat_natCast]

lemma byte_node (b : UInt8) : byte (nat b.toNat).node = .ok b := by
  rw [byte, natBelow_node b.toNat_lt, Except.map, UInt8.ofNat_toNat]

lemma word32_node (w : UInt32) : word32 (nat w.toNat).node = .ok w := by
  rw [word32, natBelow_node w.toNat_lt, Except.map, UInt32.ofNat_toNat]

lemma string_node (s : String) : string (Json.str s).node = .ok s := rfl

lemma bool_node (b : Bool) : bool (Json.bool b).node = .ok b := rfl

lemma single_node {x : Binary32} (h : (Json.single x).Readable) :
    Decoder.single (Json.single x).node = .ok x :=
  Node.single_numberNode (readable_single.mp h)

lemma mapM_ok {α β : Type} {d : α → Except DecodeError β} {f : β → α} {xs : List β}
    (h : ∀ x ∈ xs, d (f x) = .ok x) : (xs.map f).mapM d = .ok xs := by
  induction xs with
  | nil => rfl
  | cons x xs ih =>
      rw [List.map_cons, List.mapM_cons, h x List.mem_cons_self,
        ih fun y hy => h y (List.mem_cons_of_mem x hy)]
      rfl

/-- A list is decoded when each of its members is. -/
lemma list_node {α : Type} {d : Decoder α} {f : α → Json} {xs : List α}
    (h : ∀ x ∈ xs, d (f x).node = .ok x) : list d (Json.list f xs).node = .ok xs := by
  rw [Json.list, node, nodeItems_eq, List.map_map]
  exact mapM_ok h

lemma text_node {α : Type} {f : String → Option α} {s : String} {x : α} (h : f s = some x) :
    text f (Json.str s).node = .ok x := by
  rw [node, text, h]

lemma word_node {α : Type} {f : String → Option α} {s : String} {x : α} (h : f s = some x) :
    word f (Json.str s).node = .ok x := by
  rw [node, word, h]

/-- A value that may be absent is decoded by a reader that refuses `null`. -/
lemma nullable_node {α : Type} {d : Decoder α} {f : α → Json} {o : Option α}
    (hnull : d .null = .error .mistyped) (h : ∀ x ∈ o, d (f x).node = .ok x) :
    nullable d (Json.opt f o).node = .ok o := by
  cases o with
  | none => rfl
  | some x =>
      have hx := h x rfl
      have hne : (f x).node ≠ .null := by
        intro heq
        rw [heq, hnull] at hx
        cases hx
      rw [Json.opt, nullable, hx]
      · rfl
      · exact hne

end Decoder

/-! ### Records -/

namespace Record

variable {α β : Type} {es : List (String × Json)} {name : String} {j : Json}

/-- A record finds a value among entries that were written. -/
def Restores (r : Record α) (es : List (String × Json)) (x : α) : Prop :=
  ∀ offset, r.run offset (.named (nodeEntries es)) = .ok x

namespace Restores

lemma pure (x : α) : (Pure.pure x : Record α).Restores es x := fun _ => rfl

lemma seq {f : Record (α → β)} {r : Record α} {g : α → β} {x : α} (hf : f.Restores es g)
    (hr : r.Restores es x) : (f <*> r).Restores es (g x) := by
  intro offset
  change combine (f.run offset _) (r.run (offset + f.names.length) _) = _
  rw [hf, hr, combine]

lemma map {r : Record α} {x : α} (h : r.Restores es x) (f : α → β) :
    (f <$> r).Restores es (f x) :=
  (pure f).seq h

end Restores

/-- The only entry of a name is found. -/
lemma lookup_named {n : Node} {ns : List (String × Node)}
    (h : ns.filter (·.1 = name) = [(name, n)]) (offset : ℕ) :
    ∃ i, lookup name (.named ns) offset = .ok (some (i, n)) := by
  have hfst : (ns.zipIdx.filter (·.1.1 = name)).map (·.1) = [(name, n)] := by
    rw [← h]
    conv_rhs => rw [← List.zipIdx_map_fst 0 ns, List.filter_map]
    rfl
  obtain ⟨⟨e, i⟩, hfilter, rfl⟩ := List.map_eq_singleton_iff.mp hfst
  refine ⟨i, ?_⟩
  rw [lookup, hfilter]

lemma Restores.fieldOr {d : Decoder α} {absent missing : Option α} {x : α}
    (h : es.filter (·.1 = name) = [(name, j)]) (hd : d j.node = .ok x) :
    (Record.fieldOr name d absent missing).Restores es x := by
  intro offset
  have hfilter : (nodeEntries es).filter (·.1 = name) = [(name, j.node)] := by
    rw [nodeEntries_eq, List.filter_map]
    have hmap := congrArg (List.map fun e : String × Json => (e.1, e.2.node)) h
    exact hmap
  obtain ⟨i, hi⟩ := lookup_named hfilter offset
  rw [Record.fieldOr]
  dsimp only
  rw [hi]
  dsimp only
  rw [hd]
  rfl

/-- A field is found when its name occurs once. -/
lemma Restores.field {d : Decoder α} {x : α} (h : es.filter (·.1 = name) = [(name, j)])
    (hd : d j.node = .ok x) : (Record.field name d).Restores es x :=
  .fieldOr h hd

lemma Restores.optional {d : Decoder α} {f : α → Json} {o : Option α}
    (h : es.filter (·.1 = name) = [(name, .opt f o)])
    (hnull : d .null = .error .mistyped) (hd : ∀ x ∈ o, d (f x).node = .ok x) :
    (Record.optional name d).Restores es o :=
  .fieldOr h (Decoder.nullable_node hnull hd)

lemma Restores.defaulted {d : Decoder α} {x y : α} (h : es.filter (·.1 = name) = [(name, j)])
    (hd : d j.node = .ok x) : (Record.defaulted name d y).Restores es x :=
  .fieldOr h hd

/-- Entries under the names of a record are decoded when the record finds a value among them. -/
lemma ofEntries_node {r : Record α} {x : α} (hnames : r.names = es.map (·.1))
    (h : r.Restores es x) : r.ofEntries (.named (nodeEntries es)) = .ok x := by
  have hknown : firstBroken r.names (nodeEntries es) = none := by
    rw [firstBroken, Option.map_eq_none_iff, List.find?_eq_none]
    rintro ⟨e, i⟩ hp
    have hmem : e ∈ nodeEntries es := List.fst_mem_of_mem_zipIdx hp
    rw [nodeEntries_eq] at hmem
    obtain ⟨e', he', rfl⟩ := List.mem_map.mp hmem
    have hname : e'.1 ∈ r.names := hnames ▸ List.mem_map_of_mem he'
    simp [hname]
  rw [ofEntries, h, hknown]

/-- An object is decoded when the record finds a value among its entries. -/
lemma decode_node {r : Record α} {x : α} (hnames : r.names = es.map (·.1))
    (h : r.Restores es x) : r.decode (obj es).node = .ok x :=
  ofEntries_node hnames h

/-- Entries after a tag are decoded by the record that is chosen by the tag. -/
lemma taggedEntries_node {key tag : String} {choose : Node → Option (Record α)} {r : Record α}
    {x : α} (htag : choose (.str tag) = some r) (hkey : key ∉ es.map (·.1))
    (hnames : r.names = es.map (·.1)) (h : r.Restores es x) :
    taggedEntries key choose (nodeEntries ((key, .str tag) :: es)) = .ok x := by
  have hne : ∀ e ∈ nodeEntries es, e.1 ≠ key := by
    rw [nodeEntries_eq, List.forall_mem_map]
    rintro e he rfl
    exact hkey (List.mem_map_of_mem he)
  have hsplit : splitKey key (nodeEntries ((key, .str tag) :: es))
      = ([.str tag], nodeEntries es) := by
    rw [splitKey, nodeEntries, node, List.filter_cons_of_pos (by simp),
      List.filter_cons_of_neg (by simp), List.filter_eq_nil_iff.mpr (by simpa using hne),
      List.filter_eq_self.mpr (by simpa using hne)]
    rfl
  rw [taggedEntries, hsplit]
  dsimp only
  rw [htag]
  exact ofEntries_node hnames h

/-- An object is decoded by the record that its tag names. -/
lemma tagged_node {key tag : String} {variants : List (String × Record α)} {r : Record α} {x : α}
    (husable : (obj ((key, .str tag) :: es)).node.isUsable = true)
    (htag : variant? variants (.str tag) = some r) (hkey : key ∉ es.map (·.1))
    (hnames : r.names = es.map (·.1)) (h : r.Restores es x) :
    tagged key variants (obj ((key, .str tag) :: es)).node = .ok x := by
  have htagged : tagged key variants (obj ((key, .str tag) :: es)).node
      = if (obj ((key, .str tag) :: es)).node.isUsable then
          taggedEntries key (variant? variants) (nodeEntries ((key, .str tag) :: es))
        else .error .malformed := rfl
  rw [htagged, if_pos husable]
  exact taggedEntries_node htag hkey hnames h

end Record

end Json

/-! ### Identifiers, sets of flags and names -/

lemma Uuid.decode_node (u : Uuid) : decode u.toJson.node = .ok u :=
  Json.Decoder.text_node u.parse?_text

lemma Flags.decode_node {kind : FlagKind} (f : Flags kind) : decode f.toJson.node = .ok f :=
  Json.Decoder.text_node f.parse?_text

lemma DieKind.decode_node (k : DieKind) : decode k.toJson.node = .ok k :=
  Json.Decoder.word_node k.ofName?_name

lemma Timestamp.decode_node {t : Timestamp} (h : parse? t.text = some t) :
    decode t.toJson.node = .ok t :=
  Json.Decoder.text_node h

end DiceHost
