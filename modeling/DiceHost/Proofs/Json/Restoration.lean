/-
Entities are decoded as they were written.

* `Animation.modest_toJson`, `Pattern.modest_toJson`, `Profile.modest_toJson`: the documents of
  entities are nested a few levels deep;
* `Pattern.decode_node`, `Animation.decode_node`, `Profile.decode_node`: **what is read where an
  entity was written is decoded as that entity**, when its numbers, and the times of a profile, are
  read back from their texts.
-/
import DiceHost.Proofs.Json.Decoding

namespace DiceHost

open Json Json.Record

/-! ### Nesting -/

namespace Json

variable {d : ℕ}

@[simp] lemma modest_str (s : String) : (Json.str s).Modest d := .str s

@[simp] lemma modest_bool (b : Bool) : (Json.bool b).Modest d := .bool b

@[simp] lemma modest_single (x : Numeric.Binary32) : (Json.single x).Modest d := .single x

@[simp] lemma modest_byte (b : UInt8) : (Json.nat b.toNat).Modest d :=
  .nat (b.toNat_lt.trans (by decide))

@[simp] lemma modest_word (w : UInt32) : (Json.nat w.toNat).Modest d :=
  .nat (w.toNat_lt.trans (by decide))

@[simp] lemma modest_list {α : Type} {f : α → Json} {xs : List α}
    (h : ∀ x ∈ xs, (f x).Modest d) : (Json.list f xs).Modest (d + 1) := by
  refine .arr fun j hj => ?_
  obtain ⟨x, hx, rfl⟩ := List.mem_map.mp hj
  exact h x hx

lemma modest_opt {α : Type} {f : α → Json} {o : Option α} (h : ∀ x ∈ o, (f x).Modest d) :
    (Json.opt f o).Modest d := by
  cases o with
  | none => exact .null
  | some x => exact h x rfl

end Json

section Nesting

variable {d : ℕ}

@[simp] lemma Uuid.modest_toJson (u : Uuid) : u.toJson.Modest d := .str _

@[simp] lemma DieKind.modest_toJson (k : DieKind) : k.toJson.Modest d := .str _

@[simp] lemma Flags.modest_toJson {kind : FlagKind} (f : Flags kind) : f.toJson.Modest d := .str _

@[simp] lemma Timestamp.modest_toJson (t : Timestamp) : t.toJson.Modest d := .str _

@[simp] lemma Color.modest_toJson (c : Color) : c.toJson.Modest (d + 1) := .obj (by simp)

@[simp] lemma Keyframe.modest_toJson (k : Keyframe) : k.toJson.Modest (d + 2) := .obj (by simp)

@[simp] lemma Gradient.modest_toJson (g : Gradient) : g.toJson.Modest (d + 4) := .obj (by simp)

@[simp] lemma PatternTrack.modest_toJson (t : PatternTrack) : t.toJson.Modest (d + 4) :=
  .obj (by simp)

lemma Pattern.modest_toJson (p : Pattern) : p.toJson.Modest (d + 6) := .obj (by simp)

lemma AnimationKind.modest_entries (k : AnimationKind) : ∀ e ∈ k.entries, e.2.Modest (d + 4) := by
  cases k <;> simp [entries]

lemma Animation.modest_toJson (a : Animation) : a.toJson.Modest (d + 5) :=
  .obj (List.forall_mem_append.mpr ⟨by simp, a.kind.modest_entries⟩)

@[simp] lemma Condition.modest_toJson (c : Condition) : c.toJson.Modest (d + 1) := by
  cases c <;> exact .obj (by simp)

@[simp] lemma Action.modest_toJson (a : Action) : a.toJson.Modest (d + 1) := by
  cases a <;> exact .obj (by simp)

@[simp] lemma Rule.modest_toJson (r : Rule) : r.toJson.Modest (d + 3) := .obj (by simp)

lemma Profile.modest_toJson (p : Profile) : p.toJson.Modest (d + 5) := .obj (by simp)

end Nesting

/-! ### Keyframes, tracks and patterns -/

lemma Color.decode_node (c : Color) : record.decode c.toJson.node = .ok c :=
  Record.decode_node rfl
    ((Restores.field (by simp) (Decoder.byte_node c.r)).map Color.mk
      |>.seq (.field (by simp) (Decoder.byte_node c.g))
      |>.seq (.field (by simp) (Decoder.byte_node c.b)))

lemma Keyframe.decode_node {k : Keyframe} (h : k.toJson.Readable) :
    record.decode k.toJson.node = .ok k := by
  have htime := readable_obj.mp h ("time", .single k.time) (by simp)
  exact Record.decode_node rfl
    ((Restores.field (by simp) (Decoder.single_node htime)).map Keyframe.mk
      |>.seq (.field (by simp) k.color.decode_node))

lemma Keyframe.list_node {ks : List Keyframe} (h : (Json.list Keyframe.toJson ks).Readable) :
    Decoder.list record.decode (Json.list Keyframe.toJson ks).node = .ok ks :=
  Decoder.list_node fun k hk => Keyframe.decode_node (readable_list.mp h k hk)

lemma Gradient.decode_node {g : Gradient} (h : g.toJson.Readable) :
    record.decode g.toJson.node = .ok g := by
  have hkeyframes := readable_obj.mp h ("keyframes", .list Keyframe.toJson g.keyframes) (by simp)
  exact Record.decode_node rfl
    ((Restores.field (by simp) (Keyframe.list_node hkeyframes)).map Gradient.mk)

lemma PatternTrack.decode_node {t : PatternTrack} (h : t.toJson.Readable) :
    record.decode t.toJson.node = .ok t := by
  have hkeyframes := readable_obj.mp h ("keyframes", .list Keyframe.toJson t.keyframes) (by simp)
  exact Record.decode_node rfl
    ((Restores.field (by simp) (Decoder.word32_node t.ledMask)).map PatternTrack.mk
      |>.seq (.field (by simp) (Keyframe.list_node hkeyframes)))

/-- **A pattern is decoded as it was written.** -/
theorem Pattern.decode_node {p : Pattern} (h : p.toJson.Readable) :
    record.decode p.toJson.node = .ok p := by
  have htracks := readable_obj.mp h ("tracks", .list PatternTrack.toJson p.tracks) (by simp)
  exact Record.decode_node rfl
    ((Restores.field (by simp) p.uuid.decode_node).map Pattern.mk
      |>.seq (.field (by simp) (Decoder.string_node p.name))
      |>.seq (.field (by simp) (Decoder.list_node fun t ht =>
        PatternTrack.decode_node (readable_list.mp htracks t ht))))

/-! ### Animations -/

/-- The entries of a kind are decoded as that kind. -/
lemma AnimationKind.taggedEntries_node {k : AnimationKind} (h : ∀ e ∈ k.entries, e.2.Readable) :
    taggedEntries "type" (variantOrNumber? variants) (nodeEntries k.entries) = .ok k := by
  cases k with
  | simple color count fade =>
      have hfade := h ("fade", .single fade) (by simp [entries])
      exact Record.taggedEntries_node rfl (by simp) rfl
        ((Restores.field (by simp) color.decode_node).map simple
          |>.seq (.field (by simp) (Decoder.byte_node count))
          |>.seq (.field (by simp) (Decoder.single_node hfade)))
  | gradient g =>
      have hg := h ("gradient", g.toJson) (by simp [entries])
      exact Record.taggedEntries_node rfl (by simp) rfl
        ((Restores.field (by simp) (Gradient.decode_node hg)).map gradient)
  | gradientPattern pattern g override =>
      have hg := h ("gradient", g.toJson) (by simp [entries])
      exact Record.taggedEntries_node rfl (by simp) rfl
        ((Restores.field (by simp) pattern.decode_node).map gradientPattern
          |>.seq (.field (by simp) (Gradient.decode_node hg))
          |>.seq (.field (by simp) (Decoder.bool_node override)))
  | keyframed pattern traveling useLedIndices =>
      exact Record.taggedEntries_node rfl (by simp) rfl
        ((Restores.field (by simp) pattern.decode_node).map keyframed
          |>.seq (.field (by simp) (Decoder.bool_node traveling))
          |>.seq (.defaulted (by simp) (Decoder.bool_node useLedIndices)))
  | rainbow count fade intensity cycles traveling =>
      have hfade := h ("fade", .single fade) (by simp [entries])
      have hintensity := h ("intensity", .single intensity) (by simp [entries])
      have hcycles := h ("cycles", .single cycles) (by simp [entries])
      exact Record.taggedEntries_node rfl (by simp) rfl
        ((Restores.field (by simp) (Decoder.byte_node count)).map rainbow
          |>.seq (.field (by simp) (Decoder.single_node hfade))
          |>.seq (.field (by simp) (Decoder.single_node hintensity))
          |>.seq (.field (by simp) (Decoder.single_node hcycles))
          |>.seq (.defaulted (by simp) (Decoder.bool_node traveling)))
  | noise => exact Record.taggedEntries_node rfl (by simp) rfl (.pure noise)
  | cycle g count fade intensity cycles =>
      have hg := h ("gradient", g.toJson) (by simp [entries])
      have hfade := h ("fade", .single fade) (by simp [entries])
      have hintensity := h ("intensity", .single intensity) (by simp [entries])
      have hcycles := h ("cycles", .single cycles) (by simp [entries])
      exact Record.taggedEntries_node rfl (by simp) rfl
        ((Restores.field (by simp) (Gradient.decode_node hg)).map cycle
          |>.seq (.field (by simp) (Decoder.byte_node count))
          |>.seq (.field (by simp) (Decoder.single_node hfade))
          |>.seq (.field (by simp) (Decoder.single_node hintensity))
          |>.seq (.field (by simp) (Decoder.single_node hcycles)))

namespace Animation

/-- The entries of an animation beside those of its kind. -/
def ownEntries (a : Animation) : List (String × Json) :=
  [("uuid", a.uuid.toJson), ("name", .str a.name), ("duration_ms", .nat a.duration.toNat),
    ("face_mask", .nat a.faceMask.toNat)]

lemma ownEntries_known (a : Animation) : ∀ e ∈ a.ownEntries, head.names.contains e.1 = true := by
  have hnames : head.names = ["uuid", "name", "duration_ms", "face_mask"] := rfl
  rw [hnames]
  simp [ownEntries]

/-- The entries of a kind have names of their own. -/
lemma entries_unknown (k : AnimationKind) : ∀ e ∈ k.entries, head.names.contains e.1 = false := by
  have hnames : head.names = ["uuid", "name", "duration_ms", "face_mask"] := rfl
  rw [hnames]
  cases k <;> simp [AnimationKind.entries]

lemma head_node (a : Animation) : head.ofEntries (.named (nodeEntries a.ownEntries))
    = .ok (Animation.mk a.uuid a.name a.duration a.faceMask) :=
  Record.ofEntries_node rfl
    ((Restores.field (by simp [ownEntries]) a.uuid.decode_node).map Animation.mk
      |>.seq (.field (by simp [ownEntries]) (Decoder.string_node a.name))
      |>.seq (.field (by simp [ownEntries]) (Decoder.word32_node a.duration))
      |>.seq (.field (by simp [ownEntries]) (Decoder.word32_node a.faceMask)))

/-- The entries are told apart by their names. -/
lemma filter_entries (a : Animation) (own : Bool) :
    (nodeEntries (a.ownEntries ++ a.kind.entries)).filter (head.names.contains ·.1 == own)
      = nodeEntries (if own then a.ownEntries else a.kind.entries) := by
  have hfilter : (a.ownEntries ++ a.kind.entries).filter (head.names.contains ·.1 == own)
      = if own then a.ownEntries else a.kind.entries := by
    rw [List.filter_append]
    cases own
    · rw [List.filter_eq_nil_iff.mpr fun e he => by rw [a.ownEntries_known e he]; decide,
        List.filter_eq_self.mpr fun e he => by rw [entries_unknown a.kind e he]; rfl]
      rfl
    · rw [List.filter_eq_self.mpr fun e he => by rw [a.ownEntries_known e he]; rfl,
        List.filter_eq_nil_iff.mpr fun e he => by rw [entries_unknown a.kind e he]; decide,
        List.append_nil]
      rfl
  rw [nodeEntries_eq, List.filter_map, nodeEntries_eq, ← hfilter]
  rfl

/-- **An animation is decoded as it was written.** -/
theorem decode_node {a : Animation} (h : a.toJson.Readable) : decode a.toJson.node = .ok a := by
  have hreadable : ∀ e ∈ a.kind.entries, e.2.Readable := fun e he =>
    readable_obj.mp h e (List.mem_append_right _ he)
  have husable : Node.allEntriesUsable (nodeEntries a.kind.entries) = true := by
    rw [Node.allEntriesUsable_iff, nodeEntries_eq, List.forall_mem_map]
    exact fun e he => Node.isUsable_node (a.kind.modest_entries (d := 0) e he) (hreadable e he)
  have hown := a.filter_entries true
  have hkind := a.filter_entries false
  simp only [beq_true, beq_false, if_true, Bool.false_eq_true, if_false] at hown hkind
  change decode (.obj (nodeEntries (a.ownEntries ++ a.kind.entries))) = _
  rw [decode]
  simp only [hown, hkind, husable, head_node, AnimationKind.taggedEntries_node hreadable]
  rfl

end Animation

/-! ### Rules and profiles -/

lemma Condition.decode_node {c : Condition} (h : c.toJson.Readable) :
    decode c.toJson.node = .ok c := by
  have husable := Node.isUsable_node (c.modest_toJson (d := 0)) h
  cases c with
  | rolled mask =>
      exact Record.tagged_node husable rfl (by simp) rfl
        ((Restores.field (by simp) (Decoder.word32_node mask)).map rolled)
  | crooked => exact Record.tagged_node husable rfl (by simp) rfl (.pure crooked)
  | handling => exact Record.tagged_node husable rfl (by simp) rfl (.pure handling)
  | rolling ms =>
      exact Record.tagged_node husable rfl (by simp) rfl
        ((Restores.field (by simp) (Decoder.word32_node ms)).map rolling)
  | idle ms =>
      exact Record.tagged_node husable rfl (by simp) rfl
        ((Restores.field (by simp) (Decoder.word32_node ms)).map idle)
  | batteryState flags ms =>
      exact Record.tagged_node husable rfl (by simp) rfl
        ((Restores.field (by simp) flags.decode_node).map batteryState
          |>.seq (.field (by simp) (Decoder.word32_node ms)))
  | connectionState flags =>
      exact Record.tagged_node husable rfl (by simp) rfl
        ((Restores.field (by simp) flags.decode_node).map connectionState)
  | helloGoodbye flags =>
      exact Record.tagged_node husable rfl (by simp) rfl
        ((Restores.field (by simp) flags.decode_node).map helloGoodbye)
  | faceCompare face flags =>
      exact Record.tagged_node husable rfl (by simp) rfl
        ((Restores.field (by simp) (Decoder.word32_node face)).map faceCompare
          |>.seq (.field (by simp) flags.decode_node))

lemma Action.decode_node {a : Action} (h : a.toJson.Readable) : decode a.toJson.node = .ok a := by
  have husable := Node.isUsable_node (a.modest_toJson (d := 0)) h
  cases a with
  | playAnimation animation mask loopCount =>
      exact Record.tagged_node husable rfl (by simp) rfl
        ((Restores.field (by simp) animation.decode_node).map playAnimation
          |>.seq (.field (by simp) (Decoder.word32_node mask))
          |>.seq (.field (by simp) (Decoder.byte_node loopCount)))
  | playAudioClip clip volume loopCount =>
      exact Record.tagged_node husable rfl (by simp) rfl
        ((Restores.field (by simp) clip.decode_node).map playAudioClip
          |>.seq (.field (by simp) (Decoder.byte_node volume))
          |>.seq (.field (by simp) (Decoder.byte_node loopCount)))
  | makeWebRequest url value format =>
      exact Record.tagged_node husable rfl (by simp) rfl
        ((Restores.field (by simp) (Decoder.string_node url)).map makeWebRequest
          |>.seq (.field (by simp) (Decoder.string_node value))
          |>.seq (.defaulted (by simp) (Decoder.word_node format.ofName?_name)))
  | speakText text pitch rate =>
      have hpitch := readable_obj.mp h ("pitch", .single pitch) (by simp)
      have hrate := readable_obj.mp h ("rate", .single rate) (by simp)
      exact Record.tagged_node husable rfl (by simp) rfl
        ((Restores.field (by simp) (Decoder.string_node text)).map speakText
          |>.seq (.field (by simp) (Decoder.single_node hpitch))
          |>.seq (.field (by simp) (Decoder.single_node hrate)))

lemma Rule.decode_node {r : Rule} (h : r.toJson.Readable) :
    record.decode r.toJson.node = .ok r := by
  have hcondition := readable_obj.mp h ("condition", r.condition.toJson) (by simp)
  have hactions := readable_obj.mp h ("actions", .list Action.toJson r.actions) (by simp)
  exact Record.decode_node rfl
    ((Restores.field (by simp) (Condition.decode_node hcondition)).map Rule.mk
      |>.seq (.field (by simp) (Decoder.list_node fun a ha =>
        Action.decode_node (readable_list.mp hactions a ha))))

/-- **A profile is decoded as it was written.** -/
theorem Profile.decode_node {p : Profile} (h : p.toJson.Readable)
    (hcreated : Timestamp.parse? p.created.text = some p.created)
    (hmodified : Timestamp.parse? p.modified.text = some p.modified) :
    record.decode p.toJson.node = .ok p := by
  have hrules := readable_obj.mp h ("rules", .list Rule.toJson p.rules) (by simp)
  have hbrightness := readable_obj.mp h ("brightness", .single p.brightness) (by simp)
  exact Record.decode_node rfl
    ((Restores.field (by simp) p.uuid.decode_node).map Profile.mk
      |>.seq (.field (by simp) (Decoder.string_node p.name))
      |>.seq (.defaulted (by simp) (Decoder.string_node p.description))
      |>.seq (.defaulted (by simp) p.dieKind.decode_node)
      |>.seq (.field (by simp) (Decoder.list_node fun r hr =>
        Rule.decode_node (readable_list.mp hrules r hr)))
      |>.seq (.field (by simp) (Decoder.single_node hbrightness))
      |>.seq (.field (by simp) (Timestamp.decode_node hcreated))
      |>.seq (.field (by simp) (Timestamp.decode_node hmodified)))

end DiceHost
