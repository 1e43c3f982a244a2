/-
Lists of faces and masks.

* `Marks`: the bits of a mask are those of some faces, face `n` being bit `n - 1`;
* `unionFaces_eq_error_iff`: the face that stops a union is the first one without a mask;
* `exists_unionFaces`: the union of faces that have masks has their bits and no others;
* `Marks.facesOfMask_eq`: the faces of a mask are those that it marks, sorted;
* `marks_facesOfMask`: the faces of a mask make up all of it but its top bit;
* `Passes`: the masks of faces that a check lets pass;
* `masks_of_faces`: **lists of faces and masks are inverse to each other**.
-/
import DiceHost.Proofs.Checks
import Mathlib.Data.Nat.Bitwise

namespace DiceHost.Die

variable {f mask : UInt32} {faces seen : List UInt32}

/-! ### The mask of one face -/

lemma toNat_shiftFace (h : IsFace f) : (1 <<< (f - 1) : UInt32).toNat = 2 ^ (f.toNat - 1) := by
  obtain ⟨hpos, hmax⟩ := isFace_iff.mp h
  have hshift : (f - 1).toNat = f.toNat - 1 := UInt32.toNat_sub_of_le _ _ h.1
  have hlt : 2 ^ (f.toNat - 1) < 2 ^ 32 := Nat.pow_lt_pow_right (by decide) (by omega)
  rw [UInt32.toNat_shiftLeft, hshift, Nat.mod_eq_of_lt (show f.toNat - 1 < 32 by omega),
    UInt32.toNat_one, Nat.one_shiftLeft, Nat.mod_eq_of_lt hlt]

lemma holdsFace_iff (h : IsFace f) :
    holdsFace mask f = true ↔ mask.toNat.testBit (f.toNat - 1) = true := by
  rw [holdsFace, decide_eq_true_iff, Ne, ← UInt32.toNat_inj, UInt32.toNat_and, toNat_shiftFace h,
    UInt32.toNat_zero, Nat.and_two_pow]
  cases mask.toNat.testBit (f.toNat - 1) <;> simp

/-! ### The faces that a mask marks -/

/-- The bits of a mask are those of some faces, face `n` being bit `n - 1`. -/
def Marks (mask : UInt32) (faces : List UInt32) : Prop :=
  ∀ i, mask.toNat.testBit i = true ↔ ∃ f ∈ faces, f.toNat = i + 1

lemma marks_nil : Marks 0 [] := by
  intro i
  simp

/-- The union with the mask of a face marks this face too. -/
lemma Marks.concat (h : Marks mask seen) (hf : IsFace f) :
    Marks (mask ||| 1 <<< (f - 1)) (seen ++ [f]) := by
  have hpos := (isFace_iff.mp hf).1
  intro i
  have hbit : f.toNat - 1 = i ↔ f.toNat = i + 1 := by omega
  rw [UInt32.toNat_or, Nat.testBit_or, Bool.or_eq_true, h i, toNat_shiftFace hf,
    Nat.testBit_two_pow, decide_eq_true_iff, hbit]
  simp only [List.mem_append, List.mem_singleton, or_and_right, exists_or, exists_eq_left]

/-- A mask is told by the faces that it marks. -/
lemma Marks.unique {mask' : UInt32} (h : Marks mask faces) (h' : Marks mask' faces) :
    mask = mask' := by
  refine UInt32.toNat_inj.mp (Nat.eq_of_testBit_eq fun i => ?_)
  exact Bool.eq_iff_iff.mpr ((h i).trans (h' i).symm)

/-- Neither their order matters nor how often a face is named. -/
lemma Marks.congr {faces' : List UInt32} (h : Marks mask faces)
    (hmem : ∀ f, f ∈ faces' ↔ f ∈ faces) : Marks mask faces' := by
  intro i
  simp only [hmem]
  exact h i

/-! ### The union of masks -/

/-- The face that stops a union is the first one without a mask. -/
lemma unionFaces_eq_error_iff {e : FaceError} : unionFaces mask faces = .error e ↔
    faces.find? (fun f => ¬ IsFace f) = some e.face := by
  induction faces generalizing mask with
  | nil => simp [unionFaces]
  | cons f faces ih =>
      by_cases hf : IsFace f
      · rw [unionFaces, faceMask_of_isFace hf, List.find?_cons_of_neg (by simpa using hf)]
        exact ih
      · obtain ⟨g⟩ := e
        rw [unionFaces, faceMask_of_not_isFace hf, List.find?_cons_of_pos (by simpa using hf),
          Except.error.injEq, FaceError.mk.injEq, Option.some_inj]

/-- A union is stopped if some face has no mask. -/
lemma exists_maskOfFaces_eq_error_iff :
    (∃ e, maskOfFaces faces = .error e) ↔ ∃ f ∈ faces, ¬ IsFace f := by
  have hfind : (∃ e, maskOfFaces faces = .error e)
      ↔ ∃ f, faces.find? (fun f => ¬ IsFace f) = some f := by
    constructor
    · rintro ⟨e, he⟩
      exact ⟨e.face, unionFaces_eq_error_iff.mp he⟩
    · rintro ⟨f, hf⟩
      exact ⟨⟨f⟩, unionFaces_eq_error_iff.mpr hf⟩
  rw [hfind, ← Option.isSome_iff_exists, List.find?_isSome]
  simp only [decide_eq_true_iff]

/-- Faces that have masks are added to those that a mask has marked before. -/
lemma exists_unionFaces (hseen : Marks mask seen) (h : ∀ f ∈ faces, IsFace f) :
    ∃ union, unionFaces mask faces = .ok union ∧ Marks union (seen ++ faces) := by
  -- the mask so far marks the faces taken so far, and each step adds one to both
  induction faces generalizing mask seen with
  | nil => exact ⟨mask, rfl, (List.append_nil seen).symm ▸ hseen⟩
  | cons f faces ih =>
      obtain ⟨hf, hfaces⟩ := List.forall_mem_cons.mp h
      obtain ⟨union, hunion, hmarks⟩ := ih (hseen.concat hf) hfaces
      refine ⟨union, ?_, ?_⟩
      · rw [unionFaces, faceMask_of_isFace hf]
        exact hunion
      · rwa [List.append_assoc, List.singleton_append] at hmarks

lemma exists_maskOfFaces (h : ∀ f ∈ faces, IsFace f) :
    ∃ mask, maskOfFaces faces = .ok mask ∧ Marks mask faces :=
  exists_unionFaces marks_nil h

/-- The mask of some faces is the one that marks them. -/
lemma Marks.maskOfFaces_eq (h : Marks mask faces) (hfaces : ∀ f ∈ faces, IsFace f) :
    maskOfFaces faces = .ok mask := by
  obtain ⟨union, hunion, hmarks⟩ := exists_maskOfFaces hfaces
  rw [hunion, hmarks.unique h]

/-! ### The faces of a mask -/

lemma toNat_faceAbove {i : ℕ} (h : i < 31) : (UInt32.ofNat (i + 1)).toNat = i + 1 :=
  UInt32.toNat_ofNat_of_lt' (Nat.lt_trans (Nat.succ_lt_succ h) (by decide))

lemma mem_faceRange : f ∈ faceRange ↔ IsFace f := by
  rw [faceRange, List.mem_map, isFace_iff]
  constructor
  · rintro ⟨i, hi, rfl⟩
    have hi' : i < 31 := List.mem_range.mp hi
    rw [toNat_faceAbove hi']
    omega
  · rintro ⟨hpos, hmax⟩
    refine ⟨f.toNat - 1, List.mem_range.mpr (by omega), ?_⟩
    rw [Nat.sub_add_cancel hpos, UInt32.ofNat_toNat]

lemma mem_facesOfMask :
    f ∈ facesOfMask mask ↔ IsFace f ∧ mask.toNat.testBit (f.toNat - 1) = true := by
  rw [facesOfMask, List.mem_filter, mem_faceRange]
  exact and_congr_right fun h => holdsFace_iff h

/-- The faces of a mask are told in ascending order, and each of them once. -/
lemma pairwise_facesOfMask (mask : UInt32) : (facesOfMask mask).Pairwise (· < ·) :=
  List.Pairwise.filter _ (by decide)

/-- The faces of a mask make up all of it but its top bit. -/
lemma marks_facesOfMask (mask : UInt32) : Marks (mask &&& allFaces) (facesOfMask mask) := by
  intro i
  have hall : allFaces.toNat = 2 ^ 31 - 1 := rfl
  rw [UInt32.toNat_and, hall, Nat.and_two_pow_sub_one_eq_mod, Nat.testBit_mod_two_pow,
    Bool.and_eq_true, decide_eq_true_iff]
  constructor
  · rintro ⟨hi, hbit⟩
    have hnat := toNat_faceAbove hi
    refine ⟨UInt32.ofNat (i + 1), mem_facesOfMask.mpr ⟨isFace_iff.mpr ?_, ?_⟩, hnat⟩
    · omega
    · rwa [hnat, Nat.add_sub_cancel]
  · rintro ⟨f, hf, hi⟩
    obtain ⟨hface, hbit⟩ := mem_facesOfMask.mp hf
    have hmax := (isFace_iff.mp hface).2
    rw [hi, Nat.add_sub_cancel] at hbit
    exact ⟨by omega, hbit⟩

lemma maskOfFaces_facesOfMask (mask : UInt32) :
    maskOfFaces (facesOfMask mask) = .ok (mask &&& allFaces) :=
  (marks_facesOfMask mask).maskOfFaces_eq fun _ hf => (mem_facesOfMask.mp hf).1

lemma allFaces_eq : allFaces = ~~~((1 : UInt32) <<< 31) := by
  decide

/-- A sorted list without duplicates ascends strictly. -/
lemma pairwise_mergeSort_dedup (faces : List UInt32) :
    faces.dedup.mergeSort.Pairwise (· < ·) := by
  have hsorted : faces.dedup.mergeSort.Pairwise (· ≤ ·) := List.pairwise_mergeSort' _ _
  have hnodup : faces.dedup.mergeSort.Nodup :=
    (List.mergeSort_perm _ _).nodup_iff.mpr faces.nodup_dedup
  exact hsorted.imp₂ (fun _ _ => UInt32.lt_of_le_of_ne) hnodup

/-- The faces of a mask are those that it marks, sorted. -/
lemma Marks.facesOfMask_eq (h : Marks mask faces) (hfaces : ∀ f ∈ faces, IsFace f) :
    facesOfMask mask = faces.dedup.mergeSort := by
  refine (pairwise_facesOfMask mask).eq_of_mem_iff (pairwise_mergeSort_dedup faces) fun f => ?_
  rw [(List.mergeSort_perm _ _).mem_iff, List.mem_dedup, mem_facesOfMask, h]
  constructor
  · rintro ⟨hf, g, hg, heq⟩
    have hpos := (isFace_iff.mp hf).1
    obtain rfl : g = f := UInt32.toNat_inj.mp (by omega)
    exact hg
  · intro hf
    have hpos := (isFace_iff.mp (hfaces f hf)).1
    exact ⟨hfaces f hf, f, hf, by omega⟩

/-! ### Masks that pass a check -/

/-- A mask has no bit above the highest face exactly if it is nothing but its faces. -/
lemma withinFaces_eq_ok_iff : Check.withinFaces mask = .ok () ↔ mask &&& allFaces = mask := by
  have hall : allFaces.toNat = 2 ^ 31 - 1 := rfl
  have hshift : maxFace.toNat % 32 = 31 := rfl
  rw [Check.withinFaces, Check.require_eq_ok, exceedsFaces, Bool.not_eq_true',
    decide_eq_false_iff_not, not_not, ← UInt32.toNat_inj, ← UInt32.toNat_inj,
    UInt32.toNat_shiftRight, UInt32.toNat_and, hall, hshift, Nat.and_two_pow_sub_one_eq_mod,
    Nat.shiftRight_eq_div_pow, UInt32.toNat_zero]
  omega

/-- The masks of faces that a check lets pass: those of conditions, of animations and of actions
that play one. -/
inductive Passes : UInt32 → Prop
  | condition {mask : UInt32} : (Condition.rolled mask).check = .ok () → Passes mask
  | animation {a : Animation} : a.check = .ok () → Passes a.faceMask
  | action {animation : Uuid} {mask : UInt32} {loopCount : UInt8} :
      (Action.playAnimation animation mask loopCount).check = .ok () → Passes mask

lemma Passes.withinFaces (h : Passes mask) : Check.withinFaces mask = .ok () := by
  cases h with
  | condition h =>
      rw [Condition.check, Check.someFace, Check.seq_eq_ok] at h
      exact h.2
  | animation h =>
      rw [Animation.check, Check.seq_eq_ok, Check.seq_eq_ok, Check.someFace, Check.seq_eq_ok] at h
      exact h.2.1.2
  | action h =>
      rw [Action.check, Check.seq_eq_ok] at h
      exact h.1

/-- **Lists of faces and masks are inverse to each other.** A list has a mask unless it names
something else than the faces 1 to 31, and then the first such number is told. The mask has just
the bits of the faces, whatever their order and however often each is named, and its faces are the
list, sorted and without duplicates. Every mask is the mask of its faces but for its top bit, and
so a mask is the mask of its faces exactly if it has no bit above the highest face, as all have
that a check lets pass. -/
theorem masks_of_faces :
    (∀ faces, (∃ e, maskOfFaces faces = .error e) ↔ ∃ f ∈ faces, ¬ IsFace f)
      ∧ (∀ faces e, maskOfFaces faces = .error e ↔
          faces.find? (fun f => ¬ IsFace f) = some e.face)
      ∧ (∀ faces, (∀ f ∈ faces, IsFace f) → ∃ mask, maskOfFaces faces = .ok mask
          ∧ Marks mask faces ∧ facesOfMask mask = faces.dedup.mergeSort
          ∧ ∀ faces', (∀ f, f ∈ faces' ↔ f ∈ faces) → maskOfFaces faces' = .ok mask)
      ∧ (∀ mask, maskOfFaces (facesOfMask mask) = .ok (mask &&& ~~~((1 : UInt32) <<< 31)))
      ∧ (∀ mask, maskOfFaces (facesOfMask mask) = .ok mask ↔ Check.withinFaces mask = .ok ())
      ∧ ∀ mask, Passes mask → maskOfFaces (facesOfMask mask) = .ok mask := by
  have hinverse (mask : UInt32) :
      maskOfFaces (facesOfMask mask) = .ok mask ↔ Check.withinFaces mask = .ok () := by
    rw [maskOfFaces_facesOfMask, Except.ok.injEq, withinFaces_eq_ok_iff]
  refine ⟨fun _ => exists_maskOfFaces_eq_error_iff, fun _ _ => unionFaces_eq_error_iff,
    fun faces hfaces => ?_, fun mask => ?_, hinverse,
    fun mask h => (hinverse mask).mpr h.withinFaces⟩
  · obtain ⟨mask, hmask, hmarks⟩ := exists_maskOfFaces hfaces
    refine ⟨mask, hmask, hmarks, hmarks.facesOfMask_eq hfaces, fun faces' hmem => ?_⟩
    exact (hmarks.congr hmem).maskOfFaces_eq fun f hf => hfaces f ((hmem f).mp hf)
  · rw [maskOfFaces_facesOfMask, allFaces_eq]

/-- Three faces out of order, one of them named twice; a list with two numbers that are no faces;
and a mask with its top bit. -/
theorem masks_of_scattered_faces :
    (∀ f ∈ [31, 2, 20, 2], IsFace f) ∧ maskOfFaces [31, 2, 20, 2] = .ok 0x40080002
      ∧ facesOfMask 0x40080002 = [31, 2, 20, 2].dedup.mergeSort
      ∧ [31, 2, 20, 2].dedup.mergeSort = ([2, 20, 31] : List UInt32)
      ∧ maskOfFaces [2, 20, 31] = .ok 0x40080002
      ∧ maskOfFaces [31, 40, 2, 0] = .error ⟨40⟩
      ∧ maskOfFaces (facesOfMask 0xC0080002) = .ok 0x40080002
      ∧ Passes 0x40080002 ∧ maskOfFaces (facesOfMask 0x40080002) = .ok 0x40080002 := by
  obtain ⟨-, herror, hok, htop, -, hpasses⟩ := masks_of_faces
  have hfaces : ∀ f ∈ [31, 2, 20, 2], IsFace f := by simp [isFace_iff]
  have hunion : maskOfFaces [31, 2, 20, 2] = .ok 0x40080002 := by cbv
  have hpass : Passes 0x40080002 := .condition (by cbv)
  obtain ⟨mask, hmask, -, hsorted, hsame⟩ := hok _ hfaces
  obtain rfl := Except.ok.inj (hunion.symm.trans hmask)
  refine ⟨hfaces, hunion, hsorted, by cbv, hsame [2, 20, 31] (by grind), ?_, htop 0xC0080002,
    hpass, hpasses _ hpass⟩
  exact (herror [31, 40, 2, 0] ⟨40⟩).mpr (by cbv)

end DiceHost.Die
