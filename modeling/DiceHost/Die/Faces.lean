/-
Faces of a die, and sets of faces as 32-bit masks.

* `faceMask`: the mask of one face, face `n` being bit `n - 1`;
* `IsFace`: the faces 1 to 31, those that have a mask;
* `maskOfFaces`: the union of the masks of a list of faces, refused at its first face
  without a mask;
* `facesOfMask`: the faces of a mask in ascending order.
-/
namespace DiceHost.Die

/-- The highest face that a mask can hold. -/
def maxFace : UInt32 := 31

/-- The mask of all faces that a mask can hold. -/
def allFaces : UInt32 := 0x7fffffff

/-- A face without a mask. -/
structure FaceError where
  face : UInt32
deriving DecidableEq, Repr

/-- The error in words. -/
def FaceError.message (e : FaceError) : String :=
  s!"face {e.face.toNat} is out of range, expected a value in [1, 31]"

/-- The mask of one face. -/
def faceMask (face : UInt32) : Except FaceError UInt32 :=
  if face = 0 ∨ maxFace < face then .error ⟨face⟩ else .ok (1 <<< (face - 1))

/-- The faces 1 to 31. -/
def IsFace (face : UInt32) : Prop :=
  1 ≤ face ∧ face ≤ 31

instance : DecidablePred IsFace :=
  fun face => inferInstanceAs (Decidable (1 ≤ face ∧ face ≤ 31))

section

variable {face : UInt32}

theorem isFace_iff : IsFace face ↔ 1 ≤ face.toNat ∧ face.toNat ≤ 31 := by
  rw [IsFace, UInt32.le_iff_toNat_le, UInt32.le_iff_toNat_le]
  rfl

theorem faceMask_of_isFace (h : IsFace face) : faceMask face = .ok (1 <<< (face - 1)) := by
  refine if_neg ?_
  rintro (rfl | hlt)
  · exact absurd h (by decide)
  · exact UInt32.not_lt.mpr h.2 hlt

theorem faceMask_of_not_isFace (h : ¬ IsFace face) : faceMask face = .error ⟨face⟩ := by
  refine if_pos ?_
  by_cases hzero : face = 0
  · exact .inl hzero
  · refine .inr (UInt32.not_le.mp fun hmax => h ⟨?_, hmax⟩)
    rw [UInt32.le_iff_toNat_le]
    exact Nat.pos_of_ne_zero fun hnat => hzero (UInt32.toNat_inj.mp hnat)

end

/-- The union of a mask and the masks of some faces, taken from the left. -/
def unionFaces : UInt32 → List UInt32 → Except FaceError UInt32
  | mask, [] => .ok mask
  | mask, face :: faces =>
    match faceMask face with
    | .ok m => unionFaces (mask ||| m) faces
    | .error e => .error e

/-- The union of the masks of some faces. -/
def maskOfFaces (faces : List UInt32) : Except FaceError UInt32 :=
  unionFaces 0 faces

/-- Whether a mask holds a face between 1 and 31. -/
def holdsFace (mask face : UInt32) : Bool :=
  mask &&& (1 <<< (face - 1)) ≠ 0

/-- The faces that a mask can hold, in ascending order. -/
def faceRange : List UInt32 :=
  (List.range 31).map fun i => UInt32.ofNat (i + 1)

/-- The faces of a mask in ascending order. -/
def facesOfMask (mask : UInt32) : List UInt32 :=
  faceRange.filter (holdsFace mask)

/-- Whether a mask has a bit above the highest face. -/
def exceedsFaces (mask : UInt32) : Bool :=
  mask >>> maxFace ≠ 0

end DiceHost.Die
