/-
How colours, times and settings of animations become bytes.

* `Color.rounds_scaled`: **a channel of a scaled colour is its product with the factor**, held within
  a byte; `Color.scaled_one`: at full brightness a colour stays as it is;
* `DataSet.rounds_quantizeTime`: **a time is stored in parts of 65535**, held between zero and one;
* `DataSet.rounds_unitByte`, `DataSet.rounds_cyclesByte`: **parts of one are stored in parts of 255,
  and cycles in tenths**.

Each is the exact number but for half a unit and the error of the format.
-/
import DiceHost.DataSet.Compile
import DiceHost.Proofs.Numeric.Product

namespace DiceHost

open Numeric Binary32

lemma Numeric.Binary32.toNat_byte (x : Binary32) :
    (UInt8.ofNat (x.toNearestNat 255)).toNat = x.toNearestNat 255 :=
  UInt8.toNat_ofNat_of_lt' (Nat.lt_succ_iff.mpr (toNearestNat_le 255 x))

/-! ### Colours -/

namespace Color

lemma rounds_scaleChannel {factor : Binary32} (hf : factor.isFinite = true) (c : UInt8) :
    Rounds 255 (c.toNat * factor.value) (scaleChannel factor c).toNat := by
  obtain ⟨hfinite, hvalue⟩ := finite_ofInt (n := c.toNat) (c.toNat_lt.trans (by decide))
  rw [scaleChannel, toNat_byte, ← hvalue]
  exact rounds_mul 255 hfinite hf (by decide) (by decide)

/-- **Every channel of a scaled colour is its product with the factor**, held within a byte. -/
theorem rounds_scaled {factor : Binary32} (hf : factor.isFinite = true) (c : Color) :
    Rounds 255 (c.r.toNat * factor.value) (c.scaled factor).r.toNat
      ∧ Rounds 255 (c.g.toNat * factor.value) (c.scaled factor).g.toNat
      ∧ Rounds 255 (c.b.toNat * factor.value) (c.scaled factor).b.toNat :=
  ⟨rounds_scaleChannel hf c.r, rounds_scaleChannel hf c.g, rounds_scaleChannel hf c.b⟩

/-- At full brightness a colour stays as it is. -/
theorem scaled_one (c : Color) : c.scaled .one = c := by
  obtain ⟨hfinite, hvalue⟩ := finite_one
  have hchannel (v : UInt8) : scaleChannel .one v = v := by
    have hrounds := rounds_scaleChannel hfinite v
    rw [hvalue, mul_one] at hrounds
    exact UInt8.toNat_inj.mp
      (hrounds.eq_of_natCast (Nat.lt_succ_iff.mp v.toNat_lt) (by decide))
  rw [scaled, hchannel, hchannel, hchannel]

end Color

/-! ### Times and settings -/

namespace DataSet

variable {x : Binary32}

/-- **A time is stored in parts of 65535**, held between zero and one. -/
theorem rounds_quantizeTime (hx : x.isFinite = true) :
    Rounds 65535 (65535 * max 0 (min 1 x.value)) (quantizeTime x).toNat := by
  obtain ⟨hfinite, hvalue⟩ := finite_clamp hx
  rw [quantizeTime, UInt16.toNat_ofNat_of_lt' (Nat.lt_succ_iff.mpr (toNearestNat_le 65535 _)),
    ← hvalue]
  exact rounds_mul_ofInt (n := 65535) 65535 hfinite (by decide) (by decide) (by decide)

/-- **A part of one is stored in parts of 255.** -/
theorem rounds_unitByte (hx : x.isFinite = true) :
    Rounds 255 (255 * x.value) (unitByte x).toNat := by
  rw [unitByte, toNat_byte]
  exact rounds_mul_ofInt (n := 255) 255 hx (by decide) (by decide) (by decide)

/-- **Cycles are stored in tenths**, held within a byte. -/
theorem rounds_cyclesByte (hx : x.isFinite = true) :
    Rounds 255 (10 * x.value) (cyclesByte x).toNat := by
  rw [cyclesByte, toNat_byte]
  exact rounds_mul_ofInt (n := 10) 255 hx (by decide) (by decide) (by decide)

end DataSet

end DiceHost
