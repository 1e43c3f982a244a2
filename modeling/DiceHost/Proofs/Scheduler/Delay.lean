/-
The delays between attempts.

* `Config.documented`: the delay as it is documented: doubled with each failure after the first
  one, and cut at the longest delay;
* `Config.backoff_eq`: the cut at 64 bits makes no difference, the limit of 31 doublings does;
* `Config.backoff_exact`: **the delay is the documented one exactly up to the 32nd failure, or if
  31 doublings reach the longest delay**; it never falls and never exceeds the longest delay;
* `State.delay_of_failure`: the delays after failures are those of attempts within the number that
  is tolerated, so they are the documented ones if at most 32 failures are.
-/
import DiceHost.Scheduler.Turn
import Mathlib.Tactic

namespace DiceHost.Scheduler

namespace Config

/-- The delay after the failure of a number as it is documented, in numbers without bound. -/
def documented (c : Config) (n : ℕ) : ℕ :=
  min (c.backoffBase.toNat * 2 ^ (n - 1)) c.maxBackoff.toNat

variable (c : Config)

lemma documented_le (n : ℕ) : c.documented n ≤ c.maxBackoff.toNat :=
  min_le_right _ _

lemma documented_mono : Monotone c.documented := by
  intro m n h
  refine min_le_min_right _ (Nat.mul_le_mul_left _ ?_)
  exact Nat.pow_le_pow_right Nat.two_pos (Nat.sub_le_sub_right h 1)

/-- A product beyond 64 bits is beyond every longest delay, so its cut makes no difference. -/
lemma backoff_eq (n : UInt32) : c.backoff n = c.documented (min n.toNat 32) := by
  have hlargest : c.maxBackoff.toNat ≤ largest := Nat.le_sub_one_of_lt c.maxBackoff.toNat_lt
  have hdoublings : min n.toNat 32 - 1 = min (n.toNat - 1) 31 := by omega
  rw [documented, hdoublings, backoff, min_assoc, min_eq_right hlargest]
  rfl

/-- After the 32nd failure the documented delay grows on, unless there is nothing to double or the
longest delay is reached. -/
lemma documented_eq_iff {n : ℕ} (hn : 32 < n) : c.documented 32 = c.documented n
    ↔ c.backoffBase = 0 ∨ c.maxBackoff.toNat ≤ c.backoffBase.toNat * 2 ^ 31 := by
  have hgrows : c.backoffBase.toNat * 2 ^ 32 ≤ c.backoffBase.toNat * 2 ^ (n - 1) :=
    Nat.mul_le_mul_left _ (Nat.pow_le_pow_right Nat.two_pos (by omega))
  have hzero : c.backoffBase = 0 ↔ c.backoffBase.toNat = 0 := UInt64.toNat_inj.symm
  rw [documented, documented, hzero]
  constructor
  · intro h
    omega
  · rintro (h | h)
    · rw [h, Nat.zero_mul, Nat.zero_mul]
    · omega

/-- When the delay is the documented one. -/
lemma backoff_eq_documented_iff (n : UInt32) : c.backoff n = c.documented n.toNat ↔
    n ≤ 32 ∨ c.backoffBase = 0 ∨ c.maxBackoff.toNat ≤ c.backoffBase.toNat * 2 ^ 31 := by
  have hle : n ≤ 32 ↔ n.toNat ≤ 32 := UInt32.le_iff_toNat_le
  rw [backoff_eq, hle]
  by_cases hn : n.toNat ≤ 32
  · rw [min_eq_left hn]
    exact iff_of_true rfl (.inl hn)
  · rw [min_eq_right (Nat.le_of_not_le hn), c.documented_eq_iff (Nat.lt_of_not_le hn),
      or_iff_right hn]

/-- **The delay between attempts.** It is the documented one exactly up to the 32nd failure, or if
there is nothing to double, or if the longest delay is reached by then; after more failures it is
that of the 32nd. It never falls from one failure to the next, and never exceeds the longest
delay. -/
theorem backoff_exact :
    (∀ n, c.backoff n = c.documented n.toNat ↔
        n ≤ 32 ∨ c.backoffBase = 0 ∨ c.maxBackoff.toNat ≤ c.backoffBase.toNat * 2 ^ 31)
      ∧ (∀ n, c.backoff n = c.documented (min n.toNat 32))
      ∧ (∀ m n, m ≤ n → c.backoff m ≤ c.backoff n)
      ∧ ∀ n, c.backoff n ≤ c.maxBackoff.toNat := by
  refine ⟨c.backoff_eq_documented_iff, c.backoff_eq, fun m n h => ?_, fun n => ?_⟩
  · rw [backoff_eq, backoff_eq]
    exact c.documented_mono (min_le_min_right _ (UInt32.le_iff_toNat_le.mp h))
  · rw [backoff_eq]
    exact c.documented_le _

/-- A base of one millisecond has been doubled 31 times at the 32nd failure, and stays so, though a
longest delay of 34 years is far off. -/
theorem backoff_stops_doubling :
    let c : Config := { backoffBase := 1, maxBackoff := 1099511627776 }
    c.backoff 33 = 2147483648 ∧ c.documented 33 = 4294967296 := by
  decide +kernel

end Config

/-- The delay after a failure is that of an attempt within the number that is tolerated. -/
theorem State.delay_of_failure {s : State} {c : Config} {p : PixelId} {e : Link.LinkError}
    {delay epoch : ℕ} (h : (s.connectFailed c p e).2 = some (delay, epoch)) :
    ∃ a ≤ c.maxRetries, delay = c.backoff a
      ∧ (c.maxRetries ≤ 32 → delay = c.documented a.toNat) := by
  rw [connectFailed.eq_def] at h
  dsimp only at h
  split at h
  · cases h
  · split_ifs at h with hremoved hmany
    rename_i m _
    obtain ⟨rfl, -⟩ := Prod.mk.inj (Option.some.inj h)
    have hle : m.attempts + 1 ≤ c.maxRetries := UInt32.not_lt.mp hmany
    refine ⟨m.attempts + 1, hle, rfl, fun hfew => ?_⟩
    exact (c.backoff_eq_documented_iff _).mpr (.inl (UInt32.le_trans hle hfew))

end DiceHost.Scheduler
