import Mathlib.Algebra.Order.Ring.Nat
import PlcMonitor.Device.Backoff

/-! Pauses are exact: where a word would overflow, the largest word stands in its place, and no cap
can tell it from the true number. -/
namespace PlcMonitor.Backoff

theorem le_largest_iff {n : Nat} : n ≤ largest.toNat ↔ n < UInt64.size := Nat.lt_succ_iff.symm

theorem toNat_le_largest (word : UInt64) : word.toNat ≤ largest.toNat :=
  le_largest_iff.mpr word.toNat_lt

theorem largest_le_of_size_le {n : Nat} (h : UInt64.size ≤ n) : largest.toNat ≤ n :=
  (Nat.le_succ _).trans h

theorem toNat_factor (attempt : UInt32) :
    (factor attempt).toNat = min (2 ^ attempt.toNat) largest.toNat := by
  unfold factor
  split
  · rename_i narrow
    have narrow : attempt.toNat < 64 := UInt32.lt_iff_toNat_lt.mp narrow
    have fits : 2 ^ attempt.toNat < UInt64.size := Nat.pow_lt_pow_right (by decide) narrow
    rw [min_eq_left (le_largest_iff.mpr fits), UInt64.toNat_shiftLeft, UInt32.toNat_toUInt64,
      Nat.mod_eq_of_lt narrow, UInt64.toNat_one, Nat.one_shiftLeft]
    exact Nat.mod_eq_of_lt fits
  · rename_i wide
    have wide : 64 ≤ attempt.toNat := UInt32.le_iff_toNat_le.mp (UInt32.not_lt.mp wide)
    have beyond : UInt64.size ≤ 2 ^ attempt.toNat := Nat.pow_le_pow_right Nat.zero_lt_two wide
    rw [min_eq_right (largest_le_of_size_le beyond)]

theorem toNat_saturatingMul (a b : UInt64) :
    (saturatingMul a b).toNat = min (a.toNat * b.toNat) largest.toNat := by
  have overflows : a ≠ 0 ∧ largest / a < b ↔ largest.toNat < a.toNat * b.toNat := by
    rw [UInt64.lt_iff_toNat_lt, UInt64.toNat_div, Ne, ← UInt64.toNat_inj, UInt64.toNat_zero]
    rcases Nat.eq_zero_or_pos a.toNat with zero | pos
    · simp [zero]
    · rw [Nat.div_lt_iff_lt_mul pos, Nat.mul_comm]
      exact and_iff_right pos.ne'
  unfold saturatingMul
  split
  · rename_i wraps
    rw [min_eq_right (overflows.mp wraps).le]
  · rename_i sound
    have fits : a.toNat * b.toNat ≤ largest.toNat := not_lt.mp (mt overflows.mpr sound)
    rw [min_eq_left fits, UInt64.toNat_mul]
    exact Nat.mod_eq_of_lt (le_largest_iff.mp fits)

theorem min_mul_min (a b most : Nat) : min (a * min b most) most = min (a * b) most := by
  rcases Nat.le_total b most with small | large
  · rw [min_eq_left small]
  rcases Nat.eq_zero_or_pos a with rfl | pos
  · rw [zero_mul, zero_mul]
  · have reached : most ≤ a * most := Nat.le_mul_of_pos_left most pos
    rw [min_eq_right large, min_eq_right reached,
      min_eq_right (reached.trans (Nat.mul_le_mul_left a large))]

theorem toNat_delay (backoff cap : UInt64) (attempt : UInt32) :
    (delay backoff cap attempt).toNat = min cap.toNat (backoff.toNat * 2 ^ attempt.toNat) := by
  calc (delay backoff cap attempt).toNat
    _ = min (min (backoff.toNat * min (2 ^ attempt.toNat) largest.toNat) largest.toNat)
          cap.toNat := by rw [delay, UInt64.toNat_min, toNat_saturatingMul, toNat_factor]
    _ = min (backoff.toNat * 2 ^ attempt.toNat) (min largest.toNat cap.toNat) := by
          rw [min_mul_min, min_assoc]
    _ = min cap.toNat (backoff.toNat * 2 ^ attempt.toNat) := by
          rw [min_eq_right (toNat_le_largest cap), min_comm]

/-- For all three words, the pause after an attempt is the backoff doubled that often, or the cap if
that is less; no pause passes the cap, and none is shorter than an earlier one. -/
theorem delay_exact (backoff cap : UInt64) (attempt : UInt32) :
    (delay backoff cap attempt).toNat = min cap.toNat (backoff.toNat * 2 ^ attempt.toNat) ∧
      delay backoff cap attempt ≤ cap ∧
      ∀ later, attempt ≤ later → delay backoff cap attempt ≤ delay backoff cap later := by
  refine ⟨toNat_delay backoff cap attempt, ?_, fun later order => ?_⟩
  · rw [UInt64.le_iff_toNat_le, toNat_delay]
    exact min_le_left _ _
  · have order : attempt.toNat ≤ later.toNat := UInt32.le_iff_toNat_le.mp order
    rw [UInt64.le_iff_toNat_le, toNat_delay, toNat_delay]
    exact min_le_min_left _ (Nat.mul_le_mul_left _ (Nat.pow_le_pow_right Nat.zero_lt_two order))

/-- The last power of two that fits a word, and the first that does not. -/
theorem delay_exact_brim :
    (63 : UInt32) ≤ 64 ∧ (delay 1 largest 63).toNat = 2 ^ 63 ∧
      delay 1 largest 63 ≤ delay 1 largest 64 := by
  obtain ⟨doubled, -, later⟩ := delay_exact 1 largest 63
  exact ⟨by decide, doubled, later 64 (by decide)⟩

end PlcMonitor.Backoff
