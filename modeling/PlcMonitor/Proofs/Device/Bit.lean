import Mathlib.Data.Nat.Bitwise
import PlcMonitor.Device.Operation

/-! One bit of a word is changed and the others are not. -/
namespace PlcMonitor

/-- The word with one bit set to a value and every other bit as it was. -/
def SetsBit (bit value : UInt8) (word written : UInt16) : Prop :=
  ∀ place, written.toNat.testBit place =
    if place = bit.toNat then decide (value = 1) else word.toNat.testBit place

theorem SetsBit.unique {bit value : UInt8} {word written other : UInt16}
    (h : SetsBit bit value word written) (h' : SetsBit bit value word other) : written = other :=
  UInt16.toNat_inj.mp (Nat.eq_of_testBit_eq fun place => (h place).trans (h' place).symm)

section Digit
variable {value : UInt8} (isBit : value ≤ 1)
include isBit

theorem eq_zero_or_one : value = 0 ∨ value = 1 := by
  rw [← UInt8.toNat_inj, ← UInt8.toNat_inj]
  have : value.toNat ≤ 1 := UInt8.le_iff_toNat_le.mp isBit
  simp only [UInt8.toNat_zero, UInt8.toNat_one]
  omega

theorem digit_eq_iff (shown : Bool) :
    (if shown then 1 else 0) = value ↔ shown = decide (value = 1) := by
  rcases eq_zero_or_one isBit with rfl | rfl <;> cases shown <;> decide

theorem digit_of_ne {shown : Bool} (other : shown ≠ decide (value = 1)) :
    (if shown then 1 else 0) = 1 - value := by
  rcases eq_zero_or_one isBit with rfl | rfl
  · rw [(Bool.not_eq_false shown).mp other]
    rfl
  · rw [(Bool.not_eq_true shown).mp other]
    rfl

end Digit

namespace Operation
variable {bit : UInt8}

theorem toNat_mask (inWord : bit ≤ 15) : (mask bit).toNat = 2 ^ bit.toNat := by
  have small : bit.toNat ≤ 15 := UInt8.le_iff_toNat_le.mp inWord
  have place : bit.toUInt16.toNat % 16 = bit.toNat := Nat.mod_eq_of_lt (by simpa using by omega)
  unfold mask
  rw [UInt16.toNat_shiftLeft, place, UInt16.toNat_one, Nat.one_shiftLeft]
  exact Nat.mod_eq_of_lt (Nat.pow_lt_pow_right (by decide) (by omega))

theorem testBit_eq (inWord : bit ≤ 15) (word : UInt16) :
    testBit word bit = word.toNat.testBit bit.toNat := by
  have zero_iff : word &&& mask bit = 0 ↔ word.toNat.testBit bit.toNat = false := by
    rw [← UInt16.toNat_inj, UInt16.toNat_and, toNat_mask inWord, Nat.and_two_pow]
    cases word.toNat.testBit bit.toNat <;> simp
  unfold testBit
  cases shows : word.toNat.testBit bit.toNat <;> simp [zero_iff, shows]

theorem setsBit_withBit (inWord : bit ≤ 15) (value : UInt8) (word : UInt16) :
    SetsBit bit value word (withBit word bit value) := by
  intro place
  unfold withBit
  split
  · rename_i one
    rw [UInt16.toNat_or, toNat_mask inWord, Nat.testBit_or, Nat.testBit_two_pow]
    by_cases here : place = bit.toNat
    · simp [here, one]
    · simp [here, Ne.symm here]
  · rename_i zero
    have small : bit.toNat ≤ 15 := UInt8.le_iff_toNat_le.mp inWord
    have bounded : 2 ^ bit.toNat < 2 ^ 16 := Nat.pow_lt_pow_right (by decide) (by omega)
    rw [UInt16.toNat_and, UInt16.toNat_not, toNat_mask inWord, Nat.testBit_and,
      show UInt16.size - 1 - 2 ^ bit.toNat = 2 ^ 16 - (2 ^ bit.toNat + 1) by
        simp only [UInt16.size]; omega,
      Nat.testBit_two_pow_sub_succ bounded, Nat.testBit_two_pow]
    by_cases here : place = bit.toNat
    · simp [here, zero]
    · by_cases within : place < 16
      · simp [here, within, Ne.symm here]
      · have high : word.toNat < 2 ^ place :=
          Nat.lt_of_lt_of_le word.toNat_lt (Nat.pow_le_pow_right (by decide) (by omega))
        simp [here, within, Nat.testBit_lt_two_pow high]

end Operation
end PlcMonitor
