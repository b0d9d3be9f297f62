/-
This file proves what numbers show of each other under a mask, bit by bit.
-/

import Mathlib.Data.Nat.Bitwise

namespace Vscp

namespace Mask

/-- Numbers are the same under a mask when they agree on each of its bits. -/
theorem and_eq_and_iff {value filter mask : Nat} :
    value &&& mask = filter &&& mask ↔
      ∀ bit, mask.testBit bit = true → value.testBit bit = filter.testBit bit := by
  constructor
  · intro same bit set
    have agrees := congrArg (·.testBit bit) same
    simpa [set] using agrees
  · intro agrees
    apply Nat.eq_of_testBit_eq
    intro bit
    cases set : mask.testBit bit with
    | false => simp [set]
    | true => simp [set, agrees bit set]

/-- A number has no bits past its width. -/
theorem lt_of_testBit {number width bit : Nat} (narrow : number < 2 ^ width)
    (set : number.testBit bit = true) : bit < width := by
  by_contra high
  have zero := Nat.testBit_lt_two_pow
    (Nat.lt_of_lt_of_le narrow (Nat.pow_le_pow_right (by decide) (Nat.not_lt.mp high)))
  simp [zero] at set

theorem byte_and_eq_and_iff {value filter mask : UInt8} :
    value &&& mask = filter &&& mask ↔
      ∀ bit < 8, mask.toNat.testBit bit = true →
        value.toNat.testBit bit = filter.toNat.testBit bit := by
  rw [← UInt8.toNat_inj, UInt8.toNat_and, UInt8.toNat_and, and_eq_and_iff]
  constructor
  · intro agrees bit _ set
    exact agrees bit set
  · intro agrees bit set
    exact agrees bit (lt_of_testBit mask.toNat_lt set) set

/-- A byte under a mask of one bit shows that bit. -/
theorem and_single {byte : UInt8} (mask : UInt8) (bit : Nat) (single : mask.toNat = 2 ^ bit) :
    (byte &&& mask != 0) = byte.toNat.testBit bit := by
  have shown : (byte &&& mask).toNat = (byte.toNat.testBit bit).toNat * 2 ^ bit := by
    rw [UInt8.toNat_and, single, Nat.and_two_pow]
  have same : (byte &&& mask = 0) ↔ byte.toNat.testBit bit = false := by
    rw [← UInt8.toNat_inj, shown]
    cases byte.toNat.testBit bit <;> simp
  cases set : byte.toNat.testBit bit <;> simp [same, set]

/-- A ninth bit in front of a byte. -/
theorem testBit_ninth (high : Bool) (low : UInt8) (bit : Nat) :
    ((if high then 0x100 else 0) ||| low.toUInt16 : UInt16).toNat.testBit bit =
      if bit = 8 then high else low.toNat.testBit bit := by
  have place : (if high then 0x100 else 0 : UInt16).toNat.testBit bit =
      (high && decide (8 = bit)) := by
    cases high with
    | false => simp
    | true => exact Nat.testBit_two_pow (n := 8)
  rw [UInt16.toNat_or, Nat.testBit_or, place, UInt8.toNat_toUInt16]
  by_cases ninth : bit = 8
  · subst ninth
    simp [Nat.testBit_lt_two_pow low.toNat_lt]
  · simp [ninth, Ne.symm ninth]

/-- A condition that is only asked for. -/
theorem asked_eq_true_iff {asked met : Bool} :
    (!asked || met) = true ↔ (asked = true → met = true) := by
  cases asked <;> simp

end Mask

end Vscp
