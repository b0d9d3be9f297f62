/-
This file proves that big-endian bytes and numbers determine each other.
-/

import Vscp.Bytes

namespace Vscp.Bytes

@[simp] theorem bound_zero : bound 0 = 1 := rfl

theorem bound_succ (width : Nat) : bound (width + 1) = 256 * bound width := by
  change 256 ^ (width + 1) = 256 * 256 ^ width
  rw [Nat.pow_succ, Nat.mul_comm]

theorem bound_positive (width : Nat) : 0 < bound width :=
  Nat.pow_pos (by decide)

@[simp] theorem length_write (width number : Nat) : (write width number).length = width := by
  induction width with
  | zero => rfl
  | succ width ih => simp [write, ih]

/-- A running total counts once for every byte that is still to come. -/
theorem foldl_value (bytes : List UInt8) (total : Nat) :
    bytes.foldl (fun total byte => total * 256 + byte.toNat) total =
      total * bound bytes.length + value bytes := by
  induction bytes generalizing total with
  | nil => simp [value]
  | cons byte bytes ih =>
      have first := ih (total * 256 + byte.toNat)
      have second := ih byte.toNat
      simp only [value, List.foldl_cons, List.length_cons, bound_succ, Nat.zero_mul,
        Nat.zero_add] at first second ⊢
      rw [first, second, Nat.add_mul, Nat.mul_assoc, Nat.add_assoc]

theorem value_cons (byte : UInt8) (bytes : List UInt8) :
    value (byte :: bytes) = byte.toNat * bound bytes.length + value bytes := by
  have total := foldl_value bytes byte.toNat
  simpa [value] using total

/-- Bytes denote a number that fits their width. -/
theorem value_lt (bytes : List UInt8) : value bytes < bound bytes.length := by
  induction bytes with
  | nil => decide
  | cons byte bytes ih =>
      have small : byte.toNat + 1 ≤ 256 := byte.toNat_lt
      have product := Nat.mul_le_mul_right (bound bytes.length) small
      rw [value_cons, List.length_cons, bound_succ]
      rw [Nat.add_mul] at product
      omega

/-- Writing keeps the number up to the width. -/
theorem value_write (width number : Nat) : value (write width number) = number % bound width := by
  induction width with
  | zero => simp [write, value, Nat.mod_one]
  | succ width ih =>
      have digit : (UInt8.ofNat (number / bound width)).toNat = number / bound width % 256 :=
        UInt8.toNat_ofNat'
      rw [write, value_cons, length_write, ih, digit, bound_succ, Nat.mul_comm 256,
        Nat.mod_mul, Nat.mul_comm (bound width), Nat.add_comm]

theorem value_write_of_lt {width number : Nat} (fits : number < bound width) :
    value (write width number) = number := by
  rw [value_write, Nat.mod_eq_of_lt fits]

/-- Only the part of a number below the width is written. -/
theorem write_add_mul (width high number : Nat) :
    write width (high * bound width + number) = write width number := by
  induction width generalizing high with
  | zero => rfl
  | succ width ih =>
      have split : high * bound (width + 1) + number = high * 256 * bound width + number := by
        rw [bound_succ, ← Nat.mul_assoc]
      have digit : UInt8.ofNat ((high * 256 * bound width + number) / bound width) =
          UInt8.ofNat (number / bound width) := by
        rw [Nat.mul_comm (high * 256), Nat.mul_add_div (bound_positive width)]
        apply UInt8.toNat_inj.mp
        simp [UInt8.toNat_ofNat']
      rw [write, write, split, digit, ih (high * 256)]

/-- The bytes of a number that was read are the bytes it was read from. -/
theorem write_value (bytes : List UInt8) : write bytes.length (value bytes) = bytes := by
  induction bytes with
  | nil => rfl
  | cons byte bytes ih =>
      have quotient : (byte.toNat * bound bytes.length + value bytes) / bound bytes.length =
          byte.toNat := by
        rw [Nat.mul_comm, Nat.mul_add_div (bound_positive _), Nat.div_eq_of_lt (value_lt bytes),
          Nat.add_zero]
      rw [List.length_cons, write, value_cons, quotient, UInt8.ofNat_toNat, write_add_mul, ih]

end Vscp.Bytes
