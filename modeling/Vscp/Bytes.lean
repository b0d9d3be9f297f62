/-
This file reads and writes unsigned numbers as big-endian bytes.
-/

namespace Vscp.Bytes

/-- The number that the bytes denote, most significant byte first. -/
def value (bytes : List UInt8) : Nat :=
  bytes.foldl (fun total byte => total * 256 + byte.toNat) 0

/-- Numbers below the bound fit the width. -/
def bound (width : Nat) : Nat :=
  Nat.pow 256 width

/-- The lowest `width` bytes of a number, most significant byte first. -/
def write : (width : Nat) → (number : Nat) → List UInt8
  | 0, _ => []
  | width + 1, number => UInt8.ofNat (number / bound width) :: write width number

/-- One byte of a number in `width` bytes; a number has at most four, and zero stands past the
width. -/
def byteOf (number : UInt32) (width index : Nat) : UInt8 :=
  if index < width ∧ width ≤ 4 then UInt8.ofNat (number.toNat / bound (width - 1 - index))
  else 0

/-- The number in `width` bytes at an offset, if every byte is present. -/
def field? (width : Nat) (bytes : List UInt8) (offset : Nat) : Option Nat :=
  if offset + width ≤ bytes.length then some (value ((bytes.drop offset).take width)) else none

end Vscp.Bytes
