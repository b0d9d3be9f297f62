/-
This file keeps a rule cursor as its bytes with two positions in them, reads it by accesses that may
fail, and proves what a read leaves while the positions are in order.
-/

import Vscp.Proofs.Bytes
import Vscp.Rule.Fault

namespace Vscp

/-- The bytes from a position on; there is no result when one of them lies outside. -/
def Bytes.slice? (bytes : List UInt8) (position width : Nat) : Option (List UInt8) :=
  if position + width ≤ bytes.length then some ((bytes.drop position).take width) else none

namespace Bytes

def shiftIn (word : UInt32) (byte : UInt8) : UInt32 :=
  word <<< 8 ||| byte.toUInt32

/-- The bytes are shifted into a word, the most significant first. -/
def word (bytes : List UInt8) : UInt32 :=
  bytes.foldl shiftIn 0

/-- Nothing is lost as long as the word has room for another byte. -/
theorem toNat_shiftIn {word : UInt32} (room : word.toNat < 0x1000000) (byte : UInt8) :
    (shiftIn word byte).toNat = word.toNat * 256 + byte.toNat := by
  have fits : word.toNat <<< 8 < 0x100000000 := by
    rw [Nat.shiftLeft_eq]
    omega
  rw [shiftIn, UInt32.toNat_or, UInt32.toNat_shiftLeft, UInt8.toNat_toUInt32]
  change word.toNat <<< 8 % 0x100000000 ||| byte.toNat = _
  rw [Nat.mod_eq_of_lt fits, ← Nat.shiftLeft_add_eq_or_of_lt byte.toNat_lt, Nat.shiftLeft_eq]

/-- A word takes as many bytes as it has room for. -/
theorem toNat_foldl_shiftIn (bytes : List UInt8) {word : UInt32}
    (room : (word.toNat + 1) * bound bytes.length ≤ 0x100000000) :
    (bytes.foldl shiftIn word).toNat =
      bytes.foldl (fun total byte => total * 256 + byte.toNat) word.toNat := by
  induction bytes generalizing word with
  | nil => rfl
  | cons byte bytes ih =>
      have positive := bound_positive bytes.length
      have small := byte.toNat_lt
      rw [List.length_cons, bound_succ, ← Nat.mul_assoc] at room
      have first : (word.toNat + 1) * 256 ≤ 0x100000000 :=
        Nat.le_trans (Nat.le_mul_of_pos_right _ positive) room
      have next := toNat_shiftIn (show word.toNat < 0x1000000 by omega) byte
      have later : (word.toNat * 256 + byte.toNat + 1) * bound bytes.length ≤ 0x100000000 :=
        Nat.le_trans (Nat.mul_le_mul_right _ (by omega)) room
      rw [List.foldl_cons, List.foldl_cons, ih (next ▸ later), next]

theorem toNat_word {bytes : List UInt8} (short : bytes.length ≤ 4) :
    (word bytes).toNat = value bytes := by
  refine toNat_foldl_shiftIn bytes ?_
  have bounded : bound bytes.length ≤ bound 4 := Nat.pow_le_pow_right (by decide) short
  rw [UInt32.toNat_zero, Nat.zero_add, Nat.one_mul]
  exact bounded

end Bytes

/-- A cursor in memory: all the bytes, the position of the next read and the end of the window. -/
structure CursorRecord where
  bytes : List UInt8
  offset : Nat
  stop : Nat
  deriving DecidableEq, Repr

namespace CursorRecord

def new (bytes : List UInt8) (offset stop : Nat) : CursorRecord :=
  let stop := min stop bytes.length
  ⟨bytes, min offset stop, stop⟩

def advance (record : CursorRecord) (count : Nat) : CursorRecord :=
  { record with offset := record.offset + count }

/-- No number is left if the position has passed the end. -/
def remaining? (record : CursorRecord) : Option Nat :=
  if record.offset ≤ record.stop then some (record.stop - record.offset) else none

def atEnd (record : CursorRecord) : Bool :=
  record.offset == record.stop

/-- The answer and the record after it, which is the same after a fault; there is none if the read
would take a byte from outside. -/
def readByte? (record : CursorRecord) (kind : FaultKind) :
    Option (Except FaultKind UInt8 × CursorRecord) :=
  if record.stop ≤ record.offset then some (.error kind, record)
  else record.bytes[record.offset]?.map fun byte => (.ok byte, record.advance 1)

def readNumber? (record : CursorRecord) (width : Nat) (kind : FaultKind) :
    Option (Except FaultKind UInt32 × CursorRecord) :=
  if 4 < width then some (.error kind, record)
  else
    record.remaining?.bind fun left =>
      if left < width then some (.error kind, record)
      else
        (Bytes.slice? record.bytes record.offset width).map fun taken =>
          (.ok (Bytes.word taken), record.advance width)

section Reads

variable {record : CursorRecord} {kind : FaultKind} {width : Nat}

theorem remaining?_of_ordered (ordered : record.offset ≤ record.stop) :
    record.remaining? = some (record.stop - record.offset) :=
  if_pos ordered

theorem readByte?_of_room (room : record.offset < record.stop) {byte : UInt8}
    (there : record.bytes[record.offset]? = some byte) :
    record.readByte? kind = some (.ok byte, record.advance 1) := by
  rw [readByte?, if_neg (Nat.not_le.mpr room), there]
  rfl

theorem readByte?_of_ended (ended : record.stop ≤ record.offset) :
    record.readByte? kind = some (.error kind, record) :=
  if_pos ended

theorem readNumber?_of_room (narrow : width ≤ 4) (room : record.offset + width ≤ record.stop)
    (within : record.stop ≤ record.bytes.length) :
    record.readNumber? width kind =
      some (.ok (Bytes.word ((record.bytes.drop record.offset).take width)),
        record.advance width) := by
  have ordered : record.offset ≤ record.stop := by omega
  have enough : ¬record.stop - record.offset < width := by omega
  have inside : record.offset + width ≤ record.bytes.length := Nat.le_trans room within
  rw [readNumber?, if_neg (Nat.not_lt.mpr narrow), remaining?_of_ordered ordered,
    Option.bind_some, if_neg enough, Bytes.slice?, if_pos inside]
  rfl

theorem readNumber?_of_refused (ordered : record.offset ≤ record.stop)
    (refused : width ≤ 4 → record.stop < record.offset + width) :
    record.readNumber? width kind = some (.error kind, record) := by
  rw [readNumber?]
  split
  · rfl
  · rename_i wide
    have narrow := Nat.not_lt.mp wide
    have few : record.stop - record.offset < width := by
      have short := refused narrow
      omega
    rw [remaining?_of_ordered ordered, Option.bind_some, if_pos few]

end Reads

end CursorRecord

end Vscp
