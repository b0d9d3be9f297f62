/-
This file proves what a sequence of bytes leaves in the store when it goes around the last address,
and that it is read back as it was written.
-/

import Mathlib.Order.Bounds.Basic
import Vscp.Proofs.Store

namespace Vscp.Store

/-- The indices of a sequence of bytes that are written to a place. -/
def landings (address count place : Nat) : Set Nat :=
  {index | index < count ∧ after address index = place}

section Addresses

variable {address : Nat}

theorem after_lt (address steps : Nat) : after address steps < addresses :=
  Nat.mod_lt _ (by decide)

theorem after_zero (valid : address < addresses) : after address 0 = address :=
  Nat.mod_eq_of_lt valid

theorem after_after (address first second : Nat) :
    after (after address first) second = after address (first + second) := by
  rw [after, after, after, Nat.mod_add_mod, Nat.add_assoc]

/-- Two indices that are less than a whole turn apart do not meet. -/
theorem eq_of_after_eq {first second : Nat} (meets : after address first = after address second)
    (left : first < addresses) (right : second < addresses) : first = second := by
  unfold after addresses at *
  omega

end Addresses

section Landings

variable {address count place index : Nat}

theorem mem_landings :
    index ∈ landings address count place ↔ index < count ∧ after address index = place :=
  .rfl

@[simp] theorem landings_zero (address place : Nat) : landings address 0 place = ∅ :=
  Set.eq_empty_iff_forall_notMem.mpr fun index there =>
    Nat.not_lt_zero index (mem_landings.mp there).1

/-- The first byte left out, the others start at the next address. -/
theorem succ_mem_landings_iff :
    index + 1 ∈ landings address (count + 1) place ↔
      index ∈ landings (after address 1) count place := by
  rw [mem_landings, mem_landings, after_after, Nat.add_comm 1, Nat.add_lt_add_iff_right]

/-- If one of the later bytes is written to a place, the last of them is. -/
theorem isGreatest_landings_succ
    (last : IsGreatest (landings (after address 1) count place) index) :
    IsGreatest (landings address (count + 1) place) (index + 1) := by
  refine ⟨succ_mem_landings_iff.mpr last.1, fun other there => ?_⟩
  cases other with
  | zero => exact Nat.zero_le _
  | succ other => exact Nat.succ_le_succ (last.2 (succ_mem_landings_iff.mp there))

theorem isGreatest_landings_zero (valid : address < addresses)
    (unwritten : landings (after address 1) count address = ∅) :
    IsGreatest (landings address (count + 1) address) 0 := by
  refine ⟨mem_landings.mpr ⟨Nat.succ_pos count, after_zero valid⟩, fun other there => ?_⟩
  cases other with
  | zero => exact Nat.le_refl 0
  | succ other =>
      exact absurd (succ_mem_landings_iff.mp there) (unwritten ▸ Set.notMem_empty other)

theorem landings_succ_eq_empty (valid : address < addresses) (apart : place ≠ address)
    (unwritten : landings (after address 1) count place = ∅) :
    landings address (count + 1) place = ∅ := by
  refine Set.eq_empty_iff_forall_notMem.mpr fun other there => ?_
  cases other with
  | zero => exact apart ((mem_landings.mp there).2.symm.trans (after_zero valid))
  | succ other =>
      exact absurd (succ_mem_landings_iff.mp there) (unwritten ▸ Set.notMem_empty other)

end Landings

variable {store : Store} {address place : Nat}

@[simp] theorem size_writeMany (store : Store) (address : Nat) (bytes : List UInt8) :
    (store.writeMany address bytes).size = store.size := by
  induction bytes generalizing store address with
  | nil => rfl
  | cons value rest ih => rw [writeMany, ih, size_write]

/-- A place of the store holds the last byte that was written to it, or what it held. -/
theorem getElem?_writeMany (valid : address < addresses) (room : place < store.size)
    (bytes : List UInt8) :
    (∃ index, IsGreatest (landings address bytes.length place) index ∧
      (store.writeMany address bytes).bytes[place]? = bytes[index]?) ∨
    (landings address bytes.length place = ∅ ∧
      (store.writeMany address bytes).bytes[place]? = store.bytes[place]?) := by
  induction bytes generalizing store address with
  | nil => exact .inr ⟨landings_zero .., rfl⟩
  | cons value rest ih =>
      have kept : place < (store.write address value).size := by rwa [size_write]
      -- the rest is written after the first byte, which stays only where none of the rest lands
      rcases ih (after_lt address 1) kept with ⟨index, last, held⟩ | ⟨unwritten, held⟩
      · exact .inl ⟨index + 1, isGreatest_landings_succ last, held⟩
      · by_cases own : place = address
        · subst own
          exact .inl ⟨0, isGreatest_landings_zero valid unwritten,
            held.trans (getElem?_write_self room value)⟩
        · exact .inr ⟨landings_succ_eq_empty valid own unwritten,
            held.trans (getElem?_write_other store own value)⟩

theorem getElem?_readMany (valid : address < addresses) {index count : Nat}
    (within : index < count) :
    (store.readMany address count)[index]? =
      some (store.bytes[after address index]?.getD 0xFF) := by
  induction count generalizing address index with
  | zero => exact absurd within (Nat.not_lt_zero index)
  | succ count ih =>
      rw [readMany]
      cases index with
      | zero => rw [List.getElem?_cons_zero, after_zero valid, read_eq_getD]
      | succ index =>
          rw [List.getElem?_cons_succ, ih (after_lt address 1) (Nat.lt_of_succ_lt_succ within),
            after_after, Nat.add_comm 1]

/-- Bytes that all have a place of their own are read back. -/
theorem readMany_writeMany (valid : address < addresses) {bytes : List UInt8}
    (short : bytes.length ≤ addresses)
    (room : ∀ index < bytes.length, after address index < store.size) :
    (store.writeMany address bytes).readMany address bytes.length = bytes := by
  apply List.ext_getElem?
  intro index
  by_cases within : index < bytes.length
  · rw [getElem?_readMany valid within]
    have here : index ∈ landings address bytes.length (after address index) :=
      mem_landings.mpr ⟨within, rfl⟩
    rcases getElem?_writeMany valid (room index within) bytes with
      ⟨last, greatest, held⟩ | ⟨unwritten, -⟩
    · -- the last byte at the address of this one is this one, since no turn is completed
      obtain ⟨below, meets⟩ := mem_landings.mp greatest.1
      have same : last = index := eq_of_after_eq meets (Nat.lt_of_lt_of_le below short)
        (Nat.lt_of_lt_of_le within short)
      rw [held, same, List.getElem?_eq_getElem within]
      rfl
    · exact absurd here (unwritten ▸ Set.notMem_empty index)
  · have outside := Nat.not_lt.mp within
    rw [List.getElem?_eq_none outside,
      List.getElem?_eq_none ((length_readMany ..).symm ▸ outside)]

/-- Bytes in the middle of a sequence of the store, which does not reach the last address. -/
theorem slice_readMany (store : Store) {base count skip length : Nat}
    (within : skip + length ≤ count) (short : base + count ≤ Store.addresses) :
    ((store.readMany base count).drop skip).take length = store.readMany (base + skip) length := by
  have inner : base + skip + length ≤ addresses := by omega
  have left : length ≤ count - skip := by omega
  rw [readMany_of_short store short, readMany_of_short store inner, ← List.map_drop,
    ← List.map_take, List.drop_range', List.take_range'_of_length_ge left, Nat.mul_one]

/-- A sequence of bytes may be longer than the addresses or than the store. The size of the store
stays, and each of its places holds the last byte that was written to it, or what it held if there
is none. A sequence that is read has the bytes at its addresses, and `0xFF` where there is no byte.
So one that does not meet itself and has a place for every byte is read back. -/
theorem sequence_access_faithful (store : Store) (start : UInt16) (bytes : List UInt8) :
    let written := store.writeMany start.toNat bytes
    written.size = store.size ∧
    (∀ place < store.size,
      (∃ index, IsGreatest (landings start.toNat bytes.length place) index ∧
        written.bytes[place]? = bytes[index]?) ∨
      (landings start.toNat bytes.length place = ∅ ∧
        written.bytes[place]? = store.bytes[place]?)) ∧
    (∀ count, (store.readMany start.toNat count).length = count ∧
      ∀ index < count, (store.readMany start.toNat count)[index]? =
        some (store.bytes[(start.toNat + index) % 65536]?.getD 0xFF)) ∧
    (bytes.length ≤ 65536 →
      (∀ index < bytes.length, (start.toNat + index) % 65536 < store.size) →
      written.readMany start.toNat bytes.length = bytes) := by
  have valid : start.toNat < addresses := start.toNat_lt
  refine ⟨size_writeMany .., fun place room => getElem?_writeMany valid room bytes,
    fun count => ⟨length_readMany .., fun index within => getElem?_readMany valid within⟩, ?_⟩
  exact readMany_writeMany valid

/-- The last of three bytes goes around the end. Of 65537 bytes the last one meets the first. -/
theorem sequence_around_end_reads_back :
    (∀ index < 3, (65534 + index) % 65536 < (erased 65536).size) ∧
      ((erased 65536).writeMany 65534 [1, 2, 3]).readMany 65534 3 = [1, 2, 3] ∧
      5 < (erased 8).size ∧
      ((erased 8).writeMany 5 (List.replicate 65536 0 ++ [7])).bytes[5]? = some 7 := by
  have size : (erased 65536).size = 65536 := Array.size_replicate
  have room : ∀ index < 3, (65534 + index) % 65536 < (erased 65536).size := by
    intro index within
    omega
  obtain ⟨-, -, -, back⟩ := sequence_access_faithful (erased 65536) 65534 [1, 2, 3]
  obtain ⟨-, places, -⟩ :=
    sequence_access_faithful (erased 8) 5 (List.replicate 65536 0 ++ [7])
  refine ⟨room, back (by decide) room, by decide, ?_⟩
  have length : (List.replicate 65536 (0 : UInt8) ++ [7]).length = 65537 := by
    rw [List.length_append, List.length_replicate]
    rfl
  rw [length] at places
  have met : 65536 ∈ landings 5 65537 5 := mem_landings.mpr ⟨by decide, by decide⟩
  rcases places 5 (by decide) with ⟨index, greatest, held⟩ | ⟨unwritten, -⟩
  · have below := (mem_landings.mp greatest.1).1
    have last : index = 65536 := Nat.le_antisymm (Nat.le_of_lt_succ below) (greatest.2 met)
    rw [last, List.getElem?_append_right (by rw [List.length_replicate]),
      List.length_replicate] at held
    exact held
  · exact absurd met (unwritten ▸ Set.notMem_empty 65536)

end Vscp.Store
