/-
This file proves what a write leaves in the store and what is read from it.
-/

import Vscp.Store

namespace Vscp.Store

@[simp] theorem size_write (store : Store) (address : Nat) (value : UInt8) :
    (store.write address value).size = store.size :=
  Array.size_setIfInBounds

theorem read_eq_getD (store : Store) (address : Nat) :
    store.read address = store.bytes[address]?.getD 0xFF :=
  Array.getD_eq_getD_getElem?

theorem read_of_size_le {store : Store} {address : Nat} (missing : store.size ≤ address) :
    store.read address = 0xFF := by
  rw [read_eq_getD, Array.getElem?_eq_none missing]
  rfl

theorem getElem?_write_self {store : Store} {address : Nat} (room : address < store.size)
    (value : UInt8) : (store.write address value).bytes[address]? = some value :=
  Array.getElem?_setIfInBounds_self_of_lt room

theorem getElem?_write_other (store : Store) {address other : Nat} (apart : other ≠ address)
    (value : UInt8) : (store.write address value).bytes[other]? = store.bytes[other]? :=
  Array.getElem?_setIfInBounds_ne (Ne.symm apart)

theorem read_write_self {store : Store} {address : Nat} (room : address < store.size)
    (value : UInt8) : (store.write address value).read address = value := by
  rw [read_eq_getD, getElem?_write_self room]
  rfl

/-- A write is kept or lost. -/
theorem read_write (store : Store) (address : Nat) (value : UInt8) :
    (store.write address value).read address =
      if address < store.size then value else 0xFF := by
  split
  · rename_i room
    exact read_write_self room value
  · rename_i missing
    exact read_of_size_le ((store.size_write address value).symm ▸ Nat.not_lt.mp missing)

/-- A write changes no other address. -/
theorem read_write_other (store : Store) {address other : Nat} (apart : other ≠ address)
    (value : UInt8) : (store.write address value).read other = store.read other := by
  rw [read_eq_getD, read_eq_getD, getElem?_write_other store apart]

/-- After a write every address holds what it held, or it is the one written and holds the value. -/
theorem read_write_cases (store : Store) (address : Nat) (value : UInt8) (other : Nat) :
    (store.write address value).read other = store.read other ∨
      (other = address ∧ (store.write address value).read other = value) := by
  by_cases same : other = address
  · subst same
    by_cases room : other < store.size
    · exact .inr ⟨rfl, read_write_self room value⟩
    · left
      rw [read_write, if_neg room, read_of_size_le (Nat.not_lt.mp room)]
  · exact .inl (store.read_write_other same value)

@[simp] theorem length_readMany (store : Store) (address count : Nat) :
    (store.readMany address count).length = count := by
  induction count generalizing address with
  | zero => rfl
  | succ count ih => rw [readMany, List.length_cons, ih]

/-- A sequence that does not reach the last address is read at addresses that follow each other. -/
theorem readMany_of_short (store : Store) {address count : Nat}
    (short : address + count ≤ addresses) :
    store.readMany address count = (List.range' address count).map store.read := by
  induction count generalizing address with
  | zero => rfl
  | succ count ih =>
      rw [readMany, List.range'_succ, List.map_cons]
      rcases Nat.eq_zero_or_pos count with rfl | more
      · rfl
      · have next : after address 1 = address + 1 := Nat.mod_eq_of_lt (by omega)
        rw [next, ih (by omega)]

end Vscp.Store
