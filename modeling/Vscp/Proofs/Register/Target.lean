/-
This file proves where registers are kept, and that no two of them share a place.
-/

import Mathlib.Data.List.Nodup
import Vscp.Config
import Vscp.Register.Target

namespace Vscp

/-- A register has one range. -/
theorem StandardRange.eq_of_register {first second : StandardRange} (left : first ∈ all)
    (right : second ∈ all) (same : first.register = second.register) : first = second :=
  List.inj_on_of_nodup_map (show (all.map (·.register)).Nodup by decide) left right same

namespace StandardSlot

/-- An offset leads to the slot. -/
def IsMapped (slot : StandardSlot) : Prop :=
  ∃ offset, at? offset = some slot

variable {slot other : StandardSlot}

/-- A slot lies in the range of its register. -/
theorem IsMapped.range (mapped : slot.IsMapped) :
    ∃ range ∈ StandardRange.all, range.register = slot.register ∧ range.access = slot.access ∧
      slot.index ≤ range.last.toNat - range.first.toNat := by
  obtain ⟨offset, found⟩ := mapped
  obtain ⟨range, matched, rfl⟩ := Option.map_eq_some_iff.mp found
  have within := List.find?_some matched
  simp only [Bool.and_eq_true, decide_eq_true_eq] at within
  refine ⟨range, List.mem_of_find?_eq_some matched, rfl, rfl, ?_⟩
  have high := UInt8.le_iff_toNat_le.mp within.2
  dsimp only
  omega

theorem IsMapped.ext (mapped : slot.IsMapped) (also : other.IsMapped)
    (register : slot.register = other.register) (index : slot.index = other.index) :
    slot = other := by
  obtain ⟨first, left, named, access, -⟩ := mapped.range
  obtain ⟨second, right, alike, likewise, -⟩ := also.range
  have same := StandardRange.eq_of_register left right (named.trans (register.trans alike.symm))
  obtain ⟨_, _, _⟩ := slot
  obtain ⟨_, _, _⟩ := other
  subst same
  simp_all

/-- What holds of every range of a register holds of its slots. -/
theorem IsMapped.index_lt (mapped : slot.IsMapped) {bound : Nat}
    (narrow : ∀ range ∈ StandardRange.all, range.register = slot.register →
      range.last.toNat - range.first.toNat < bound) : slot.index < bound := by
  obtain ⟨range, listed, named, -, within⟩ := mapped.range
  exact Nat.lt_of_le_of_lt within (narrow range listed named)

end StandardSlot

namespace RegisterTarget

/-- The target keeps what is written to it. -/
def IsMemory : RegisterTarget → Prop
  | standard slot =>
      slot.register = .nodeControl ∨ slot.register = .userId ∨ slot.register = .pageSelectMsb ∨
        slot.register = .pageSelectLsb
  | decisionMatrix _ | ruleset _ => True
  | application | unmapped => False

/-- The place of the target in the store. -/
def address? (layout : Layout) : RegisterTarget → Option Nat
  | standard slot =>
      match slot.register with
      | .guid => some (Layout.guid + slot.index)
      | .nickname => some Layout.nickname
      | .nodeControl => some Layout.nodeControl
      | .userId => some (Layout.userId + slot.index)
      | _ => none
  | decisionMatrix index => some (Layout.matrixBase + index)
  | ruleset index => some (layout.rulesetBase + index)
  | application | unmapped => none

/-- The target is one that the map of a node with this layout leads to. -/
def Within (layout : Layout) : RegisterTarget → Prop
  | standard slot => slot.IsMapped
  | decisionMatrix index =>
      index < layout.rows.toNat * (Layout.rowLength + Layout.extensionRowLength)
  | ruleset index => index < layout.capacity.toNat
  | application | unmapped => True

variable {layout : Layout}

/-- The standard registers are kept in front of the matrix. -/
theorem address_standard {slot : StandardSlot} (mapped : slot.IsMapped) {address : Nat}
    (kept : (standard slot).address? layout = some address) :
    (slot.register = .guid ∧ address < 16 ∧ address = slot.index) ∨
      (slot.register = .nickname ∧ address = 16 ∧ slot.index = 0) ∨
      (slot.register = .nodeControl ∧ address = 17 ∧ slot.index = 0) ∨
      (slot.register = .userId ∧ 19 ≤ address ∧ address < 24 ∧ address = 19 + slot.index) := by
  unfold address? at kept
  dsimp only at kept
  split at kept
  · rename_i register
    have few : slot.index < 16 := mapped.index_lt (by rw [register]; decide)
    have place := Option.some.inj kept
    unfold Layout.guid at place
    exact .inl ⟨register, by omega, by omega⟩
  · rename_i register
    have single : slot.index < 1 := mapped.index_lt (by rw [register]; decide)
    exact .inr (.inl ⟨register, (Option.some.inj kept).symm, by omega⟩)
  · rename_i register
    have single : slot.index < 1 := mapped.index_lt (by rw [register]; decide)
    exact .inr (.inr (.inl ⟨register, (Option.some.inj kept).symm, by omega⟩))
  · rename_i register
    have few : slot.index < 5 := mapped.index_lt (by rw [register]; decide)
    have place := Option.some.inj kept
    unfold Layout.userId at place
    exact .inr (.inr (.inr ⟨register, by omega, by omega, by omega⟩))
  · cases kept

theorem address_standard_lt {slot : StandardSlot} (mapped : slot.IsMapped) {address : Nat}
    (kept : (standard slot).address? layout = some address) : address < Layout.matrixBase := by
  unfold Layout.matrixBase
  rcases address_standard mapped kept with ⟨-, low, -⟩ | ⟨-, low, -⟩ | ⟨-, low, -⟩ | ⟨-, -, low, -⟩
  all_goals omega

/-- The matrix is kept in front of the ruleset. -/
theorem matrix_lt_rulesetBase {index : Nat} (within : (decisionMatrix index).Within layout) :
    Layout.matrixBase + index < layout.rulesetBase := by
  change index < layout.rows.toNat * (Layout.rowLength + Layout.extensionRowLength) at within
  unfold Layout.rulesetBase Layout.extensionRow Layout.extensionBase Layout.row
  rw [Nat.mul_add] at within
  omega

theorem matrixBase_le_rulesetBase (layout : Layout) : Layout.matrixBase ≤ layout.rulesetBase := by
  unfold Layout.rulesetBase Layout.extensionRow Layout.extensionBase Layout.row
  omega

/-- Everything is kept within the layout. -/
theorem address_lt_stop {target : RegisterTarget} (within : target.Within layout) {address : Nat}
    (kept : target.address? layout = some address) : address < layout.stop := by
  have order := matrixBase_le_rulesetBase layout
  unfold Layout.stop
  cases target with
  | standard slot =>
      have low := address_standard_lt within kept
      omega
  | decisionMatrix index =>
      have low := matrix_lt_rulesetBase within
      cases kept
      omega
  | ruleset index =>
      change index < layout.capacity.toNat at within
      cases kept
      omega
  | application => cases kept
  | unmapped => cases kept

/-- Two slots in the same place are the same. -/
theorem slot_of_address {slot other : StandardSlot} (mapped : slot.IsMapped) (also : other.IsMapped)
    {address : Nat} (kept : (standard slot).address? layout = some address)
    (likewise : (standard other).address? layout = some address) : slot = other := by
  apply mapped.ext also
  all_goals
    rcases address_standard mapped kept with ⟨first, _, _⟩ | ⟨first, _, _⟩ | ⟨first, _, _⟩ |
      ⟨first, _, _, _⟩
    all_goals
      rcases address_standard also likewise with ⟨second, _, _⟩ | ⟨second, _, _⟩ |
        ⟨second, _, _⟩ | ⟨second, _, _, _⟩
      all_goals first | omega | exact first.trans second.symm

/-- Two targets in the same place are the same. -/
theorem eq_of_address {first second : RegisterTarget} (left : first.Within layout)
    (right : second.Within layout) {address : Nat} (kept : first.address? layout = some address)
    (also : second.address? layout = some address) : first = second := by
  have order := matrixBase_le_rulesetBase layout
  cases first with
  | standard slot =>
      have low := address_standard_lt left kept
      cases second with
      | standard other => exact congrArg standard (slot_of_address left right kept also)
      | decisionMatrix index =>
          have place := Option.some.inj also
          omega
      | ruleset index =>
          have place := Option.some.inj also
          omega
      | application => cases also
      | unmapped => cases also
  | decisionMatrix index =>
      have low := matrix_lt_rulesetBase left
      have place := Option.some.inj kept
      cases second with
      | standard slot =>
          have below := address_standard_lt right also
          omega
      | decisionMatrix other =>
          have likewise := Option.some.inj also
          exact congrArg decisionMatrix (by omega)
      | ruleset other =>
          have likewise := Option.some.inj also
          omega
      | application => cases also
      | unmapped => cases also
  | ruleset index =>
      have place := Option.some.inj kept
      cases second with
      | standard slot =>
          have below := address_standard_lt right also
          omega
      | decisionMatrix other =>
          have low := matrix_lt_rulesetBase right
          have likewise := Option.some.inj also
          omega
      | ruleset other =>
          have likewise := Option.some.inj also
          exact congrArg ruleset (by omega)
      | application => cases also
      | unmapped => cases also
  | application => cases kept
  | unmapped => cases kept

end RegisterTarget

/-- A map leads to nothing outside the layout that it is made for. -/
theorem RegisterMap.within_resolve {map : RegisterMap} {layout : Layout}
    (rows : map.matrixLength =
      layout.rows.toNat * (Layout.rowLength + Layout.extensionRowLength))
    (capacity : map.rulesetLength = layout.capacity.toNat) (page : UInt16) (offset : UInt8) :
    (map.resolve page offset).Within layout := by
  unfold resolve
  split
  · split
    · rename_i slot found
      exact ⟨offset, found⟩
    · trivial
  · split
    · split
      · rename_i low
        exact Nat.lt_of_lt_of_eq low rows
      · trivial
    · split
      · split
        · rename_i low
          exact Nat.lt_of_lt_of_eq low capacity
        · trivial
      · trivial

namespace RegisterMap

variable (map : RegisterMap) {offset : UInt8}

/-- The upper half of every page is the same. -/
theorem resolve_of_high (high : StandardRange.start ≤ offset) (page other : UInt16) :
    map.resolve other offset = map.resolve page offset := by
  rw [resolve, resolve, if_pos high, if_pos high]

/-- Nothing in the upper half belongs to the application. -/
theorem resolve_ne_application (high : StandardRange.start ≤ offset) (page : UInt16) :
    map.resolve page offset ≠ .application := by
  rw [resolve, if_pos high]
  split <;> simp

/-- The standard registers are in the upper half. -/
theorem resolve_ne_standard (low : offset < StandardRange.start) (page : UInt16)
    (slot : StandardSlot) : map.resolve page offset ≠ .standard slot := by
  rw [resolve, if_neg (UInt8.not_le.mpr low)]
  split
  · split <;> simp
  · split
    · split <;> simp
    · simp

/-- Every page shows the standard registers. -/
theorem resolve_of_standard {map : RegisterMap} {page : UInt16} {offset : UInt8}
    {slot : StandardSlot} (standard : map.resolve page offset = .standard slot) (other : UInt16) :
    map.resolve other offset = .standard slot := by
  by_cases high : StandardRange.start ≤ offset
  · rw [map.resolve_of_high high page]
    exact standard
  · exact absurd standard (map.resolve_ne_standard (UInt8.not_le.mp high) page slot)

end RegisterMap

end Vscp
