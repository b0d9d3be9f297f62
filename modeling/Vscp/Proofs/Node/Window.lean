/-
This file proves that the pages of a node show the bytes from which both of its matrices are read.
-/

import Vscp.Proofs.Node.Memory
import Vscp.Proofs.Store.Sequence

namespace Vscp

namespace MatrixRow

/-- The rows at the start of the bytes of a matrix page. -/
def decode (rows : Nat) (bytes : List UInt8) : List MatrixRow :=
  (List.range rows).map fun index =>
    ofBytes ((bytes.drop (8 * index)).take 8)

end MatrixRow

namespace ExtensionRow

/-- The extension rows behind the rows of a matrix page. -/
def decode (rows : Nat) (bytes : List UInt8) : List ExtensionRow :=
  (List.range rows).map fun index =>
    ofBytes ((bytes.drop (8 * rows + 9 * index)).take 9)

end ExtensionRow

namespace Node

variable {Clock App : Type} [Application App]

/-- What a host reads from the first registers of a page. -/
def window (node : Node Clock App) (page : UInt16) (count : Nat) : List UInt8 :=
  (List.range count).map fun index => (node.readRegister page (UInt8.ofNat index)).1

/-- A window of registers that are kept one after the other shows a run of the store. -/
theorem window_eq_readMany {node : Node Clock App} {page : UInt16} {base count : Nat}
    (short : base + count ≤ Store.addresses)
    (target : ∀ index < count, ∃ target,
      node.registerMap.resolve page (UInt8.ofNat index) = target ∧ target ≠ .application ∧
        target.address? node.layout = some (base + index)) :
    node.window page count = node.store.readMany base count := by
  rw [Store.readMany_of_short _ short, List.range'_eq_map_range, List.map_map]
  apply List.map_congr_left
  intro index within
  have inside := List.mem_range.mp within
  obtain ⟨target, resolved, own, kept⟩ := target index inside
  subst resolved
  rw [readRegister_shown own, shown_of_address kept]
  rfl

section Pages

variable {node : Node Clock App} (paged : node.config.Paged)

omit [Application App] in
/-- The offsets of a window are below the standard registers. -/
theorem offset_below {index : Nat} (low : index < Config.windowLength) :
    (UInt8.ofNat index).toNat = index ∧ ¬StandardRange.start ≤ UInt8.ofNat index := by
  change index < 128 at low
  have same : (UInt8.ofNat index).toNat = index := by
    rw [UInt8.toNat_ofNat']
    omega
  refine ⟨same, fun high => ?_⟩
  have bound : 128 ≤ (UInt8.ofNat index).toNat := UInt8.le_iff_toNat_le.mp high
  omega

include paged

omit [Application App] in
theorem resolve_matrix {index : Nat} (within : index < node.config.matrixLength) :
    node.registerMap.resolve node.config.matrixPage (UInt8.ofNat index) =
      .decisionMatrix index := by
  obtain ⟨same, below⟩ := offset_below (Nat.lt_of_lt_of_le within paged.matrix)
  have page : node.config.matrixPage = node.registerMap.matrixPage := rfl
  rw [RegisterMap.resolve, if_neg below, if_pos page, same]
  exact if_pos within

omit [Application App] in
theorem resolve_ruleset (enabled : node.config.rulesEnabled = true) {index : Nat}
    (within : index < node.config.rulesetCapacity.toNat) :
    node.registerMap.resolve node.config.rulesetPage (UInt8.ofNat index) = .ruleset index := by
  obtain ⟨same, below⟩ := offset_below (Nat.lt_of_lt_of_le within paged.ruleset)
  have other : ¬node.config.rulesetPage = node.registerMap.matrixPage := paged.apart
  have page : some node.config.rulesetPage = node.registerMap.rulesetPage := (if_pos enabled).symm
  rw [RegisterMap.resolve, if_neg below, if_neg other, if_pos page, same]
  exact if_pos within

omit [Application App] in
/-- Both matrices lie in front of the last address. -/
theorem matrices_short :
    Layout.matrixBase + node.config.matrixLength ≤ Store.addresses ∧
      node.layout.rulesetBase + node.config.rulesetCapacity.toNat ≤ Store.addresses := by
  have matrix := paged.matrix
  have ruleset := paged.ruleset
  unfold Config.matrixLength Layout.rowLength Layout.extensionRowLength Config.windowLength at *
  unfold Layout.rulesetBase Layout.extensionRow Layout.extensionBase Layout.row Layout.rowLength
    Layout.extensionRowLength Layout.matrixBase Store.addresses
  change _ ∧ 0x18 + node.config.matrixRows.toNat * 8 + node.config.matrixRows.toNat * 9 + _ ≤ _
  omega

theorem window_matrix :
    node.window node.config.matrixPage node.config.matrixLength =
      node.store.readMany Layout.matrixBase node.config.matrixLength := by
  apply window_eq_readMany
  · exact (matrices_short paged).1
  · intro index within
    exact ⟨.decisionMatrix index, resolve_matrix paged within, RegisterTarget.noConfusion, rfl⟩

theorem window_ruleset (enabled : node.config.rulesEnabled = true) :
    node.window node.config.rulesetPage node.config.rulesetCapacity.toNat = node.ruleset := by
  apply window_eq_readMany
  · exact (matrices_short paged).2
  · intro index within
    exact ⟨.ruleset index, resolve_ruleset paged enabled within, RegisterTarget.noConfusion, rfl⟩

/-- The rows that an event goes through are those that the matrix page shows. -/
theorem matrix_rows :
    node.matrix.map (·.1) = MatrixRow.decode node.config.matrixRows.toNat
      (node.window node.config.matrixPage node.config.matrixLength) := by
  rw [window_matrix paged]
  unfold matrix MatrixRow.decode
  rw [List.map_map]
  apply List.map_congr_left
  intro index within
  have inside := List.mem_range.mp within
  have row : 8 * index + 8 ≤ node.config.matrixLength := by
    unfold Config.matrixLength Layout.rowLength Layout.extensionRowLength
    omega
  rw [Store.slice_readMany _ row (matrices_short paged).1, Nat.mul_comm]
  rfl

/-- The extension rows are those behind the rows. -/
theorem matrix_extensions :
    node.matrix.map (·.2) = ExtensionRow.decode node.config.matrixRows.toNat
      (node.window node.config.matrixPage node.config.matrixLength) := by
  rw [window_matrix paged]
  unfold matrix ExtensionRow.decode
  rw [List.map_map]
  apply List.map_congr_left
  intro index within
  have inside := List.mem_range.mp within
  have row : 8 * node.config.matrixRows.toNat + 9 * index + 9 ≤ node.config.matrixLength := by
    unfold Config.matrixLength Layout.rowLength Layout.extensionRowLength
    omega
  rw [Store.slice_readMany _ row (matrices_short paged).1, Nat.mul_comm 8, Nat.mul_comm 9,
    ← Nat.add_assoc]
  rfl

end Pages

end Node

end Vscp
