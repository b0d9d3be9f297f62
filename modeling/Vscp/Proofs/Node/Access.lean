/-
This file proves that register accesses leave the identity and the protocol of a node alone.
-/

import Vscp.Proofs.Node.Core

namespace Vscp

/-- The addresses of the identity, the nickname and the check sum of the segment. -/
def Layout.IsIdentity (address : Nat) : Prop :=
  address ≤ Layout.nickname ∨ address = Layout.segmentCrc

namespace NodeCore

variable {Clock : Type}

/-- What register accesses may change: the page, the alarm, the wait for factory defaults and the
store outside the identity. -/
structure Accessed (before after : NodeCore Clock) : Prop where
  others : after = { before with
    store := after.store
    pageSelect := after.pageSelect
    alarm := after.alarm
    restoreArmedAt := after.restoreArmedAt }
  size : after.store.size = before.store.size
  identity : ∀ address, Layout.IsIdentity address →
    after.store.read address = before.store.read address

namespace Accessed

theorem refl (core : NodeCore Clock) : Accessed core core :=
  ⟨rfl, rfl, fun _ _ => rfl⟩

theorem trans {first second third : NodeCore Clock} (left : Accessed first second)
    (right : Accessed second third) : Accessed first third where
  others := by
    rw [right.others, left.others]
  size := right.size.trans left.size
  identity address own := (right.identity address own).trans (left.identity address own)

theorem nickname {before after : NodeCore Clock} (access : Accessed before after) :
    after.nickname = before.nickname :=
  access.identity Layout.nickname (.inl (Nat.le_refl _))

theorem config {before after : NodeCore Clock} (access : Accessed before after) :
    after.config = before.config := by
  rw [access.others]

theorem lifecycle {before after : NodeCore Clock} (access : Accessed before after) :
    after.lifecycle = before.lifecycle := by
  rw [access.others]

theorem writeStore (core : NodeCore Clock) {address : Nat} (value : UInt8)
    (foreign : ¬Layout.IsIdentity address) : Accessed core (core.writeStore address value) where
  others := rfl
  size := Store.size_write ..
  identity other own := by
    have apart : other ≠ address := by
      rintro rfl
      exact foreign own
    exact Store.read_write_other core.store apart value

end Accessed

end NodeCore

theorem Layout.matrixBase_foreign (index : Nat) :
    ¬Layout.IsIdentity (Layout.matrixBase + index) := by
  unfold IsIdentity nickname segmentCrc matrixBase
  omega

theorem Layout.userId_foreign (index : Nat) : ¬Layout.IsIdentity (Layout.userId + index) := by
  unfold IsIdentity nickname segmentCrc userId
  omega

theorem Layout.nodeControl_foreign : ¬Layout.IsIdentity Layout.nodeControl := by
  unfold IsIdentity nickname segmentCrc nodeControl
  omega

/-- The ruleset starts behind the rows of the matrix. -/
theorem Layout.rulesetBase_foreign (layout : Layout) (index : Nat) :
    ¬Layout.IsIdentity (layout.rulesetBase + index) := by
  unfold IsIdentity nickname segmentCrc rulesetBase extensionRow extensionBase row matrixBase
  omega

namespace Node

open NodeCore

variable {Clock App : Type} [Application App]

theorem core_peek (node : Node Clock App) (target : RegisterTarget) (page : UInt16)
    (offset : UInt8) : (node.peek target page offset).2.core = node.core := by
  cases target <;> rfl

theorem accessed_readRegister (node : Node Clock App) (page : UInt16) (offset : UInt8) :
    Accessed node.core (node.readRegister page offset).2.core := by
  have looked := node.core_peek (node.registerMap.resolve page offset) page offset
  unfold readRegister afterRead
  dsimp only
  split
  · rw [← looked]
    exact ⟨rfl, rfl, fun _ _ => rfl⟩
  · rw [looked]
    exact .refl _

theorem accessed_writeRestore (node : Node Clock App) (value : UInt8) :
    Accessed node.core (node.writeRestore value).core := by
  unfold writeRestore
  dsimp only
  split
  · exact ⟨rfl, rfl, fun _ _ => rfl⟩
  · split <;> exact ⟨rfl, rfl, fun _ _ => rfl⟩

theorem accessed_writeStandard (node : Node Clock App) (slot : StandardSlot) (value : UInt8) :
    Accessed node.core (node.writeStandard slot value).core := by
  unfold writeStandard
  split
  · exact .writeStore node.core value Layout.nodeControl_foreign
  · exact .writeStore node.core value (Layout.userId_foreign slot.index)
  · exact ⟨rfl, rfl, fun _ _ => rfl⟩
  · exact ⟨rfl, rfl, fun _ _ => rfl⟩
  · exact node.accessed_writeRestore value
  · exact .refl _

/-- A write to any page at any offset keeps to the area behind its target. -/
theorem accessed_writeRegister (node : Node Clock App) (page : UInt16) (offset value : UInt8) :
    Accessed node.core (node.writeRegister page offset value).2.core := by
  unfold writeRegister
  dsimp only
  split
  · rw [core_peek]
    split
    · exact node.accessed_writeStandard _ value
    · exact .refl _
  · rw [core_peek]
    exact .writeStore node.core value (Layout.matrixBase_foreign _)
  · rw [core_peek]
    exact .writeStore node.core value (Layout.rulesetBase_foreign _ _)
  · exact .refl _
  · rw [core_peek]
    exact .refl _

theorem accessed_readEach (page : UInt16) (registers : List UInt8) (node : Node Clock App) :
    Accessed node.core (readEach page registers node).2.core := by
  induction registers generalizing node with
  | nil => exact .refl _
  | cons register rest ih => exact (node.accessed_readRegister page register).trans (ih _)

theorem accessed_writeEach (page : UInt16) (writes : List (UInt8 × UInt8))
    (node : Node Clock App) : Accessed node.core (writeEach page writes node).2.core := by
  induction writes generalizing node with
  | nil => exact .refl _
  | cons write rest ih =>
      exact (node.accessed_writeRegister page write.1 write.2).trans (ih _)

theorem accessed_stepRegister (node : Node Clock App) (register : UInt8)
    (step : UInt8 → UInt8) : Accessed node.core (node.stepRegister register step).core := by
  unfold stepRegister replyRegister
  dsimp only
  rw [core_reply, ← core_peek node (node.registerMap.resolve node.pageSelect register)
    node.pageSelect register]
  exact accessed_writeRegister ..

theorem accessed_pageRead (node : Node Clock App) (offset : UInt8) (count : Nat) :
    Accessed node.core (node.pageRead offset count).core := by
  unfold pageRead
  dsimp only
  rw [core_sendFrames]
  exact accessed_readEach ..

theorem accessed_extendedPageRead (node : Node Clock App) (page : UInt16) (offset : UInt8)
    (count : Nat) : Accessed node.core (node.extendedPageRead page offset count).core := by
  unfold extendedPageRead
  dsimp only
  rw [core_sendFrames]
  exact accessed_readEach ..

end Node

end Vscp
