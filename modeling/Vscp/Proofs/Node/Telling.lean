/-
This file proves that a node tells its application of a reset only while it starts over, and of one
reset with each call at most.
-/

import Vscp.Proofs.Node.Order

namespace Vscp.Node

variable {Clock App : Type}

/-- How often the application was told of a reset. -/
def resetsTold (node : Node Clock App) : Nat :=
  node.trace.count (.called .reset)

/-- The application is told of no reset, or of one while the node starts over. -/
def TellsReset (before after : Node Clock App) : Prop :=
  after.resetsTold = before.resetsTold ∨
    (after.lifecycle = .starting ∧ after.resetsTold = before.resetsTold + 1)

theorem Renewed.tellsReset {before after : Node Clock App} {writes drops : Prop}
    (renewed : Renewed before after writes drops) : TellsReset before after := by
  cases renewed with
  | kept same => exact .inl (congrArg Renewal.resets same)
  | reset starting told => exact .inr ⟨starting, congrArg Renewal.resets told⟩
  | dropped asked starting told => exact .inr ⟨starting, congrArg Renewal.resets told⟩
  | wrote asked resets => exact .inl resets

variable [TimerService Clock]

theorem resetsTold_ticked (node : Node Clock App) (call : HostCall) :
    (node.ticked call).resetsTold = node.resetsTold := by
  cases call <;> rfl

variable [Application App]

/-- A reset that is due is told of. -/
theorem resetsTold_of_resetDue {node : Node Clock App} (sound : node.lifecycle.fault? = none)
    (due : node.core.ResetDue) : node.serviceTimers.resetsTold = node.resetsTold + 1 := by
  obtain ⟨settled, expired, pending⟩ := due
  have told := node.renewal_takeExpired .general
  obtain ⟨after, taken, seen⟩ := node.takeExpired_eq .general
  have lifecycle : after.lifecycle = node.lifecycle := congrArg NodeCore.lifecycle seen
  have owed : after.resetPending = true := (congrArg NodeCore.resetPending seen).trans pending
  have waits : ¬after.lifecycle = .nicknameDiscovery := lifecycle ▸ settled
  have running : after.lifecycle.fault? = none := lifecycle ▸ sound
  rw [taken] at told
  have started : node.serviceTimers.renewal = node.renewal.reset := by
    rw [renewal_serviceTimers, serviceGeneral, taken, expired]
    simp only [if_true, onGeneralExpiry, if_neg waits, owed]
    split
    · have withdrawn : (after.setNickname Protocol.unassigned).lifecycle.fault? = none := running
      rw [renewal_reset withdrawn, renewal_setNickname, told]
    · rw [renewal_reset running, told]
  exact congrArg Renewal.resets started

/-- Every call of the host tells of no reset, or of one while the node starts over. -/
theorem tellsReset_serve (node : Node Clock App) (call : HostCall) :
    TellsReset node (node.serve call).2 := by
  have tells := (node.renewed_serve call).tellsReset
  unfold TellsReset at tells ⊢
  rwa [resetsTold_ticked] at tells

end Vscp.Node
