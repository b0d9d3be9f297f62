/-
This file proves that a node keeps the settings that it was built with, and what usable settings
say of the pages.
-/

import Vscp.Proofs.Accord.Serve
import Vscp.Proofs.Node.Run

namespace Vscp

namespace Config

variable {config : Config}

/-- Usable settings give the matrix and the ruleset a page each and keep both below the standard
registers. -/
structure Paged (config : Config) : Prop where
  matrix : config.matrixLength ≤ windowLength
  ruleset : config.rulesetCapacity.toNat ≤ windowLength
  apart : config.rulesetPage ≠ config.matrixPage

theorem paged_of_check (checked : config.check = .ok ()) : config.Paged := by
  unfold check at checked
  repeat
    split at checked
    · cases checked
  rename_i apart rows capacity _ _
  exact ⟨Nat.not_lt.mp rows, Nat.not_lt.mp capacity, fun same => apart (.inr same)⟩

end Config

namespace Node

variable {Clock App : Type}

/-- Nothing that a node does changes its settings. -/
def keepsConfig (config : Config) : Lasting Clock App where
  Holds node := node.config = config
  strict := False
  adopt _ same _ holds := (same _).trans holds
  replace _ holds := holds
  emit _ holds := holds
  write _ _ holds := holds
  count _ _ holds := holds
  send classId typeId origin data _ holds :=
    (congrArg NodeCore.config (core_send _ classId typeId origin data)).trans holds
  queue _ holds := holds
  clear holds := holds

variable [TimerService Clock] [Application App]

theorem config_serve (node : Node Clock App) (call : HostCall) :
    (node.serve call).2.config = node.config :=
  (keepsConfig node.config).serve rfl False.elim call

theorem config_undergoAll (acts : List (HostAct Clock App)) (node : Node Clock App) :
    (undergoAll acts node).config = node.config := by
  induction acts generalizing node with
  | nil => rfl
  | cons act rest ih =>
      have step : (node.undergo act).config = node.config := by
        cases act with
        | call call => exact node.config_serve call
        | surround store transport clock app => rfl
      exact (ih (node.undergo act)).trans step

section Built

variable {config : Config} {store : Store} {transport : Transport} {clock : Clock} {app : App}
  {node : Node Clock App} (built : build config store transport clock app = .ok node)

include built

theorem config_build : node.config = config := by
  obtain ⟨_, -, rfl⟩ := map_eq_ok_iff.mp built
  generalize TimerBank.createMany 4 clock = created
  dsimp only
  split <;> rfl

/-- A node keeps the settings from which it was built. -/
theorem config_reached (acts : List (HostAct Clock App)) :
    (undergoAll acts node).config = config :=
  (config_undergoAll acts node).trans (config_build built)

end Built

end Node

end Vscp
