/-
This file names the faults of rule byte code.
-/

import Vscp.Text.Numeral

namespace Vscp

inductive FaultKind where
  | truncatedRuleset
  | ruleLengthInvalid
  | truncatedCondition
  | unknownLogicOp
  | unknownBasicOp
  | unknownParam
  | trailingBytes
  deriving DecidableEq, Repr

def FaultKind.all : List FaultKind :=
  [.truncatedRuleset, .ruleLengthInvalid, .truncatedCondition, .unknownLogicOp, .unknownBasicOp,
    .unknownParam, .trailingBytes]

def FaultKind.message : FaultKind → String
  | .truncatedRuleset => "ruleset ends before the announced rule count"
  | .ruleLengthInvalid => "rule length byte is invalid"
  | .truncatedCondition => "condition is truncated by the rule boundary"
  | .unknownLogicOp => "unknown logic operation"
  | .unknownBasicOp => "unknown comparison operation"
  | .unknownParam => "unknown parameter id"
  | .trailingBytes => "rule has bytes after its last condition"

/-- A fault and the offset in the ruleset where decoding stopped. -/
structure Flaw where
  kind : FaultKind
  offset : Nat
  deriving DecidableEq, Repr

structure RuleFault where
  rule : Nat
  offset : Nat
  kind : FaultKind
  deriving DecidableEq, Repr

/-- Offsets are reported in sixteen bits. -/
def RuleFault.reportedOffset (offset : Nat) : Nat :=
  min offset 65535

def RuleFault.ofFlaw (rule : Nat) (flaw : Flaw) : RuleFault :=
  ⟨rule, RuleFault.reportedOffset flaw.offset, flaw.kind⟩

def RuleFault.message (fault : RuleFault) : String :=
  "rule " ++ Numeral.decimal fault.rule ++ " at byte " ++ Numeral.decimal fault.offset ++ ": " ++
    fault.kind.message

end Vscp
