/-
This file defines a rule and when it holds for an event.
-/

import Vscp.Rule.Comparison
import Vscp.Rule.Field

namespace Vscp

structure Condition where
  connective : Connective
  comparison : Comparison
  field : Field
  operand : Nat
  deriving DecidableEq, Repr

namespace Condition

/-- A condition on its own ends its chain. -/
def new (field : Field) (comparison : Comparison) (operand : Nat) : Condition :=
  ⟨.last, comparison, field, operand⟩

/-- A field that the payload does not reach meets no condition. -/
def holds (condition : Condition) (event : Event) : Bool :=
  (condition.field.fetch event).any fun value =>
    condition.comparison.holds value condition.operand

end Condition

namespace Chain

/-- The value of a chain whose earlier conditions gave `result` and end in `connective`. -/
def holdsAfter (event : Event) (result : Bool) (connective : Connective) :
    List Condition → Bool
  | [] => result
  | condition :: rest =>
      holdsAfter event (connective.join result (condition.holds event)) condition.connective rest

/-- Conditions are joined from left to right without precedence. -/
def holds (event : Event) : List Condition → Bool
  | [] => false
  | condition :: rest =>
      holdsAfter event (condition.holds event) condition.connective rest

/-- The last condition of the chain gets another connective. -/
def withLast (connective : Connective) : List Condition → List Condition
  | [] => []
  | [condition] => [{ condition with connective }]
  | condition :: rest => condition :: withLast connective rest

end Chain

structure Rule where
  action : UInt8
  param : UInt8
  conditions : List Condition
  deriving DecidableEq, Repr

namespace Rule

def when (action param : UInt8) (first : Condition) : Rule :=
  ⟨action, param, [first]⟩

/-- The rule with one more condition. -/
def joined (rule : Rule) (connective : Connective) (next : Condition) : Rule :=
  { rule with conditions := Chain.withLast connective rule.conditions ++ [next] }

def holds (rule : Rule) (event : Event) : Bool :=
  Chain.holds event rule.conditions

end Rule

/-- The action of the rule that fired. -/
structure RuleHit where
  rule : Nat
  action : UInt8
  param : UInt8
  deriving DecidableEq, Repr

end Vscp
