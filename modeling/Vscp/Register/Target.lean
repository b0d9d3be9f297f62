/-
This file says what stands behind a page and an offset.
-/

import Vscp.Register.Standard

namespace Vscp

inductive RegisterTarget where
  | standard (slot : StandardSlot)
  | decisionMatrix (index : Nat)
  | ruleset (index : Nat)
  | application
  | unmapped
  deriving DecidableEq, Repr

/-- The matrix and, if there is one, the ruleset have a page each. -/
structure RegisterMap where
  matrixPage : UInt16
  matrixLength : Nat
  rulesetPage : Option UInt16
  rulesetLength : Nat
  deriving DecidableEq, Repr

/-- The standard registers come first, then the matrix page, then the ruleset page. -/
def RegisterMap.resolve (map : RegisterMap) (page : UInt16) (offset : UInt8) : RegisterTarget :=
  if StandardRange.start ≤ offset then
    match StandardSlot.at? offset with
    | some slot => .standard slot
    | none => .unmapped
  else if page = map.matrixPage then
    if offset.toNat < map.matrixLength then .decisionMatrix offset.toNat else .unmapped
  else if some page = map.rulesetPage then
    if offset.toNat < map.rulesetLength then .ruleset offset.toNat else .unmapped
  else .application

end Vscp
