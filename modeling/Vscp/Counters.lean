/-
This file defines the diagnostic counters of a node.
-/

import Vscp.Rule.Fault

namespace Vscp

structure Counters where
  rxEvents : Nat := 0
  txEvents : Nat := 0
  txDropped : Nat := 0
  protocolEvents : Nat := 0
  matrixActions : Nat := 0
  ruleActions : Nat := 0
  ruleFaults : Nat := 0
  nicknameCollisions : Nat := 0
  discoveryRestarts : Nat := 0
  lastRuleFault : Option RuleFault := none
  deriving DecidableEq, Repr

namespace Counters

/-- Counters stay at the largest number of sixteen bits. -/
def increased (counter amount : Nat) : Nat :=
  min (counter + amount) 65535

def recordFrame (counters : Counters) (accepted : Bool) : Counters :=
  if accepted then { counters with txEvents := increased counters.txEvents 1 }
  else { counters with txDropped := increased counters.txDropped 1 }

def recordRuleFault (counters : Counters) (fault : RuleFault) : Counters :=
  { counters with
    ruleFaults := increased counters.ruleFaults 1
    lastRuleFault := some fault }

end Counters

end Vscp
