/-
This file names the states of a node and the outcomes of its steps.
-/

import Vscp.Rule.Basic

namespace Vscp

inductive NodeFault where
  | timerExhausted
  deriving DecidableEq, Repr

def NodeFault.message : NodeFault → String
  | .timerExhausted => "timer service has no free slot"

inductive Lifecycle where
  | starting
  | nicknameDiscovery
  | active
  /-- Events are drained until the host restarts the node. -/
  | idle
  | error (fault : NodeFault)
  | bootLoaderHandoff
  deriving DecidableEq, Repr

namespace Lifecycle

def fault? : Lifecycle → Option NodeFault
  | error fault => some fault
  | _ => none

/-- A node in an inert state does nothing. -/
def isInert : Lifecycle → Bool
  | error _ | bootLoaderHandoff => true
  | _ => false

end Lifecycle

inductive Outcome where
  | inert
  | started
  | noEvent
  | ignored
  | management (typeId : UInt8)
  | application (fired : Nat) (hit : Option RuleHit)
  deriving DecidableEq, Repr

end Vscp
