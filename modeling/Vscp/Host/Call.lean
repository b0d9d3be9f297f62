/-
This file names the calls by which a host drives a node and carries them out in order.
-/

import Vscp.Node.Step

namespace Vscp

inductive HostCall where
  | tick (elapsed : Nat)
  | process
  | poll (elapsed : Nat)
  | receive (event : Event)
  | readRegister (page : UInt16) (offset : UInt8)
  | writeRegister (page : UInt16) (offset value : UInt8)
  | raiseAlarm (bits : UInt8)
  | restart
  | reset
  | clearCounters
  | clearRuleFault
  deriving DecidableEq, Repr

/-- Processing answers its outcome, a register its value, and the other calls nothing. -/
inductive HostAnswer where
  | done
  | outcome (outcome : Outcome)
  | value (value : UInt8)
  deriving DecidableEq, Repr

namespace Node

variable {Clock App : Type} [TimerService Clock] [Application App]

def serve (node : Node Clock App) : HostCall → HostAnswer × Node Clock App
  | .tick elapsed => (.done, node.tick elapsed)
  | .process =>
      let (outcome, node) := node.process
      (.outcome outcome, node)
  | .poll elapsed =>
      let (outcome, node) := node.poll elapsed
      (.outcome outcome, node)
  | .receive event => (.done, node.receive event)
  | .readRegister page offset =>
      let (value, node) := node.readRegister page offset
      (.value value, node)
  | .writeRegister page offset value =>
      let (answer, node) := node.writeRegister page offset value
      (.value answer, node)
  | .raiseAlarm bits => (.done, node.raiseAlarm bits)
  | .restart => (.done, node.restart)
  | .reset => (.done, node.reset)
  | .clearCounters => (.done, node.clearCounters)
  | .clearRuleFault => (.done, node.clearRuleFault)

/-- The answers to calls that follow each other, and the node after them. -/
def serveAll : List HostCall → Node Clock App → List HostAnswer × Node Clock App
  | [], node => ([], node)
  | call :: rest, node =>
      let (answer, node) := node.serve call
      let (answers, node) := serveAll rest node
      (answer :: answers, node)

end Node

end Vscp
