/-
This file names what a node does to its surroundings.
-/

import Vscp.Event
import Vscp.Matrix
import Vscp.Node.Lifecycle
import Vscp.Rule.Fault

namespace Vscp

inductive Lamp where
  | off
  | on
  | blink
  deriving DecidableEq, Repr

/-- What a node tells its application. -/
inductive Call where
  | setLamp (lamp : Lamp)
  | reset
  | idle
  | error (fault : NodeFault)
  | bootLoader (algorithm : UInt8)
  | restoreFactoryDefaults
  | provide (event : Event)
  | execute (action param : UInt8) (event : Event)
  deriving DecidableEq, Repr

inductive Severity where
  | error
  | warning
  | information
  | debug
  deriving DecidableEq, Repr

/-- What a node writes to its log. -/
inductive Notice where
  | timersExhausted
  | restartRequested
  | reset
  | active (nickname : UInt8)
  | discoveryStarted
  | probing (candidate : UInt8)
  | sessionExpired (index : Nat)
  | malformedFrame (classId : UInt16) (typeId : UInt8) (cause : EventError)
  | refusedFrame (classId : UInt16) (typeId : UInt8)
  | rowFires (firing : Firing)
  | ruleFault (fault : RuleFault)
  | ruleFires (hit : RuleHit)
  | idle
  | segmentChanged (stored received : UInt8)
  | nicknameAssigned (nickname : UInt8)
  | masterPresent
  | noFreeNickname
  | defending (nickname : UInt8)
  | collision (nickname : UInt8)
  | nicknameChanged (old new : UInt8)
  | factoryDrop
  | resetDelayed (seconds : Nat)
  | bootLoader (algorithm : UInt8)
  | guidDrop (origin : UInt8)
  | sessionDiscarded (index : Nat)
  | restoreArmed
  | restoring
  deriving DecidableEq, Repr

namespace Notice

def severity : Notice → Severity
  | timersExhausted => .error
  | malformedFrame .. | refusedFrame .. | ruleFault _ | noFreeNickname | collision _ => .warning
  | restartRequested | reset | active _ | discoveryStarted | idle | segmentChanged ..
  | nicknameAssigned _ | nicknameChanged .. | factoryDrop | bootLoader _ | guidDrop _
  | restoring => .information
  | probing _ | sessionExpired _ | rowFires _ | ruleFires _ | masterPresent | defending _
  | resetDelayed _ | sessionDiscarded _ | restoreArmed => .debug

def byteText (byte : UInt8) : String :=
  Numeral.decimal byte.toNat

def byteCode (byte : UInt8) : String :=
  "0x" ++ Numeral.hexadecimal 2 byte.toNat

def frameText (classId : UInt16) (typeId : UInt8) : String :=
  "frame class " ++ Numeral.decimal classId.toNat ++ " type " ++ byteText typeId

def actionText (action param : UInt8) : String :=
  " fires action " ++ byteCode action ++ " param " ++ byteText param

def text : Notice → String
  | timersExhausted => "timer service exhausted, node enters error state"
  | restartRequested => "node restart requested"
  | reset => "node reset"
  | active nickname => "node active with nickname " ++ byteText nickname
  | discoveryStarted => "nickname discovery started"
  | probing candidate => "probing nickname " ++ byteText candidate
  | sessionExpired index => "guid drop session " ++ Numeral.decimal index ++ " timed out"
  | malformedFrame classId typeId cause =>
      "dropping malformed " ++ frameText classId typeId ++ ": " ++ cause.message
  | refusedFrame classId typeId => "transport refused " ++ frameText classId typeId
  | rowFires firing =>
      "dm row " ++ Numeral.decimal firing.row ++ actionText firing.action firing.param
  | ruleFault fault => "dm-ng " ++ fault.message
  | ruleFires hit => "dm-ng rule " ++ Numeral.decimal hit.rule ++ actionText hit.action hit.param
  | idle => "node idle"
  | segmentChanged stored received =>
      "segment controller CRC changed from " ++ byteCode stored ++ " to " ++ byteCode received
  | nicknameAssigned nickname => "nickname " ++ byteText nickname ++ " assigned"
  | masterPresent => "segment master present, waiting for assignment"
  | noFreeNickname => "no free nickname on the segment"
  | defending nickname => "defending nickname " ++ byteText nickname
  | collision nickname =>
      "nickname " ++ byteText nickname ++ " collision, restarting discovery"
  | nicknameChanged old new =>
      "nickname changed from " ++ byteText old ++ " to " ++ byteText new
  | factoryDrop => "drop nickname with factory defaults"
  | resetDelayed seconds => "reset in " ++ Numeral.decimal seconds ++ " s"
  | bootLoader algorithm =>
      "handing control to boot loader algorithm " ++ byteText algorithm
  | guidDrop origin => "guid drop nickname from " ++ byteText origin
  | sessionDiscarded index => "guid drop session " ++ Numeral.decimal index ++ " discarded"
  | restoreArmed => "restore defaults armed"
  | restoring => "restoring factory defaults"

end Notice

inductive Effect where
  | timerCreated (timer? : Option UInt8)
  | timerStarted (timer : UInt8) (timeout : Nat)
  | timerStopped (timer : UInt8)
  | stored (address : Nat) (value : UInt8)
  | frame (event : Event) (accepted : Bool)
  | called (call : Call)
  | registerRead (page : UInt16) (offset : UInt8)
  | registerWritten (page : UInt16) (offset value : UInt8)
  | logged (notice : Notice)
  deriving DecidableEq, Repr

end Vscp
