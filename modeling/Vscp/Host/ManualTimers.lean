/-
This file gives a timer service whose timers end when the host says so.
-/

import Vscp.Timer.Service

namespace Vscp

/-- Timers are created from the highest number down. -/
structure ManualTimers where
  free : Nat
  running : List Bool
  deriving DecidableEq, Repr

namespace ManualTimers

def empty (count : Nat) : ManualTimers :=
  ⟨count, List.replicate count false⟩

def create (timers : ManualTimers) : Option UInt8 × ManualTimers :=
  match timers.free with
  | 0 => (none, timers)
  | free + 1 => (some (UInt8.ofNat free), { timers with free })

def setRunning (timers : ManualTimers) (timer : UInt8) (running : Bool) : ManualTimers :=
  { timers with running := timers.running.set timer.toNat running }

def expire (timers : ManualTimers) (timer : UInt8) : ManualTimers :=
  timers.setRunning timer false

instance : TimerService ManualTimers where
  create := create
  start := fun timers timer _ => timers.setRunning timer true
  stop := fun timers timer => timers.setRunning timer false
  running := fun timers timer => timers.running.getD timer.toNat false
  advance := fun timers _ => timers

end ManualTimers

end Vscp
