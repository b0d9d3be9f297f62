/-
This file says what a node needs of a timer service and gives the service that counts time itself.
-/

namespace Vscp

/-- One-shot timers, each named by the byte that its creation answers. Times are milliseconds. -/
class TimerService (Clock : Type) where
  create : Clock → Option UInt8 × Clock
  start : Clock → UInt8 → Nat → Clock
  stop : Clock → UInt8 → Clock
  running : Clock → UInt8 → Bool
  advance : Clock → Nat → Clock

/-- Timers that run down as time is reported; a stopped timer has no remaining time. -/
structure SoftTimers where
  remaining : List (Option Nat)
  capacity : Nat
  deriving DecidableEq, Repr

namespace SoftTimers

def empty (capacity : Nat) : SoftTimers where
  remaining := []
  capacity := capacity

/-- A byte names a timer, so at most 256 are created. -/
def create (timers : SoftTimers) : Option UInt8 × SoftTimers :=
  let count := timers.remaining.length
  if count < timers.capacity ∧ count < 256 then
    (some (UInt8.ofNat count), { timers with remaining := timers.remaining ++ [none] })
  else (none, timers)

def start (timers : SoftTimers) (timer : UInt8) (timeout : Nat) : SoftTimers :=
  { timers with remaining := timers.remaining.set timer.toNat (some timeout) }

def stop (timers : SoftTimers) (timer : UInt8) : SoftTimers :=
  { timers with remaining := timers.remaining.set timer.toNat none }

def remaining? (timers : SoftTimers) (timer : UInt8) : Option Nat :=
  timers.remaining[timer.toNat]?.join

def running (timers : SoftTimers) (timer : UInt8) : Bool :=
  (timers.remaining? timer).any (0 < ·)

def advance (timers : SoftTimers) (elapsed : Nat) : SoftTimers :=
  { timers with remaining := timers.remaining.map (Option.map (· - elapsed)) }

instance : TimerService SoftTimers where
  create := create
  start := start
  stop := stop
  running := running
  advance := advance

end SoftTimers

end Vscp
