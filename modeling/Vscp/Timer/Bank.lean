/-
This file ties the logical timers of a node to the timers of a service.
-/

import Vscp.Timer.Service
import Vscp.Timer.Slot

namespace Vscp

/-- A logical timer is armed from its start until it is stopped or its expiry is taken. -/
structure TimerBank where
  timers : PerTimer UInt8
  armed : PerTimer Bool
  deriving DecidableEq, Repr

namespace TimerBank

variable {Clock : Type} [TimerService Clock]

/-- The answers to a number of creations; the first refusal is the last answer. -/
def createMany : Nat → Clock → List (Option UInt8) × Clock
  | 0, clock => ([], clock)
  | count + 1, clock =>
      match TimerService.create clock with
      | (none, clock) => ([none], clock)
      | (some timer, clock) =>
          let (answers, clock) := createMany count clock
          (some timer :: answers, clock)

/-- Four timers make a bank. -/
def ofAnswers? : List (Option UInt8) → Option TimerBank
  | [some general, some multiFrame1, some multiFrame2, some heartbeat] =>
      some ⟨⟨general, multiFrame1, multiFrame2, heartbeat⟩, PerTimer.all false⟩
  | _ => none

def allocate (clock : Clock) : Option TimerBank × Clock :=
  let (answers, clock) := createMany 4 clock
  (ofAnswers? answers, clock)

def start (bank : TimerBank) (clock : Clock) (slot : TimerSlot) (timeout : Nat) :
    TimerBank × Clock :=
  ({ bank with armed := bank.armed.set slot true },
    TimerService.start clock (bank.timers.get slot) timeout)

def stop (bank : TimerBank) (clock : Clock) (slot : TimerSlot) : TimerBank × Clock :=
  ({ bank with armed := bank.armed.set slot false },
    TimerService.stop clock (bank.timers.get slot))

def stopAll (bank : TimerBank) (clock : Clock) : TimerBank × Clock :=
  TimerSlot.all.foldl (fun (bank, clock) slot => bank.stop clock slot) (bank, clock)

def isArmed (bank : TimerBank) (slot : TimerSlot) : Bool :=
  bank.armed.get slot

/-- An armed timer that no longer runs has expired. -/
def expired (bank : TimerBank) (clock : Clock) (slot : TimerSlot) : Bool :=
  bank.isArmed slot && !TimerService.running clock (bank.timers.get slot)

/-- An expiry is reported once. -/
def takeExpired (bank : TimerBank) (clock : Clock) (slot : TimerSlot) : Bool × TimerBank :=
  if bank.expired clock slot then (true, { bank with armed := bank.armed.set slot false })
  else (false, bank)

end TimerBank

end Vscp
