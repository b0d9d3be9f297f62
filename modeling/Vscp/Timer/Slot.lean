/-
This file names the four logical timers of a node.
-/

namespace Vscp

inductive TimerSlot where
  | general
  | multiFrame1
  | multiFrame2
  | heartbeat
  deriving DecidableEq, Repr

def TimerSlot.all : List TimerSlot :=
  [.general, .multiFrame1, .multiFrame2, .heartbeat]

def TimerSlot.index : TimerSlot → Nat
  | .general => 0
  | .multiFrame1 => 1
  | .multiFrame2 => 2
  | .heartbeat => 3

/-- One value for each logical timer. -/
structure PerTimer (Value : Type) where
  general : Value
  multiFrame1 : Value
  multiFrame2 : Value
  heartbeat : Value
  deriving DecidableEq, Repr

namespace PerTimer

variable {Value : Type}

def all (value : Value) : PerTimer Value :=
  ⟨value, value, value, value⟩

def get (values : PerTimer Value) : TimerSlot → Value
  | .general => values.general
  | .multiFrame1 => values.multiFrame1
  | .multiFrame2 => values.multiFrame2
  | .heartbeat => values.heartbeat

def set (values : PerTimer Value) (slot : TimerSlot) (value : Value) : PerTimer Value :=
  match slot with
  | .general => { values with general := value }
  | .multiFrame1 => { values with multiFrame1 := value }
  | .multiFrame2 => { values with multiFrame2 := value }
  | .heartbeat => { values with heartbeat := value }

@[simp] theorem get_all (value : Value) (slot : TimerSlot) : (all value).get slot = value := by
  cases slot <;> rfl

@[simp] theorem get_set (values : PerTimer Value) (slot other : TimerSlot) (value : Value) :
    (values.set slot value).get other = if other = slot then value else values.get other := by
  cases slot <;> cases other <;> rfl

end PerTimer

end Vscp
