/-
This file defines the event on the bus and its wire identifier.
-/

import Vscp.Text.Numeral

namespace Vscp

inductive EventError where
  | payloadTooLong (length : Nat)
  | invalidPriority (priority : UInt8)
  | identifierOutOfRange (identifier : UInt32)
  deriving DecidableEq, Repr

def EventError.message : EventError → String
  | .payloadTooLong length =>
      "payload of " ++ Numeral.decimal length ++ " bytes exceeds the 8 byte limit"
  | .invalidPriority priority =>
      "priority " ++ Numeral.decimal priority.toNat ++ " is outside 0..=7"
  | .identifierOutOfRange identifier =>
      "identifier 0x" ++ Numeral.hexadecimal 8 identifier.toNat ++ " does not fit in 29 bits"

/-- An event has a class of nine bits, a priority of three and at most eight payload bytes. -/
structure Event where
  classId : UInt16
  typeId : UInt8
  origin : UInt8
  hardCoded : Bool
  priority : UInt8
  data : List UInt8
  classWithin : classId.toNat < 512
  priorityWithin : priority.toNat < 8
  dataWithin : data.length ≤ 8
  deriving DecidableEq, Repr

/-- An event of normal priority without payload; only nine bits of the class are kept. -/
def Event.new (classId : UInt16) (typeId origin : UInt8) : Event where
  classId := UInt16.ofNat (classId.toNat % 512)
  typeId := typeId
  origin := origin
  hardCoded := false
  priority := 3
  data := []
  classWithin := by
    rw [UInt16.toNat_ofNat']
    omega
  priorityWithin := by decide
  dataWithin := by decide

def Event.withData (event : Event) (data : List UInt8) : Except EventError Event :=
  if within : data.length ≤ 8 then .ok { event with data, dataWithin := within }
  else .error (.payloadTooLong data.length)

def Event.withPriority (event : Event) (priority : UInt8) : Except EventError Event :=
  if within : priority.toNat < 8 then .ok { event with priority, priorityWithin := within }
  else .error (.invalidPriority priority)

def Event.withHardCoded (event : Event) (hardCoded : Bool) : Event :=
  { event with hardCoded }

def Event.byte? (event : Event) (index : Nat) : Option UInt8 :=
  event.data[index]?

/-- Priority, hard-coded flag, class, type and origin, from the highest of 29 bits to the lowest. -/
def Event.wireId (event : Event) : UInt32 :=
  UInt32.ofNat (event.priority.toNat * 0x4000000 + event.hardCoded.toNat * 0x2000000 +
    event.classId.toNat * 0x10000 + event.typeId.toNat * 0x100 + event.origin.toNat)

/-- The event that an identifier and a payload carry; the identifier is judged first. -/
def Event.ofWire (identifier : UInt32) (payload : List UInt8) : Except EventError Event :=
  let number := identifier.toNat
  if number < 0x20000000 then
    Event.withData
      { classId := UInt16.ofNat (number / 0x10000 % 512)
        typeId := UInt8.ofNat (number / 0x100)
        origin := UInt8.ofNat number
        hardCoded := number / 0x2000000 % 2 == 1
        priority := UInt8.ofNat (number / 0x4000000 % 8)
        data := []
        classWithin := by
          rw [UInt16.toNat_ofNat']
          omega
        priorityWithin := by
          rw [UInt8.toNat_ofNat']
          omega
        dataWithin := by decide }
      payload
  else .error (.identifierOutOfRange identifier)

end Vscp
