/-
This file names the event fields that a rule may compare.
-/

import Vscp.Bytes
import Vscp.Event

namespace Vscp

/-- A byte, word or long field lies at an offset of the payload. -/
inductive Field where
  | eventClass
  | eventType
  | origin
  | hardCoded
  | dataCount
  | byte (offset : Nat)
  | word (offset : Nat)
  | long (offset : Nat)
  deriving DecidableEq, Repr

namespace Field

/-- The identity of a field in byte code; a payload field has one when it lies within eight
bytes. -/
def id? : Field → Option UInt8
  | eventClass => some 0x00
  | eventType => some 0x01
  | origin => some 0x02
  | hardCoded => some 0x03
  | dataCount => some 0x04
  | byte offset => if offset < 8 then some (UInt8.ofNat (0x10 + offset)) else none
  | word offset => if offset < 7 then some (UInt8.ofNat (0x20 + offset)) else none
  | long offset => if offset < 5 then some (UInt8.ofNat (0x30 + offset)) else none

/-- The fields with an identity. -/
def all : List Field :=
  [eventClass, eventType, origin, hardCoded, dataCount] ++ (List.range 8).map byte ++
    (List.range 7).map word ++ (List.range 5).map long

def ofId? (id : UInt8) : Option Field :=
  all.find? (·.id? == some id)

/-- Bytes of an operand of the field. -/
def width : Field → Nat
  | eventClass | word _ => 2
  | long _ => 4
  | eventType | origin | hardCoded | dataCount | byte _ => 1

/-- The largest operand that its width holds. -/
def maximum (field : Field) : Nat :=
  Bytes.bound field.width - 1

/-- The value of the field in an event, if the payload reaches that far. -/
def fetch (event : Event) : Field → Option Nat
  | eventClass => some event.classId.toNat
  | eventType => some event.typeId.toNat
  | origin => some event.origin.toNat
  | hardCoded => some event.hardCoded.toNat
  | dataCount => some event.data.length
  | byte offset => Bytes.field? 1 event.data offset
  | word offset => Bytes.field? 2 event.data offset
  | long offset => Bytes.field? 4 event.data offset

def name : Field → String
  | eventClass => "class"
  | eventType => "type"
  | origin => "oaddr"
  | hardCoded => "hardcoded"
  | dataCount => "datanum"
  | byte offset => "data" ++ Numeral.decimal offset
  | word offset => "u16@" ++ Numeral.decimal offset
  | long offset => "u32@" ++ Numeral.decimal offset

end Field

end Vscp
