/-
This file reads the words of a rule source: numbers, field names and constant names.
-/

import Vscp.Rule.Basic

namespace Vscp

namespace Source

/-- Numbers have 32 bits. -/
def literalBound : Nat := 0x100000000

/-- A number is decimal, or hexadecimal after `0x`, or binary after `0b`. -/
def literal? : List Char → Option Nat
  | '0' :: 'x' :: digits | '0' :: 'X' :: digits => Numeral.readBelow? 16 literalBound digits
  | '0' :: 'b' :: digits | '0' :: 'B' :: digits => Numeral.readBelow? 2 literalBound digits
  | digits => Numeral.readBelow? 10 literalBound digits

/-- A name starts with a letter or an underscore and goes on with those and digits. -/
def isName : List Char → Bool
  | [] => false
  | first :: rest =>
      (first.isAlpha || first == '_') && rest.all fun character =>
        character.isAlphanum || character == '_'

def lower (text : String) : List Char :=
  text.toList.map Char.toLower

/-- Two words are the same up to the case of their letters. -/
def sameWord (first second : String) : Bool :=
  lower first == lower second

end Source

namespace Field

/-- The fields that lie outside the payload. -/
def plain : List Field :=
  [eventClass, eventType, origin, hardCoded, dataCount]

/-- A payload field is named by its width and its offset, which is a byte. -/
def ofPayloadName? : List Char → Option Field
  | 'u' :: '1' :: '6' :: '@' :: offset => (Numeral.readBelow? 10 256 offset).map word
  | 'u' :: '3' :: '2' :: '@' :: offset => (Numeral.readBelow? 10 256 offset).map long
  | 'd' :: 'a' :: 't' :: 'a' :: offset => (Numeral.readBelow? 10 256 offset).map byte
  | _ => none

/-- The field of a name in any case; a field without identity has no name. -/
def ofName? (text : String) : Option Field :=
  let name := Source.lower text
  (plain.find? (·.name.toList == name)).or
    ((ofPayloadName? name).filter (·.id?.isSome))

end Field

/-- The words between conditions. -/
def Connective.ofKeyword? (text : String) : Option Connective :=
  [Connective.and, Connective.or].find? fun connective =>
    Source.sameWord connective.keyword text

end Vscp
