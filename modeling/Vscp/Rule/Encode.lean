/-
This file encodes rules as byte code.
-/

import Vscp.Rule.Basic

namespace Vscp

inductive EncodeError where
  | tooManyRules (count : Nat)
  | emptyRule (rule : Nat)
  | ruleTooLong (rule length : Nat)
  | chainEndsEarly (rule condition : Nat)
  | fieldOutOfRange (rule : Nat)
  | operandOutOfRange (rule operand width : Nat)
  | capacityExceeded (length capacity : Nat)
  deriving DecidableEq, Repr

def EncodeError.message : EncodeError → String
  | .tooManyRules count => Numeral.decimal count ++ " rules exceed the limit of 254"
  | .emptyRule rule => "rule " ++ Numeral.decimal rule ++ " has no conditions"
  | .ruleTooLong rule length =>
      "rule " ++ Numeral.decimal rule ++ " encodes to " ++ Numeral.decimal length ++
        " bytes, at most 255 fit"
  | .chainEndsEarly rule condition =>
      "rule " ++ Numeral.decimal rule ++ " ends its chain at condition " ++
        Numeral.decimal condition
  | .fieldOutOfRange rule =>
      "rule " ++ Numeral.decimal rule ++ " selects a payload field past the 8 byte payload"
  | .operandOutOfRange rule operand width =>
      "rule " ++ Numeral.decimal rule ++ ": operand 0x" ++ Numeral.hexadecimal 1 operand ++
        " does not fit " ++ Numeral.decimal width ++ " byte(s)"
  | .capacityExceeded length capacity =>
      "ruleset needs " ++ Numeral.decimal length ++ " bytes, capacity is " ++
        Numeral.decimal capacity

/-- The bytes of a condition that is joined to the next one by `connective`. -/
def Condition.encode (condition : Condition) (rule : Nat) (connective : Connective) :
    Except EncodeError (List UInt8) :=
  match condition.field.id? with
  | none => .error (.fieldOutOfRange rule)
  | some id =>
      if condition.operand ≤ condition.field.maximum then
        .ok (operationByte connective condition.comparison :: id ::
          Bytes.write condition.field.width condition.operand)
      else .error (.operandOutOfRange rule condition.operand condition.field.width)

/-- The bytes of a chain from one of its positions on. Only its end may be marked as the last
condition, and there the mark is always written. -/
def Chain.encodeFrom (rule position : Nat) : List Condition → Except EncodeError (List UInt8)
  | [] => .ok []
  | [condition] => condition.encode rule .last
  | condition :: rest =>
      if condition.connective = .last then .error (.chainEndsEarly rule position)
      else
        (condition.encode rule condition.connective).bind fun bytes =>
          (Chain.encodeFrom rule (position + 1) rest).map (bytes ++ ·)

/-- A rule is written with its length, which has one byte. The index is for messages. -/
def Rule.encode (index : Nat) (rule : Rule) : Except EncodeError (List UInt8) :=
  if rule.conditions.isEmpty then .error (.emptyRule index)
  else
    (Chain.encodeFrom index 0 rule.conditions).bind fun chain =>
      let length := chain.length + 3
      if 255 < length then .error (.ruleTooLong index length)
      else .ok (UInt8.ofNat length :: rule.action :: rule.param :: chain)

namespace Ruleset

/-- The bytes of rules whose first has the given index. -/
def encodeRules (index : Nat) : List Rule → Except EncodeError (List UInt8)
  | [] => .ok []
  | rule :: rest =>
      (rule.encode index).bind fun bytes => (encodeRules (index + 1) rest).map (bytes ++ ·)

/-- A ruleset starts with the number of its rules, which is not that of erased storage. -/
def encode (rules : List Rule) (capacity : Nat) : Except EncodeError (List UInt8) :=
  if 254 < rules.length then .error (.tooManyRules rules.length)
  else
    (encodeRules 0 rules).bind fun bytes =>
      let length := bytes.length + 1
      if capacity < length then .error (.capacityExceeded length capacity)
      else .ok (UInt8.ofNat rules.length :: bytes)

end Ruleset

end Vscp
