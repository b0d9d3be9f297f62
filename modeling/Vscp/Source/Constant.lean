/-
This file collects the constants of a rule source.
-/

import Vscp.Source.Statement

namespace Vscp.Source

inductive ConstantError where
  | duplicateConstant (name : String) (firstLine : Nat)
  | undefinedConstant (name : String)
  | reservedName (name : String)
  | byteOutOfRange (value : Nat)
  deriving DecidableEq, Repr

def ConstantError.message : ConstantError → String
  | .duplicateConstant name firstLine =>
      "duplicate constant: " ++ name ++ " (first defined on line " ++
        Numeral.decimal firstLine ++ ")"
  | .undefinedConstant name => "undefined constant: " ++ name
  | .reservedName name => "reserved name: " ++ name
  | .byteOutOfRange value =>
      "value 0x" ++ Numeral.hexadecimal 1 value ++ " does not fit a byte"

structure Constant where
  name : String
  value : Nat
  line : Nat
  deriving DecidableEq, Repr

/-- The constants in the order of their lines. -/
structure ConstantTable where
  entries : List Constant
  deriving DecidableEq, Repr

namespace ConstantTable

def empty : ConstantTable :=
  ⟨[]⟩

def find? (table : ConstantTable) (name : String) : Option Constant :=
  table.entries.find? (·.name == name)

def insert (table : ConstantTable) (constant : Constant) : ConstantTable :=
  ⟨table.entries ++ [constant]⟩

def resolve (table : ConstantTable) : Operand → Except ConstantError Nat
  | .literal value => .ok value
  | .name name =>
      match table.find? name with
      | some constant => .ok constant.value
      | none => .error (.undefinedConstant name)

def resolveByte (table : ConstantTable) (operand : Operand) : Except ConstantError UInt8 :=
  (table.resolve operand).bind fun value =>
    if value < 256 then .ok (UInt8.ofNat value) else .error (.byteOutOfRange value)

/-- The words of the statements. -/
def keywords : List String :=
  ["const", "rule", "when", "and", "or"]

/-- Neither a keyword nor a field names a constant. -/
def isReserved (name : String) : Bool :=
  keywords.any (sameWord name) || (Field.ofName? name).isSome

/-- The constant that a line adds; it may refer to those of earlier lines. -/
def define (table : ConstantTable) (line : Nat) (name : String) (operand : Operand) :
    Except ConstantError Constant :=
  if isReserved name then .error (.reservedName name)
  else
    match table.find? name with
    | some first => .error (.duplicateConstant name first.line)
    | none => (table.resolve operand).map fun value => ⟨name, value, line⟩

/-- The table after numbered statements, and the errors of their lines. -/
def collect (table : ConstantTable) :
    List (Nat × Statement) → ConstantTable × List (Nat × ConstantError)
  | [] => (table, [])
  | (line, .constant name operand) :: rest =>
      match table.define line name operand with
      | .ok constant => (table.insert constant).collect rest
      | .error error =>
          let (table, errors) := table.collect rest
          (table, (line, error) :: errors)
  | _ :: rest => table.collect rest

end ConstantTable

end Vscp.Source
