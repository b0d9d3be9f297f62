/-
This file defines the comparisons of a rule and the connectives between them.
-/

namespace Vscp

inductive Comparison where
  | equal
  | notEqual
  | greater
  | greaterEqual
  | lower
  | lowerEqual
  | bitsSet
  | bitsClear
  deriving DecidableEq, Repr

namespace Comparison

def all : List Comparison :=
  [equal, notEqual, greater, greaterEqual, lower, lowerEqual, bitsSet, bitsClear]

/-- The low four bits of an operation byte. -/
def code : Comparison → UInt8
  | equal => 0
  | notEqual => 1
  | greater => 2
  | greaterEqual => 3
  | lower => 4
  | lowerEqual => 5
  | bitsSet => 6
  | bitsClear => 7

def ofCode? (code : UInt8) : Option Comparison :=
  all.find? (·.code == code)

def symbol : Comparison → String
  | equal => "=="
  | notEqual => "!="
  | greater => ">"
  | greaterEqual => ">="
  | lower => "<"
  | lowerEqual => "<="
  | bitsSet => "&"
  | bitsClear => "!&"

def ofSymbol? (symbol : String) : Option Comparison :=
  all.find? (·.symbol == symbol)

/-- Bits are set when the field has every bit of the operand and clear when it has none. -/
def holds (comparison : Comparison) (field operand : Nat) : Bool :=
  match comparison with
  | equal => field == operand
  | notEqual => field != operand
  | greater => operand < field
  | greaterEqual => operand ≤ field
  | lower => field < operand
  | lowerEqual => field ≤ operand
  | bitsSet => field &&& operand == operand
  | bitsClear => field &&& operand == 0

end Comparison

/-- How a condition is joined to the next one; `last` ends the chain. -/
inductive Connective where
  | last
  | and
  | or
  deriving DecidableEq, Repr

namespace Connective

def all : List Connective :=
  [last, and, or]

/-- The high four bits of an operation byte. -/
def code : Connective → UInt8
  | last => 0
  | and => 1
  | or => 2

def ofCode? (code : UInt8) : Option Connective :=
  all.find? (·.code == code)

def keyword : Connective → String
  | last => "last"
  | and => "and"
  | or => "or"

/-- The result so far joined with the value of the next condition. -/
def join (connective : Connective) (result value : Bool) : Bool :=
  match connective with
  | last => value
  | and => result && value
  | or => result || value

end Connective

/-- The byte that opens a condition in byte code. -/
def operationByte (connective : Connective) (comparison : Comparison) : UInt8 :=
  connective.code * 16 + comparison.code

end Vscp
