/-
This file reads the statements of a rule source, one a line.
-/

import Vscp.Source.Literal
import Vscp.Source.Token

namespace Vscp.Source

/-- A number, or the name of a constant. -/
inductive Operand where
  | literal (value : Nat)
  | name (name : String)
  deriving DecidableEq, Repr

structure Term where
  field : Field
  comparison : Comparison
  operand : Operand
  connective : Connective
  deriving DecidableEq, Repr

structure RuleStatement where
  action : Operand
  param : Operand
  terms : List Term
  deriving DecidableEq, Repr

inductive Statement where
  | blank
  | constant (name : String) (value : Operand)
  | rule (statement : RuleStatement)
  deriving DecidableEq, Repr

/-- What may stand at a place of a statement. -/
inductive Expectation where
  | constantName
  | equalsSign
  | value
  | endOfLine
  | action
  | actionParameter
  | when
  | condition
  | operator
  | operand
  | connectiveOrEnd
  deriving DecidableEq, Repr

def Expectation.text : Expectation → String
  | .constantName => "constant name"
  | .equalsSign => "'='"
  | .value => "value"
  | .endOfLine => "end of line"
  | .action => "action"
  | .actionParameter => "action parameter"
  | .when => "'when'"
  | .condition => "condition"
  | .operator => "operator"
  | .operand => "operand"
  | .connectiveOrEnd => "'and', 'or' or end of line"

inductive StatementError where
  | unknownStatement (text : String)
  | unknownField (text : String)
  | unknownOperator (text : String)
  | invalidNumber (text : String)
  | invalidName (text : String)
  | unexpected (expected : Expectation) (found : String)
  | missing (expected : Expectation)
  deriving DecidableEq, Repr

def StatementError.message : StatementError → String
  | .unknownStatement text => "unknown statement: " ++ text
  | .unknownField text => "unknown field: " ++ text
  | .unknownOperator text => "unknown operator: " ++ text
  | .invalidNumber text => "invalid number: " ++ text
  | .invalidName text => "invalid constant name: " ++ text
  | .unexpected expected found => "expected " ++ expected.text ++ ", found " ++ found
  | .missing expected => "expected " ++ expected.text

/-- An error and the column where it was met. -/
structure LineError where
  column : Nat
  error : StatementError
  deriving DecidableEq, Repr

namespace Token

def error (token : Token) (kind : String → StatementError) : LineError :=
  ⟨token.column, kind token.text⟩

/-- The next word of a line that stops at a column, and the words after it. -/
def next (stop : Nat) (expected : Expectation) :
    List Token → Except LineError (Token × List Token)
  | [] => .error ⟨stop, .missing expected⟩
  | token :: rest => .ok (token, rest)

/-- The words after a certain one. -/
def skip (stop : Nat) (word : String) (expected : Expectation) (tokens : List Token) :
    Except LineError (List Token) :=
  (next stop expected tokens).bind fun (token, rest) =>
    if sameWord token.text word then .ok rest else .error (token.error (.unexpected expected))

def finish : List Token → Except LineError Unit
  | [] => .ok ()
  | token :: _ => .error (token.error (.unexpected .endOfLine))

end Token

/-- A word with a digit in front is a number. -/
def Operand.ofToken (token : Token) : Except LineError Operand :=
  let characters := token.text.toList
  if characters.head?.any Char.isDigit then
    match literal? characters with
    | some value => .ok (.literal value)
    | none => .error (token.error .invalidNumber)
  else if isName characters then .ok (.name token.text)
  else .error (token.error .invalidNumber)

def fieldOf (token : Token) : Except LineError Field :=
  match Field.ofName? token.text with
  | some field => .ok field
  | none => .error (token.error .unknownField)

def comparisonOf (token : Token) : Except LineError Comparison :=
  match Comparison.ofSymbol? token.text with
  | some comparison => .ok comparison
  | none => .error (token.error .unknownOperator)

def connectiveOf (token : Token) : Except LineError Connective :=
  match Connective.ofKeyword? token.text with
  | some connective => .ok connective
  | none => .error (token.error (.unexpected .connectiveOrEnd))

/-- A term is judged word by word. -/
def Term.ofTokens (field comparison operand : Token) : Except LineError Term := do
  let field ← fieldOf field
  let comparison ← comparisonOf comparison
  let operand ← Operand.ofToken operand
  return ⟨field, comparison, operand, .last⟩

/-- The error of a line that ends within a term. -/
def Term.incomplete (stop : Nat) : List Token → LineError
  | [] => ⟨stop, .missing .condition⟩
  | field :: rest =>
      match fieldOf field, rest with
      | .error error, _ => error
      | .ok _, [] => ⟨stop, .missing .operator⟩
      | .ok _, comparison :: _ =>
          match comparisonOf comparison with
          | .error error => error
          | .ok _ => ⟨stop, .missing .operand⟩

/-- The terms of a rule; each but the last is followed by its connective. -/
def Term.all (stop : Nat) : List Token → Except LineError (List Term)
  | field :: comparison :: operand :: rest => do
      let term ← Term.ofTokens field comparison operand
      match rest with
      | [] => return [term]
      | joiner :: rest =>
          let connective ← connectiveOf joiner
          let later ← Term.all stop rest
          return { term with connective } :: later
  | tokens => .error (Term.incomplete stop tokens)

namespace Statement

def constantOf (stop : Nat) (tokens : List Token) : Except LineError Statement := do
  let (name, rest) ← Token.next stop .constantName tokens
  if isName name.text.toList then
    let rest ← Token.skip stop "=" .equalsSign rest
    let (value, rest) ← Token.next stop .value rest
    let value ← Operand.ofToken value
    Token.finish rest
    return .constant name.text value
  else .error (name.error .invalidName)

def ruleOf (stop : Nat) (tokens : List Token) : Except LineError Statement := do
  let (action, rest) ← Token.next stop .action tokens
  let action ← Operand.ofToken action
  let (param, rest) ← Token.next stop .actionParameter rest
  let param ← Operand.ofToken param
  let rest ← Token.skip stop "when" .when rest
  let terms ← Term.all stop rest
  return .rule ⟨action, param, terms⟩

/-- The statement that its first word names. The line stops one column after its text. -/
def ofTokens (stop : Nat) : List Token → Except LineError Statement
  | [] => .ok .blank
  | first :: rest =>
      if sameWord first.text "const" then constantOf stop rest
      else if sameWord first.text "rule" then ruleOf stop rest
      else .error (first.error .unknownStatement)

/-- A semicolon starts a comment. -/
def ofLine (line : List Char) : Except LineError Statement :=
  let text := beforeComment line
  ofTokens (byteLength text + 1) (Token.all text)

end Statement

end Vscp.Source
