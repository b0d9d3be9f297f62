/-
This file assembles a rule source into byte code.
-/

import Vscp.Rule.Encode
import Vscp.Source.Constant
import Vscp.Text.Line

namespace Vscp.Source

inductive AssemblyCause where
  | statement (error : StatementError)
  | constant (error : ConstantError)
  | encoding (error : EncodeError)
  deriving DecidableEq, Repr

def AssemblyCause.message : AssemblyCause → String
  | .statement error => error.message
  | .constant error => error.message
  | .encoding error => error.message

/-- An error of a line, or of the whole ruleset. -/
structure AssemblyError where
  line : Option Nat
  cause : AssemblyCause
  deriving DecidableEq, Repr

namespace AssemblyError

def place (file : String) (line : Nat) : String :=
  file ++ ":" ++ Numeral.decimal line ++ ": "

def text (file : String) (error : AssemblyError) : String :=
  error.line.elim "" (place file) ++ error.cause.message

/-- The text in the form of a compiler. -/
def report (file : String) (error : AssemblyError) : String :=
  error.line.elim "" (place file) ++ "error: " ++ error.cause.message

end AssemblyError

/-- A line of a source with its number, which counts from one. -/
structure SourceLine where
  number : Nat
  text : List Char
  deriving DecidableEq, Repr

/-- The line without its comment. -/
def SourceLine.source (line : SourceLine) : String :=
  String.ofList (Text.trim (beforeComment line.text))

def sourceLines (source : String) : List SourceLine :=
  (Text.lines source).zipIdx.map fun (text, index) => ⟨index + 1, text⟩

/-- A rule in the byte code and where it comes from. -/
structure ListingEntry where
  offset : Nat
  bytes : List UInt8
  line : Nat
  source : String
  deriving DecidableEq, Repr

structure Assembly where
  binary : List UInt8
  rules : List Rule
  listing : List ListingEntry
  deriving DecidableEq, Repr

/-- The statements that can be read, and the errors of the other lines. -/
def readLines : List SourceLine → List (SourceLine × Statement) × List AssemblyError
  | [] => ([], [])
  | line :: rest =>
      let (statements, errors) := readLines rest
      match Statement.ofLine line.text with
      | .ok statement => ((line, statement) :: statements, errors)
      | .error error => (statements, ⟨some line.number, .statement error.error⟩ :: errors)

def Term.condition (table : ConstantTable) (term : Term) : Except ConstantError Condition :=
  (table.resolve term.operand).map fun operand =>
    ⟨term.connective, term.comparison, term.field, operand⟩

def RuleStatement.rule (table : ConstantTable) (statement : RuleStatement) :
    Except ConstantError Rule := do
  let action ← table.resolveByte statement.action
  let param ← table.resolveByte statement.param
  let conditions ← statement.terms.mapM (Term.condition table)
  return ⟨action, param, conditions⟩

/-- The rule of a statement and its bytes; the index counts the rules before it. -/
def RuleStatement.assemble (table : ConstantTable) (index : Nat) (statement : RuleStatement) :
    Except AssemblyCause (Rule × List UInt8) :=
  match statement.rule table with
  | .error error => .error (.constant error)
  | .ok rule =>
      match rule.encode index with
      | .error error => .error (.encoding error)
      | .ok bytes => .ok (rule, bytes)

/-- The rules from an index and an offset on, and the errors of the lines that give none. -/
def assembleRules (table : ConstantTable) (index offset : Nat) :
    List (SourceLine × Statement) → List (Rule × ListingEntry) × List AssemblyError
  | [] => ([], [])
  | (line, .rule statement) :: rest =>
      match statement.assemble table index with
      | .ok (rule, bytes) =>
          let (entries, errors) :=
            assembleRules table (index + 1) (offset + bytes.length) rest
          ((rule, ⟨offset, bytes, line.number, line.source⟩) :: entries, errors)
      | .error cause =>
          let (entries, errors) := assembleRules table index offset rest
          (entries, ⟨some line.number, cause⟩ :: errors)
  | _ :: rest => assembleRules table index offset rest

/-- Errors come in three groups: lines that cannot be read, constants, rules. The ruleset as a
whole is judged when there are none. -/
def assemble (source : String) (capacity : Nat) : Except (List AssemblyError) Assembly :=
  let (statements, unread) := readLines (sourceLines source)
  let (table, undefined) := ConstantTable.empty.collect
    (statements.map fun (line, statement) => (line.number, statement))
  let (entries, failed) := assembleRules table 0 1 statements
  let errors := unread ++
    undefined.map (fun (line, error) => ⟨some line, .constant error⟩) ++ failed
  if errors.isEmpty then
    let rules := entries.map (·.1)
    match Ruleset.encode rules capacity with
    | .ok binary => .ok ⟨binary, rules, entries.map (·.2)⟩
    | .error error => .error [⟨none, .encoding error⟩]
  else .error errors

end Vscp.Source
