/-
This file runs the commands of the rule tool.
-/

import Vscp.Rule.Listing
import Vscp.Source.Assembly
import Vscp.Tool.Arguments
import Vscp.Tool.FileSystem
import Vscp.Tool.Path

namespace Vscp.Tool

/-- What a run leaves behind, its files apart. -/
structure Report where
  exit : UInt32
  out : String
  err : String
  deriving DecidableEq, Repr

def Report.failure (err : String) : Report :=
  ⟨1, "", err⟩

def lineOf (text : String) : String :=
  text ++ "\n"

/-- The text of a source; its bytes are UTF-8. -/
def textOf (bytes : List UInt8) : Except FileError String :=
  match String.fromUTF8? (ByteArray.mk bytes.toArray) with
  | some text => .ok text
  | none => .error (.other "stream did not contain valid UTF-8")

/-- The assembled source, or the lines that say why there is none. -/
def assembleBytes (request : BuildRequest) (read : Except FileError (List UInt8)) :
    Except String Source.Assembly :=
  match read.bind textOf with
  | .error error => .error ("error: I/O error: " ++ request.input ++ ": " ++ error.message)
  | .ok source =>
      match Source.assemble source request.capacity with
      | .ok assembly => .ok assembly
      | .error errors =>
          .error ("\n".intercalate (errors.map (Source.AssemblyError.report request.input)))

def hexadecimalBytes (bytes : List UInt8) : String :=
  " ".intercalate (bytes.map fun byte => Numeral.capitalHexadecimal 2 byte.toNat)

/-- The column of bytes is forty characters wide. -/
def entryText (entry : Source.ListingEntry) : String :=
  Numeral.capitalHexadecimal 4 entry.offset ++ ": " ++
    String.ofList ((hexadecimalBytes entry.bytes).toList.rightpad 40 ' ') ++ " " ++
    entry.source ++ " ; line " ++ Numeral.decimal entry.line

def buildSummary (request : BuildRequest) (assembly : Source.Assembly) (output : String) :
    String :=
  "Assembled " ++ request.input ++ " (" ++ Numeral.decimal assembly.rules.length ++ " rules, " ++
    Numeral.decimal assembly.binary.length ++ " of " ++ Numeral.decimal request.capacity ++
    " bytes) -> " ++ output

def listingText (assembly : Source.Assembly) : String :=
  String.join (assembly.listing.map fun entry => lineOf (entryText entry))

def build {m : Type → Type} [Monad m] [FileSystem m] (request : BuildRequest) : m Report := do
  match assembleBytes request (← FileSystem.read request.input) with
  | .error text => return .failure (lineOf text)
  | .ok assembly =>
      let output := request.output.getD (Path.output request.input)
      match ← FileSystem.write output assembly.binary with
      | .error error =>
          return .failure (lineOf ("error: failed to write output: " ++ error.message))
      | .ok () =>
          return ⟨0, lineOf (buildSummary request assembly output),
            if request.verbose then listingText assembly else ""⟩

def rowText (row : RuleRow) : String :=
  row.text ++ " ; @" ++ Numeral.capitalHexadecimal 4 row.offset

/-- A listing with a fault in it is printed and counts as a failure. -/
def dumpReport (input : String) (ruleset : List UInt8) : Report :=
  let rows := Ruleset.listing ruleset
  let head := "; " ++ Numeral.decimal rows.length ++ " rule(s) from " ++ input
  ⟨if rows.any (·.fault.isSome) then 1 else 0,
    String.join ((head :: rows.map rowText).map lineOf), ""⟩

def dump {m : Type → Type} [Monad m] [FileSystem m] (input : String) : m Report := do
  match ← FileSystem.read input with
  | .error error => return .failure (lineOf ("error: " ++ input ++ ": " ++ error.message))
  | .ok ruleset => return dumpReport input ruleset

def Command.run {m : Type → Type} [Monad m] [FileSystem m] : Command → m Report
  | .help => return ⟨0, lineOf usage, ""⟩
  | .build request => Tool.build request
  | .dump input => Tool.dump input

/-- Help after the command goes to the output and yet counts as a failure. -/
def UsageError.report : UsageError → Report
  | .help => ⟨1, lineOf usage, ""⟩
  | error => .failure (lineOf ("error: " ++ error.message) ++ lineOf usage)

def run {m : Type → Type} [Monad m] [FileSystem m] (arguments : List String) : m Report :=
  match Command.ofArguments arguments with
  | .ok command => command.run
  | .error error => return error.report

end Vscp.Tool
