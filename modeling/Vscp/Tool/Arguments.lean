/-
This file reads the arguments of the rule tool.
-/

import Vscp.Text.Numeral

namespace Vscp.Tool

def usage : String :=
  "Usage: dmng-asm <command> [options]\n" ++
  "\n" ++
  "Commands:\n" ++
  "  build <input> [-o <output>] [--capacity <n>] [--verbose]  Assemble rules to byte-code\n" ++
  "  dump  <binary>                                            Print a ruleset as rule source\n" ++
  "\n" ++
  "Options:\n" ++
  "  -o, --output <file>  Output file path (default: input stem + .bin)\n" ++
  "  --capacity <n>       DM-NG storage size in bytes (default: 64)\n" ++
  "  -v, --verbose        Print listing to stderr (build only)\n" ++
  "  -h, --help           Show this help message\n" ++
  "\n" ++
  "Examples:\n" ++
  "  dmng-asm build lamp.rules\n" ++
  "  dmng-asm build lamp.rules -o lamp.bin --capacity 128\n" ++
  "  dmng-asm dump lamp.bin\n"

inductive UsageError where
  /-- Help was asked for after the command. -/
  | help
  | missingCommand
  | unknownCommand (name : String)
  | missingValue (option : String)
  | invalidCapacity (text : String)
  | unknownOption (option : String)
  | multipleInputs
  | missingInput
  deriving DecidableEq, Repr

def UsageError.message : UsageError → String
  | .help => usage
  | .missingCommand => "missing command"
  | .unknownCommand name => "unknown command: " ++ name
  | .missingValue option => "missing value for " ++ option
  | .invalidCapacity text => "invalid capacity: " ++ text
  | .unknownOption option => "unknown option: " ++ option
  | .multipleInputs => "multiple input paths provided"
  | .missingInput => "missing input path"

/-- Bytes for a ruleset when none are given. -/
def defaultCapacity : Nat := 64

structure BuildRequest where
  input : String
  output : Option String
  capacity : Nat
  verbose : Bool
  deriving DecidableEq, Repr

inductive Command where
  | help
  | build (request : BuildRequest)
  | dump (input : String)
  deriving DecidableEq, Repr

def asksHelp (argument : String) : Bool :=
  argument == "--help" || argument == "-h"

def isOption (argument : String) : Bool :=
  argument.toList.head? == some '-'

/-- The only input among the arguments seen so far. -/
def addInput (input? : Option String) (argument : String) : Except UsageError (Option String) :=
  if isOption argument then .error (.unknownOption argument)
  else if input?.isSome then .error .multipleInputs
  else .ok (some argument)

def requireInput (input? : Option String) : Except UsageError String :=
  match input? with
  | some input => .ok input
  | none => .error .missingInput

/-- A capacity is a decimal number of 64 bits. -/
def capacityOf (text : String) : Except UsageError Nat :=
  match Numeral.readBelow? 10 0x10000000000000000 text.toList with
  | some capacity => .ok capacity
  | none => .error (.invalidCapacity text)

/-- What the arguments of a build have said so far. -/
structure BuildArguments where
  input : Option String := none
  output : Option String := none
  capacity : Nat := defaultCapacity
  verbose : Bool := false
  deriving DecidableEq, Repr

/-- Arguments count from left to right; of two values for one option the later holds. -/
def BuildArguments.read (arguments : BuildArguments) :
    List String → Except UsageError BuildRequest
  | [] => (requireInput arguments.input).map fun input =>
      ⟨input, arguments.output, arguments.capacity, arguments.verbose⟩
  | argument :: rest =>
      if asksHelp argument then .error .help
      else if argument == "--verbose" || argument == "-v" then
        { arguments with verbose := true }.read rest
      else if argument == "-o" || argument == "--output" then
        match rest with
        | [] => .error (.missingValue "-o")
        | value :: rest => { arguments with output := some value }.read rest
      else if argument == "--capacity" then
        match rest with
        | [] => .error (.missingValue "--capacity")
        | value :: rest =>
            (capacityOf value).bind fun capacity => { arguments with capacity }.read rest
      else
        (addInput arguments.input argument).bind fun input => { arguments with input }.read rest

def readDump (input? : Option String) : List String → Except UsageError String
  | [] => requireInput input?
  | argument :: rest =>
      if asksHelp argument then .error .help
      else (addInput input? argument).bind fun input? => readDump input? rest

def Command.ofArguments : List String → Except UsageError Command
  | [] => .error .missingCommand
  | name :: rest =>
      if asksHelp name then .ok .help
      else if name == "build" then (({} : BuildArguments).read rest).map .build
      else if name == "dump" then (readDump none rest).map .dump
      else .error (.unknownCommand name)

end Vscp.Tool
