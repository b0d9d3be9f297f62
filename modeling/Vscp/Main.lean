/-
This file is the command line of the rule tool.
-/

import Vscp.Tool.Run

namespace Vscp.Tool

/-- The number of an error from its code, which is the number or its negation. -/
def errorNumber (code : UInt32) : UInt32 :=
  min code (0 - code)

/-- The cause of a failed access to a file. -/
def fileError : IO.Error → FileError
  | .noFileOrDirectory .. => .notFound
  | .permissionDenied .. => .other "Permission denied (os error 13)"
  | .inappropriateType _ code _ => if errorNumber code == 20 then .notFolder else .isFolder
  | error@(.invalidArgument _ code _) =>
      if errorNumber code == 36 then .nameTooLong else .other (toString error)
  | error => .other (toString error)

instance : FileSystem IO where
  read := fun path => do
    try
      return .ok (← IO.FS.readBinFile path).data.toList
    catch error => return .error (fileError error)
  write := fun path bytes => do
    try
      IO.FS.writeBinFile path (ByteArray.mk bytes.toArray)
      return .ok ()
    catch error => return .error (fileError error)

end Vscp.Tool

def main (arguments : List String) : IO UInt32 := do
  let report : Vscp.Tool.Report ← Vscp.Tool.run arguments
  IO.print report.out
  IO.eprint report.err
  return report.exit
