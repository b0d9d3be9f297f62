/-
This file derives the path of an output from the path of an input.
-/

namespace Vscp.Tool.Path

/-- The characters up to the last separator, which is left out, and those after it. A path without
separator is all name. -/
def splitLast (separator : Char) (path : List Char) : Option (List Char) × List Char :=
  let reversed := path.reverse
  let name := (reversed.takeWhile (· != separator)).reverse
  match reversed.dropWhile (· != separator) with
  | [] => (none, name)
  | _ :: folder => (some folder.reverse, name)

/-- A reversed path without the separators and the components `.` at its end. -/
def withoutIdleEnd : List Char → List Char
  | '/' :: rest => withoutIdleEnd rest
  | '.' :: '/' :: rest => withoutIdleEnd rest
  | reversed => reversed

/-- The folder of a path; nothing stands for the working folder. -/
def folder (path : List Char) : List Char :=
  match (splitLast '/' path).1 with
  | none => []
  | some folder =>
      match withoutIdleEnd folder.reverse with
      | [] => ['/']
      | reversed => reversed.reverse

/-- The name of a file without its extension; a dot in front starts no extension. -/
def stem (path : List Char) : List Char :=
  let name := (splitLast '/' path).2
  match (splitLast '.' name).1 with
  | none | some [] => name
  | some stem => stem

def join (folder name : List Char) : List Char :=
  if folder.isEmpty || folder.getLast? == some '/' then folder ++ name
  else folder ++ '/' :: name

/-- The output of a build lies beside its input. -/
def output (input : String) : String :=
  let path := input.toList
  String.ofList (join (folder path) (stem path ++ ".bin".toList))

end Vscp.Tool.Path
