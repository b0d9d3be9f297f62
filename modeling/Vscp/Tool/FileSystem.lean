/-
This file says what the rule tool needs of a file system and gives one that lives in memory.
-/

namespace Vscp.Tool

inductive FileError where
  | notFound
  | isFolder
  | notFolder
  | nameTooLong
  | other (text : String)
  deriving DecidableEq, Repr

def FileError.message : FileError → String
  | .notFound => "No such file or directory (os error 2)"
  | .isFolder => "Is a directory (os error 21)"
  | .notFolder => "Not a directory (os error 20)"
  | .nameTooLong => "File name too long (os error 36)"
  | .other text => text

class FileSystem (m : Type → Type) where
  read : String → m (Except FileError (List UInt8))
  write : String → List UInt8 → m (Except FileError Unit)

/-- A place seen from the working folder, one name for each step. It begins with names of two
points where it leads above that folder, and with a separator where it is counted from the root. -/
abbrev Place := List String

namespace Place

def root : Place := ["/"]

/-- The device that takes all bytes and keeps none. -/
def nullDevice : Place := ["/", "dev", "null"]

/-- The working folder and the folders above it. -/
def isAbove (place : Place) : Bool :=
  place.all (· == "..")

/-- A place that is not below the working folder. The name of that folder is not known, so no step
from outside leads back into it. -/
def isOutside (place : Place) : Bool :=
  place.head? == some ".." || place.head? == some "/"

/-- A name has at most 255 bytes. -/
def isTooLong (place : Place) : Bool :=
  place.any (255 < ·.utf8ByteSize)

/-- The place one step further. The point stays, and so does a step up from the root. -/
def step (place : Place) (name : String) : Place :=
  if name == "." then place
  else if name != ".." || place.isAbove then place ++ [name]
  else if place == root then root
  else place.dropLast

end Place

structure Folder where
  files : List (Place × List UInt8)
  folders : List Place
  deriving DecidableEq, Repr

namespace Folder

/-- An empty working folder, with what every system has outside it. -/
def initial : Folder where
  files := [(Place.nullDevice, [])]
  folders := ["bin", "dev", "etc", "home", "lib", "proc", "root", "sys", "tmp", "usr", "var"].map
    fun name => Place.root ++ [name]

/-- The files below the working folder. -/
def listing (folder : Folder) : List (Place × List UInt8) :=
  folder.files.filter fun (place, _) => !place.isOutside

/-- The root, the working folder and those above it, every folder that is listed, and every folder
on the way to one or to a file. -/
def hasFolder (folder : Folder) (place : Place) : Bool :=
  place == Place.root || place.isAbove || folder.folders.any (place.isPrefixOf ·) ||
    folder.files.any fun (file, _) => place.isPrefixOf file && place != file

/-- The error at a place that holds neither a file nor a folder. -/
def missing (place : Place) : FileError :=
  if place.isTooLong then .nameTooLong else .notFound

/-- The error of a step that starts at a place where no folder is. -/
def stepError (folder : Folder) (place : Place) : FileError :=
  if folder.files.any (·.1 == place) then .notFolder else missing place

/-- The place that names lead to; each step starts in a folder. -/
def follow (folder : Folder) (place : Place) : List String → Except FileError Place
  | [] => .ok place
  | name :: rest =>
      if folder.hasFolder place then folder.follow (place.step name) rest
      else .error (folder.stepError place)

/-- Separators that follow each other count once. -/
def names (path : String) : List String :=
  (path.splitOn "/").filter (· != "")

/-- A path with a separator at its end names a folder. -/
def namesFolder (path : String) : Bool :=
  path.toList.getLast? == some '/'

/-- The empty path leads nowhere. One that begins with a separator starts at the root, and any other
in the working folder. A path has at most 4095 bytes. -/
def find (folder : Folder) (path : String) : Except FileError Place :=
  if 4095 < path.utf8ByteSize then .error .nameTooLong
  else
    match path.toList with
    | [] => .error .notFound
    | '/' :: _ => folder.follow Place.root (names path)
    | _ => folder.follow [] (names path)

def contents (folder : Folder) (path : String) (place : Place) :
    Except FileError (List UInt8) :=
  if folder.hasFolder place then .error .isFolder
  else
    match folder.files.lookup place with
    | none => .error (missing place)
    | some bytes => if namesFolder path then .error .notFolder else .ok bytes

def read (folder : Folder) (path : String) : Except FileError (List UInt8) :=
  (folder.find path).bind (folder.contents path)

def put (folder : Folder) (place : Place) (bytes : List UInt8) : Folder :=
  if place == Place.nullDevice then folder
  else { folder with files := folder.files.filter (·.1 != place) ++ [(place, bytes)] }

/-- A folder takes no bytes. -/
def write (folder : Folder) (path : String) (bytes : List UInt8) : Except FileError Folder :=
  (folder.find path).bind fun place =>
    if folder.hasFolder place || namesFolder path then .error .isFolder
    else if place.isTooLong then .error .nameTooLong
    else .ok (folder.put place bytes)

instance : FileSystem (StateM Folder) where
  read := fun path => do return (← get).read path
  write := fun path bytes => do
    match (← get).write path bytes with
    | .ok folder =>
        set folder
        return .ok ()
    | .error error => return .error error

end Folder

end Vscp.Tool
