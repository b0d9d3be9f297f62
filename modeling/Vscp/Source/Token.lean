/-
This file cuts a source line into words.
-/

import Vscp.Text.Blank

namespace Vscp.Source

/-- A word and its column, which counts bytes from one. -/
structure Token where
  text : String
  column : Nat
  deriving DecidableEq, Repr

/-- The text before the comment. -/
def beforeComment (line : List Char) : List Char :=
  line.takeWhile (· != ';')

def byteLength : List Char → Nat
  | [] => 0
  | character :: rest => character.utf8Size + byteLength rest

namespace Token

/-- A word in front of others; an empty one is none. -/
def cons (word : List Char) (column : Nat) (later : List Token) : List Token :=
  if word.isEmpty then later else ⟨String.ofList word, column⟩ :: later

/-- The characters up to the first blank, and the words after it. -/
def split (column : Nat) : List Char → List Char × List Token
  | [] => ([], [])
  | character :: rest =>
      let next := column + character.utf8Size
      let (word, later) := split next rest
      if Text.isBlank character then ([], cons word next later) else (character :: word, later)

/-- The words of a text, which blanks keep apart. -/
def all (characters : List Char) : List Token :=
  let (word, later) := split 1 characters
  cons word 1 later

end Token

end Vscp.Source
