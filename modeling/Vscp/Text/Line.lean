/-
This file splits a text into its lines.
-/

namespace Vscp.Text

/-- The line that a line feed ends; a carriage return before the feed belongs to the ending. -/
def endedLine : List Char → List Char
  | '\r' :: reversed => reversed.reverse
  | reversed => reversed.reverse

/-- The lines of a text whose current line has been read so far, in reverse. -/
def linesAfter (reversed : List Char) : List Char → List (List Char)
  | [] => if reversed.isEmpty then [] else [reversed.reverse]
  | '\n' :: rest => endedLine reversed :: linesAfter [] rest
  | character :: rest => linesAfter (character :: reversed) rest

/-- The text after the last line feed is a line only when it is not empty. -/
def lines (text : String) : List (List Char) :=
  linesAfter [] text.toList

end Vscp.Text
