/-
This file cuts runs of registers into the frames that carry them.
-/

namespace Vscp.Page

def length : Nat := 256

/-- Register values in one frame of a page command. -/
def frameValues : Nat := 7

/-- Register values in one frame of an extended page command. -/
def extendedFrameValues : Nat := 4

/-- A run ends at the end of the page. -/
def clamp (start : UInt8) (count : Nat) : Nat :=
  min count (length - start.toNat)

/-- The registers of a run with their positions in it. -/
def span (start : UInt8) (count : Nat) : List (Nat × UInt8) :=
  (List.range (clamp start count)).map fun index => (index, UInt8.ofNat (start.toNat + index))

/-- Pieces of `width` values; the last may be shorter, and a piece is never empty. -/
def pieces {Value : Type} (width : Nat) : List Value → List (List Value)
  | [] => []
  | value :: rest =>
      (value :: rest.take (width - 1)) :: pieces width (rest.drop (width - 1))
termination_by values => values.length
decreasing_by
  rw [List.length_drop, List.length_cons]
  omega

/-- A byte numbers the frames, so at most 256 are sent. -/
def frames (width : Nat) (values : List UInt8) : List (UInt8 × List UInt8) :=
  ((pieces width values).take length).zipIdx.map fun (piece, index) => (UInt8.ofNat index, piece)

end Vscp.Page
