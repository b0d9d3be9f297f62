/-
This file reads bytes from a window of a ruleset.
-/

import Vscp.Bytes
import Vscp.Rule.Fault

namespace Vscp

/-- The unread bytes of a window and the position of the first of them in the ruleset. -/
structure RuleCursor where
  offset : Nat
  rest : List UInt8
  deriving DecidableEq, Repr

namespace RuleCursor

/-- The window ends with the buffer, and a position past its end is its end. -/
def window (bytes : List UInt8) (offset stop : Nat) : RuleCursor :=
  let stop := min stop bytes.length
  let offset := min offset stop
  ⟨offset, (bytes.take stop).drop offset⟩

def remaining (cursor : RuleCursor) : Nat :=
  cursor.rest.length

def stop (cursor : RuleCursor) : Nat :=
  cursor.offset + cursor.remaining

def atEnd (cursor : RuleCursor) : Bool :=
  cursor.rest.isEmpty

/-- The position after a number of bytes. -/
def skip (cursor : RuleCursor) (count : Nat) : RuleCursor :=
  ⟨cursor.offset + count, cursor.rest.drop count⟩

def readByte (cursor : RuleCursor) (kind : FaultKind) : Except FaultKind (UInt8 × RuleCursor) :=
  match cursor.rest with
  | [] => .error kind
  | byte :: _ => .ok (byte, cursor.skip 1)

/-- A number has at most four bytes, the most significant first. -/
def readNumber (cursor : RuleCursor) (width : Nat) (kind : FaultKind) :
    Except FaultKind (Nat × RuleCursor) :=
  if width ≤ 4 ∧ width ≤ cursor.remaining then
    .ok (Bytes.value (cursor.rest.take width), cursor.skip width)
  else .error kind

theorem remaining_of_readByte {cursor next : RuleCursor} {kind : FaultKind} {byte : UInt8}
    (read : cursor.readByte kind = .ok (byte, next)) : next.remaining < cursor.remaining := by
  obtain ⟨offset, rest⟩ := cursor
  cases rest with
  | nil => cases read
  | cons first rest =>
      cases read
      simp [remaining, skip]

theorem remaining_of_readNumber {cursor next : RuleCursor} {width number : Nat} {kind : FaultKind}
    (read : cursor.readNumber width kind = .ok (number, next)) :
    next.remaining ≤ cursor.remaining := by
  unfold readNumber at read
  split at read
  · cases read
    simp [remaining, skip]
  · cases read

end RuleCursor

end Vscp
