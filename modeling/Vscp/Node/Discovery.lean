/-
This file keeps track of the search for a free nickname.
-/

import Vscp.Protocol

namespace Vscp

/-- What an acknowledgement of the probed nickname means. -/
inductive AckOutcome where
  | masterPresent
  | taken
  | exhausted
  deriving DecidableEq, Repr

structure Discovery where
  candidate : UInt8
  /-- Acknowledgements since the last probe that nobody answered. -/
  acked : Nat
  /-- The segment master has answered and will assign a nickname. -/
  awaitingAssignment : Bool
  deriving DecidableEq, Repr

namespace Discovery

/-- The search starts at the segment master. -/
def new : Discovery :=
  ⟨Protocol.segmentMaster, 0, false⟩

/-- Nicknames of nodes other than the master. -/
def candidates : Nat := 254

/-- The candidate after the highest nickname is one. -/
def advance (discovery : Discovery) : Discovery :=
  { discovery with
    candidate :=
      if Protocol.highestNickname ≤ discovery.candidate then 1 else discovery.candidate + 1
    awaitingAssignment := false }

def timeout (discovery : Discovery) : Discovery :=
  { discovery with acked := 0 }.advance

def acknowledge (discovery : Discovery) : AckOutcome × Discovery :=
  if discovery.candidate = Protocol.segmentMaster then
    (.masterPresent, { discovery with awaitingAssignment := true })
  else
    let counted := { discovery with acked := discovery.acked + 1 }
    if candidates ≤ counted.acked then (.exhausted, counted) else (.taken, counted.advance)

/-- An assignment names the candidate or no node at all. -/
def isAddressed (discovery : Discovery) (nickname : UInt8) : Bool :=
  nickname == Protocol.unassigned || nickname == discovery.candidate

end Discovery

end Vscp
