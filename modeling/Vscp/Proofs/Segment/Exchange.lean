/-
This file puts two nodes on one segment, where each receives the frames of the other.
-/

import Mathlib.Logic.Function.Basic
import Vscp.Proofs.Node.Announce

namespace Vscp

inductive Side where
  | left
  | right
  deriving DecidableEq, Repr

namespace Side

def other : Side → Side
  | left => right
  | right => left

theorem other_ne (side : Side) : side.other ≠ side := by
  cases side <;> decide

theorem eq_or_other (side place : Side) : place = side ∨ place = side.other := by
  cases side <;> cases place <;> decide

end Side

/-- Two nodes on one segment. -/
def Pair (Clock App : Side → Type) : Type :=
  ∀ side, Node (Clock side) (App side)

/-- A host calls its node, or an event of a third node comes between those that wait for one. -/
inductive Move where
  | call (side : Side) (call : HostCall)
  | intrude (side : Side) (place : Nat) (event : Event)

namespace Node

variable {Clock App : Type}

/-- The frames of the other node wait behind all others. -/
def enqueue (node : Node Clock App) (frames : List Event) : Node Clock App :=
  { node with transport := { node.transport with inbox := node.transport.inbox ++ frames } }

def intrude (node : Node Clock App) (place : Nat) (event : Event) : Node Clock App :=
  { node with transport := { node.transport with
      inbox := node.transport.inbox.insertIdx place event } }

theorem mem_intrude {node : Node Clock App} {event : Event} (waiting : event ∈ node.transport.inbox)
    (place : Nat) (other : Event) : event ∈ (node.intrude place other).transport.inbox := by
  change event ∈ node.transport.inbox.insertIdx place other
  by_cases within : place ≤ node.transport.inbox.length
  · exact (List.mem_insertIdx within).mpr (.inr waiting)
  · rwa [List.insertIdx_of_length_lt (Nat.lt_of_not_le within)]

end Node

namespace Pair

variable {Clock App : Side → Type} [∀ side, TimerService (Clock side)]
  [∀ side, Application (App side)]

/-- The frames that the segment takes from a node during a call go to the other node. -/
def move (pair : Pair Clock App) : Move → Pair Clock App
  | .call side call =>
      let node := ((pair side).serve call).2
      Function.update (Function.update pair side node.takeTrace.2) side.other
        ((pair side.other).enqueue node.sent)
  | .intrude side place event =>
      Function.update pair side ((pair side).intrude place event)

def run (pair : Pair Clock App) (moves : List Move) : Pair Clock App :=
  moves.foldl move pair

theorem run_concat (pair : Pair Clock App) (moves : List Move) (last : Move) :
    pair.run (moves ++ [last]) = (pair.run moves).move last := by
  rw [run, List.foldl_append]
  rfl

@[simp] theorem move_call_self (pair : Pair Clock App) (side : Side) (call : HostCall) :
    pair.move (.call side call) side = ((pair side).serve call).2.takeTrace.2 := by
  refine (Function.update_of_ne side.other_ne.symm ..).trans ?_
  exact Function.update_self ..

@[simp] theorem move_call_other (pair : Pair Clock App) (side : Side) (call : HostCall) :
    pair.move (.call side call) side.other =
      (pair side.other).enqueue ((pair side).serve call).2.sent :=
  Function.update_self ..

@[simp] theorem move_intrude_self (pair : Pair Clock App) (side : Side) (place : Nat)
    (event : Event) :
    pair.move (.intrude side place event) side = (pair side).intrude place event :=
  Function.update_self ..

@[simp] theorem move_intrude_other (pair : Pair Clock App) (side : Side) (place : Nat)
    (event : Event) : pair.move (.intrude side place event) side.other = pair side.other :=
  Function.update_of_ne side.other_ne ..

end Pair

end Vscp
