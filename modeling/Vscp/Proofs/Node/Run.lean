/-
This file follows what a host does to a node, one act after the other.
-/

import Vscp.Proofs.Node.Lifecycle

namespace Vscp

/-- A host calls the node or changes what surrounds it. -/
inductive HostAct (Clock App : Type) where
  | call (call : HostCall)
  | surround (store : Store) (transport : Transport) (clock : Clock) (app : App)

namespace Node

variable {Clock App : Type} [TimerService Clock] [Application App]

theorem serveAll_append (earlier later : List HostCall) (node : Node Clock App) :
    (serveAll (earlier ++ later) node).2 = (serveAll later (serveAll earlier node).2).2 := by
  induction earlier generalizing node with
  | nil => rfl
  | cons call rest ih => exact ih (node.serve call).2

/-- The last call is served by the node that the others leave. -/
theorem serveAll_concat (calls : List HostCall) (call : HostCall) (node : Node Clock App) :
    (serveAll (calls ++ [call]) node).2 = ((serveAll calls node).2.serve call).2 :=
  serveAll_append calls [call] node

def undergo (node : Node Clock App) : HostAct Clock App → Node Clock App
  | .call call => (node.serve call).2
  | .surround store transport clock app => { node with store, transport, clock, app }

def undergoAll (acts : List (HostAct Clock App)) (node : Node Clock App) : Node Clock App :=
  acts.foldl undergo node

theorem undergoAll_concat (acts : List (HostAct Clock App)) (act : HostAct Clock App)
    (node : Node Clock App) :
    undergoAll (acts ++ [act]) node = (undergoAll acts node).undergo act := by
  rw [undergoAll, List.foldl_append]
  rfl

/-- A host that only calls the node. -/
theorem undergoAll_calls (calls : List HostCall) (node : Node Clock App) :
    undergoAll (calls.map .call) node = (serveAll calls node).2 := by
  induction calls generalizing node with
  | nil => rfl
  | cons call rest ih => exact ih (node.serve call).2

/-- What every new node is like, with its timers or without them. -/
structure Fresh (config : Config) (transport : Transport) (node : Node Clock App) : Prop where
  checked : config.check = .ok ()
  transport : node.transport = transport
  sessions : node.sessions = .empty
  settled : node.resetPending = false
  unarmed : ∀ slot, node.isArmed slot = false
  lifecycle : (node.lifecycle = .starting ∧ node.bank.isSome = true) ∨
    node.lifecycle = .error .timerExhausted

theorem fresh_build {config : Config} {store : Store} {transport : Transport} {clock : Clock}
    {app : App} {node : Node Clock App}
    (built : build config store transport clock app = .ok node) : node.Fresh config transport := by
  obtain ⟨_, checked, rfl⟩ := map_eq_ok_iff.mp built
  generalize TimerBank.createMany 4 clock = created
  obtain ⟨answers, clock⟩ := created
  dsimp only
  split
  · rename_i banked
    exact ⟨checked, rfl, rfl, rfl, unarmed_ofAnswers answers, .inl ⟨rfl, banked⟩⟩
  · exact ⟨checked, rfl, rfl, rfl, unarmed_ofAnswers answers, .inr rfl⟩

omit [TimerService Clock] [Application App] in
/-- A new node has not begun. -/
theorem Fresh.lifecycle_ne {config : Config} {transport : Transport} {node : Node Clock App}
    (fresh : node.Fresh config transport) {lifecycle : Lifecycle}
    (other : lifecycle ≠ .starting) (sound : lifecycle.fault? = none) :
    node.lifecycle ≠ lifecycle := by
  rintro rfl
  rcases fresh.lifecycle with ⟨starting, -⟩ | failed
  · exact other starting
  · rw [failed] at sound
    cases sound

end Node

end Vscp
