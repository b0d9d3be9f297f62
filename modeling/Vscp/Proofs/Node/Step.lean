/-
This file splits every host call into transitions of the core of a node.
-/

import Vscp.Proofs.Node.Turn

namespace Vscp

namespace NodeCore

variable {Clock : Type} [TimerService Clock]

theorem steps_serviceGeneral {core : NodeCore Clock} (running : core.lifecycle.Runs) :
    Steps core core.serviceGeneral := by
  unfold serviceGeneral
  split
  · rename_i due
    unfold onGeneralExpiry
    split
    · rename_i searching
      exact .single (.probed searching due)
    · rename_i settled
      have settled := running.resolve_left settled
      split
      · rename_i pending
        exact .single (.resetLate settled due pending)
      · rename_i served
        exact .single (.ranOut settled due (Bool.eq_false_iff.mpr served))
  · exact .refl _

theorem steps_serviceSession (core : NodeCore Clock) (slot : SessionSlot) :
    Steps core (core.serviceSession slot) := by
  unfold serviceSession
  split
  · rename_i due
    exact .single (.sessionEnded slot due)
  · exact .refl _

theorem steps_serviceHeartbeat (core : NodeCore Clock) : Steps core core.serviceHeartbeat := by
  unfold serviceHeartbeat
  split
  · rename_i due
    split
    · rename_i named
      exact .single (.beat due named.1 named.2)
    · rename_i silent
      exact .single (.beatMissed due silent)
  · exact .refl _

theorem steps_serviceTimers {core : NodeCore Clock} (running : core.lifecycle.Runs) :
    Steps core core.serviceTimers :=
  (((steps_serviceGeneral running).trans (steps_serviceSession _ _)).trans
    (steps_serviceSession _ _)).trans (steps_serviceHeartbeat _)

theorem Reaction.steps {core after : NodeCore Clock} {event : Event}
    (reaction : Reaction core event after) : Steps core after := by
  cases reaction with
  | ignored => exact .refl _
  | judged active foreign engine event? => exact .single (.judged engine event?)
  | managed active command step => exact .single (.managed active step)
  | searched searching command step => exact .single (.assigned searching step)

end NodeCore

namespace Node

open NodeCore

variable {Clock App : Type} [TimerService Clock] [Application App]

omit [Application App] in
theorem steps_processing {node found : Node Clock App} {call : HostCall}
    (processing : node.processing? call = some found) : Steps node.core found.core := by
  cases call <;> cases processing
  · exact .refl _
  · exact .single (.ticked _)

/-- What happens to a node before it takes an event is made of steps. -/
theorem Takes.steps {node ready : Node Clock App} {call : HostCall} {event : Event}
    (takes : node.Takes call event ready) : Steps node.core ready.core := by
  obtain ⟨found, processing, running, -, rfl⟩ := takes.found
  rw [core_serviceTimers]
  exact (steps_processing processing).trans (steps_serviceTimers running)

theorem Turn.steps {node : Node Clock App} {call : HostCall} {after : NodeCore Clock}
    (turn : Turn node call after) : Steps node.core after := by
  cases turn with
  | accessed access => exact .single (.accessed access)
  | judged engine => exact .single (.judged engine node.lastMatrixEvent)
  | ticked elapsed => exact .single (.ticked elapsed)
  | restarted asked sound => exact .single (.restarted sound)
  | reset asked => exact .single .reset
  | inert processing inert => exact steps_processing processing
  | searched processing starting missing =>
      exact (steps_processing processing).trans (.single (.searched starting missing))
  | activated processing starting named =>
      exact (steps_processing processing).trans (.single (.activated starting named))
  | served processing running =>
      exact (steps_processing processing).trans (steps_serviceTimers running)
  | took takes reaction => exact takes.steps.trans reaction.steps

/-- Every call of the host is made of steps. -/
theorem steps_serve (node : Node Clock App) (call : HostCall) :
    Steps node.core (node.serve call).2.core :=
  (node.turn_serve call).steps

theorem steps_serveAll (calls : List HostCall) (node : Node Clock App) :
    Steps node.core (serveAll calls node).2.core := by
  induction calls generalizing node with
  | nil => exact .refl _
  | cons call rest ih => exact (node.steps_serve call).trans (ih _)

end Node

end Vscp
