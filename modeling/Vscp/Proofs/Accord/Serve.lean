/-
This file proves that two nodes in accord answer every call of their host alike and stay in accord.
-/

import Vscp.Proofs.Accord.Process
import Vscp.Proofs.Node.Lifecycle

namespace Vscp

/-- An accord of nodes that hear the same events. -/
structure OpenAccord (Clock App : Type) extends Accord Clock App where
  inbox {node other} : Holds node other → other.transport.inbox = node.transport.inbox
  queue {node other} (inbox : List Event) :
    Holds node other → Holds (node.queue inbox) (other.queue inbox)
  clear {node other} : Holds node other → Holds node.clearCounters other.clearCounters

/-- A governed node that has not failed knows what it speaks for. -/
theorem NodeCore.Governed.identified {Clock : Type} {config : Config} {core : NodeCore Clock}
    (governed : Governed config core) (sound : core.lifecycle.fault? = none) :
    core.Identified := by
  rcases governed with failed | invariant
  · rw [sound] at failed
    cases failed
  · exact {
      room := invariant.room
      named active := (invariant.of_active active).1
      missing searching := (invariant.of_searching searching).1 }

namespace OpenAccord

variable {Clock App : Type} {accord : OpenAccord Clock App} {node other : Node Clock App}
  (holds : accord.Holds node other)

include holds

theorem restart : accord.Holds node.restart other.restart := by
  unfold Node.restart
  rw [accord.lifecycle holds]
  split
  · exact holds
  · exact accord.enter (accord.log holds .restartRequested trivial) .starting

variable [TimerService Clock]

theorem tick (elapsed : Nat) : accord.Holds (node.tick elapsed) (other.tick elapsed) :=
  accord.adopt
    (fun core => { core with
      clock := TimerService.advance core.clock elapsed
      uptime := min (core.uptime + elapsed) Node.longestUptime })
    (fun _ => rfl) (fun _ => rfl) holds

variable [Application App]

theorem takeEvent (sure : accord.strict → node.lifecycle.Runs → node.core.Identified) :
    accord.Agrees node.takeEvent other.takeEvent := by
  have lifecycle := accord.lifecycle holds
  have inbox := accord.inbox holds
  unfold Node.takeEvent
  by_cases asleep : node.lifecycle.isInert = true ∨ node.lifecycle = .starting
  · rw [if_pos asleep, if_pos (lifecycle ▸ asleep)]
    exact ⟨rfl, holds⟩
  · rw [if_neg asleep, if_neg (lifecycle ▸ asleep), inbox]
    split
    · exact ⟨rfl, holds⟩
    · rename_i event rest _
      have queued := accord.queue rest holds
      exact accord.handle queued (fun strict => sure strict (Node.runs_of_open asleep)) event

/-- A governed node says only what it may while it processes. -/
theorem process (sure : accord.strict → ∃ config, NodeCore.Governed config node.core) :
    accord.Agrees node.process other.process := by
  have running (runs : node.lifecycle.Runs) :
      accord.Agrees node.serviceTimers.takeEvent other.serviceTimers.takeEvent := by
    have served := accord.serviceTimers holds fun strict searching => by
      obtain ⟨config, governed⟩ := sure strict
      have sound : node.core.lifecycle.fault? = none :=
        congrArg Lifecycle.fault? searching
      exact (governed.identified sound).missing searching
    apply takeEvent served
    intro strict awake
    -- the timers may have reset the node, so the invariant is needed after them, not before
    obtain ⟨config, governed⟩ := sure strict
    have later : NodeCore.Governed config node.serviceTimers.core := by
      rw [Node.core_serviceTimers]
      exact governed.steps (NodeCore.steps_serviceTimers runs)
    apply later.identified
    rcases awake with searching | active | idle
    · exact congrArg Lifecycle.fault? searching
    · exact congrArg Lifecycle.fault? active
    · exact congrArg Lifecycle.fault? idle
  unfold Node.process
  rw [accord.lifecycle holds]
  split
  · exact ⟨rfl, holds⟩
  · exact ⟨rfl, holds⟩
  · exact ⟨rfl, accord.start holds⟩
  · rename_i searching
    exact running (.inl searching)
  · rename_i active
    exact running (.inr (.inl active))
  · rename_i idle
    exact running (.inr (.inr idle))

/-- Both nodes answer a call of the host alike. -/
theorem serve (sure : accord.strict → ∃ config, NodeCore.Governed config node.core)
    (call : HostCall) : accord.Agrees (node.serve call) (other.serve call) := by
  cases call with
  | tick elapsed => exact ⟨rfl, tick holds elapsed⟩
  | process =>
      obtain ⟨outcome, processed⟩ := process holds sure
      exact ⟨congrArg HostAnswer.outcome outcome, processed⟩
  | poll elapsed =>
      have later (strict : accord.strict) :
          ∃ config, NodeCore.Governed config (node.tick elapsed).core := by
        obtain ⟨config, governed⟩ := sure strict
        exact ⟨config, governed.step (.ticked elapsed)⟩
      obtain ⟨outcome, processed⟩ := process (tick holds elapsed) later
      exact ⟨congrArg HostAnswer.outcome outcome, processed⟩
  | receive event =>
      refine ⟨rfl, ?_⟩
      change accord.Holds (node.queue (node.transport.inbox ++ [event]))
        (other.queue (other.transport.inbox ++ [event]))
      rw [accord.inbox holds]
      exact accord.queue _ holds
  | readRegister page offset =>
      obtain ⟨value, read⟩ := accord.readRegister holds page offset
      exact ⟨congrArg HostAnswer.value value, read⟩
  | writeRegister page offset value =>
      obtain ⟨answer, written⟩ := accord.writeRegister holds page offset value
      exact ⟨congrArg HostAnswer.value answer, written⟩
  | raiseAlarm bits =>
      exact ⟨rfl, accord.adopt (fun core => { core with alarm := core.alarm ||| bits })
        (fun _ => rfl) (fun _ => rfl) holds⟩
  | restart => exact ⟨rfl, restart holds⟩
  | reset => exact ⟨rfl, accord.reset holds⟩
  | clearCounters => exact ⟨rfl, accord.clear holds⟩
  | clearRuleFault =>
      exact ⟨rfl, accord.adopt ({ · with engine := .new }) (fun _ => rfl) (fun _ => rfl) holds⟩

end OpenAccord

/-- A property of a node that lasts whatever events the node hears. -/
structure Lasting (Clock App : Type) extends Kept Clock App where
  queue {node} (inbox : List Event) : Holds node → Holds (node.queue inbox)
  clear {node} : Holds node → Holds node.clearCounters

namespace Lasting

variable {Clock App : Type}

def accord (lasting : Lasting Clock App) : OpenAccord Clock App where
  toAccord := lasting.toKept.accord
  inbox both := by rw [both.1]
  queue inbox both := ⟨by rw [both.1], lasting.queue inbox both.2⟩
  clear both := ⟨by rw [both.1], lasting.clear both.2⟩

/-- The property lasts while the host calls the node. -/
theorem serve [TimerService Clock] [Application App] (lasting : Lasting Clock App)
    {node : Node Clock App} (holds : lasting.Holds node)
    (sure : lasting.strict → ∃ config, NodeCore.Governed config node.core) (call : HostCall) :
    lasting.Holds (node.serve call).2 :=
  have both : lasting.accord.Holds node node := ⟨rfl, holds⟩
  (OpenAccord.serve both sure call).2.2

end Lasting

end Vscp
