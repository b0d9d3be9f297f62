/-
This file proves that a node changes nothing of its line to the segment but the event that it takes.
-/

import Vscp.Proofs.Accord.Process

namespace Vscp.Node

/-- The events that wait for the node, and the frames, by number, that the segment takes from it. -/
def line {Clock App : Type} (node : Node Clock App) : List Event × (Nat → Bool) :=
  (node.transport.inbox, node.transport.accepts)

section Acts

variable {Clock App : Type} (node : Node Clock App)

/-- Whether the segment takes a frame changes only the number of the next one. -/
theorem line_send (classId : UInt16) (typeId origin : UInt8) (data : List UInt8) :
    (node.send classId typeId origin data).line = node.line := by
  unfold send
  dsimp only
  split
  · rfl
  · split <;> rfl

/-- No single act touches the line. -/
def keepsLine (line : List Event × (Nat → Bool)) : Kept Clock App where
  Holds node := node.line = line
  strict := False
  adopt _ _ _ same := same
  replace _ same := same
  emit _ same := same
  write _ _ same := same
  count _ _ same := same
  send _ _ _ _ _ same := (line_send ..).trans same

theorem keepsLine_self : (keepsLine node.line).accord.Holds node node :=
  ⟨rfl, rfl⟩

variable [TimerService Clock]

theorem line_stopTimer (slot : TimerSlot) : (node.stopTimer slot).line = node.line :=
  (Accord.stopTimer node.keepsLine_self slot).2

variable [Application App]

theorem line_handle (event : Event) : (node.handle event).2.line = node.line :=
  (Accord.handle node.keepsLine_self False.elim event).2.2

theorem line_serviceTimers : node.serviceTimers.line = node.line :=
  (Accord.serviceTimers node.keepsLine_self False.elim).2

end Acts

section Calls

variable {Clock App : Type} [TimerService Clock] [Application App] {node : Node Clock App}
  {call : HostCall} {event : Event}

omit [Application App] in
theorem line_processing {found : Node Clock App} (processing : node.processing? call = some found) :
    found.line = node.line := by
  cases call <;> cases processing <;> rfl

theorem Takes.line {ready : Node Clock App} (takes : node.Takes call event ready) :
    ready.line = node.line := by
  obtain ⟨found, processing, -, -, rfl⟩ := takes.found
  exact found.line_serviceTimers.trans (line_processing processing)

/-- A call that processes leaves the line as it was, or takes the first event from it. -/
theorem line_process {found : Node Clock App} (processing : node.processing? call = some found) :
    found.process.2.line = node.line ∨
      ∃ event ready rest, node.Takes call event ready ∧ node.transport.inbox = event :: rest ∧
        found.process.2.line = (rest, node.transport.accepts) := by
  have same := line_processing processing
  by_cases running : found.lifecycle.Runs
  · rw [process_of_runs running]
    rcases takeEvent_cases processing with quiet | ⟨event, ready, rest, takes, inbox, handled⟩
    · left
      rw [quiet]
      exact found.line_serviceTimers.trans same
    · right
      rw [handled, line_handle]
      have waited := takes.line
      refine ⟨event, ready, rest, takes, ?_, ?_⟩
      · exact (congrArg Prod.fst waited).symm.trans inbox
      · exact congrArg (rest, ·) (congrArg Prod.snd waited)
  · left
    unfold process
    split
    · exact same
    · exact same
    · exact (Accord.start found.keepsLine_self).2.trans same
    · rename_i searching
      exact absurd (.inl searching) running
    · rename_i active
      exact absurd (.inr (.inl active)) running
    · rename_i idle
      exact absurd (.inr (.inr idle)) running

/-- A call leaves the line as it was but for an event that the host adds or the node takes. -/
theorem line_serve (node : Node Clock App) (call : HostCall) :
    (node.serve call).2.line = node.line ∨
      (∃ event, (node.serve call).2.line =
        (node.transport.inbox ++ [event], node.transport.accepts)) ∨
      ∃ event ready rest, node.Takes call event ready ∧ node.transport.inbox = event :: rest ∧
        (node.serve call).2.line = (rest, node.transport.accepts) := by
  cases call with
  | tick elapsed => exact .inl rfl
  | process =>
      have processing : node.processing? .process = some node := rfl
      rw [serve_of_processing processing]
      exact (line_process processing).imp_right .inr
  | poll elapsed =>
      have processing : node.processing? (.poll elapsed) = some (node.tick elapsed) := rfl
      rw [serve_of_processing processing]
      exact (line_process processing).imp_right .inr
  | receive event => exact .inr (.inl ⟨event, rfl⟩)
  | readRegister page offset =>
      exact .inl (Accord.readRegister node.keepsLine_self page offset).2.2
  | writeRegister page offset value =>
      exact .inl (Accord.writeRegister node.keepsLine_self page offset value).2.2
  | raiseAlarm bits => exact .inl rfl
  | restart =>
      left
      change node.restart.line = node.line
      unfold restart
      split <;> rfl
  | reset => exact .inl (Accord.reset node.keepsLine_self).2
  | clearCounters => exact .inl rfl
  | clearRuleFault => exact .inl rfl

theorem accepts_serve (node : Node Clock App) (call : HostCall) :
    (node.serve call).2.transport.accepts = node.transport.accepts := by
  rcases node.line_serve call with same | ⟨event, same⟩ | ⟨event, ready, rest, -, -, same⟩
  · exact congrArg Prod.snd same
  · exact congrArg Prod.snd same
  · exact congrArg Prod.snd same

/-- An event goes on to wait unless it is taken. -/
theorem waits_or_taken (waiting : event ∈ node.transport.inbox) (call : HostCall) :
    event ∈ (node.serve call).2.transport.inbox ∨ ∃ ready, node.Takes call event ready := by
  rcases node.line_serve call with same | ⟨other, same⟩ | ⟨first, ready, rest, takes, inbox, same⟩
  · left
    have inbox : (node.serve call).2.transport.inbox = _ := congrArg Prod.fst same
    rw [inbox]
    exact waiting
  · left
    have inbox : (node.serve call).2.transport.inbox = _ := congrArg Prod.fst same
    rw [inbox]
    exact List.mem_append_left _ waiting
  · have left : (node.serve call).2.transport.inbox = rest := congrArg Prod.fst same
    rw [inbox] at waiting
    rw [left]
    rcases List.mem_cons.mp waiting with rfl | waiting
    · exact .inr ⟨ready, takes⟩
    · exact .inl waiting

end Calls

end Vscp.Node
