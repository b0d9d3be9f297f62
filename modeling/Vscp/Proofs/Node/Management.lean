/-
This file proves that the commands of a node make the transitions of its core.
-/

import Vscp.Proofs.GuidDrop.Table
import Vscp.Proofs.Node.Transition

namespace Vscp

namespace Node

open NodeCore

theorem addressed_of_isAddressed {Clock App : Type} {node : Node Clock App} {event : Event}
    (addressed : node.isAddressed event = true) : node.core.Addressed event event.data.tail := by
  simp only [isAddressed, Bool.and_eq_true, bne_iff_ne, ne_eq, beq_iff_eq] at addressed
  obtain ⟨named, first⟩ := addressed
  obtain ⟨rest, data⟩ := List.head?_eq_some_iff.mp first
  refine ⟨named, ?_⟩
  rw [data]
  rfl

variable {Clock App : Type} [TimerService Clock]

/-- An event that names the node is a command with the arguments that follow. -/
theorem command_of_addressed [Application App] {node : Node Clock App} {kind : Management}
    {event : Event} {arguments : List UInt8}
    (addressed : node.core.Addressed event arguments) :
    (if node.isAddressed event then node.addressedCommand kind event.data.tail
      else (false, node)) = node.addressedCommand kind arguments := by
  obtain ⟨named, data⟩ := addressed
  have own : node.isAddressed event = true := by
    rw [isAddressed, data]
    simpa using ⟨named, rfl⟩
  rw [if_pos own, data]
  rfl

section Declining

variable [Application App] {node acted handled : Node Clock App} {kind : Management}
  {event : Event}

omit [TimerService Clock] [Application App] in
theorem eq_of_ite_declined {asked : Prop} [Decidable asked]
    (declined : (if asked then (true, acted) else (false, node)) = (false, handled)) :
    handled = node := by
  split at declined
  · cases declined
  · cases declined
    rfl

/-- The table of sessions is left as it was on a frame that has no slot. -/
theorem guidDropFrame_of_declined {origin : UInt8} {data : List UInt8}
    (declined : node.guidDropFrame origin data = (false, handled)) : handled = node := by
  unfold guidDropFrame at declined
  split at declined
  · cases declined
    rfl
  · rename_i index bytes
    -- the table has taken the frame by the time the node declines it
    cases heard : node.sessions.accept origin index bytes node.guid with
    | mk outcome sessions =>
        simp only [heard] at declined
        cases outcome with
        | progress slot => cases declined
        | complete slot => cases declined
        | dropped slot? =>
            cases slot? with
            | some slot => cases declined
            | none =>
                cases GuidDropSessions.eq_of_refused heard
                cases declined
                rfl

/-- A command that is declined for missing bytes or its nickname has done nothing yet. -/
theorem addressedCommand_of_declined {arguments : List UInt8}
    (declined : node.addressedCommand kind arguments = (false, handled)) : handled = node := by
  unfold addressedCommand at declined
  split at declined
  case h_2 => exact eq_of_ite_declined declined
  case h_14 =>
    cases declined
    rfl
  all_goals cases declined

/-- An active node that declines an event is what it was. -/
theorem activeCommand_of_declined
    (declined : node.activeCommand kind event = (false, handled)) : handled = node := by
  unfold activeCommand at declined
  split at declined
  · cases declined
  · exact eq_of_ite_declined declined
  · exact guidDropFrame_of_declined declined
  · exact eq_of_ite_declined declined
  · split at declined
    · exact addressedCommand_of_declined declined
    · cases declined
      rfl

/-- A searching node that overlooks an event is what it was. -/
theorem discoveryCommand_of_declined
    (declined : node.discoveryCommand kind event = (false, handled)) : handled = node := by
  unfold discoveryCommand at declined
  split at declined
  · exact eq_of_ite_declined declined
  · split at declined
    · generalize node.discovery.acknowledge = answered at declined
      obtain ⟨outcome, discovery⟩ := answered
      cases outcome <;> cases declined
    · cases declined
      rfl
  · cases declined
  · cases declined
    rfl

end Declining

@[simp] theorem core_startHeartbeat (node : Node Clock App) :
    node.startHeartbeat.core = node.core.startHeartbeat := by
  unfold startHeartbeat NodeCore.startHeartbeat
  change _ = if node.config.heartbeatPeriod = 0 then _ else _
  split
  · rfl
  · exact core_startTimer ..

@[simp] theorem core_sendProbe (node : Node Clock App) :
    node.sendProbe.core = node.core.probe := by
  simp only [sendProbe, core_startTimer, core_send, core_log]
  rfl

section Application

variable [Application App]

@[simp] theorem core_goActive (node : Node Clock App) (nickname : UInt8) :
    (node.goActive nickname).core = node.core.goActive := by
  simp [goActive, NodeCore.goActive]

@[simp] theorem core_startDiscovery (node : Node Clock App) :
    node.startDiscovery.core = node.core.startDiscovery := by
  unfold startDiscovery NodeCore.startDiscovery
  rw [core_sendProbe, ← core_stopTimer]
  rfl

@[simp] theorem core_enterIdle (node : Node Clock App) :
    node.enterIdle.core = node.core.enterIdle := by
  unfold enterIdle NodeCore.enterIdle
  rw [← core_stopAllTimers]
  rfl

@[simp] theorem core_reset (node : Node Clock App) : node.reset.core = node.core.reset := by
  unfold reset NodeCore.reset
  rw [← core_stopAllTimers]
  change _ = if node.lifecycle.fault?.isSome = true then _ else _
  split <;> rfl

theorem core_segmentHeartbeat (node : Node Clock App) (crc : UInt8) (rest : List UInt8)
    (restartsOnChange : Bool) :
    (node.segmentHeartbeat (crc :: rest) restartsOnChange).core =
      if crc ≠ node.core.segmentCrc ∧ restartsOnChange then
        ((node.core.writeStore Layout.segmentCrc crc).setNickname
          Protocol.unassigned).startDiscovery
      else
        (if crc = node.core.segmentCrc then node.core
          else node.core.writeStore Layout.segmentCrc crc).takeTime (crc :: rest) := by
  have stored : node.segmentCrc = node.core.segmentCrc := rfl
  unfold segmentHeartbeat
  simp only [stored]
  split
  · simp
  · have kept : (if crc = node.core.segmentCrc then node else node.setSegmentCrc crc).core =
        if crc = node.core.segmentCrc then node.core
        else node.core.writeStore Layout.segmentCrc crc := by split <;> rfl
    rw [← kept]
    unfold takeTime
    cases Bytes.field? 4 (crc :: rest) 1 <;> rfl

theorem core_dropNickname (node : Node Clock App) (request : DropRequest) :
    (node.dropNickname request).core =
      if request.goIdle then (node.core.withdraw request).enterIdle
      else if request.delayed then
        { node.core with resetPending := true, clearNickname := !request.keepNickname }.start
          .general (request.delay * 1000)
      else (node.core.withdraw request).reset := by
  obtain ⟨keepNickname, factoryDefaults, goIdle, delay⟩ := request
  unfold dropNickname withdraw DropRequest.delayed
  cases keepNickname <;> cases factoryDefaults <;> cases goIdle <;>
    by_cases later : 0 < delay <;> simp [later] <;> rfl

theorem activeStep_dropNickname (node : Node Clock App) {event : Event} {arguments : List UInt8}
    (addressed : node.core.Addressed event arguments) :
    ActiveStep node.core event .dropNickname
      (node.dropNickname (.ofBytes (arguments.getD 0 0) (arguments.getD 1 0))).core := by
  rw [core_dropNickname]
  split
  · rename_i idle
    exact .parked addressed rfl idle
  · rename_i stays
    split
    · rename_i later
      exact .delayed addressed rfl later
    · rename_i atOnce
      exact .dropped addressed rfl (Bool.eq_false_iff.mpr stays) (Bool.eq_false_iff.mpr atOnce)

theorem activeStep_enterBootLoader (node : Node Clock App) {event : Event}
    {arguments : List UInt8} (addressed : node.core.Addressed event arguments) :
    ActiveStep node.core event .enterBootLoader (node.enterBootLoader arguments).core := by
  have refused (refusal : BootRefusal) :
      ActiveStep node.core event .enterBootLoader (node.refuseBootLoader refusal).core := by
    have same : (node.refuseBootLoader refusal).core = node.core := core_reply ..
    rw [same]
    exact .accessed (.refl _)
  unfold enterBootLoader
  split
  · rename_i algorithm first second third fourth fifth sixth
    split
    · exact refused _
    · rename_i known
      split
      · exact refused _
      · rename_i identified
        simp only [not_or, Decidable.not_not] at known identified
        have handed := ActiveStep.handedOver addressed known.1 known.2 identified
        simpa using handed
  · exact refused _

theorem activeStep_guidDropFrame {node : Node Clock App} {event : Event}
    {handled : Node Clock App}
    (acted : node.guidDropFrame event.origin event.data = (true, handled)) :
    ActiveStep node.core event .guidDropNickname handled.core := by
  unfold guidDropFrame at acted
  split at acted
  · cases acted
  · rename_i index bytes data
    cases accepted : node.sessions.accept event.origin index bytes node.guid with
    | mk outcome sessions =>
        simp only [accepted] at acted
        cases outcome with
        | progress slot =>
            cases acted
            have step : ActiveStep node.core event _ _ := .progressed data accepted
            rw [core_startTimer]
            exact step
        | complete slot =>
            cases acted
            have step : ActiveStep node.core event _ _ := .completed data accepted
            rw [core_reset, core_setNickname, core_log, core_stopTimer]
            exact step
        | dropped slot? =>
            cases slot? with
            | none => cases acted
            | some slot =>
                cases acted
                have step : ActiveStep node.core event _ _ := .discarded data accepted
                rw [core_stopTimer, core_log]
                exact step

/-- A command that names the node makes one of its steps. -/
theorem activeStep_addressedCommand {node : Node Clock App} {kind : Management} {event : Event}
    (addressed : node.core.Addressed event event.data.tail) {handled : Node Clock App}
    (acted : node.addressedCommand kind event.data.tail = (true, handled)) :
    ActiveStep node.core event kind handled.core := by
  unfold addressedCommand at acted
  split at acted
  · cases acted
    simpa using ActiveStep.accessed (.refl _)
  · rename_i new rest arguments
    split at acted
    · rename_i valid
      cases acted
      rw [core_reply, core_log]
      exact .renamed (arguments ▸ addressed) valid
    · cases acted
  · cases acted
    exact node.activeStep_dropNickname addressed
  · cases acted
    simp only [replyRegister, core_reply]
    exact .accessed (accessed_readRegister ..)
  · cases acted
    simp only [replyRegister, core_reply]
    exact .accessed (accessed_writeRegister ..)
  · cases acted
    exact .accessed (accessed_stepRegister ..)
  · cases acted
    exact .accessed (accessed_stepRegister ..)
  · cases acted
    exact node.activeStep_enterBootLoader addressed
  · cases acted
    exact .accessed (accessed_pageRead ..)
  · cases acted
    rw [core_reply]
    exact .accessed (accessed_writeEach ..)
  · cases acted
    rw [core_reply]
    exact .accessed (.refl _)
  · cases acted
    exact .accessed (accessed_extendedPageRead ..)
  · cases acted
    rw [core_reply]
    exact .accessed (accessed_writeEach ..)
  · cases acted

/-- An active node does nothing on a management event but one of its steps. -/
theorem activeStep_activeCommand {node : Node Clock App} {kind : Management} {event : Event}
    {handled : Node Clock App} (acted : node.activeCommand kind event = (true, handled)) :
    ActiveStep node.core event kind handled.core := by
  unfold activeCommand at acted
  split at acted
  · cases acted
    cases data : event.data with
    | nil => exact .accessed (.refl _)
    | cons crc rest =>
        rw [core_segmentHeartbeat]
        by_cases same : crc = node.core.segmentCrc
        · have step : ActiveStep node.core event _ _ := .timed data same
          simpa [same, data] using step
        · have step : ActiveStep node.core event _ _ := .moved data same
          simpa [same] using step
  · split at acted
    · rename_i own
      cases acted
      rw [core_startDiscovery, core_setNickname, core_count, core_log]
      exact .collided own
    · cases acted
  · exact activeStep_guidDropFrame acted
  · split at acted
    · cases acted
      unfold whoIsThere
      rw [core_sendFrames]
      exact .accessed (.refl _)
    · cases acted
  · split at acted
    · rename_i addressed
      exact activeStep_addressedCommand (addressed_of_isAddressed addressed) acted
    · cases acted

/-- A searching node does nothing on a management event but one of its steps. -/
theorem searchStep_discoveryCommand {node : Node Clock App} {kind : Management} {event : Event}
    {handled : Node Clock App} (acted : node.discoveryCommand kind event = (true, handled)) :
    SearchStep node.core event kind handled.core := by
  unfold discoveryCommand at acted
  split at acted
  · rename_i old new rest data
    split at acted
    · rename_i valid
      simp only [Bool.and_eq_true, decide_eq_true_eq] at valid
      cases acted
      have step : SearchStep node.core event _ _ := .assigned data valid.1 valid.2
      simpa [acceptNickname] using step
    · cases acted
  · split at acted
    · rename_i own
      cases outcome : node.discovery.acknowledge with
      | mk answer discovery =>
          simp only [outcome] at acted
          cases answer with
          | masterPresent =>
              cases acted
              rw [core_startTimer]
              exact .awaited own outcome
          | taken =>
              cases acted
              rw [core_sendProbe]
              exact .probed own outcome
          | exhausted =>
              cases acted
              simp only [giveUp, core_enterIdle, core_setLamp, core_send, core_stopTimer]
              exact .gaveUp own outcome
    · cases acted
  · cases acted
    cases data : event.data with
    | nil => exact .silent data
    | cons crc rest =>
        have step : SearchStep node.core event _ _ := .timed data
        rw [core_segmentHeartbeat]
        simpa [data] using step
  · cases acted

end Application

end Node

end Vscp
