/-
This file proves that two nodes in accord stay so while they carry out management events.
-/

import Vscp.Proofs.Accord.Act
import Vscp.Proofs.Bytes
import Vscp.Proofs.Register.Page

namespace Vscp

namespace Page

/-- What stands before the values of a frame takes the same room in every frame. -/
theorem length_le_of_mem_map_frames {width : Nat} (positive : 0 < width) (room : Nat)
    {values : List UInt8} {build : UInt8 × List UInt8 → List UInt8}
    (grows : ∀ frame, (build frame).length = frame.2.length + room) {frame : List UInt8}
    (mem : frame ∈ (frames width values).map build) : frame.length ≤ width + room := by
  obtain ⟨source, place, rfl⟩ := List.mem_map.mp mem
  rw [grows]
  exact Nat.add_le_add_right (length_le_of_mem_frames positive place) room

end Page

namespace Node

variable {Clock App : Type}

theorem nickname_unassign (node : Node Clock App) :
    (node.setNickname Protocol.unassigned).nickname = Protocol.unassigned :=
  node.core.nickname_unassign

theorem nickname_setNickname {node : Node Clock App} (room : Layout.nickname < node.store.size)
    (nickname : UInt8) : (node.setNickname nickname).nickname = nickname :=
  Store.read_write_self room nickname

theorem nickname_send (node : Node Clock App) (classId : UInt16) (typeId origin : UInt8)
    (data : List UInt8) : (node.send classId typeId origin data).nickname = node.nickname :=
  congrArg NodeCore.nickname (node.core_send classId typeId origin data)

section Timers

variable [TimerService Clock]

theorem store_stopTimer (node : Node Clock App) (slot : TimerSlot) :
    (node.stopTimer slot).store = node.store :=
  (congrArg NodeCore.store (node.core_stopTimer slot)).trans rfl

theorem nickname_stopTimer (node : Node Clock App) (slot : TimerSlot) :
    (node.stopTimer slot).nickname = node.nickname :=
  congrArg (·.read Layout.nickname) (node.store_stopTimer slot)

end Timers

variable [Application App]

theorem length_writeEach (page : UInt16) (writes : List (UInt8 × UInt8))
    (node : Node Clock App) : (writeEach page writes node).1.length = writes.length := by
  induction writes generalizing node with
  | nil => rfl
  | cons write rest ih => exact congrArg (· + 1) (ih _)

/-- The read-backs are no more than the values. -/
theorem length_writeSpan_le (node : Node Clock App) (page : UInt16) (offset : UInt8)
    (values : List UInt8) : (node.writeSpan page offset values).1.length ≤ values.length := by
  unfold writeSpan
  rw [length_writeEach, List.length_zip]
  exact Nat.min_le_right ..

end Node

namespace Accord

variable {Clock App : Type} {accord : Accord Clock App} {node other : Node Clock App}

/-- Accesses to registers keep the nickname. -/
theorem named_of_accessed {after : Node Clock App}
    (named : accord.strict → node.nickname ≠ Protocol.unassigned)
    (access : NodeCore.Accessed node.core after.core) :
    accord.strict → after.nickname ≠ Protocol.unassigned := by
  intro strict
  have kept : after.nickname = node.nickname := access.nickname
  rw [kept]
  exact named strict

section Replies

variable (holds : accord.Holds node other)
  (named : accord.strict → node.nickname ≠ Protocol.unassigned)

include holds named

theorem replyRegister (register value : UInt8) :
    accord.Holds (node.replyRegister register value) (other.replyRegister register value) :=
  accord.reply holds named .rwResponse (by simp)

theorem refuseBootLoader (refusal : BootRefusal) :
    accord.Holds (node.refuseBootLoader refusal) (other.refuseBootLoader refusal) :=
  accord.reply holds named .nackBootLoader (by simp)

theorem whoIsThere : accord.Holds node.whoIsThere other.whoIsThere := by
  unfold Node.whoIsThere
  rw [accord.config holds, accord.guid holds]
  apply accord.sendFrames holds named
  intro frame mem
  exact Page.length_le_of_mem_map_frames (by decide) 1 (fun _ => rfl) mem

variable [Application App]

theorem stepRegister (register : UInt8) (step : UInt8 → UInt8) :
    accord.Holds (node.stepRegister register step) (other.stepRegister register step) := by
  unfold Node.stepRegister
  dsimp only
  rw [accord.pageSelect holds, accord.resolve holds]
  generalize node.registerMap.resolve node.pageSelect register = target
  generalize node.pageSelect = page
  have kept := node.core_peek target page register
  obtain ⟨value, looked⟩ := accord.peek holds target page register
  obtain ⟨answer, written⟩ := accord.writeRegister looked page register
    (step (node.peek target page register).1)
  rw [value, answer]
  apply accord.replyRegister written
  apply accord.named_of_accessed named
  rw [← kept]
  exact Node.accessed_writeRegister ..

theorem pageRead (offset : UInt8) (count : Nat) :
    accord.Holds (node.pageRead offset count) (other.pageRead offset count) := by
  unfold Node.pageRead Node.readSpan
  rw [accord.pageSelect holds]
  generalize (Page.span offset count).map (·.2) = registers
  obtain ⟨values, read⟩ := accord.readEach holds node.pageSelect registers
  dsimp only
  rw [values]
  apply accord.sendFrames read
  · apply accord.named_of_accessed named
    exact Node.accessed_readEach ..
  · intro frame mem
    exact Page.length_le_of_mem_map_frames (by decide) 1 (fun _ => rfl) mem

theorem extendedPageRead (page : UInt16) (offset : UInt8) (count : Nat) :
    accord.Holds (node.extendedPageRead page offset count)
      (other.extendedPageRead page offset count) := by
  unfold Node.extendedPageRead Node.readSpan
  generalize (Page.span offset count).map (·.2) = registers
  obtain ⟨values, read⟩ := accord.readEach holds page registers
  dsimp only
  rw [values]
  apply accord.sendFrames read
  · apply accord.named_of_accessed named
    exact Node.accessed_readEach ..
  · intro frame mem
    exact Page.length_le_of_mem_map_frames (by decide) 4 (fun _ => rfl) mem

/-- The read-backs of a span are replied behind what names the span. -/
theorem replySpan (kind : Management) (head : List UInt8) (page : UInt16) (offset : UInt8)
    {values : List UInt8} (short : head.length + values.length ≤ 8) :
    accord.Holds
      ((node.writeSpan page offset values).2.reply kind
        (head ++ (node.writeSpan page offset values).1))
      ((other.writeSpan page offset values).2.reply kind
        (head ++ (other.writeSpan page offset values).1)) := by
  obtain ⟨answers, written⟩ := accord.writeEach holds page
    (((Page.span offset values.length).map (·.2)).zip values)
  have few := node.length_writeSpan_le page offset values
  unfold Node.writeSpan at few ⊢
  rw [answers]
  apply accord.reply written
  · apply accord.named_of_accessed named
    exact Node.accessed_writeEach ..
  · rw [List.length_append]
    omega

end Replies

section Commands

variable (holds : accord.Holds node other)

include holds

/-- A node replies under the nickname that it takes on. -/
theorem takeOn (room : accord.strict → Layout.nickname < node.store.size) {new : UInt8}
    (valid : new ≤ Protocol.highestNickname) :
    accord.Holds
      (((node.setNickname new).log (.nicknameChanged node.nickname new)).reply
        .nicknameIdAccepted [])
      (((other.setNickname new).log (.nicknameChanged other.nickname new)).reply
        .nicknameIdAccepted []) := by
  have noted := accord.log (accord.setNickname holds new) (.nicknameChanged node.nickname new)
    trivial
  rw [accord.nickname holds]
  apply accord.reply noted
  · intro strict
    have taken : ((node.setNickname new).log (.nicknameChanged node.nickname new)).nickname = new :=
      Node.nickname_setNickname (room strict) new
    rw [taken]
    rintro rfl
    exact absurd valid (by decide)
  · simp

variable [TimerService Clock] [Application App]

theorem reset : accord.Holds node.reset other.reset := by
  unfold Node.reset
  rw [accord.lifecycle holds]
  split
  · exact holds
  · have cleared := accord.adopt
      (fun core => { core with
        sessions := .empty
        resetPending := false
        clearNickname := false
        restoreArmedAt := none })
      (fun _ => rfl) (fun _ => rfl) (accord.stopAllTimers holds)
    exact accord.log (accord.enter (accord.call cleared .reset) .starting) .reset trivial

/-- A node speaks for the nickname with which it becomes active. -/
theorem goActive {nickname : UInt8} (own : accord.strict → nickname = node.nickname) :
    accord.Holds (node.goActive nickname) (other.goActive nickname) := by
  have announced := accord.send Protocol.managementClass Management.newNodeOnline.typeId nickname
    [nickname] (fun strict => ⟨by simp, own strict, fun _ => ⟨rfl, rfl⟩⟩) holds
  have beating := accord.startHeartbeat (accord.setLamp announced .on)
  exact accord.log (accord.enter beating .active) (.active nickname) trivial

theorem startDiscovery (missing : accord.strict → node.nickname = Protocol.unassigned) :
    accord.Holds node.startDiscovery other.startDiscovery := by
  have silenced := accord.stopTimer holds .heartbeat
  have still := node.nickname_stopTimer .heartbeat
  unfold Node.startDiscovery
  -- what happens to the silenced nodes no longer touches their nickname
  generalize node.stopTimer .heartbeat = quiet at silenced still ⊢
  generalize other.stopTimer .heartbeat = silent at silenced ⊢
  have searching := accord.count
    (fun counters => { counters with
      discoveryRestarts := Counters.increased counters.discoveryRestarts 1 })
    (fun _ _ _ => rfl)
    (accord.adopt ({ · with discovery := .new }) (fun _ => rfl) (fun _ => rfl) silenced)
  have entered := accord.setLamp (accord.enter searching .nicknameDiscovery) .blink
  apply accord.sendProbe (accord.log entered .discoveryStarted trivial)
  intro strict
  change quiet.store.read Layout.nickname = Protocol.unassigned
  exact still.trans (missing strict)

theorem enterIdle : accord.Holds node.enterIdle other.enterIdle := by
  have stopped := accord.adopt ({ · with sessions := .empty, resetPending := false })
    (fun _ => rfl) (fun _ => rfl) (accord.stopAllTimers holds)
  exact accord.log (accord.call (accord.enter stopped .idle) .idle) .idle trivial

theorem segmentHeartbeat (data : List UInt8) (restartsOnChange : Bool) :
    accord.Holds (node.segmentHeartbeat data restartsOnChange)
      (other.segmentHeartbeat data restartsOnChange) := by
  cases data with
  | nil => exact holds
  | cons crc rest =>
      have stored : other.segmentCrc = node.segmentCrc :=
        congrArg NodeCore.segmentCrc (accord.core holds)
      have noted := accord.log holds (.segmentChanged node.segmentCrc crc) trivial
      have moved := accord.setNickname (accord.setSegmentCrc noted crc) Protocol.unassigned
      unfold Node.segmentHeartbeat
      rw [stored]
      dsimp only
      split
      · exact accord.startDiscovery moved fun _ => Node.nickname_unassign _
      · have kept : accord.Holds (if crc = node.segmentCrc then node else node.setSegmentCrc crc)
            (if crc = node.segmentCrc then other else other.setSegmentCrc crc) := by
          split
          · exact holds
          · exact accord.setSegmentCrc holds crc
        split
        · rename_i time _
          exact accord.adopt ({ · with timeSinceEpoch := time }) (fun _ => rfl) (fun _ => rfl) kept
        · exact kept

theorem dropNickname (request : DropRequest) :
    accord.Holds (node.dropNickname request) (other.dropNickname request) := by
  have dropped : accord.Holds
      (if request.keepNickname || request.delayed then node
        else node.setNickname Protocol.unassigned)
      (if request.keepNickname || request.delayed then other
        else other.setNickname Protocol.unassigned) := by
    split
    · exact holds
    · exact accord.setNickname holds _
  unfold Node.dropNickname
  dsimp only
  split
  · exact accord.enterIdle dropped
  · split
    · exact accord.reset (accord.call (accord.log dropped .factoryDrop trivial) _)
    · split
      · apply accord.startTimer
        exact accord.adopt
          ({ · with resetPending := true, clearNickname := !request.keepNickname })
          (fun _ => rfl) (fun _ => rfl) (accord.log dropped (.resetDelayed _) trivial)
      · exact accord.reset dropped

theorem enterBootLoader (named : accord.strict → node.nickname ≠ Protocol.unassigned)
    (arguments : List UInt8) :
    accord.Holds (node.enterBootLoader arguments) (other.enterBootLoader arguments) := by
  unfold Node.enterBootLoader
  rw [accord.config holds, accord.guid holds]
  split
  · rename_i algorithm first second third fourth fifth sixth
    split
    · exact accord.refuseBootLoader holds named .algorithm
    · split
      · exact accord.refuseBootLoader holds named .guid
      · have stopped := accord.stopAllTimers (accord.log holds (.bootLoader algorithm) trivial)
        exact accord.enter (accord.call stopped _) .bootLoaderHandoff
  · exact accord.refuseBootLoader holds named .malformed

theorem guidDropFrame (origin : UInt8) (data : List UInt8) :
    accord.Agrees (node.guidDropFrame origin data) (other.guidDropFrame origin data) := by
  have timeout : other.config.multiFrameTimeout = node.config.multiFrameTimeout :=
    congrArg Config.multiFrameTimeout (accord.config holds)
  unfold Node.guidDropFrame
  rw [accord.sessions holds, accord.guid holds, timeout]
  cases data with
  | nil => exact accord.agrees holds false
  | cons index bytes =>
      dsimp only
      generalize node.sessions.accept origin index bytes node.guid = accepted
      obtain ⟨outcome, sessions⟩ := accepted
      have tracked := accord.adopt ({ · with sessions }) (fun _ => rfl) (fun _ => rfl) holds
      cases outcome with
      | progress slot => exact accord.agrees (accord.startTimer tracked _ _) true
      | complete slot =>
          have noted := accord.log (accord.stopTimer tracked slot.timer) (.guidDrop origin) trivial
          exact accord.agrees (accord.reset (accord.setNickname noted _)) true
      | dropped slot? =>
          cases slot? with
          | none => exact accord.agrees tracked false
          | some slot =>
              have noted := accord.log tracked (.sessionDiscarded slot.index) trivial
              exact accord.agrees (accord.stopTimer noted slot.timer) true

/-- A command that names the node finds it with a nickname. -/
theorem addressedCommand (named : accord.strict → node.nickname ≠ Protocol.unassigned)
    (room : accord.strict → Layout.nickname < node.store.size) (kind : Management)
    {arguments : List UInt8} (few : arguments.length ≤ 7) :
    accord.Agrees (node.addressedCommand kind arguments)
      (other.addressedCommand kind arguments) := by
  unfold Node.addressedCommand
  split
  · rw [accord.nickname holds]
    have noted := accord.log holds (.defending node.nickname) trivial
    exact accord.agrees (accord.reply noted named .probeAck (by simp)) true
  · rename_i new rest
    split
    · rename_i valid
      exact accord.agrees (accord.takeOn holds room valid) true
    · exact accord.agrees holds false
  · exact accord.agrees (accord.dropNickname holds _) true
  · rename_i register rest
    obtain ⟨value, read⟩ := accord.readRegister holds node.pageSelect register
    have kept := accord.named_of_accessed named
      (node.accessed_readRegister node.pageSelect register)
    rw [accord.pageSelect holds]
    dsimp only
    rw [value]
    exact accord.agrees (accord.replyRegister read kept register _) true
  · rename_i register value rest
    obtain ⟨answer, written⟩ := accord.writeRegister holds node.pageSelect register value
    have kept := accord.named_of_accessed named
      (node.accessed_writeRegister node.pageSelect register value)
    rw [accord.pageSelect holds]
    dsimp only
    rw [answer]
    exact accord.agrees (accord.replyRegister written kept register _) true
  · exact accord.agrees (accord.stepRegister holds named _ _) true
  · exact accord.agrees (accord.stepRegister holds named _ _) true
  · exact accord.agrees (accord.enterBootLoader holds named _) true
  · exact accord.agrees (accord.pageRead holds named _ _) true
  · rename_i offset value rest
    rw [accord.pageSelect holds]
    refine accord.agrees ?_ true
    apply accord.replySpan holds named .rwPageResponse [0] node.pageSelect offset
    simp only [List.length_cons, List.length_nil] at few ⊢
    omega
  · rw [accord.config holds]
    refine accord.agrees ?_ true
    apply accord.reply holds named .dmInfoResponse
    simp [Node.matrixInformation]
  · exact accord.agrees (accord.extendedPageRead holds named _ _ _) true
  · rename_i high low offset value rest
    refine accord.agrees ?_ true
    apply accord.replySpan holds named .extendedPageResponse [0, high, low, offset]
    simp only [List.length_cons, List.length_nil] at few ⊢
    omega
  · exact accord.agrees holds false

theorem activeCommand (named : accord.strict → node.nickname ≠ Protocol.unassigned)
    (room : accord.strict → Layout.nickname < node.store.size) (kind : Management)
    (event : Event) :
    accord.Agrees (node.activeCommand kind event) (other.activeCommand kind event) := by
  have few : event.data.tail.length ≤ 7 := by
    have short := event.dataWithin
    rw [List.length_tail]
    omega
  unfold Node.activeCommand Node.isAddressed
  rw [accord.nickname holds]
  split
  · exact accord.agrees (accord.segmentHeartbeat holds _ _) true
  · split
    · have noted := accord.log holds (.collision node.nickname) trivial
      have counted := accord.count
        (fun counters => { counters with
          nicknameCollisions := Counters.increased counters.nicknameCollisions 1 })
        (fun _ _ _ => rfl) noted
      exact accord.agrees (accord.startDiscovery (accord.setNickname counted _)
        fun _ => Node.nickname_unassign _) true
    · exact accord.agrees holds false
  · exact accord.guidDropFrame holds _ _
  · split
    · exact accord.agrees (accord.whoIsThere holds named) true
    · exact accord.agrees holds false
  · split
    · exact accord.addressedCommand holds named room _ few
    · exact accord.agrees holds false

/-- Without a free nickname the node tells so before it gives up. -/
theorem giveUp (missing : accord.strict → node.nickname = Protocol.unassigned) :
    accord.Holds node.giveUp other.giveUp := by
  have stopped := accord.stopTimer (accord.log holds .noFreeNickname trivial) .general
  have unassigned (strict : accord.strict) :
      ((node.log .noFreeNickname).stopTimer .general).nickname = Protocol.unassigned :=
    (Node.nickname_stopTimer ..).trans (missing strict)
  have told := accord.send Protocol.managementClass Management.newNodeOnline.typeId
    Protocol.unassigned [Protocol.unassigned]
    (fun strict => ⟨by simp, (unassigned strict).symm, fun _ => ⟨rfl, rfl⟩⟩) stopped
  exact accord.enterIdle (accord.setLamp told .off)

/-- An assigned nickname is accepted under itself. -/
theorem acceptNickname (room : accord.strict → Layout.nickname < node.store.size)
    {nickname : UInt8} (valid : nickname ≤ Protocol.highestNickname) :
    accord.Holds (node.acceptNickname nickname) (other.acceptNickname nickname) := by
  have assigned := accord.setNickname (accord.stopTimer holds .general) nickname
  have own (strict : accord.strict) :
      nickname = ((node.stopTimer .general).setNickname nickname).nickname := by
    apply Eq.symm
    apply Node.nickname_setNickname
    rw [Node.store_stopTimer]
    exact room strict
  have named : nickname ≠ Protocol.unassigned := by
    rintro rfl
    exact absurd valid (by decide)
  have accepted := accord.send Protocol.managementClass Management.nicknameIdAccepted.typeId
    nickname [] (fun strict => ⟨by simp, own strict, fun missing => absurd missing named⟩) assigned
  apply accord.goActive (accord.log accepted (.nicknameAssigned nickname) trivial)
  intro strict
  exact (own strict).trans (Node.nickname_send ..).symm

theorem discoveryCommand (missing : accord.strict → node.nickname = Protocol.unassigned)
    (room : accord.strict → Layout.nickname < node.store.size) (kind : Management)
    (event : Event) :
    accord.Agrees (node.discoveryCommand kind event)
      (other.discoveryCommand kind event) := by
  have timeout : other.config.assignmentTimeout = node.config.assignmentTimeout :=
    congrArg Config.assignmentTimeout (accord.config holds)
  unfold Node.discoveryCommand
  rw [accord.discovery holds, timeout]
  split
  · split
    · rename_i valid
      simp only [Bool.and_eq_true, decide_eq_true_eq] at valid
      exact accord.agrees (accord.acceptNickname holds room valid.2) true
    · exact accord.agrees holds false
  · split
    · generalize node.discovery.acknowledge = acknowledged
      obtain ⟨outcome, discovery⟩ := acknowledged
      have tracked := accord.adopt ({ · with discovery }) (fun _ => rfl) (fun _ => rfl) holds
      cases outcome with
      | masterPresent =>
          have noted := accord.log tracked .masterPresent trivial
          exact accord.agrees (accord.startTimer noted _ _) true
      | taken => exact accord.agrees (accord.sendProbe tracked missing) true
      | exhausted => exact accord.agrees (accord.giveUp tracked missing) true
    · exact accord.agrees holds false
  · exact accord.agrees (accord.segmentHeartbeat holds _ _) true
  · exact accord.agrees holds false

end Commands

end Accord

end Vscp
