/-
This file says what is noted of a node that carries out a management event.
-/

import Vscp.Proofs.Account.Note
import Vscp.Proofs.Node.Exhaustion

namespace Vscp

/-- What is noted of a node that begins to search for a nickname. -/
def Note.search : List Note :=
  [.lamp .blink, .searched, .online Protocol.unassigned [Protocol.segmentMaster]]

/-- What is noted of a node that becomes active. -/
def Note.activation (nickname : UInt8) : List Note :=
  [.online nickname [nickname], .lamp .on]

/-- What is noted of a node that finds no free nickname. -/
def Note.surrender : List Note :=
  [.online Protocol.unassigned [Protocol.unassigned], .lamp .off]

namespace Node.Accounts

variable {Clock App : Type} (node : Node Clock App)

section Replies

theorem refuseBootLoader (refusal : BootRefusal) :
    Accounts node (node.refuseBootLoader refusal) [] :=
  reply node (by decide) (by simp)

theorem replyRegister (register value : UInt8) :
    Accounts node (node.replyRegister register value) [] :=
  reply node (by decide) (by simp)

theorem whoIsThere : Accounts node node.whoIsThere [] := by
  apply sendFrames node (by decide)
  intro frame mem
  exact Page.length_le_of_mem_map_frames (by decide) 1 (fun _ => rfl) mem

variable [Application App]

theorem stepRegister (register : UInt8) (step : UInt8 → UInt8) :
    Accounts node (node.stepRegister register step) [] := by
  have looked := peek node (node.registerMap.resolve node.pageSelect register) node.pageSelect
    register
  exact (looked.trans (writeRegister ..)).trans (replyRegister ..)

theorem pageRead (offset : UInt8) (count : Nat) : Accounts node (node.pageRead offset count) [] := by
  refine (readEach node node.pageSelect _).trans (sendFrames _ (by decide) ?_)
  intro frame mem
  exact Page.length_le_of_mem_map_frames (by decide) 1 (fun _ => rfl) mem

theorem extendedPageRead (page : UInt16) (offset : UInt8) (count : Nat) :
    Accounts node (node.extendedPageRead page offset count) [] := by
  refine (readEach node page _).trans (sendFrames _ (by decide) ?_)
  intro frame mem
  exact Page.length_le_of_mem_map_frames (by decide) 4 (fun _ => rfl) mem

/-- The read-backs of a span are replied behind what names the span. -/
theorem replySpan {kind : Management} (other : kind ≠ .newNodeOnline) (head : List UInt8)
    (page : UInt16) (offset : UInt8) {values : List UInt8}
    (short : head.length + values.length ≤ 8) :
    Accounts node ((node.writeSpan page offset values).2.reply kind
      (head ++ (node.writeSpan page offset values).1)) [] := by
  have few := node.length_writeSpan_le page offset values
  refine (writeEach node page _).trans (reply _ other ?_)
  rw [List.length_append]
  omega

end Replies

section Commands

variable [TimerService Clock] [Application App]

theorem reset : Accounts node node.reset [] := by
  unfold Node.reset
  split
  · exact refl node
  · have stopped := stopAllTimers node
    exact stopped.trans (.of_effects [.called .reset, .logged .reset] rfl
      (List.append_assoc ..) rfl)

theorem goActive (nickname : UInt8) :
    Accounts node (node.goActive nickname) (Note.activation nickname) := by
  have announced := manage node .newNodeOnline nickname (show [nickname].length ≤ 8 by simp)
  have lit := announced.trans (setLamp _ .on)
  have beating := lit.trans_quiet (startHeartbeat _)
  exact beating.trans_quiet ((enter _ .active).trans (log _ _ fun _ => rfl))

/-- A search begins with the lamp, and its first probe is for the master. -/
theorem startDiscovery : Accounts node node.startDiscovery Note.search := by
  have silenced := stopTimer node .heartbeat
  have entered : Accounts (node.stopTimer .heartbeat)
      (((({ node.stopTimer .heartbeat with discovery := .new }.count fun counters =>
        { counters with
          discoveryRestarts := Counters.increased counters.discoveryRestarts 1 }).enter
        .nicknameDiscovery).setLamp .blink).log .discoveryStarted) [.lamp .blink, .searched] :=
    .of_effects [.called (.setLamp .blink), .logged .discoveryStarted] rfl
      (List.append_assoc ..) rfl
  exact (silenced.trans entered).trans (sendProbe _)

theorem enterIdle : Accounts node node.enterIdle [] := by
  have stopped := stopAllTimers node
  exact stopped.trans (.of_effects [.called .idle, .logged .idle] rfl
    (List.append_assoc ..) rfl)

theorem segmentHeartbeat_moved {crc : UInt8} (other : crc ≠ node.segmentCrc) (rest : List UInt8) :
    Accounts node (node.segmentHeartbeat (crc :: rest) true) Note.search := by
  have moved : node.segmentHeartbeat (crc :: rest) true =
      (((node.log (.segmentChanged node.segmentCrc crc)).setSegmentCrc crc).setNickname
        Protocol.unassigned).startDiscovery := if_pos ⟨other, rfl⟩
  have noted := log node (.segmentChanged node.segmentCrc crc) fun _ => rfl
  have forgotten := (noted.trans (setSegmentCrc _ crc)).trans (setNickname _ Protocol.unassigned)
  rw [moved]
  exact forgotten.trans (startDiscovery _)

/-- A check sum that does not move the node only comes with the time. -/
theorem segmentHeartbeat_kept {data : List UInt8} {restartsOnChange : Bool}
    (kept : ∀ crc rest, data = crc :: rest → restartsOnChange = true → crc = node.segmentCrc) :
    Accounts node (node.segmentHeartbeat data restartsOnChange) [] := by
  cases data with
  | nil => exact refl node
  | cons crc rest =>
      have stays : ¬(crc ≠ node.segmentCrc ∧ restartsOnChange = true) := fun moved =>
        moved.1 (kept crc rest rfl moved.2)
      have stored : Accounts node (if crc = node.segmentCrc then node
          else node.setSegmentCrc crc) [] := by
        split
        · exact refl node
        · exact setSegmentCrc node crc
      unfold Node.segmentHeartbeat
      dsimp only
      rw [if_neg stays]
      split
      · exact stored.trans (.of_same rfl rfl rfl)
      · exact stored

theorem dropNickname (request : DropRequest) :
    Accounts node (node.dropNickname request) [] := by
  have dropped : Accounts node
      (if request.keepNickname || request.delayed then node
        else node.setNickname Protocol.unassigned) [] := by
    split
    · exact refl node
    · exact setNickname ..
  unfold Node.dropNickname
  dsimp only
  split
  · exact dropped.trans (enterIdle _)
  · split
    · have noted := dropped.trans (log _ (.factoryDrop) fun _ => rfl)
      exact (noted.trans (call _ .restoreFactoryDefaults)).trans (reset _)
    · split
      · have owed (other : Node Clock App) : Accounts other { other with
            resetPending := true, clearNickname := !request.keepNickname } [] :=
          .of_same rfl rfl rfl
        have noted := dropped.trans (log _ (.resetDelayed request.delay) fun _ => rfl)
        exact (noted.trans (owed _)).trans (startTimer ..)
      · exact dropped.trans (reset _)

theorem enterBootLoader (arguments : List UInt8) :
    Accounts node (node.enterBootLoader arguments) [] := by
  unfold Node.enterBootLoader
  split
  · rename_i algorithm first second third fourth fifth sixth
    split
    · exact refuseBootLoader ..
    · split
      · exact refuseBootLoader ..
      · have noted := log node (.bootLoader algorithm) fun _ => rfl
        have called := (noted.trans (stopAllTimers _)).trans (call _ (.bootLoader algorithm))
        exact called.trans (enter _ _)
  · exact refuseBootLoader ..

variable {node} {handled : Node Clock App} {event : Event}

theorem guidDropFrame {origin : UInt8} {data : List UInt8}
    (acted : node.guidDropFrame origin data = (true, handled)) : Accounts node handled [] := by
  unfold Node.guidDropFrame at acted
  cases data with
  | nil => cases acted
  | cons index bytes =>
      dsimp only at acted
      generalize node.sessions.accept origin index bytes node.guid = accepted at acted
      obtain ⟨outcome, sessions⟩ := accepted
      have tracked : Accounts node { node with sessions } [] := .of_same rfl rfl rfl
      cases outcome with
      | progress slot =>
          cases acted
          exact tracked.trans (startTimer ..)
      | complete slot =>
          cases acted
          have noted := (tracked.trans (stopTimer _ slot.timer)).trans
            (log _ (.guidDrop origin) fun _ => rfl)
          exact (noted.trans (setNickname ..)).trans (reset _)
      | dropped slot? =>
          cases slot? with
          | none => cases acted
          | some slot =>
              cases acted
              have noted := tracked.trans (log _ (.sessionDiscarded slot.index) fun _ => rfl)
              exact noted.trans (stopTimer ..)

/-- No command that names the node leaves a note. -/
theorem addressedCommand {kind : Management} {arguments : List UInt8} (few : arguments.length ≤ 7)
    (acted : node.addressedCommand kind arguments = (true, handled)) :
    Accounts node handled [] := by
  unfold Node.addressedCommand at acted
  split at acted
  · cases acted
    exact (log node _ fun _ => rfl).trans (reply _ (by decide) (by simp))
  · split at acted
    · cases acted
      exact ((setNickname ..).trans (log _ _ fun _ => rfl)).trans (reply _ (by decide) (by simp))
    · cases acted
  · cases acted
    exact dropNickname ..
  · cases acted
    exact (readRegister ..).trans (replyRegister ..)
  · cases acted
    exact (writeRegister ..).trans (replyRegister ..)
  · cases acted
    exact stepRegister ..
  · cases acted
    exact stepRegister ..
  · cases acted
    exact enterBootLoader ..
  · cases acted
    exact pageRead ..
  · rename_i offset value rest
    cases acted
    refine replySpan node (by decide) [0] node.pageSelect offset ?_
    simp only [List.length_cons, List.length_nil] at few ⊢
    omega
  · cases acted
    exact reply node (by decide) (by simp [matrixInformation])
  · cases acted
    exact extendedPageRead ..
  · rename_i high low offset value rest
    cases acted
    refine replySpan node (by decide) [0, high, low, offset] _ offset ?_
    simp only [List.length_cons, List.length_nil] at few ⊢
    omega
  · cases acted

end Commands

section Events

variable [TimerService Clock] [Application App] {node} {handled : Node Clock App}
  {kind : Management} {event : Event}

/-- An active node that meets another node with its nickname begins to search. -/
theorem activeCommand_collided (own : event.origin = node.nickname)
    (acted : node.activeCommand .probeAck event = (true, handled)) :
    Accounts node handled (.collided :: Note.search) ∧ handled.lifecycle = .nicknameDiscovery := by
  have collided : handled = (((node.log (.collision node.nickname)).count fun counters =>
      { counters with
        nicknameCollisions := Counters.increased counters.nicknameCollisions 1 }).setNickname
      Protocol.unassigned).startDiscovery :=
    (congrArg Prod.snd ((if_pos own).symm.trans acted)).symm
  have noted : Accounts node ((node.log (.collision node.nickname)).count fun counters =>
      { counters with
        nicknameCollisions := Counters.increased counters.nicknameCollisions 1 }) [.collided] :=
    .of_effects [.logged (.collision node.nickname)] rfl rfl rfl
  subst collided
  exact ⟨(noted.trans (setNickname ..)).trans (startDiscovery _),
    congrArg NodeCore.lifecycle (core_startDiscovery _)⟩

/-- So does one that meets another check sum. -/
theorem activeCommand_moved {crc : UInt8} {rest : List UInt8} (data : event.data = crc :: rest)
    (other : crc ≠ node.segmentCrc)
    (acted : node.activeCommand .segmentControllerHeartbeat event = (true, handled)) :
    Accounts node handled Note.search ∧ handled.lifecycle = .nicknameDiscovery := by
  have moved : handled = node.segmentHeartbeat (crc :: rest) true := by
    rw [← data]
    exact (congrArg Prod.snd acted).symm
  subst moved
  refine ⟨segmentHeartbeat_moved node other rest, ?_⟩
  have core := node.core_segmentHeartbeat crc rest true
  rw [if_pos ⟨other, rfl⟩] at core
  exact congrArg NodeCore.lifecycle core

/-- Every other command is carried out without a note. -/
theorem activeCommand_quiet (acted : node.activeCommand kind event = (true, handled))
    (apart : kind = .probeAck → event.origin ≠ node.nickname)
    (same : kind = .segmentControllerHeartbeat → ∀ crc rest, event.data = crc :: rest →
      crc = node.segmentCrc) : Accounts node handled [] := by
  have few : event.data.tail.length ≤ 7 := by
    have short := event.dataWithin
    rw [List.length_tail]
    omega
  unfold Node.activeCommand at acted
  split at acted
  · cases acted
    exact segmentHeartbeat_kept node fun crc rest data _ => same rfl crc rest data
  · rw [if_neg (apart rfl)] at acted
    cases acted
  · exact guidDropFrame acted
  · split at acted
    · cases acted
      exact whoIsThere node
    · cases acted
  · split at acted
    · exact addressedCommand few acted
    · cases acted

theorem giveUp (node : Node Clock App) : Accounts node node.giveUp Note.surrender := by
  have stopped := (log node .noFreeNickname fun _ => rfl).trans (stopTimer _ .general)
  have told := stopped.trans (manage _ .newNodeOnline Protocol.unassigned
    (show [Protocol.unassigned].length ≤ 8 by simp))
  exact (told.trans (setLamp _ .off)).trans_quiet (enterIdle _)

theorem acceptNickname (node : Node Clock App) (nickname : UInt8) :
    Accounts node (node.acceptNickname nickname) (Note.activation nickname) := by
  have assigned := (stopTimer node .general).trans (setNickname _ nickname)
  have accepted := assigned.trans (manage _ .nicknameIdAccepted nickname
    (show ([] : List UInt8).length ≤ 8 by simp))
  exact (accepted.trans (log _ (.nicknameAssigned nickname) fun _ => rfl)).trans (goActive _ nickname)

/-- What a searching node notes when it carries out a command, and the state in which that leaves
it. -/
inductive Pursuit : Lifecycle → List Note → Prop where
  | quiet : Pursuit .nicknameDiscovery []
  | probed (candidate : UInt8) :
      Pursuit .nicknameDiscovery [.online Protocol.unassigned [candidate]]
  | gaveUp : Pursuit .idle Note.surrender
  | assigned (nickname : UInt8) (valid : nickname ≤ Protocol.highestNickname) :
      Pursuit .active (Note.activation nickname)

theorem discoveryCommand (searching : node.lifecycle = .nicknameDiscovery)
    (acted : node.discoveryCommand kind event = (true, handled)) :
    ∃ notes, Pursuit handled.lifecycle notes ∧ Accounts node handled notes := by
  have quiet (still : handled.lifecycle = node.lifecycle) (accounts : Accounts node handled []) :
      ∃ notes, Pursuit handled.lifecycle notes ∧ Accounts node handled notes := by
    rw [still, searching]
    exact ⟨[], .quiet, accounts⟩
  unfold Node.discoveryCommand at acted
  split at acted
  · rename_i old new rest data
    split at acted
    · rename_i valid
      simp only [Bool.and_eq_true, decide_eq_true_eq] at valid
      cases acted
      exact ⟨_, .assigned new valid.2, acceptNickname node new⟩
    · cases acted
  · split at acted
    · generalize node.discovery.acknowledge = acknowledged at acted
      obtain ⟨outcome, discovery⟩ := acknowledged
      have tracked : Accounts node { node with discovery } [] := .of_same rfl rfl rfl
      cases outcome with
      | masterPresent =>
          cases acted
          apply quiet
          · exact congrArg NodeCore.lifecycle (core_startTimer ..)
          · exact (tracked.trans (log _ .masterPresent fun _ => rfl)).trans (startTimer ..)
      | taken =>
          cases acted
          have still : ({ node with discovery } : Node Clock App).sendProbe.lifecycle =
              .nicknameDiscovery :=
            (congrArg NodeCore.lifecycle (core_sendProbe _)).trans searching
          rw [still]
          exact ⟨_, .probed _, tracked.trans (sendProbe _)⟩
      | exhausted =>
          cases acted
          exact ⟨_, .gaveUp, tracked.trans (giveUp _)⟩
    · cases acted
  · cases acted
    apply quiet
    · cases event.data with
      | nil => rfl
      | cons crc rest =>
          have core := node.core_segmentHeartbeat crc rest false
          rw [if_neg (by simp)] at core
          refine (congrArg NodeCore.lifecycle core).trans ?_
          split <;> rfl
    · exact segmentHeartbeat_kept node fun _ _ _ restarts => by cases restarts
  · cases acted

end Events

end Node.Accounts

end Vscp
