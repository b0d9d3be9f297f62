/-
This file follows two nodes that do the same acts one after the other, and proves that a relation
which every single act keeps is kept by all that a node does on an event or at the end of a timer.
-/

import Vscp.Proofs.Node.Turn

namespace Vscp

/-- The update has nothing to do with frames. -/
def Counters.Steady (update : Counters → Counters) : Prop :=
  ∀ counters txEvents txDropped,
    update { counters with txEvents, txDropped } = { update counters with txEvents, txDropped }

theorem Counters.Steady.txDropped {update : Counters → Counters} (steady : Steady update)
    (counters : Counters) : (update counters).txDropped = counters.txDropped :=
  (congrArg Counters.txDropped (steady counters counters.txEvents counters.txDropped)).trans rfl

/-- The effect has nothing to do with the store or with frames. -/
def Effect.Plain : Effect → Prop
  | .stored .. | .frame .. | .logged (.malformedFrame ..) | .logged (.refusedFrame ..) => False
  | _ => True

namespace Node

variable {Clock App : Type}

/-- The node with another core. -/
def adopt (node : Node Clock App) (core : NodeCore Clock) : Node Clock App where
  config := core.config
  store := core.store
  transport := node.transport
  clock := core.clock
  app := node.app
  bank := core.bank
  lifecycle := core.lifecycle
  discovery := core.discovery
  sessions := core.sessions
  timeSinceEpoch := core.timeSinceEpoch
  uptime := core.uptime
  pageSelect := core.pageSelect
  alarm := core.alarm
  restoreArmedAt := core.restoreArmedAt
  resetPending := core.resetPending
  clearNickname := core.clearNickname
  engine := core.engine
  lastMatrixEvent := core.lastMatrixEvent
  counters := node.counters
  trace := node.trace

/-- A frame that the node may send: it is short enough and carries the nickname of the node, and
without a nickname the node only asks for one. -/
structure MaySend (node : Node Clock App) (classId : UInt16) (typeId origin : UInt8)
    (data : List UInt8) : Prop where
  short : data.length ≤ 8
  own : origin = node.nickname
  asking : origin = Protocol.unassigned →
    classId = Protocol.managementClass ∧ typeId = Management.newNodeOnline.typeId

end Node

/-- A relation between two nodes that lasts while both do the same acts. A strict one lasts only
while they send what they may. -/
structure Accord (Clock App : Type) where
  Holds : Node Clock App → Node Clock App → Prop
  strict : Prop
  core {node other} : Holds node other → other.core = node.core
  app {node other} : Holds node other → other.app = node.app
  adopt {node other} (update : NodeCore Clock → NodeCore Clock)
    (config : ∀ core, (update core).config = core.config)
    (store : ∀ core, (update core).store = core.store) :
    Holds node other → Holds (node.adopt (update node.core)) (other.adopt (update other.core))
  replace {node other} (app : App) : Holds node other → Holds { node with app } { other with app }
  emit {node other} {effect : Effect} (plain : effect.Plain) :
    Holds node other → Holds (node.emit effect) (other.emit effect)
  write {node other} (address : Nat) (value : UInt8) :
    Holds node other → Holds (node.writeStore address value) (other.writeStore address value)
  count {node other} (update : Counters → Counters) (steady : Counters.Steady update) :
    Holds node other → Holds (node.count update) (other.count update)
  send {node other} (classId : UInt16) (typeId origin : UInt8) (data : List UInt8)
    (ground : strict → node.MaySend classId typeId origin data) :
    Holds node other →
      Holds (node.send classId typeId origin data) (other.send classId typeId origin data)

/-- A property of a node that every single act keeps. A strict one is kept only while the node sends
what it may. -/
structure Kept (Clock App : Type) where
  Holds : Node Clock App → Prop
  strict : Prop
  adopt {node} (update : NodeCore Clock → NodeCore Clock)
    (config : ∀ core, (update core).config = core.config)
    (store : ∀ core, (update core).store = core.store) :
    Holds node → Holds (node.adopt (update node.core))
  replace {node} (app : App) : Holds node → Holds { node with app }
  emit {node} {effect : Effect} (plain : effect.Plain) : Holds node → Holds (node.emit effect)
  write {node} (address : Nat) (value : UInt8) :
    Holds node → Holds (node.writeStore address value)
  count {node} (update : Counters → Counters) (steady : Counters.Steady update) :
    Holds node → Holds (node.count update)
  send {node} (classId : UInt16) (typeId origin : UInt8) (data : List UInt8)
    (ground : strict → node.MaySend classId typeId origin data) :
    Holds node → Holds (node.send classId typeId origin data)

/-- Every node with the property is in accord with itself. -/
def Kept.accord {Clock App : Type} (kept : Kept Clock App) : Accord Clock App where
  Holds node other := other = node ∧ kept.Holds node
  strict := kept.strict
  core both := by rw [both.1]
  app both := by rw [both.1]
  adopt update config store both := ⟨by rw [both.1], kept.adopt update config store both.2⟩
  replace app both := ⟨by rw [both.1], kept.replace app both.2⟩
  emit plain both := ⟨by rw [both.1], kept.emit plain both.2⟩
  write address value both := ⟨by rw [both.1], kept.write address value both.2⟩
  count update steady both := ⟨by rw [both.1], kept.count update steady both.2⟩
  send classId typeId origin data ground both :=
    ⟨by rw [both.1], kept.send classId typeId origin data ground both.2⟩

namespace Accord

variable {Clock App : Type} (accord : Accord Clock App)

/-- The answers are the same, and the nodes stay in accord. -/
def Agrees {Answer : Type} (first second : Answer × Node Clock App) : Prop :=
  second.1 = first.1 ∧ accord.Holds first.2 second.2

variable {accord} {node other : Node Clock App}

theorem agrees (holds : accord.Holds node other) {Answer : Type} (answer : Answer) :
    accord.Agrees (answer, node) (answer, other) :=
  ⟨rfl, holds⟩

/-- What depends on the core alone is the same for both nodes. -/
theorem same (holds : accord.Holds node other) {Value : Type} (value : Node Clock App → Value)
    (blind : ∀ core, value (other.adopt core) = value (node.adopt core)) :
    value other = value node := by
  have own : other.adopt node.core = other := by
    rw [← accord.core holds]
    rfl
  calc
    value other = value (other.adopt node.core) := by rw [own]
    _ = value (node.adopt node.core) := blind node.core

section Parts

variable (holds : accord.Holds node other)

include holds

theorem config : other.config = node.config :=
  congrArg NodeCore.config (accord.core holds)

theorem clock : other.clock = node.clock :=
  congrArg NodeCore.clock (accord.core holds)

theorem bank : other.bank = node.bank :=
  congrArg NodeCore.bank (accord.core holds)

theorem lifecycle : other.lifecycle = node.lifecycle :=
  congrArg NodeCore.lifecycle (accord.core holds)

theorem discovery : other.discovery = node.discovery :=
  congrArg NodeCore.discovery (accord.core holds)

theorem sessions : other.sessions = node.sessions :=
  congrArg NodeCore.sessions (accord.core holds)

theorem pageSelect : other.pageSelect = node.pageSelect :=
  congrArg NodeCore.pageSelect (accord.core holds)

theorem nickname : other.nickname = node.nickname :=
  congrArg NodeCore.nickname (accord.core holds)

theorem guid : other.guid = node.guid :=
  congrArg NodeCore.guid (accord.core holds)

end Parts

section Acts

variable (holds : accord.Holds node other)

include holds

theorem log (notice : Notice) (plain : (Effect.logged notice).Plain) :
    accord.Holds (node.log notice) (other.log notice) :=
  accord.emit plain holds

theorem enter (lifecycle : Lifecycle) :
    accord.Holds (node.enter lifecycle) (other.enter lifecycle) :=
  accord.adopt (·.enter lifecycle) (fun _ => rfl) (fun _ => rfl) holds

theorem setNickname (nickname : UInt8) :
    accord.Holds (node.setNickname nickname) (other.setNickname nickname) :=
  accord.write Layout.nickname nickname holds

theorem setSegmentCrc (crc : UInt8) :
    accord.Holds (node.setSegmentCrc crc) (other.setSegmentCrc crc) :=
  accord.write Layout.segmentCrc crc holds

/-- A node with a nickname may reply with whatever fits a frame. -/
theorem reply (named : accord.strict → node.nickname ≠ Protocol.unassigned) (kind : Management)
    {data : List UInt8} (short : data.length ≤ 8) :
    accord.Holds (node.reply kind data) (other.reply kind data) := by
  unfold Node.reply
  rw [accord.nickname holds]
  apply accord.send _ _ _ _ ?_ holds
  intro strict
  exact ⟨short, rfl, fun missing => absurd missing (named strict)⟩

theorem reportFault (fault : RuleFault) :
    accord.Holds (node.reportFault fault) (other.reportFault fault) :=
  accord.count _ (fun _ _ _ => rfl) (accord.log holds (.ruleFault fault) trivial)

end Acts

/-- Every frame of a train is sent by a node with a nickname. -/
theorem sendFrames (holds : accord.Holds node other)
    (named : accord.strict → node.nickname ≠ Protocol.unassigned) (kind : Management)
    {frames : List (List UInt8)} (short : ∀ frame ∈ frames, frame.length ≤ 8) :
    accord.Holds (node.sendFrames kind frames) (other.sendFrames kind frames) := by
  induction frames generalizing node other with
  | nil => exact holds
  | cons frame rest ih =>
      have first := accord.reply holds named kind (short frame (by simp))
      apply ih first
      · intro strict
        have kept : (node.reply kind frame).nickname = node.nickname :=
          congrArg NodeCore.nickname (node.core_reply kind frame)
        rw [kept]
        exact named strict
      · intro later within
        exact short later (List.mem_cons_of_mem _ within)

theorem reportFaults (holds : accord.Holds node other) (faults : List RuleFault) :
    accord.Holds (faults.foldl Node.reportFault node) (faults.foldl Node.reportFault other) := by
  induction faults generalizing node other with
  | nil => exact holds
  | cons fault rest ih => exact ih (accord.reportFault holds fault)

section Timers

variable [TimerService Clock] (holds : accord.Holds node other)

include holds

theorem startTimer (slot : TimerSlot) (timeout : Nat) :
    accord.Holds (node.startTimer slot timeout) (other.startTimer slot timeout) := by
  unfold Node.startTimer
  rw [accord.bank holds]
  cases node.bank with
  | none => exact holds
  | some bank =>
      have started := accord.adopt
        (fun core => { core with
          bank := some (bank.start core.clock slot timeout).1
          clock := (bank.start core.clock slot timeout).2 })
        (fun _ => rfl) (fun _ => rfl) holds
      exact accord.emit trivial started

theorem stopTimer (slot : TimerSlot) :
    accord.Holds (node.stopTimer slot) (other.stopTimer slot) := by
  unfold Node.stopTimer
  rw [accord.bank holds]
  cases node.bank with
  | none => exact holds
  | some bank =>
      have stopped := accord.adopt
        (fun core => { core with
          bank := some (bank.stop core.clock slot).1
          clock := (bank.stop core.clock slot).2 })
        (fun _ => rfl) (fun _ => rfl) holds
      exact accord.emit trivial stopped

theorem stopAllTimers : accord.Holds node.stopAllTimers other.stopAllTimers := by
  have general := accord.stopTimer holds .general
  have sessions := accord.stopTimer (accord.stopTimer general .multiFrame1) .multiFrame2
  exact accord.stopTimer sessions .heartbeat

theorem takeExpired (slot : TimerSlot) :
    accord.Agrees (node.takeExpired slot) (other.takeExpired slot) := by
  unfold Node.takeExpired
  rw [accord.bank holds]
  cases node.bank with
  | none => exact ⟨rfl, holds⟩
  | some bank =>
      refine ⟨?_, ?_⟩
      · rw [accord.clock holds]
      · exact accord.adopt
          (fun core => { core with bank := some (bank.takeExpired core.clock slot).2 })
          (fun _ => rfl) (fun _ => rfl) holds

theorem startHeartbeat : accord.Holds node.startHeartbeat other.startHeartbeat := by
  unfold Node.startHeartbeat
  rw [accord.config holds]
  split
  · exact holds
  · exact accord.startTimer holds _ _

/-- A node without a nickname may ask for one. -/
theorem sendProbe (missing : accord.strict → node.nickname = Protocol.unassigned) :
    accord.Holds node.sendProbe other.sendProbe := by
  unfold Node.sendProbe
  rw [accord.config holds, accord.discovery holds]
  have noted := accord.log holds (.probing node.discovery.candidate) trivial
  apply accord.startTimer
  apply accord.send _ _ _ _ ?_ noted
  intro strict
  exact ⟨by simp, (missing strict).symm, fun _ => ⟨rfl, rfl⟩⟩

end Timers

section Registers

theorem afterRead (holds : accord.Holds node other) (target : RegisterTarget) :
    accord.Holds (node.afterRead target) (other.afterRead target) := by
  unfold Node.afterRead
  split
  · exact accord.adopt ({ · with alarm := 0 }) (fun _ => rfl) (fun _ => rfl) holds
  · exact holds

theorem resolve (holds : accord.Holds node other) (page : UInt16) (offset : UInt8) :
    other.registerMap.resolve page offset = node.registerMap.resolve page offset :=
  accord.same holds (·.registerMap.resolve page offset) fun _ => rfl

variable [Application App]

theorem call (holds : accord.Holds node other) (call : Call) :
    accord.Holds (node.call call) (other.call call) := by
  unfold Node.call
  rw [accord.app holds]
  exact accord.emit trivial (accord.replace _ holds)

theorem setLamp (holds : accord.Holds node other) (lamp : Lamp) :
    accord.Holds (node.setLamp lamp) (other.setLamp lamp) :=
  accord.call holds _

theorem peek (holds : accord.Holds node other) (target : RegisterTarget) (page : UInt16)
    (offset : UInt8) :
    accord.Agrees (node.peek target page offset) (other.peek target page offset) := by
  cases target with
  | standard slot => exact ⟨accord.same holds (·.peekStandard slot) fun _ => rfl, holds⟩
  | decisionMatrix index =>
      exact ⟨accord.same holds (·.store.read (Layout.matrixBase + index)) fun _ => rfl, holds⟩
  | ruleset index =>
      exact ⟨accord.same holds (fun node => node.store.read (node.layout.rulesetBase + index))
        fun _ => rfl, holds⟩
  | application =>
      unfold Node.peek
      rw [accord.app holds]
      exact ⟨rfl, accord.emit trivial (accord.replace _ holds)⟩
  | unmapped => exact ⟨rfl, holds⟩

theorem readRegister (holds : accord.Holds node other) (page : UInt16) (offset : UInt8) :
    accord.Agrees (node.readRegister page offset) (other.readRegister page offset) := by
  unfold Node.readRegister
  rw [accord.resolve holds]
  obtain ⟨value, looked⟩ := accord.peek holds (node.registerMap.resolve page offset) page offset
  exact ⟨value, accord.afterRead looked _⟩

theorem writeRestore (holds : accord.Holds node other) (value : UInt8) :
    accord.Holds (node.writeRestore value) (other.writeRestore value) := by
  have disarmed := accord.adopt ({ · with restoreArmedAt := none }) (fun _ => rfl) (fun _ => rfl)
    holds
  have within : other.restoreArmedAt.any (other.uptime - · ≤ Config.restoreWindow) =
      node.restoreArmedAt.any (node.uptime - · ≤ Config.restoreWindow) :=
    accord.same holds
      (fun node => node.restoreArmedAt.any (node.uptime - · ≤ Config.restoreWindow)) fun _ => rfl
  unfold Node.writeRestore
  rw [within]
  dsimp only
  split
  · have armed := accord.log disarmed .restoreArmed trivial
    exact accord.adopt (fun core => { core with restoreArmedAt := some core.uptime })
      (fun _ => rfl) (fun _ => rfl) armed
  · split
    · exact accord.call (accord.log disarmed .restoring trivial) _
    · exact disarmed

theorem writeStandard (holds : accord.Holds node other) (slot : StandardSlot) (value : UInt8) :
    accord.Holds (node.writeStandard slot value) (other.writeStandard slot value) := by
  unfold Node.writeStandard
  split
  · exact accord.write _ _ holds
  · exact accord.write _ _ holds
  · exact accord.adopt
      (fun core => { core with
        pageSelect := UInt16.ofNat (value.toNat * 256 + core.pageSelect.toNat % 256) })
      (fun _ => rfl) (fun _ => rfl) holds
  · exact accord.adopt
      (fun core => { core with
        pageSelect := UInt16.ofNat (core.pageSelect.toNat / 256 * 256 + value.toNat) })
      (fun _ => rfl) (fun _ => rfl) holds
  · exact accord.writeRestore holds value
  · exact holds

theorem writeRegister (holds : accord.Holds node other) (page : UInt16) (offset value : UInt8) :
    accord.Agrees (node.writeRegister page offset value)
      (other.writeRegister page offset value) := by
  unfold Node.writeRegister
  rw [accord.resolve holds]
  cases node.registerMap.resolve page offset with
  | standard slot =>
      apply accord.peek
      split
      · exact accord.writeStandard holds slot value
      · exact holds
  | decisionMatrix index => exact accord.peek (accord.write _ _ holds) _ _ _
  | ruleset index =>
      have base : other.layout.rulesetBase = node.layout.rulesetBase :=
        accord.same holds (·.layout.rulesetBase) fun _ => rfl
      dsimp only
      rw [base]
      exact accord.peek (accord.write _ _ holds) _ _ _
  | application =>
      dsimp only
      rw [accord.app holds]
      exact ⟨rfl, accord.emit trivial (accord.replace _ holds)⟩
  | unmapped => exact accord.peek holds _ _ _

theorem readEach (holds : accord.Holds node other) (page : UInt16) (registers : List UInt8) :
    accord.Agrees (Node.readEach page registers node) (Node.readEach page registers other) := by
  induction registers generalizing node other with
  | nil => exact ⟨rfl, holds⟩
  | cons register rest ih =>
      obtain ⟨value, read⟩ := accord.readRegister holds page register
      obtain ⟨values, reads⟩ := ih read
      exact ⟨congrArg₂ List.cons value values, reads⟩

theorem writeEach (holds : accord.Holds node other) (page : UInt16)
    (writes : List (UInt8 × UInt8)) :
    accord.Agrees (Node.writeEach page writes node) (Node.writeEach page writes other) := by
  induction writes generalizing node other with
  | nil => exact ⟨rfl, holds⟩
  | cons write rest ih =>
      obtain ⟨answer, written⟩ := accord.writeRegister holds page write.1 write.2
      obtain ⟨answers, writes⟩ := ih written
      exact ⟨congrArg₂ List.cons answer answers, writes⟩

end Registers

end Accord

end Vscp
