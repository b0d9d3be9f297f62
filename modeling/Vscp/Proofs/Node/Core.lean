/-
This file separates what a node keeps for itself from what it shows to its surroundings, and proves
what each single act of a node does to the former.
-/

import Vscp.Node.Command
import Vscp.Proofs.Store

namespace Vscp

/-- A node without its transport, its application, its counters and its trace. -/
structure NodeCore (Clock : Type) where
  config : Config
  store : Store
  clock : Clock
  bank : Option TimerBank
  lifecycle : Lifecycle
  discovery : Discovery
  sessions : GuidDropSessions
  timeSinceEpoch : Nat
  uptime : Nat
  pageSelect : UInt16
  alarm : UInt8
  restoreArmedAt : Option Nat
  resetPending : Bool
  clearNickname : Bool
  engine : RuleEngine
  lastMatrixEvent : Option Event

@[simp] theorem SessionSlot.timer_ne_general (slot : SessionSlot) : slot.timer ≠ .general := by
  cases slot <;> decide

@[simp] theorem SessionSlot.timer_ne_heartbeat (slot : SessionSlot) :
    slot.timer ≠ .heartbeat := by
  cases slot <;> decide

/-- The bank with one of its timers marked as armed or not. -/
def TimerBank.mark (bank : TimerBank) (slot : TimerSlot) (armed : Bool) : TimerBank :=
  { bank with armed := bank.armed.set slot armed }

@[simp] theorem TimerBank.isArmed_mark (bank : TimerBank) (slot other : TimerSlot) (armed : Bool) :
    (bank.mark slot armed).isArmed other = if other = slot then armed else bank.isArmed other :=
  PerTimer.get_set bank.armed slot other armed

namespace NodeCore

variable {Clock : Type}

def nickname (core : NodeCore Clock) : UInt8 :=
  core.store.read Layout.nickname

def segmentCrc (core : NodeCore Clock) : UInt8 :=
  core.store.read Layout.segmentCrc

def guid (core : NodeCore Clock) : List UInt8 :=
  core.store.readMany Layout.guid Layout.guidLength

def isArmed (core : NodeCore Clock) (slot : TimerSlot) : Bool :=
  core.bank.any (·.isArmed slot)

def enter (core : NodeCore Clock) (lifecycle : Lifecycle) : NodeCore Clock :=
  { core with lifecycle }

def writeStore (core : NodeCore Clock) (address : Nat) (value : UInt8) : NodeCore Clock :=
  { core with store := core.store.write address value }

def setNickname (core : NodeCore Clock) (nickname : UInt8) : NodeCore Clock :=
  core.writeStore Layout.nickname nickname

/-- A nickname that is set is kept or lost. -/
theorem nickname_setNickname_cases (core : NodeCore Clock) (nickname : UInt8) :
    (core.setNickname nickname).nickname = nickname ∨
      (core.setNickname nickname).nickname = Protocol.unassigned := by
  unfold setNickname writeStore NodeCore.nickname
  rw [Store.read_write]
  split
  · exact .inl rfl
  · exact .inr rfl

theorem nickname_unassign (core : NodeCore Clock) :
    (core.setNickname Protocol.unassigned).nickname = Protocol.unassigned :=
  (core.nickname_setNickname_cases _).elim id id

variable [TimerService Clock]

def start (core : NodeCore Clock) (slot : TimerSlot) (timeout : Nat) : NodeCore Clock :=
  { core with
    bank := core.bank.map (·.mark slot true)
    clock := core.bank.elim core.clock fun bank =>
      TimerService.start core.clock (bank.timers.get slot) timeout }

def stop (core : NodeCore Clock) (slot : TimerSlot) : NodeCore Clock :=
  { core with
    bank := core.bank.map (·.mark slot false)
    clock := core.bank.elim core.clock fun bank =>
      TimerService.stop core.clock (bank.timers.get slot) }

def stopAll (core : NodeCore Clock) : NodeCore Clock :=
  TimerSlot.all.foldl stop core

def expired (core : NodeCore Clock) (slot : TimerSlot) : Bool :=
  core.bank.any (·.expired core.clock slot)

/-- The expiry of a timer, if there was one, has been seen. -/
def seeExpiry (core : NodeCore Clock) (slot : TimerSlot) : NodeCore Clock :=
  { core with bank := core.bank.map fun bank => (bank.takeExpired core.clock slot).2 }

@[simp] theorem isArmed_start (core : NodeCore Clock) (slot other : TimerSlot) (timeout : Nat) :
    (core.start slot timeout).isArmed other =
      if other = slot then core.bank.isSome else core.isArmed other := by
  unfold isArmed start
  cases core.bank with
  | none => simp
  | some bank => by_cases same : other = slot <;> simp [same]

@[simp] theorem isArmed_stop (core : NodeCore Clock) (slot other : TimerSlot) :
    (core.stop slot).isArmed other = if other = slot then false else core.isArmed other := by
  unfold isArmed stop
  cases core.bank with
  | none => simp
  | some bank => by_cases same : other = slot <;> simp [same]

@[simp] theorem isArmed_stopAll (core : NodeCore Clock) (slot : TimerSlot) :
    core.stopAll.isArmed slot = false := by
  cases slot <;> simp [stopAll, TimerSlot.all]

/-- An expiry that was seen disarms its timer and no other. -/
theorem isArmed_seeExpiry (core : NodeCore Clock) (slot other : TimerSlot) :
    (core.seeExpiry slot).isArmed other =
      if other = slot then core.isArmed slot && !core.expired slot else core.isArmed other := by
  unfold isArmed seeExpiry expired
  cases core.bank with
  | none => simp
  | some bank =>
      by_cases same : other = slot
      · subst same
        by_cases due : bank.expired core.clock other = true
        · have seen : bank.takeExpired core.clock other = (true, bank.mark other false) :=
            if_pos due
          simp [seen, due]
        · have seen : bank.takeExpired core.clock other = (false, bank) := if_neg due
          simp [seen, due]
      · by_cases due : bank.expired core.clock slot = true
        · have seen : bank.takeExpired core.clock slot = (true, bank.mark slot false) := if_pos due
          simp [seen, same]
        · have seen : bank.takeExpired core.clock slot = (false, bank) := if_neg due
          simp [seen, same]

/-- An expiry that was seen leaves the other timers alone. -/
theorem expired_seeExpiry_other (core : NodeCore Clock) {slot other : TimerSlot}
    (apart : other ≠ slot) : (core.seeExpiry slot).expired other = core.expired other := by
  unfold expired seeExpiry
  cases core.bank with
  | none => rfl
  | some bank =>
      change (bank.takeExpired core.clock slot).2.expired core.clock other =
        bank.expired core.clock other
      unfold TimerBank.takeExpired
      split
      · change ((bank.mark slot false).isArmed other && _) = _
        rw [TimerBank.isArmed_mark, if_neg apart]
        rfl
      · rfl

theorem isArmed_of_expired {core : NodeCore Clock} {slot : TimerSlot}
    (due : core.expired slot = true) : core.isArmed slot = true := by
  unfold expired at due
  unfold isArmed
  cases bank : core.bank with
  | none =>
      rw [bank] at due
      cases due
  | some bank =>
      simp only [bank, Option.any_some, TimerBank.expired, Bool.and_eq_true] at due
      exact due.1

theorem seeExpiry_of_running {core : NodeCore Clock} {slot : TimerSlot}
    (running : core.expired slot = false) : core.seeExpiry slot = core := by
  obtain ⟨config, store, clock, bank⟩ := core
  cases bank with
  | none => rfl
  | some bank =>
      change bank.expired clock slot = false at running
      have kept : bank.takeExpired clock slot = (false, bank) := by
        rw [TimerBank.takeExpired, running]
        rfl
      simp [seeExpiry, kept]

end NodeCore

namespace Node

variable {Clock App : Type}

def core (node : Node Clock App) : NodeCore Clock where
  config := node.config
  store := node.store
  clock := node.clock
  bank := node.bank
  lifecycle := node.lifecycle
  discovery := node.discovery
  sessions := node.sessions
  timeSinceEpoch := node.timeSinceEpoch
  uptime := node.uptime
  pageSelect := node.pageSelect
  alarm := node.alarm
  restoreArmedAt := node.restoreArmedAt
  resetPending := node.resetPending
  clearNickname := node.clearNickname
  engine := node.engine
  lastMatrixEvent := node.lastMatrixEvent

@[simp] theorem core_emit (node : Node Clock App) (effect : Effect) :
    (node.emit effect).core = node.core := rfl

@[simp] theorem core_log (node : Node Clock App) (notice : Notice) :
    (node.log notice).core = node.core := rfl

@[simp] theorem core_count (node : Node Clock App) (update : Counters → Counters) :
    (node.count update).core = node.core := rfl

/-- Whether a frame is refused changes nothing of the core. -/
@[simp] theorem core_send (node : Node Clock App) (classId : UInt16) (typeId origin : UInt8)
    (data : List UInt8) : (node.send classId typeId origin data).core = node.core := by
  unfold send
  dsimp only
  split
  · rfl
  · split <;> rfl

@[simp] theorem core_reply (node : Node Clock App) (kind : Management) (data : List UInt8) :
    (node.reply kind data).core = node.core :=
  core_send ..

@[simp] theorem core_enter (node : Node Clock App) (lifecycle : Lifecycle) :
    (node.enter lifecycle).core = node.core.enter lifecycle := rfl

@[simp] theorem core_writeStore (node : Node Clock App) (address : Nat) (value : UInt8) :
    (node.writeStore address value).core = node.core.writeStore address value := rfl

@[simp] theorem core_setNickname (node : Node Clock App) (nickname : UInt8) :
    (node.setNickname nickname).core = node.core.setNickname nickname := rfl

@[simp] theorem core_setSegmentCrc (node : Node Clock App) (crc : UInt8) :
    (node.setSegmentCrc crc).core = node.core.writeStore Layout.segmentCrc crc := rfl

theorem core_sendFrames (node : Node Clock App) (kind : Management)
    (frames : List (List UInt8)) : (node.sendFrames kind frames).core = node.core := by
  induction frames generalizing node with
  | nil => rfl
  | cons frame rest ih =>
      have later := ih (node.reply kind frame)
      rwa [core_reply] at later

section Application

variable [Application App]

@[simp] theorem core_call (node : Node Clock App) (call : Call) :
    (node.call call).core = node.core := rfl

@[simp] theorem core_setLamp (node : Node Clock App) (lamp : Lamp) :
    (node.setLamp lamp).core = node.core := rfl

end Application

section Timers

variable [TimerService Clock]

@[simp] theorem core_startTimer (node : Node Clock App) (slot : TimerSlot) (timeout : Nat) :
    (node.startTimer slot timeout).core = node.core.start slot timeout := by
  cases node with
  | mk config store transport clock app bank => cases bank <;> rfl

@[simp] theorem core_stopTimer (node : Node Clock App) (slot : TimerSlot) :
    (node.stopTimer slot).core = node.core.stop slot := by
  cases node with
  | mk config store transport clock app bank => cases bank <;> rfl

@[simp] theorem core_stopAllTimers (node : Node Clock App) :
    node.stopAllTimers.core = node.core.stopAll := by
  simp [stopAllTimers, NodeCore.stopAll, TimerSlot.all]

/-- Whether a timer has expired is decided by the core. -/
theorem takeExpired_eq (node : Node Clock App) (slot : TimerSlot) :
    ∃ after, node.takeExpired slot = (node.core.expired slot, after) ∧
      after.core = node.core.seeExpiry slot := by
  refine ⟨(node.takeExpired slot).2, Prod.ext ?_ rfl, ?_⟩
  all_goals obtain ⟨config, store, transport, clock, app, bank⟩ := node
  · cases bank with
    | none => rfl
    | some bank =>
        change (bank.takeExpired clock slot).1 = bank.expired clock slot
        unfold TimerBank.takeExpired
        cases bank.expired clock slot <;> rfl
  · cases bank <;> rfl

theorem expired_takeExpired (node : Node Clock App) (slot : TimerSlot) :
    (node.takeExpired slot).1 = node.core.expired slot := by
  obtain ⟨after, taken, -⟩ := node.takeExpired_eq slot
  rw [taken]

end Timers

end Node

end Vscp
