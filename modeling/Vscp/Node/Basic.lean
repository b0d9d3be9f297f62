/-
This file defines the state of a node and the single acts that make up its steps.
-/

import Vscp.Config
import Vscp.Counters
import Vscp.Node.Application
import Vscp.Node.Discovery
import Vscp.Node.GuidDrop
import Vscp.Protocol
import Vscp.Register.Target
import Vscp.Rule.Evaluate
import Vscp.Timer.Bank

namespace Vscp

/-- The events that wait for the node and the frames, by number, that the segment takes from it. -/
structure Transport where
  inbox : List Event
  attempted : Nat
  accepts : Nat → Bool

/-- A transport without waiting events that takes every frame. -/
def Transport.open : Transport :=
  ⟨[], 0, fun _ => true⟩

/-- A node with its settings, its surroundings and the state of its protocol. The trace holds what
it did to its surroundings, in order. -/
structure Node (Clock App : Type) where
  config : Config
  store : Store
  transport : Transport
  clock : Clock
  app : App
  bank : Option TimerBank
  lifecycle : Lifecycle
  discovery : Discovery
  sessions : GuidDropSessions
  timeSinceEpoch : Nat
  /-- Milliseconds since the node was built. -/
  uptime : Nat
  pageSelect : UInt16
  alarm : UInt8
  restoreArmedAt : Option Nat
  resetPending : Bool
  clearNickname : Bool
  engine : RuleEngine
  lastMatrixEvent : Option Event
  counters : Counters
  trace : List Effect

namespace Node

variable {Clock App : Type}

/-- The last effect of the trace is the latest. -/
def emit (node : Node Clock App) (effect : Effect) : Node Clock App :=
  { node with trace := node.trace ++ [effect] }

def log (node : Node Clock App) (notice : Notice) : Node Clock App :=
  node.emit (.logged notice)

def enter (node : Node Clock App) (lifecycle : Lifecycle) : Node Clock App :=
  { node with lifecycle }

def nickname (node : Node Clock App) : UInt8 :=
  node.store.read Layout.nickname

def segmentCrc (node : Node Clock App) : UInt8 :=
  node.store.read Layout.segmentCrc

def guid (node : Node Clock App) : List UInt8 :=
  node.store.readMany Layout.guid Layout.guidLength

def layout (node : Node Clock App) : Layout :=
  node.config.layout

def registerMap (node : Node Clock App) : RegisterMap where
  matrixPage := node.config.matrixPage
  matrixLength := node.config.matrixLength
  rulesetPage := if node.config.rulesEnabled then some node.config.rulesetPage else none
  rulesetLength := node.config.rulesetCapacity.toNat

def writeStore (node : Node Clock App) (address : Nat) (value : UInt8) : Node Clock App :=
  { node with store := node.store.write address value }.emit (.stored address value)

/-- Bytes at consecutive addresses are written one by one. -/
def writeStoreMany (address : Nat) : List UInt8 → Node Clock App → Node Clock App
  | [], node => node
  | value :: rest, node =>
      writeStoreMany (Store.after address 1) rest (node.writeStore address value)

def setNickname (node : Node Clock App) (nickname : UInt8) : Node Clock App :=
  node.writeStore Layout.nickname nickname

def setSegmentCrc (node : Node Clock App) (crc : UInt8) : Node Clock App :=
  node.writeStore Layout.segmentCrc crc

def count (node : Node Clock App) (update : Counters → Counters) : Node Clock App :=
  { node with counters := update node.counters }

/-- One frame leaves the node; a refused frame is counted and never sent again. -/
def send (node : Node Clock App) (classId : UInt16) (typeId origin : UInt8) (data : List UInt8) :
    Node Clock App :=
  let plain := (Event.new classId typeId origin).withHardCoded node.config.hardCoded
  match (plain.withPriority node.config.priority).bind (·.withData data) with
  | .error cause =>
      (node.log (.malformedFrame classId typeId cause)).count (·.recordFrame false)
  | .ok event =>
      let accepted := node.transport.accepts node.transport.attempted
      let transport := { node.transport with attempted := node.transport.attempted + 1 }
      let sent := ({ node with transport }.emit (.frame event accepted)).count
        (·.recordFrame accepted)
      if accepted then sent else sent.log (.refusedFrame classId typeId)

/-- A management frame under the nickname of the node. -/
def reply (node : Node Clock App) (kind : Management) (data : List UInt8) : Node Clock App :=
  node.send Protocol.managementClass kind.typeId node.nickname data

section Application

variable [Application App]

def call (node : Node Clock App) (call : Call) : Node Clock App :=
  { node with app := Application.notify node.app call }.emit (.called call)

def setLamp (node : Node Clock App) (lamp : Lamp) : Node Clock App :=
  node.call (.setLamp lamp)

end Application

section Timers

variable [TimerService Clock]

def startTimer (node : Node Clock App) (slot : TimerSlot) (timeout : Nat) : Node Clock App :=
  match node.bank with
  | none => node
  | some bank =>
      let (started, clock) := bank.start node.clock slot timeout
      { node with bank := some started, clock }.emit
        (.timerStarted (bank.timers.get slot) timeout)

def stopTimer (node : Node Clock App) (slot : TimerSlot) : Node Clock App :=
  match node.bank with
  | none => node
  | some bank =>
      let (stopped, clock) := bank.stop node.clock slot
      { node with bank := some stopped, clock }.emit (.timerStopped (bank.timers.get slot))

def stopAllTimers (node : Node Clock App) : Node Clock App :=
  TimerSlot.all.foldl stopTimer node

/-- The timer has expired since it was started; the expiry counts as seen from now on. -/
def takeExpired (node : Node Clock App) (slot : TimerSlot) : Bool × Node Clock App :=
  match node.bank with
  | none => (false, node)
  | some bank =>
      let (expired, taken) := bank.takeExpired node.clock slot
      (expired, { node with bank := some taken })

end Timers

end Node

end Vscp
