/-
This file names the transitions of the core of a node, each with what lets it happen.
-/

import Mathlib.Logic.Relation
import Vscp.Node.Step
import Vscp.Proofs.Node.Access

namespace Vscp

theorem Lifecycle.ne_of_failed {lifecycle other : Lifecycle}
    (failed : lifecycle.fault?.isSome = true) (sound : other.fault? = none) :
    lifecycle ≠ other := by
  rintro rfl
  rw [sound] at failed
  cases failed

namespace NodeCore

variable {Clock : Type}

/-- The time that a segment heartbeat reports, if it reports one. -/
def takeTime (core : NodeCore Clock) (data : List UInt8) : NodeCore Clock :=
  { core with timeSinceEpoch := (Bytes.field? 4 data 1).getD core.timeSinceEpoch }

/-- The event names the node by its nickname, and these arguments follow. -/
def Addressed (core : NodeCore Clock) (event : Event) (arguments : List UInt8) : Prop :=
  core.nickname ≠ Protocol.unassigned ∧ event.data = core.nickname :: arguments

/-- The core of a node whose nickname is withdrawn unless the request keeps it. -/
def withdraw (core : NodeCore Clock) (request : DropRequest) : NodeCore Clock :=
  if request.keepNickname then core else core.setNickname Protocol.unassigned

theorem lifecycle_withdraw (core : NodeCore Clock) (request : DropRequest) :
    (core.withdraw request).lifecycle = core.lifecycle := by
  unfold withdraw
  split <;> rfl

variable [TimerService Clock]

def startHeartbeat (core : NodeCore Clock) : NodeCore Clock :=
  if core.config.heartbeatPeriod = 0 then core
  else core.start .heartbeat core.config.heartbeatPeriod

def goActive (core : NodeCore Clock) : NodeCore Clock :=
  core.startHeartbeat.enter .active

def probe (core : NodeCore Clock) : NodeCore Clock :=
  core.start .general
    (if core.discovery.awaitingAssignment then core.config.assignmentTimeout
      else core.config.probeTimeout)

def startDiscovery (core : NodeCore Clock) : NodeCore Clock :=
  ({ core.stop .heartbeat with discovery := .new }.enter .nicknameDiscovery).probe

def enterIdle (core : NodeCore Clock) : NodeCore Clock :=
  { core.stopAll with sessions := .empty, resetPending := false }.enter .idle

def reset (core : NodeCore Clock) : NodeCore Clock :=
  if core.lifecycle.fault?.isSome then core
  else
    { core.stopAll with
      sessions := .empty
      resetPending := false
      clearNickname := false
      restoreArmedAt := none }.enter .starting

theorem isArmed_startHeartbeat_other {core : NodeCore Clock} {slot : TimerSlot}
    (other : slot ≠ .heartbeat) : core.startHeartbeat.isArmed slot = core.isArmed slot := by
  unfold startHeartbeat
  split
  · rfl
  · rw [isArmed_start, if_neg other]

@[simp] theorem nickname_startHeartbeat (core : NodeCore Clock) :
    core.startHeartbeat.nickname = core.nickname := by
  unfold startHeartbeat
  split <;> rfl

@[simp] theorem lifecycle_startHeartbeat (core : NodeCore Clock) :
    core.startHeartbeat.lifecycle = core.lifecycle := by
  unfold startHeartbeat
  split <;> rfl

@[simp] theorem config_startHeartbeat (core : NodeCore Clock) :
    core.startHeartbeat.config = core.config := by
  unfold startHeartbeat
  split <;> rfl

@[simp] theorem resetPending_startHeartbeat (core : NodeCore Clock) :
    core.startHeartbeat.resetPending = core.resetPending := by
  unfold startHeartbeat
  split <;> rfl

@[simp] theorem clearNickname_startHeartbeat (core : NodeCore Clock) :
    core.startHeartbeat.clearNickname = core.clearNickname := by
  unfold startHeartbeat
  split <;> rfl

/-- How a management event changes the core of an active node. -/
inductive ActiveStep (core : NodeCore Clock) (event : Event) :
    Management → NodeCore Clock → Prop where
  | accessed {kind : Management} {after : NodeCore Clock} (access : Accessed core after) :
      ActiveStep core event kind after
  | timed {crc : UInt8} {rest : List UInt8} (data : event.data = crc :: rest)
      (same : crc = core.segmentCrc) :
      ActiveStep core event .segmentControllerHeartbeat (core.takeTime event.data)
  | moved {crc : UInt8} {rest : List UInt8} (data : event.data = crc :: rest)
      (other : crc ≠ core.segmentCrc) :
      ActiveStep core event .segmentControllerHeartbeat
        ((core.writeStore Layout.segmentCrc crc).setNickname Protocol.unassigned).startDiscovery
  | collided (own : event.origin = core.nickname) :
      ActiveStep core event .probeAck (core.setNickname Protocol.unassigned).startDiscovery
  | renamed {new : UInt8} {rest : List UInt8} (addressed : core.Addressed event (new :: rest))
      (valid : new ≤ Protocol.highestNickname) :
      ActiveStep core event .setNicknameId (core.setNickname new)
  | parked {arguments : List UInt8} {request : DropRequest}
      (addressed : core.Addressed event arguments)
      (decoded : request = .ofBytes (arguments.getD 0 0) (arguments.getD 1 0))
      (idle : request.goIdle = true) :
      ActiveStep core event .dropNickname (core.withdraw request).enterIdle
  | dropped {arguments : List UInt8} {request : DropRequest}
      (addressed : core.Addressed event arguments)
      (decoded : request = .ofBytes (arguments.getD 0 0) (arguments.getD 1 0))
      (stays : request.goIdle = false) (atOnce : request.delayed = false) :
      ActiveStep core event .dropNickname (core.withdraw request).reset
  | delayed {arguments : List UInt8} {request : DropRequest}
      (addressed : core.Addressed event arguments)
      (decoded : request = .ofBytes (arguments.getD 0 0) (arguments.getD 1 0))
      (later : request.delayed = true) :
      ActiveStep core event .dropNickname
        ({ core with resetPending := true, clearNickname := !request.keepNickname }.start .general
          (request.delay * 1000))
  | handedOver {algorithm : UInt8} {tail : List UInt8}
      (addressed : core.Addressed event (algorithm :: tail))
      (present : algorithm ≠ Config.noBootLoader)
      (own : algorithm = core.config.bootLoaderAlgorithm) (identified : core.guid.drop 10 = tail) :
      ActiveStep core event .enterBootLoader (core.stopAll.enter .bootLoaderHandoff)
  | progressed {index : UInt8} {bytes : List UInt8} {slot : SessionSlot}
      {sessions : GuidDropSessions} (data : event.data = index :: bytes)
      (accepted : core.sessions.accept event.origin index bytes core.guid =
        (.progress slot, sessions)) :
      ActiveStep core event .guidDropNickname
        ({ core with sessions }.start slot.timer core.config.multiFrameTimeout)
  | completed {index : UInt8} {bytes : List UInt8} {slot : SessionSlot}
      {sessions : GuidDropSessions} (data : event.data = index :: bytes)
      (accepted : core.sessions.accept event.origin index bytes core.guid =
        (.complete slot, sessions)) :
      ActiveStep core event .guidDropNickname
        (({ core with sessions }.stop slot.timer).setNickname Protocol.unassigned).reset
  | discarded {index : UInt8} {bytes : List UInt8} {slot : SessionSlot}
      {sessions : GuidDropSessions} (data : event.data = index :: bytes)
      (accepted : core.sessions.accept event.origin index bytes core.guid =
        (.dropped (some slot), sessions)) :
      ActiveStep core event .guidDropNickname ({ core with sessions }.stop slot.timer)

/-- How a management event changes the core of a node that searches for a nickname. -/
inductive SearchStep (core : NodeCore Clock) (event : Event) :
    Management → NodeCore Clock → Prop where
  | assigned {old new : UInt8} {rest : List UInt8} (data : event.data = old :: new :: rest)
      (addressed : core.discovery.isAddressed old = true)
      (valid : new ≤ Protocol.highestNickname) :
      SearchStep core event .setNicknameId ((core.stop .general).setNickname new).goActive
  | awaited {discovery : Discovery} (own : event.origin = core.discovery.candidate)
      (outcome : core.discovery.acknowledge = (.masterPresent, discovery)) :
      SearchStep core event .probeAck
        ({ core with discovery }.start .general core.config.assignmentTimeout)
  | probed {discovery : Discovery} (own : event.origin = core.discovery.candidate)
      (outcome : core.discovery.acknowledge = (.taken, discovery)) :
      SearchStep core event .probeAck { core with discovery }.probe
  | gaveUp {discovery : Discovery} (own : event.origin = core.discovery.candidate)
      (outcome : core.discovery.acknowledge = (.exhausted, discovery)) :
      SearchStep core event .probeAck ({ core with discovery }.stop .general).enterIdle
  | silent (data : event.data = []) : SearchStep core event .segmentControllerHeartbeat core
  | timed {crc : UInt8} {rest : List UInt8} (data : event.data = crc :: rest) :
      SearchStep core event .segmentControllerHeartbeat
        ((if crc = core.segmentCrc then core else core.writeStore Layout.segmentCrc crc).takeTime
          event.data)

/-- The single steps that host calls are made of, each with what lets it happen. -/
inductive Step (core : NodeCore Clock) : NodeCore Clock → Prop where
  | accessed {after : NodeCore Clock} (access : Accessed core after) : Step core after
  | judged (engine : RuleEngine) (event? : Option Event) :
      Step core { core with engine, lastMatrixEvent := event? }
  | ticked (elapsed : Nat) :
      Step core { core with
        clock := TimerService.advance core.clock elapsed
        uptime := min (core.uptime + elapsed) Node.longestUptime }
  | restarted (sound : core.lifecycle.fault? = none) : Step core (core.enter .starting)
  | reset : Step core core.reset
  | searched (starting : core.lifecycle = .starting)
      (missing : core.nickname = Protocol.unassigned) : Step core core.startDiscovery
  | activated (starting : core.lifecycle = .starting)
      (named : core.nickname ≠ Protocol.unassigned) : Step core core.goActive
  | probed (searching : core.lifecycle = .nicknameDiscovery)
      (due : core.expired .general = true) :
      Step core { core.seeExpiry .general with discovery := core.discovery.timeout }.probe
  | resetLate (running : core.lifecycle = .active ∨ core.lifecycle = .idle)
      (due : core.expired .general = true) (pending : core.resetPending = true) :
      Step core
        (if core.clearNickname then (core.seeExpiry .general).setNickname Protocol.unassigned
          else core.seeExpiry .general).reset
  | ranOut (running : core.lifecycle = .active ∨ core.lifecycle = .idle)
      (due : core.expired .general = true) (settled : core.resetPending = false) :
      Step core (core.seeExpiry .general)
  | sessionEnded (slot : SessionSlot) (due : core.expired slot.timer = true) :
      Step core { core.seeExpiry slot.timer with sessions := (core.sessions.expire slot).2 }
  | beat (due : core.expired .heartbeat = true) (active : core.lifecycle = .active)
      (named : core.nickname ≠ Protocol.unassigned) :
      Step core (core.seeExpiry .heartbeat).startHeartbeat
  | beatMissed (due : core.expired .heartbeat = true)
      (silent : ¬(core.lifecycle = .active ∧ core.nickname ≠ Protocol.unassigned)) :
      Step core (core.seeExpiry .heartbeat)
  | managed {event : Event} {kind : Management} {after : NodeCore Clock}
      (active : core.lifecycle = .active) (step : ActiveStep core event kind after) :
      Step core after
  | assigned {event : Event} {kind : Management} {after : NodeCore Clock}
      (searching : core.lifecycle = .nicknameDiscovery)
      (step : SearchStep core event kind after) : Step core after

/-- Steps that follow each other. -/
def Steps : NodeCore Clock → NodeCore Clock → Prop :=
  Relation.ReflTransGen Step

theorem Steps.refl (core : NodeCore Clock) : Steps core core :=
  Relation.ReflTransGen.refl

theorem Steps.single {before after : NodeCore Clock} (step : Step before after) :
    Steps before after :=
  Relation.ReflTransGen.single step

theorem Steps.trans {first second third : NodeCore Clock} (left : Steps first second)
    (right : Steps second third) : Steps first third :=
  Relation.ReflTransGen.trans left right

/-- What every step keeps holds after all of them. -/
theorem Steps.keeps {holds : NodeCore Clock → Prop}
    (kept : ∀ {before after}, Step before after → holds before → holds after)
    {first last : NodeCore Clock} (steps : Steps first last) (start : holds first) :
    holds last := by
  induction steps with
  | refl => exact start
  | tail _ step ih => exact kept step ih

/-- A node in the error state stays there. -/
theorem Step.failed {core after : NodeCore Clock} (step : Step core after)
    (failed : core.lifecycle.fault?.isSome = true) : after.lifecycle = core.lifecycle := by
  cases step with
  | accessed access => rw [access.others]
  | judged engine event? => rfl
  | ticked elapsed => rfl
  | restarted sound => exact absurd rfl (Lifecycle.ne_of_failed failed sound)
  | reset => rw [NodeCore.reset, if_pos failed]
  | searched starting missing => exact absurd starting (Lifecycle.ne_of_failed failed rfl)
  | activated starting named => exact absurd starting (Lifecycle.ne_of_failed failed rfl)
  | probed searching due => exact absurd searching (Lifecycle.ne_of_failed failed rfl)
  | resetLate running due pending =>
      rcases running with active | idle
      · exact absurd active (Lifecycle.ne_of_failed failed rfl)
      · exact absurd idle (Lifecycle.ne_of_failed failed rfl)
  | ranOut running due settled => rfl
  | sessionEnded slot due => rfl
  | beat due active named => exact absurd active (Lifecycle.ne_of_failed failed rfl)
  | beatMissed due silent => rfl
  | managed active step => exact absurd active (Lifecycle.ne_of_failed failed rfl)
  | assigned searching step => exact absurd searching (Lifecycle.ne_of_failed failed rfl)

theorem Steps.failed {core after : NodeCore Clock} (steps : Steps core after)
    (failed : core.lifecycle.fault?.isSome = true) : after.lifecycle = core.lifecycle := by
  induction steps with
  | refl => rfl
  | tail _ step ih => exact (step.failed (ih ▸ failed)).trans ih

end NodeCore

end Vscp
