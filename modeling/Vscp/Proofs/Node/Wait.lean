/-
This file proves what ends the wait of an active node for a reset that it has put off, and that
nothing else shortens or prolongs it.
-/

import Vscp.Proofs.Node.Wiring

namespace Vscp

/-- Only an address with a byte reads as anything but erased. -/
theorem Store.lt_size_of_read {store : Store} {address : Nat} (kept : store.read address ≠ 0xFF) :
    address < store.size :=
  Nat.lt_of_not_le fun missing => kept (read_of_size_le missing)

namespace NodeCore

section Events

variable {Clock : Type}

/-- The events that end the wait of an active node for a reset that it has put off. -/
inductive Interrupts (core : NodeCore Clock) (event : Event) : Prop where
  | dropped {arguments : List UInt8} (command : event.Manages .dropNickname)
      (addressed : core.Addressed event arguments)
  | handedOver {algorithm : UInt8} {tail : List UInt8} (command : event.Manages .enterBootLoader)
      (addressed : core.Addressed event (algorithm :: tail))
      (present : algorithm ≠ Config.noBootLoader)
      (own : algorithm = core.config.bootLoaderAlgorithm) (identified : core.guid.drop 10 = tail)
  | collided (command : event.Manages .probeAck) (own : event.origin = core.nickname)
  | moved {crc : UInt8} {rest : List UInt8} (command : event.Manages .segmentControllerHeartbeat)
      (data : event.data = crc :: rest) (other : crc ≠ core.segmentCrc)
  | withdrawn {index : UInt8} {bytes : List UInt8} {slot : SessionSlot}
      (command : event.Manages .guidDropNickname) (data : event.data = index :: bytes)
      (completed : (core.sessions.accept event.origin index bytes core.guid).1 = .complete slot)

end Events

section Resets

variable {Clock : Type} [TimerService Clock] {core : NodeCore Clock}

theorem expired_of_unarmed {slot : TimerSlot} (unarmed : core.isArmed slot = false) :
    core.expired slot = false :=
  Bool.eq_false_iff.mpr fun due => absurd (unarmed.symm.trans (isArmed_of_expired due)) (by decide)

/-- Without armed timers there is nothing to serve. -/
theorem serviceSession_of_unarmed (unarmed : ∀ slot, core.isArmed slot = false)
    (slot : SessionSlot) : core.serviceSession slot = core := by
  rw [serviceSession, expired_of_unarmed (unarmed _)]
  rfl

theorem serviceHeartbeat_of_unarmed (unarmed : ∀ slot, core.isArmed slot = false) :
    core.serviceHeartbeat = core := by
  rw [serviceHeartbeat, expired_of_unarmed (unarmed _)]
  rfl

theorem isArmed_reset (sound : core.lifecycle.fault? = none) (slot : TimerSlot) :
    core.reset.isArmed slot = false := by
  have running : ¬core.lifecycle.fault?.isSome = true := by simp [sound]
  rw [reset, if_neg running]
  exact core.isArmed_stopAll slot

theorem sessions_reset (sound : core.lifecycle.fault? = none) : core.reset.sessions = .empty := by
  have running : ¬core.lifecycle.fault?.isSome = true := by simp [sound]
  rw [reset, if_neg running]
  rfl

omit [TimerService Clock] in
theorem lifecycle_forget (core : NodeCore Clock) : core.forget.lifecycle = core.lifecycle := by
  unfold forget
  split <;> rfl

omit [TimerService Clock] in
theorem nickname_forget (core : NodeCore Clock) :
    core.forget.nickname = if core.clearNickname then Protocol.unassigned else core.nickname := by
  unfold forget
  split
  · exact core.nickname_unassign
  · rfl

/-- A reset that is due leaves no timer for the rest of the service. -/
theorem serviceTimers_of_resetDue (sound : core.lifecycle.fault? = none) (due : core.ResetDue) :
    core.serviceTimers = (core.seeExpiry .general).forget.reset := by
  have running : (core.seeExpiry .general).forget.lifecycle.fault? = none := by
    rw [lifecycle_forget]
    exact sound
  have unarmed := isArmed_reset running
  rw [serviceTimers, serviceGeneral_of_resetDue due, serviceSession_of_unarmed unarmed,
    serviceSession_of_unarmed unarmed, serviceHeartbeat_of_unarmed unarmed]

end Resets

/-- An active node waits for a reset that it was asked for, and has this time left. -/
structure Delayed (core : NodeCore SoftTimers) (request : DropRequest) (left : Nat) : Prop where
  active : core.lifecycle = .active
  named : core.nickname ≠ Protocol.unassigned
  pending : core.resetPending = true
  clear : core.clearNickname = !request.keepNickname
  armed : core.isArmed .general = true
  wired : core.Wired
  left : core.left? .general = some left

namespace Delayed

variable {core after : NodeCore SoftTimers} {request : DropRequest} {left : Nat} {event : Event}
  {kind : Management}

/-- The wait goes on while state, nickname and debt stay and the general timer is left alone. -/
theorem of_kept (delayed : Delayed core request left) (lifecycle : after.lifecycle = core.lifecycle)
    (named : after.nickname ≠ Protocol.unassigned)
    (pending : after.resetPending = core.resetPending)
    (clear : after.clearNickname = core.clearNickname)
    (armed : after.isArmed .general = core.isArmed .general)
    (wiring : after.wiring = core.wiring) (kept : after.left? .general = core.left? .general) :
    Delayed after request left :=
  ⟨lifecycle.trans delayed.active, named, pending.trans delayed.pending,
    clear.trans delayed.clear, armed.trans delayed.armed, delayed.wired.of_wiring wiring,
    kept.trans delayed.left⟩

theorem accessed (delayed : Delayed core request left) (access : Accessed core after) :
    Delayed after request left := by
  refine delayed.of_kept ?_ (access.nickname ▸ delayed.named) ?_ ?_ ?_ access.wiring ?_
  · rw [access.others]
  · rw [access.others]
  · rw [access.others]
  · exact congrArg (·.isArmed .general) access.others
  · exact congrArg (·.left? .general) access.others

theorem startTimer (delayed : Delayed core request left) {slot : TimerSlot}
    (other : slot ≠ .general) (timeout : Nat) : Delayed (core.start slot timeout) request left := by
  refine delayed.of_kept rfl delayed.named rfl rfl ?_ (wiring_start ..) ?_
  · rw [isArmed_start, if_neg other.symm]
  · rw [delayed.wired.left?_start, if_neg other.symm]

theorem stopTimer (delayed : Delayed core request left) {slot : TimerSlot}
    (other : slot ≠ .general) : Delayed (core.stop slot) request left := by
  refine delayed.of_kept rfl delayed.named rfl rfl ?_ (wiring_stop ..) ?_
  · rw [isArmed_stop, if_neg other.symm]
  · rw [delayed.wired.left?_stop, if_neg other.symm]

theorem seeExpiry (delayed : Delayed core request left) {slot : TimerSlot}
    (other : slot ≠ .general) : Delayed (core.seeExpiry slot) request left := by
  refine delayed.of_kept rfl delayed.named rfl rfl ?_ (wiring_seeExpiry ..) (left?_seeExpiry ..)
  rw [isArmed_seeExpiry, if_neg other.symm]

/-- What becomes of the sessions does not matter. -/
theorem withSessions (delayed : Delayed core request left) (sessions : GuidDropSessions) :
    Delayed { core with sessions } request left :=
  delayed.of_kept rfl delayed.named rfl rfl rfl rfl rfl

theorem serviceSession (delayed : Delayed core request left) (slot : SessionSlot) :
    Delayed (core.serviceSession slot) request left := by
  unfold NodeCore.serviceSession
  split
  · exact (delayed.seeExpiry slot.timer_ne_general).withSessions _
  · exact delayed

theorem serviceHeartbeat (delayed : Delayed core request left) :
    Delayed core.serviceHeartbeat request left := by
  have seen := delayed.seeExpiry (show TimerSlot.heartbeat ≠ .general by decide)
  unfold NodeCore.serviceHeartbeat
  split
  · split
    · unfold startHeartbeat
      split
      · exact seen
      · exact seen.startTimer (by decide) _
    · exact seen
  · exact delayed

theorem expired_eq (delayed : Delayed core request left) :
    core.expired .general = decide (left = 0) := by
  rw [NodeCore.expired_eq, delayed.armed, delayed.left]
  cases left <;> rfl

/-- Before its time the timers of the node do not end the wait. -/
theorem serviceTimers (delayed : Delayed core request left) (early : 0 < left) :
    Delayed core.serviceTimers request left := by
  have running : core.serviceGeneral = core := by
    rw [serviceGeneral, delayed.expired_eq, decide_eq_false (Nat.ne_of_gt early)]
    rfl
  rw [NodeCore.serviceTimers, running]
  exact ((delayed.serviceSession .first).serviceSession .second).serviceHeartbeat

theorem setNickname (delayed : Delayed core request left) {new : UInt8}
    (valid : new ≤ Protocol.highestNickname) : Delayed (core.setNickname new) request left := by
  refine delayed.of_kept rfl ?_ rfl rfl rfl rfl rfl
  have written : (core.setNickname new).nickname = new :=
    Store.read_write_self (Store.lt_size_of_read delayed.named) new
  rw [written]
  rintro rfl
  exact absurd valid (by decide)

theorem activeStep (delayed : Delayed core request left) (command : event.Manages kind)
    (harmless : ¬core.Interrupts event) (step : ActiveStep core event kind after) :
    Delayed after request left := by
  cases step with
  | accessed access => exact delayed.accessed access
  | timed data same => exact delayed.of_kept rfl delayed.named rfl rfl rfl rfl rfl
  | moved data other => exact absurd (.moved command data other) harmless
  | collided own => exact absurd (.collided command own) harmless
  | renamed addressed valid => exact delayed.setNickname valid
  | parked addressed decoded idle => exact absurd (.dropped command addressed) harmless
  | dropped addressed decoded stays atOnce => exact absurd (.dropped command addressed) harmless
  | delayed addressed decoded later => exact absurd (.dropped command addressed) harmless
  | handedOver addressed present own identified =>
      exact absurd (.handedOver command addressed present own identified) harmless
  | progressed data accepted =>
      exact (delayed.withSessions _).startTimer (SessionSlot.timer_ne_general _) _
  | completed data accepted =>
      exact absurd (.withdrawn command data (congrArg Prod.fst accepted)) harmless
  | discarded data accepted =>
      exact (delayed.withSessions _).stopTimer (SessionSlot.timer_ne_general _)

theorem reaction (delayed : Delayed core request left) (harmless : ¬core.Interrupts event)
    (reaction : Reaction core event after) : Delayed after request left := by
  cases reaction with
  | ignored => exact delayed
  | judged active foreign engine event? => exact delayed.of_kept rfl delayed.named rfl rfl rfl rfl rfl
  | managed active command step => exact delayed.activeStep command harmless step
  | searched searching command step =>
      exact absurd (delayed.active.symm.trans searching) (by decide)

/-- The reset is due as soon as no time is left. -/
theorem resetDue (delayed : Delayed core request 0) : core.ResetDue :=
  ⟨by simp [delayed.active], delayed.expired_eq, delayed.pending⟩

end Delayed

end NodeCore

end Vscp
