/-
This file says what the expiry of its timers makes of the core of a node.
-/

import Vscp.Proofs.Node.Management

namespace Vscp

namespace NodeCore

variable {Clock : Type}

/-- What the passing of time may change while no reset is due: clocks, sessions and the search for
a nickname. It arms no timer for a reset. -/
structure Elapsed (before after : NodeCore Clock) : Prop where
  others : after = { before with
    clock := after.clock
    bank := after.bank
    discovery := after.discovery
    sessions := after.sessions
    uptime := after.uptime }
  general : after.isArmed .general = true → before.isArmed .general = true

namespace Elapsed

variable {first second third before after : NodeCore Clock}

theorem refl (core : NodeCore Clock) : Elapsed core core :=
  ⟨rfl, id⟩

theorem trans (left : Elapsed first second) (right : Elapsed second third) :
    Elapsed first third where
  others := by
    rw [right.others, left.others]
  general armed := left.general (right.general armed)

theorem config (elapsed : Elapsed before after) : after.config = before.config :=
  (congrArg NodeCore.config elapsed.others :)

theorem lifecycle (elapsed : Elapsed before after) : after.lifecycle = before.lifecycle :=
  (congrArg NodeCore.lifecycle elapsed.others :)

theorem store (elapsed : Elapsed before after) : after.store = before.store :=
  (congrArg NodeCore.store elapsed.others :)

theorem nickname (elapsed : Elapsed before after) : after.nickname = before.nickname :=
  congrArg (·.read Layout.nickname) elapsed.store

theorem resetPending (elapsed : Elapsed before after) :
    after.resetPending = before.resetPending :=
  (congrArg NodeCore.resetPending elapsed.others :)

theorem clearNickname (elapsed : Elapsed before after) :
    after.clearNickname = before.clearNickname :=
  (congrArg NodeCore.clearNickname elapsed.others :)

end Elapsed

/-- The core that a reset which was put off starts from. -/
def forget (core : NodeCore Clock) : NodeCore Clock :=
  if core.clearNickname then core.setNickname Protocol.unassigned else core

variable [TimerService Clock]

/-- Another probe, or a reset that was put off. -/
def onGeneralExpiry (core : NodeCore Clock) : NodeCore Clock :=
  if core.lifecycle = .nicknameDiscovery then
    { core with discovery := core.discovery.timeout }.probe
  else if core.resetPending then core.forget.reset
  else core

def serviceGeneral (core : NodeCore Clock) : NodeCore Clock :=
  if core.expired .general then (core.seeExpiry .general).onGeneralExpiry else core

def serviceSession (core : NodeCore Clock) (slot : SessionSlot) : NodeCore Clock :=
  if core.expired slot.timer then
    { core.seeExpiry slot.timer with sessions := (core.sessions.expire slot).2 }
  else core

def serviceHeartbeat (core : NodeCore Clock) : NodeCore Clock :=
  if core.expired .heartbeat then
    if core.lifecycle = .active ∧ core.nickname ≠ Protocol.unassigned then
      (core.seeExpiry .heartbeat).startHeartbeat
    else core.seeExpiry .heartbeat
  else core

def serviceTimers (core : NodeCore Clock) : NodeCore Clock :=
  ((core.serviceGeneral.serviceSession .first).serviceSession .second).serviceHeartbeat

/-- A reset that was put off is due. -/
def ResetDue (core : NodeCore Clock) : Prop :=
  core.lifecycle ≠ .nicknameDiscovery ∧ core.expired .general = true ∧ core.resetPending = true

instance (core : NodeCore Clock) : Decidable core.ResetDue :=
  inferInstanceAs (Decidable (_ ∧ _ ∧ _))

theorem elapsed_serviceSession (core : NodeCore Clock) (slot : SessionSlot) :
    Elapsed core (core.serviceSession slot) := by
  unfold serviceSession
  split
  · refine ⟨rfl, fun armed => ?_⟩
    change (core.seeExpiry slot.timer).isArmed .general = true at armed
    have other : TimerSlot.general ≠ slot.timer := by cases slot <;> decide
    rwa [isArmed_seeExpiry, if_neg other] at armed
  · exact .refl _

theorem elapsed_serviceHeartbeat (core : NodeCore Clock) :
    Elapsed core core.serviceHeartbeat := by
  have seen : Elapsed core (core.seeExpiry .heartbeat) := by
    refine ⟨rfl, fun armed => ?_⟩
    rwa [isArmed_seeExpiry, if_neg (by decide)] at armed
  unfold serviceHeartbeat
  split
  · split
    · refine seen.trans ⟨?_, fun armed => ?_⟩
      · unfold startHeartbeat
        split <;> rfl
      · rwa [isArmed_startHeartbeat_other (by decide)] at armed
    · exact seen
  · exact .refl _

/-- The timers that are served after the general timer let time pass and do nothing else. -/
theorem elapsed_serviceTimers (core : NodeCore Clock) :
    Elapsed core.serviceGeneral core.serviceTimers :=
  ((elapsed_serviceSession _ _).trans (elapsed_serviceSession _ _)).trans
    (elapsed_serviceHeartbeat _)

theorem serviceGeneral_of_resetDue {core : NodeCore Clock} (due : core.ResetDue) :
    core.serviceGeneral = (core.seeExpiry .general).forget.reset := by
  obtain ⟨settled, expired, pending⟩ := due
  rw [serviceGeneral, if_pos expired, onGeneralExpiry]
  exact (if_neg settled).trans (if_pos pending)

theorem elapsed_serviceGeneral {core : NodeCore Clock} (early : ¬core.ResetDue) :
    Elapsed core core.serviceGeneral := by
  unfold serviceGeneral
  split
  · rename_i expired
    have armed := isArmed_of_expired expired
    unfold onGeneralExpiry
    split
    · exact ⟨rfl, fun _ => armed⟩
    · rename_i settled
      have served : ¬(core.seeExpiry .general).resetPending = true := fun pending =>
        early ⟨settled, expired, pending⟩
      rw [if_neg served]
      exact ⟨rfl, fun _ => armed⟩
  · exact .refl _

theorem expired_serviceSession (core : NodeCore Clock) (slot : SessionSlot) :
    (core.serviceSession slot).expired .heartbeat = core.expired .heartbeat := by
  unfold serviceSession
  split
  · exact core.expired_seeExpiry_other slot.timer_ne_heartbeat.symm
  · rfl

/-- The general timer of an active node runs out without an effect, unless a reset is due. -/
theorem serviceGeneral_of_early {core : NodeCore Clock} (early : ¬core.ResetDue)
    (active : core.lifecycle = .active) : core.serviceGeneral = core.seeExpiry .general := by
  unfold serviceGeneral
  split
  · rename_i expired
    have settled : ¬(core.seeExpiry .general).lifecycle = .nicknameDiscovery := by
      change ¬core.lifecycle = .nicknameDiscovery
      simp [active]
    have served : ¬(core.seeExpiry .general).resetPending = true := fun pending =>
      early ⟨by simp [active], expired, pending⟩
    rw [onGeneralExpiry, if_neg settled, if_neg served]
  · rename_i running
    exact (seeExpiry_of_running (Bool.eq_false_iff.mpr running)).symm

/-- Unless a reset is due, the heartbeat of an active node is as it was when its turn comes. -/
theorem expired_heartbeat_of_early {core : NodeCore Clock} (early : ¬core.ResetDue)
    (active : core.lifecycle = .active) :
    ((core.serviceGeneral.serviceSession .first).serviceSession .second).expired .heartbeat =
      core.expired .heartbeat := by
  rw [expired_serviceSession, expired_serviceSession, serviceGeneral_of_early early active]
  exact core.expired_seeExpiry_other (by decide)

theorem elapsed_of_early {core : NodeCore Clock} (early : ¬core.ResetDue) :
    Elapsed core core.serviceTimers :=
  (elapsed_serviceGeneral early).trans core.elapsed_serviceTimers

/-- A reset that is due comes before the other timers. -/
theorem elapsed_of_resetDue {core : NodeCore Clock} (due : core.ResetDue) :
    Elapsed (core.seeExpiry .general).forget.reset core.serviceTimers :=
  serviceGeneral_of_resetDue due ▸ core.elapsed_serviceTimers

end NodeCore

namespace Node

open NodeCore

variable {Clock App : Type} [TimerService Clock] [Application App]

@[simp] theorem core_onGeneralExpiry (node : Node Clock App) :
    node.onGeneralExpiry.core = node.core.onGeneralExpiry := by
  unfold onGeneralExpiry NodeCore.onGeneralExpiry
  change _ = if node.lifecycle = .nicknameDiscovery then _ else if node.resetPending then
    (if node.clearNickname then _ else _ : NodeCore Clock).reset else _
  split
  · exact core_sendProbe _
  · split
    · rw [core_reset]
      split <;> rfl
    · rfl

theorem core_serviceGeneral (node : Node Clock App) :
    node.serviceGeneral.core = node.core.serviceGeneral := by
  obtain ⟨after, taken, seen⟩ := node.takeExpired_eq .general
  unfold serviceGeneral NodeCore.serviceGeneral
  rw [taken]
  dsimp only
  cases due : node.core.expired .general with
  | true => simp [seen]
  | false => simp [seen, seeExpiry_of_running due]

omit [Application App] in
theorem core_serviceSession (node : Node Clock App) (slot : SessionSlot) :
    (node.serviceSession slot).core = node.core.serviceSession slot := by
  obtain ⟨after, taken, seen⟩ := node.takeExpired_eq slot.timer
  unfold serviceSession NodeCore.serviceSession
  rw [taken]
  dsimp only
  cases due : node.core.expired slot.timer with
  | true =>
      have closed : { after.core with sessions := (after.core.sessions.expire slot).2 } =
          { node.core.seeExpiry slot.timer with
            sessions := (node.core.sessions.expire slot).2 } := by
        rw [seen]
        rfl
      simp only [if_true, ← closed]
      split <;> rfl
  | false => simp [seen, seeExpiry_of_running due]

omit [Application App] in
theorem core_serviceHeartbeat (node : Node Clock App) :
    node.serviceHeartbeat.core = node.core.serviceHeartbeat := by
  obtain ⟨after, taken, seen⟩ := node.takeExpired_eq .heartbeat
  have lifecycle : after.lifecycle = node.core.lifecycle := congrArg NodeCore.lifecycle seen
  have nickname : after.nickname = node.core.nickname := congrArg NodeCore.nickname seen
  unfold serviceHeartbeat NodeCore.serviceHeartbeat
  rw [taken]
  dsimp only
  cases due : node.core.expired .heartbeat with
  | true =>
      simp only [true_and, if_true, lifecycle, nickname]
      split
      · rw [sendHeartbeat, core_startHeartbeat, core_send, seen]
      · exact seen
  | false => simp [seen, seeExpiry_of_running due]

@[simp] theorem core_serviceTimers (node : Node Clock App) :
    node.serviceTimers.core = node.core.serviceTimers := by
  unfold serviceTimers NodeCore.serviceTimers
  rw [core_serviceHeartbeat, ← core_serviceGeneral, ← core_serviceSession, ← core_serviceSession]
  rfl

end Node

end Vscp
