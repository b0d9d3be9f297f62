/-
This file proves that two nodes in accord handle an event and serve their timers alike and stay in
accord.
-/

import Vscp.Proofs.Accord.Command

namespace Vscp

/-- What a node relies on when it speaks: it keeps its nickname, has one while it is active and has
none while it searches for one. -/
structure NodeCore.Identified {Clock : Type} (core : NodeCore Clock) : Prop where
  room : Layout.nickname < core.store.size
  named : core.lifecycle = .active → core.nickname ≠ Protocol.unassigned
  missing : core.lifecycle = .nicknameDiscovery → core.nickname = Protocol.unassigned

namespace Accord

variable {Clock App : Type} {accord : Accord Clock App} {node other : Node Clock App}

section Events

theorem countManagement (holds : accord.Holds node other) :
    accord.Holds node.countManagement other.countManagement :=
  accord.count _ (fun _ _ _ => rfl) holds

variable [Application App]

theorem fireRows (holds : accord.Holds node other) (event : Event) (firings : List Firing) :
    accord.Holds (firings.foldl (Node.fireRow event) node)
      (firings.foldl (Node.fireRow event) other) := by
  induction firings generalizing node other with
  | nil => exact holds
  | cons firing rest ih =>
      apply ih
      exact accord.call (accord.log holds (.rowFires firing) trivial) _

variable (holds : accord.Holds node other)

include holds

theorem runMatrix (event : Event) :
    accord.Agrees (node.runMatrix event) (other.runMatrix event) := by
  have matrix : other.matrix = node.matrix := accord.same holds Node.matrix fun _ => rfl
  rw [node.runMatrix_eq rfl, other.runMatrix_eq rfl, matrix,
    accord.config holds]
  refine ⟨rfl, ?_⟩
  dsimp only
  apply accord.count
  · intro counters txEvents txDropped
    rfl
  · exact accord.fireRows holds event _

/-- One rule fires at most, after the faults in front of it are reported. -/
theorem runRules (event : Event) :
    accord.Agrees (node.runRules event) (other.runRules event) := by
  have engine : other.engine = node.engine := congrArg NodeCore.engine (accord.core holds)
  have ruleset : other.ruleset = node.ruleset := accord.same holds Node.ruleset fun _ => rfl
  have enabled : other.config.rulesEnabled = node.config.rulesEnabled :=
    congrArg Config.rulesEnabled (accord.config holds)
  unfold Node.runRules
  rw [engine, ruleset, enabled]
  split
  · generalize node.engine.evaluate node.ruleset event = evaluated
    obtain ⟨evaluation, engine⟩ := evaluated
    have reported := accord.reportFaults
      (accord.adopt ({ · with engine }) (fun _ => rfl) (fun _ => rfl) holds) evaluation.faults
    dsimp only
    split
    · exact ⟨rfl, reported⟩
    · rename_i hit _
      have counted := accord.count
        (fun counters => { counters with
          ruleActions := Counters.increased counters.ruleActions 1 })
        (fun _ _ _ => rfl) (accord.log reported (.ruleFires hit) trivial)
      exact ⟨rfl, accord.call counted _⟩
  · exact ⟨rfl, holds⟩

theorem dispatch (event : Event) :
    accord.Agrees (node.dispatch event) (other.dispatch event) := by
  obtain ⟨fired, matrix⟩ := accord.runMatrix holds event
  obtain ⟨hit, rules⟩ := accord.runRules matrix event
  unfold Node.dispatch
  dsimp only
  rw [fired, hit]
  refine ⟨rfl, ?_⟩
  apply accord.call
  split
  · exact accord.adopt ({ · with lastMatrixEvent := some event }) (fun _ => rfl) (fun _ => rfl)
      rules
  · exact rules

variable [TimerService Clock]

theorem handleManagement (named : accord.strict → node.nickname ≠ Protocol.unassigned)
    (room : accord.strict → Layout.nickname < node.store.size) (event : Event) :
    accord.Agrees (node.handleManagement event) (other.handleManagement event) := by
  unfold Node.handleManagement
  split
  · exact ⟨rfl, holds⟩
  · rename_i kind _
    obtain ⟨handled, both⟩ := accord.activeCommand holds named room kind event
    dsimp only
    rw [handled]
    exact ⟨rfl, accord.countManagement both⟩

theorem handleDiscovery (missing : accord.strict → node.nickname = Protocol.unassigned)
    (room : accord.strict → Layout.nickname < node.store.size) (event : Event) :
    accord.Agrees (node.handleDiscovery event) (other.handleDiscovery event) := by
  unfold Node.handleDiscovery
  split
  · cases Management.ofTypeId? event.typeId with
    | none => exact ⟨rfl, holds⟩
    | some kind =>
        obtain ⟨handled, both⟩ := accord.discoveryCommand holds missing room kind event
        dsimp only
        rw [handled]
        split
        · exact ⟨rfl, accord.countManagement both⟩
        · exact ⟨rfl, both⟩
  · exact ⟨rfl, holds⟩

theorem handle (sure : accord.strict → node.core.Identified) (event : Event) :
    accord.Agrees (node.handle event) (other.handle event) := by
  have counted := accord.count
    (fun counters => { counters with rxEvents := Counters.increased counters.rxEvents 1 })
    (fun _ _ _ => rfl) holds
  have room (strict : accord.strict) := (sure strict).room
  unfold Node.handle
  rw [accord.lifecycle holds]
  dsimp only
  split
  · rename_i searching
    exact accord.handleDiscovery counted (fun strict => (sure strict).missing searching) room event
  · rename_i active
    split
    · exact accord.handleManagement counted (fun strict => (sure strict).named active) room event
    · exact accord.dispatch counted event
  · exact ⟨rfl, counted⟩

end Events

section Expiry

variable [TimerService Clock]

/-- A session that ends sends nothing. -/
theorem serviceSession (holds : accord.Holds node other) (slot : SessionSlot) :
    accord.Holds (node.serviceSession slot) (other.serviceSession slot) := by
  obtain ⟨expired, taken⟩ := accord.takeExpired holds slot.timer
  unfold Node.serviceSession
  dsimp only
  rw [expired, accord.sessions taken]
  split
  · have closed := accord.adopt
      (fun core => { core with
        sessions := ((node.takeExpired slot.timer).2.sessions.expire slot).2 })
      (fun _ => rfl) (fun _ => rfl) taken
    split
    · exact accord.log closed (.sessionExpired slot.index) trivial
    · exact closed
  · exact taken

/-- A heartbeat is sent under a nickname. -/
theorem serviceHeartbeat (holds : accord.Holds node other) :
    accord.Holds node.serviceHeartbeat other.serviceHeartbeat := by
  obtain ⟨expired, taken⟩ := accord.takeExpired holds .heartbeat
  unfold Node.serviceHeartbeat Node.sendHeartbeat
  dsimp only
  rw [expired, accord.lifecycle taken, accord.nickname taken, accord.config taken]
  split
  · rename_i due
    have beat := accord.send Protocol.informationClass Protocol.nodeHeartbeatType
      (node.takeExpired .heartbeat).2.nickname
      [0, (node.takeExpired .heartbeat).2.config.zone,
        (node.takeExpired .heartbeat).2.config.subZone]
      (fun _ => ⟨by simp, rfl, fun missing => absurd missing due.2.2⟩) taken
    exact accord.startHeartbeat beat
  · exact taken

variable [Application App] (holds : accord.Holds node other)

include holds

theorem onGeneralExpiry (missing : accord.strict → node.lifecycle = .nicknameDiscovery →
    node.nickname = Protocol.unassigned) :
    accord.Holds node.onGeneralExpiry other.onGeneralExpiry := by
  have pending : other.resetPending = node.resetPending :=
    congrArg NodeCore.resetPending (accord.core holds)
  have forgets : other.clearNickname = node.clearNickname :=
    congrArg NodeCore.clearNickname (accord.core holds)
  have lifecycle := accord.lifecycle holds
  rw [Node.onGeneralExpiry, Node.onGeneralExpiry]
  by_cases searching : node.lifecycle = .nicknameDiscovery
  · have tracked := accord.adopt (fun core => { core with discovery := core.discovery.timeout })
      (fun _ => rfl) (fun _ => rfl) holds
    rw [if_pos searching, if_pos (lifecycle.trans searching)]
    exact accord.sendProbe tracked fun strict => missing strict searching
  · have settled : ¬other.lifecycle = .nicknameDiscovery := lifecycle ▸ searching
    rw [if_neg searching, if_neg settled, pending, forgets]
    split
    · apply accord.reset
      split
      · exact accord.setNickname holds _
      · exact holds
    · exact holds

theorem serviceGeneral (missing : accord.strict → node.lifecycle = .nicknameDiscovery →
    node.nickname = Protocol.unassigned) :
    accord.Holds node.serviceGeneral other.serviceGeneral := by
  obtain ⟨expired, taken⟩ := accord.takeExpired holds .general
  obtain ⟨after, seen, kept⟩ := node.takeExpired_eq .general
  unfold Node.serviceGeneral
  dsimp only
  rw [expired]
  split
  · apply accord.onGeneralExpiry taken
    rw [seen]
    intro strict searching
    have lifecycle : after.lifecycle = node.lifecycle := congrArg NodeCore.lifecycle kept
    have nickname : after.nickname = node.nickname := congrArg NodeCore.nickname kept
    rw [nickname]
    exact missing strict (lifecycle ▸ searching)
  · exact taken

theorem serviceTimers (missing : accord.strict → node.lifecycle = .nicknameDiscovery →
    node.nickname = Protocol.unassigned) :
    accord.Holds node.serviceTimers other.serviceTimers := by
  have general := accord.serviceGeneral holds missing
  have sessions := accord.serviceSession (accord.serviceSession general .first) .second
  exact accord.serviceHeartbeat sessions

/-- A node begins with the nickname that it keeps or searches for one. -/
theorem start : accord.Holds node.start other.start := by
  unfold Node.start
  rw [accord.nickname holds]
  split
  · rename_i missing
    exact accord.startDiscovery holds fun _ => missing
  · exact accord.goActive holds fun _ => rfl

end Expiry

end Accord

end Vscp
