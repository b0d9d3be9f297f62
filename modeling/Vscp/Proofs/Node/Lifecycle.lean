/-
This file proves that the timers of a node go with its state after any calls of its host.
-/

import Vscp.Host.RegisterFile
import Vscp.Proofs.Except
import Vscp.Proofs.Node.Step
import Vscp.Proofs.Node.Timers

namespace Vscp

namespace NodeCore

variable {Clock : Type} [TimerService Clock]

namespace TimerInvariant

variable {config : Config} {core after : NodeCore Clock} {event : Event} {kind : Management}

/-- No management event takes the timers of an active node out of step with its state. -/
theorem activeStep (invariant : TimerInvariant config core) (active : core.lifecycle = .active)
    (step : ActiveStep core event kind after) : TimerInvariant config after := by
  have equipped := invariant.toEquipped
  obtain ⟨named, beating, pending⟩ := invariant.of_active active
  cases step with
  | accessed access => exact invariant.of_sameTimers (.of_accessed access)
  | timed data same => exact invariant.of_sameTimers (.takeTime core event.data)
  | moved data other =>
      rename_i crc rest
      have written := equipped.writeStore Layout.segmentCrc crc
      exact (written.setNickname _).startDiscovery (written.nickname_setNickname _)
  | collided own =>
      exact (equipped.setNickname _).startDiscovery (equipped.nickname_setNickname _)
  | renamed addressed valid =>
      rename_i new rest
      refine .active (equipped.setNickname new) active ?_ beating pending
      rw [equipped.nickname_setNickname]
      rintro rfl
      exact absurd valid (by decide)
  | parked addressed decoded idle => exact (equipped.withdraw _).enterIdle
  | dropped addressed decoded stays atOnce =>
      refine (equipped.withdraw _).reset ?_
      rw [lifecycle_withdraw]
      exact invariant.sound
  | delayed addressed decoded later =>
      rename_i arguments request
      have waiting : Equipped config
          { core with resetPending := true, clearNickname := !request.keepNickname } :=
        equipped.of_same rfl rfl rfl
      refine .active (waiting.start (by decide) _) active named ?_ fun _ => rfl
      rw [isArmed_start, if_neg (by decide)]
      exact beating
  | handedOver addressed present own identified => exact equipped.handOver
  | progressed data accepted => exact invariant.of_sameTimers (.startSession active _ _ _)
  | completed data accepted =>
      rename_i index bytes slot sessions
      have closed : Equipped config { core with sessions } :=
        equipped.of_same rfl rfl rfl
      exact ((closed.stop slot.timer).setNickname _).reset invariant.sound
  | discarded data accepted => exact invariant.of_sameTimers (.stopSession core _ _)

/-- No management event takes the timers of a searching node out of step with its state. -/
theorem searchStep (invariant : TimerInvariant config core)
    (searching : core.lifecycle = .nicknameDiscovery) (step : SearchStep core event kind after) :
    TimerInvariant config after := by
  have equipped := invariant.toEquipped
  obtain ⟨missing, waiting, silent⟩ := invariant.of_searching searching
  have tracked (discovery : Discovery) : Equipped config { core with discovery } :=
    equipped.of_same rfl rfl rfl
  cases step with
  | assigned data addressed valid =>
      rename_i old new rest
      have stopped := equipped.stop .general
      refine (stopped.setNickname new).goActive ?_ fun armed => ?_
      · rw [stopped.nickname_setNickname]
        rintro rfl
        exact absurd valid (by decide)
      · change (core.stop .general).isArmed .general = true at armed
        simp at armed
  | awaited own outcome =>
      rename_i discovery
      exact (tracked discovery).probe searching missing silent _
  | probed own outcome =>
      rename_i discovery
      exact (tracked discovery).probe searching missing silent _
  | gaveUp own outcome => exact ((tracked _).stop _).enterIdle
  | silent data => exact invariant
  | timed data =>
      rename_i crc rest
      refine TimerInvariant.of_sameTimers ?_ (.takeTime _ event.data)
      split
      · exact invariant
      · exact invariant.of_sameTimers (.writeStore core (by decide) crc)

theorem step (invariant : TimerInvariant config core) (step : Step core after) :
    TimerInvariant config after := by
  have equipped := invariant.toEquipped
  cases step with
  | accessed access => exact invariant.of_sameTimers (.of_accessed access)
  | judged engine event? => exact invariant.of_sameTimers (.of_same rfl rfl rfl rfl rfl)
  | ticked elapsed => exact invariant.of_sameTimers (.of_same rfl rfl rfl rfl rfl)
  | restarted sound => exact ⟨equipped.enter _, invariant.pending_of_armed⟩
  | reset => exact equipped.reset invariant.sound
  | searched starting missing => exact equipped.startDiscovery missing
  | activated starting named => exact equipped.goActive named (invariant.pending_of_armed named)
  | probed searching due =>
      obtain ⟨missing, -, silent⟩ := invariant.of_searching searching
      have seen := equipped.seeExpiry .general
      have tracked : Equipped config
          { core.seeExpiry .general with discovery := core.discovery.timeout } :=
        seen.of_same rfl rfl rfl
      refine tracked.probe searching missing ?_ _
      change (core.seeExpiry .general).isArmed .heartbeat = false
      rw [isArmed_seeExpiry, if_neg (by decide)]
      exact silent
  | resetLate running due pending =>
      have seen := equipped.seeExpiry .general
      split
      · exact (seen.setNickname _).reset invariant.sound
      · exact seen.reset invariant.sound
  | ranOut running due settled =>
      have armed := isArmed_of_expired due
      rcases running with active | idle
      · have pending := (invariant.of_active active).2.2 armed
        exact absurd pending (by simp [settled])
      · exact absurd armed (by simp [invariant.unarmed (.inl idle)])
  | sessionEnded slot due => exact invariant.of_sameTimers (.seeSessionExpiry core _ slot)
  | beat due active named =>
      obtain ⟨-, -, pending⟩ := invariant.of_active active
      have seen := equipped.seeExpiry .heartbeat
      refine .active seen.startHeartbeat ?_ ?_ ?_ ?_
      · rw [lifecycle_startHeartbeat]
        exact active
      · rw [nickname_startHeartbeat]
        exact named
      · rw [config_startHeartbeat]
        exact isArmed_startHeartbeat seen
      · rw [isArmed_startHeartbeat_other (by decide), resetPending_startHeartbeat,
          isArmed_seeExpiry, if_neg (by decide)]
        exact pending
  | beatMissed due silent =>
      have armed := isArmed_of_expired due
      cases lifecycle : core.lifecycle with
      | starting =>
          refine ⟨equipped.seeExpiry _, ?_⟩
          change TimersMatch _ core.lifecycle
          rw [lifecycle]
          intro named general
          rw [isArmed_seeExpiry, if_neg (by decide)] at general
          exact invariant.pending_of_armed named general
      | nicknameDiscovery =>
          have quiet := (invariant.of_searching lifecycle).2.2
          exact absurd armed (by simp [quiet])
      | active => exact absurd ⟨lifecycle, (invariant.of_active lifecycle).1⟩ silent
      | idle => exact absurd armed (by simp [invariant.unarmed (.inl lifecycle)])
      | bootLoaderHandoff => exact absurd armed (by simp [invariant.unarmed (.inr lifecycle)])
      | error fault =>
          have sound := invariant.sound
          rw [lifecycle] at sound
          cases sound
  | managed active step => exact invariant.activeStep active step
  | assigned searching step => exact invariant.searchStep searching step

end TimerInvariant

variable {config : Config} {core after : NodeCore Clock}

/-- The timers of a node that has not failed match its state. -/
def Governed (config : Config) (core : NodeCore Clock) : Prop :=
  core.lifecycle.fault?.isSome = true ∨ TimerInvariant config core

theorem Governed.step (governed : Governed config core) (step : Step core after) :
    Governed config after := by
  rcases governed with failed | invariant
  · left
    rw [step.failed failed]
    exact failed
  · exact .inr (invariant.step step)

theorem Governed.steps (governed : Governed config core) (steps : Steps core after) :
    Governed config after :=
  steps.keeps (fun step governed => governed.step step) governed

end NodeCore

theorem Layout.nickname_lt_stop (layout : Layout) : Layout.nickname < layout.stop := by
  unfold nickname stop rulesetBase extensionRow extensionBase row matrixBase
  omega

namespace Node

variable {Clock App : Type} [TimerService Clock] [Application App]

def isArmed (node : Node Clock App) (slot : TimerSlot) : Bool :=
  node.bank.any (·.isArmed slot)

/-- No timer of a new bank is armed. -/
theorem unarmed_ofAnswers (answers : List (Option UInt8)) (slot : TimerSlot) :
    (TimerBank.ofAnswers? answers).any (·.isArmed slot) = false := by
  unfold TimerBank.ofAnswers?
  split
  · exact PerTimer.get_all false slot
  · rfl

theorem governed_of_room {config : Config} {store : Store} {transport : Transport} {clock : Clock}
    {app : App} {node : Node Clock App} (built : build config store transport clock app = .ok node)
    (room : Layout.nickname < store.size) : NodeCore.Governed config node.core := by
  obtain ⟨_, -, rfl⟩ := map_eq_ok_iff.mp built
  generalize TimerBank.createMany 4 clock = created
  obtain ⟨answers, clock⟩ := created
  dsimp only
  split
  · rename_i banked
    have unarmed := unarmed_ofAnswers answers
    refine .inr ⟨⟨rfl, room, banked, fun armed => ?_⟩, fun _ armed => ?_⟩
    · exact absurd ((unarmed .heartbeat).symm.trans armed) (by decide)
    · exact absurd ((unarmed .general).symm.trans armed) (by decide)
  · exact .inl rfl

theorem governed_build {config : Config} {store : Store} {transport : Transport} {clock : Clock}
    {app : App} {node : Node Clock App} (built : build config store transport clock app = .ok node)
    (room : config.layout.stop ≤ store.size) : NodeCore.Governed config node.core :=
  governed_of_room built (Nat.lt_of_lt_of_le config.layout.nickname_lt_stop room)

theorem governed_serveAll {config : Config} {store : Store} {transport : Transport}
    {clock : Clock} {app : App} {node : Node Clock App}
    (built : build config store transport clock app = .ok node)
    (room : config.layout.stop ≤ store.size) (calls : List HostCall) :
    NodeCore.Governed config (serveAll calls node).2.core :=
  (governed_build built room).steps (steps_serveAll calls node)

/-- After any calls of the host, a node that searches for a nickname has none and waits for the
general timer, an active node has a nickname, its heartbeat exactly with a period and the general
timer only for a reset, and no timer is armed in an idle node or one that left to the boot
loader. -/
theorem timers_match_lifecycle {config : Config} {store : Store} {transport : Transport}
    {clock : Clock} {app : App} {node : Node Clock App}
    (built : build config store transport clock app = .ok node)
    (room : config.layout.stop ≤ store.size) (calls : List HostCall) :
    let reached := (serveAll calls node).2
    (reached.lifecycle = .nicknameDiscovery →
      reached.nickname = Protocol.unassigned ∧ reached.isArmed .general = true ∧
        reached.isArmed .heartbeat = false) ∧
    (reached.lifecycle = .active →
      reached.nickname ≠ Protocol.unassigned ∧
        (reached.isArmed .heartbeat = true ↔ config.heartbeatPeriod ≠ 0) ∧
        (reached.isArmed .general = true → reached.resetPending = true)) ∧
    (reached.lifecycle = .idle ∨ reached.lifecycle = .bootLoaderHandoff →
      ∀ slot, reached.isArmed slot = false) := by
  intro reached
  rcases governed_serveAll built room calls with failed | invariant
  · refine ⟨fun searching => ?_, fun active => ?_, fun parked => ?_⟩
    · exact absurd searching (Lifecycle.ne_of_failed failed rfl)
    · exact absurd active (Lifecycle.ne_of_failed failed rfl)
    · rcases parked with idle | handed
      · exact absurd idle (Lifecycle.ne_of_failed failed rfl)
      · exact absurd handed (Lifecycle.ne_of_failed failed rfl)
  · refine ⟨invariant.of_searching, fun active => ?_, invariant.unarmed⟩
    obtain ⟨named, beating, pending⟩ := invariant.of_active active
    rw [invariant.configured] at beating
    exact ⟨named, beating, pending⟩

/-- The node of a nickname is to start over with it after five seconds. -/
def postponedReset : Event :=
  { Event.new 0 8 0 with data := [0x10, 0x20, 5], dataWithin := by decide }

/-- A node without a nickname, whose first probe nobody answers, waits for the next one. A node that
beats every second and was told to start over later waits for both. -/
theorem probing_node_waits :
    (∃ node, build {} (Store.erased 256) .open (SoftTimers.empty 4) SilentApplication.mk =
        .ok node ∧
      let reached := (serveAll [.process, .tick 500, .process] node).2
      reached.lifecycle = .nicknameDiscovery ∧ reached.discovery.candidate = 1 ∧
        reached.isArmed .general = true) ∧
    ∃ node, build { heartbeatPeriod := 1000 } ((Store.erased 256).write Layout.nickname 0x10) .open
        (SoftTimers.empty 4) SilentApplication.mk = .ok node ∧
      let reached := (serveAll [.process, .receive postponedReset, .process] node).2
      reached.lifecycle = .active ∧ reached.nickname ≠ Protocol.unassigned ∧
        reached.isArmed .heartbeat = true ∧ reached.isArmed .general = true ∧
        reached.resetPending = true := by
  have room : ({} : Config).layout.stop ≤ (Store.erased 256).size := by
    rw [Store.size, Store.erased, Array.size_replicate]
    decide
  have enough : ({ heartbeatPeriod := 1000 } : Config).layout.stop ≤
      ((Store.erased 256).write Layout.nickname 0x10).size := by
    rw [Store.size_write]
    exact room
  have built : build {} (Store.erased 256) .open (SoftTimers.empty 4) SilentApplication.mk =
      .ok _ := rfl
  have named : build { heartbeatPeriod := 1000 } ((Store.erased 256).write Layout.nickname 0x10)
      .open (SoftTimers.empty 4) SilentApplication.mk = .ok _ := rfl
  obtain ⟨searching, -⟩ := timers_match_lifecycle built room [.process, .tick 500, .process]
  obtain ⟨-, active, -⟩ :=
    timers_match_lifecycle named enough [.process, .receive postponedReset, .process]
  obtain ⟨owned, beating, pending⟩ := active (by decide +kernel)
  refine ⟨⟨_, built, by decide +kernel, by decide +kernel, (searching (by decide +kernel)).2.1⟩,
    _, named, by decide +kernel, owned, beating.mpr (by decide), by decide +kernel, ?_⟩
  exact pending (by decide +kernel)

end Node

end Vscp
