/-
This file proves that a node which searches for a nickname can be given one at any time, whatever
happened to it before.
-/

import Vscp.Proofs.Node.Exhaustion
import Vscp.Proofs.Node.Identity
import Vscp.Proofs.Node.Sending
import Vscp.Proofs.Node.Session
import Vscp.Proofs.Node.Settings

namespace Vscp

namespace NodeCore

variable {Clock : Type} [TimerService Clock] {core after : NodeCore Clock}

/-- A node that searches sends no heartbeats. -/
def Quiet (core : NodeCore Clock) : Prop :=
  core.lifecycle = .nicknameDiscovery → core.isArmed .heartbeat = false

omit [TimerService Clock] in
theorem Quiet.of_apart (apart : core.lifecycle ≠ .nicknameDiscovery) : core.Quiet :=
  fun searching => absurd searching apart

omit [TimerService Clock] in
/-- No timer that was silent starts to beat while the state stays. -/
theorem Quiet.of_kept (quiet : core.Quiet) (lifecycle : after.lifecycle = core.lifecycle)
    (heartbeat : after.isArmed .heartbeat = true → core.isArmed .heartbeat = true) :
    after.Quiet := by
  intro searching
  have silent := quiet (lifecycle.symm.trans searching)
  refine Bool.eq_false_iff.mpr fun armed => ?_
  exact absurd (silent.symm.trans (heartbeat armed)) (by decide)

omit [TimerService Clock] in
theorem Quiet.of_same (quiet : core.Quiet) (lifecycle : after.lifecycle = core.lifecycle)
    (bank : after.bank = core.bank) : after.Quiet := by
  refine quiet.of_kept lifecycle fun armed => ?_
  rwa [isArmed, bank] at armed

theorem Quiet.reset (quiet : core.Quiet) : core.reset.Quiet := by
  unfold NodeCore.reset
  split
  · exact quiet
  · exact .of_apart (show Lifecycle.starting ≠ _ by decide)

theorem Quiet.seeExpiry (quiet : core.Quiet) (slot : TimerSlot) : (core.seeExpiry slot).Quiet := by
  refine quiet.of_kept rfl fun armed => ?_
  rw [isArmed_seeExpiry] at armed
  split at armed
  · rename_i same
    rw [Bool.and_eq_true] at armed
    exact same ▸ armed.1
  · exact armed

theorem Quiet.startGeneral (quiet : core.Quiet) {timeout : Nat} :
    (core.start .general timeout).Quiet := by
  refine quiet.of_kept rfl fun armed => ?_
  rwa [isArmed_start, if_neg (by decide)] at armed

theorem quiet_startDiscovery (core : NodeCore Clock) : core.startDiscovery.Quiet := by
  have silenced : (core.stop .heartbeat).isArmed .heartbeat = false := by simp
  have searching :
      ({ core.stop .heartbeat with discovery := .new }.enter .nicknameDiscovery).Quiet :=
    fun _ => silenced
  exact searching.startGeneral

theorem Quiet.searchStep {event : Event} {kind : Management} (quiet : core.Quiet)
    (step : SearchStep core event kind after) : after.Quiet := by
  cases step with
  | assigned data addressed valid => exact .of_apart (show Lifecycle.active ≠ _ by decide)
  | awaited own outcome =>
      apply startGeneral
      exact quiet.of_same rfl rfl
  | probed own outcome =>
      apply startGeneral
      exact quiet.of_same rfl rfl
  | gaveUp own outcome => exact .of_apart (show Lifecycle.idle ≠ _ by decide)
  | silent data => exact quiet
  | timed data => split <;> exact quiet.of_same rfl rfl

theorem Quiet.step (quiet : core.Quiet) (step : Step core after) : after.Quiet := by
  cases step with
  | accessed access =>
      refine quiet.of_same access.lifecycle ?_
      rw [access.others]
  | judged engine event? => exact quiet.of_same rfl rfl
  | ticked elapsed => exact quiet.of_same rfl rfl
  | restarted sound => exact .of_apart (show Lifecycle.starting ≠ _ by decide)
  | reset => exact quiet.reset
  | searched starting missing => exact quiet_startDiscovery core
  | activated starting named => exact .of_apart (show Lifecycle.active ≠ _ by decide)
  | probed searching due =>
      apply startGeneral
      exact (quiet.seeExpiry .general).of_same rfl rfl
  | resetLate running due pending =>
      apply Quiet.reset
      split
      · exact (quiet.seeExpiry .general).of_same rfl rfl
      · exact quiet.seeExpiry .general
  | ranOut running due settled => exact quiet.seeExpiry .general
  | sessionEnded slot due => exact (quiet.seeExpiry slot.timer).of_same rfl rfl
  | beat due active named =>
      refine .of_apart ?_
      rw [lifecycle_startHeartbeat]
      exact fun searching => absurd (active.symm.trans searching) (by decide)
  | beatMissed due silent => exact quiet.seeExpiry .heartbeat
  | managed active step =>
      intro searching
      obtain ⟨⟨other, rfl⟩, -⟩ := causes_of_activeStep active step searching
      exact other.quiet_startDiscovery searching
  | assigned searching step => exact quiet.searchStep step

theorem Quiet.steps (quiet : core.Quiet) (steps : Steps core after) : after.Quiet :=
  steps.keeps (fun step quiet => quiet.step step) quiet

end NodeCore

/-- How the lamp is set. -/
def Effect.lamp? : Effect → Option Lamp
  | .called (.setLamp lamp) => some lamp
  | _ => none

namespace Node

open NodeCore

variable {Clock App : Type}

/-- The lamp as the node last set it, if it has. -/
def lamp? (node : Node Clock App) : Option Lamp :=
  (node.trace.filterMap Effect.lamp?).getLast?

theorem lamp?_emit (node : Node Clock App) (effect : Effect) :
    (node.emit effect).lamp? = effect.lamp?.or node.lamp? := by
  unfold lamp? emit
  rw [List.filterMap_append]
  cases shown : effect.lamp? with
  | none => simp [shown]
  | some lamp => simp [shown]

variable [TimerService Clock]

@[simp] theorem attempts_startTimer (node : Node Clock App) (slot : TimerSlot) (timeout : Nat) :
    (node.startTimer slot timeout).attempts = node.attempts := by
  unfold startTimer
  split
  · rfl
  · exact attempts_emit_of_none rfl

@[simp] theorem attempts_stopTimer (node : Node Clock App) (slot : TimerSlot) :
    (node.stopTimer slot).attempts = node.attempts := by
  unfold stopTimer
  split
  · rfl
  · exact attempts_emit_of_none rfl

@[simp] theorem attempts_stopAllTimers (node : Node Clock App) :
    node.stopAllTimers.attempts = node.attempts := by
  simp [stopAllTimers, TimerSlot.all]

@[simp] theorem attempts_startHeartbeat (node : Node Clock App) :
    node.startHeartbeat.attempts = node.attempts := by
  unfold startHeartbeat
  split
  · rfl
  · exact attempts_startTimer ..

theorem lamp?_startHeartbeat (node : Node Clock App) : node.startHeartbeat.lamp? = node.lamp? := by
  unfold startHeartbeat startTimer
  split
  · rfl
  · split
    · rfl
    · exact lamp?_emit ..

variable [Application App]

/-- A node that becomes active announces its nickname with one frame and switches the lamp on. -/
theorem announces_goActive {node : Node Clock App} (low : node.config.priority.toNat < 8)
    (nickname : UInt8) :
    (node.goActive nickname).lamp? = some .on ∧
      ∃ announced, announced.Says .newNodeOnline nickname [nickname] ∧
        (node.goActive nickname).attempts = node.attempts ++ [announced] := by
  obtain ⟨announced, told, sends⟩ := Sends.send low .newNodeOnline nickname
    (show [nickname].length ≤ 8 by simp)
  unfold goActive
  dsimp only
  generalize node.send _ _ nickname [nickname] = sent at sends
  constructor
  · change ((((sent.setLamp .on).startHeartbeat).enter .active).emit _).lamp? = _
    rw [lamp?_emit]
    refine ((sent.setLamp .on).lamp?_startHeartbeat).trans ?_
    exact (lamp?_emit ..).trans rfl
  · refine ⟨announced, told, ?_⟩
    change ((((sent.setLamp .on).startHeartbeat).enter .active).emit _).attempts = _
    rw [attempts_emit_of_none rfl, ← sends.attempts]
    refine ((sent.setLamp .on).attempts_startHeartbeat).trans ?_
    exact attempts_emit_of_none rfl

/-- A node that accepts a nickname says so before it announces it. -/
theorem announces_acceptNickname {node : Node Clock App} (low : node.config.priority.toNat < 8)
    (nickname : UInt8) :
    (node.acceptNickname nickname).lamp? = some .on ∧
      ∃ accepted announced, accepted.Says .nicknameIdAccepted nickname [] ∧
        announced.Says .newNodeOnline nickname [nickname] ∧
        (node.acceptNickname nickname).attempts = node.attempts ++ [accepted, announced] := by
  have config : ((node.stopTimer .general).setNickname nickname).config = node.config :=
    congrArg NodeCore.config (node.core_stopTimer .general)
  have before : ((node.stopTimer .general).setNickname nickname).attempts = node.attempts :=
    (attempts_emit_of_none rfl).trans (node.attempts_stopTimer .general)
  unfold acceptNickname
  dsimp only
  generalize (node.stopTimer .general).setNickname nickname = assigned at config before
  rw [← config] at low
  obtain ⟨accepted, told, sends⟩ := Sends.send low .nicknameIdAccepted nickname
    (show ([] : List UInt8).length ≤ 8 by simp)
  generalize assigned.send _ _ nickname [] = sent at sends
  have same : (sent.log (.nicknameAssigned nickname)).config = assigned.config :=
    congrArg NodeCore.config sends.core
  rw [← same] at low
  obtain ⟨lit, announced, tells, tried⟩ := announces_goActive low nickname
  refine ⟨lit, accepted, announced, told, tells, ?_⟩
  rw [tried, log, attempts_emit_of_none rfl, sends.attempts, before, List.append_assoc]
  rfl

/-- What a node did stays in front of what it does. -/
def keepsTrace (earlier : List Effect) : Kept Clock App where
  Holds node := earlier <+: node.trace
  strict := False
  adopt _ _ _ holds := holds
  replace _ holds := holds
  emit _ holds := holds.trans (List.prefix_append ..)
  write _ _ holds := holds.trans (List.prefix_append ..)
  count _ _ holds := holds
  send classId typeId origin data _ holds := by
    unfold Node.send
    dsimp only
    split
    · exact holds.trans (List.prefix_append ..)
    · split
      · exact holds.trans (List.prefix_append ..)
      · exact (holds.trans (List.prefix_append ..)).trans (List.prefix_append ..)

theorem attempts_serviceTimers (node : Node Clock App) :
    node.attempts <+: node.serviceTimers.attempts := by
  have holds : (keepsTrace node.trace).accord.Holds node node := ⟨rfl, List.prefix_refl _⟩
  exact (Accord.serviceTimers holds False.elim).2.filterMap _

omit [Application App] in
theorem attempts_processing {node found : Node Clock App} {call : HostCall}
    (processing : node.processing? call = some found) : found.attempts = node.attempts := by
  cases call <;> cases processing <;> rfl

theorem quiet_undergoAll {node : Node Clock App} (quiet : node.core.Quiet)
    (acts : List (HostAct Clock App)) : (undergoAll acts node).core.Quiet := by
  induction acts using List.reverseRecOn with
  | nil => exact quiet
  | append_singleton acts act ih =>
      rw [undergoAll_concat]
      cases act with
      | call call => exact ih.steps (steps_serve _ call)
      | surround store transport clock app => exact ih.of_same rfl rfl

theorem banked_undergoAll {node : Node Clock App} (banked : node.Banked)
    (acts : List (HostAct Clock App)) : (undergoAll acts node).Banked := by
  induction acts using List.reverseRecOn with
  | nil => exact banked
  | append_singleton acts act ih =>
      rw [undergoAll_concat]
      cases act with
      | call call => exact ih.serve call
      | surround store transport clock app => exact ih

theorem attempts_reset {node : Node Clock App} (sound : node.lifecycle.fault? = none) :
    node.reset.attempts = node.attempts := by
  have running : ¬node.lifecycle.fault?.isSome = true := by simp [sound]
  rw [reset, if_neg running, log, attempts_emit_of_none rfl]
  change ((Node.emit _ _).enter .starting).attempts = _
  refine (attempts_emit_of_none rfl).trans ?_
  exact node.attempts_stopAllTimers

omit [TimerService Clock] [Application App] in
theorem attempts_restart {node : Node Clock App} (sound : node.lifecycle.fault? = none) :
    node.restart.attempts = node.attempts := by
  have running : ¬node.lifecycle.fault?.isSome = true := by simp [sound]
  rw [restart, if_neg running]
  exact attempts_emit_of_none rfl

/-- After a restart or a reset a node comes back with its nickname and announces it. -/
theorem comes_back {node : Node Clock App} (sound : node.lifecycle.fault? = none)
    (named : node.nickname ≠ Protocol.unassigned) (low : node.config.priority.toNat < 8)
    {again : HostCall} (asked : again = .restart ∨ again = .reset) :
    let back := ((node.serve again).2.serve .process).2
    back.lifecycle = .active ∧ back.nickname = node.nickname ∧
      ∃ announced, announced.Says .newNodeOnline node.nickname [node.nickname] ∧
        back.attempts = node.attempts ++ [announced] := by
  have starting : (node.serve again).2.lifecycle = .starting :=
    (Change.restarted asked sound).lifecycle
  have config := node.config_serve again
  have kept : (node.serve again).2.nickname = node.nickname ∧
      (node.serve again).2.attempts = node.attempts := by
    rcases asked with rfl | rfl
    · refine ⟨?_, attempts_restart sound⟩
      change node.restart.nickname = _
      unfold restart
      split <;> rfl
    · refine ⟨?_, attempts_reset sound⟩
      refine (congrArg NodeCore.nickname node.core_reset).trans ?_
      exact congrArg (·.read Layout.nickname) node.core.store_reset
  obtain ⟨nickname, attempts⟩ := kept
  generalize (node.serve again).2 = begun at starting nickname config attempts
  have started : begun.process.2 = begun.goActive node.nickname := by
    rw [process, starting]
    change begun.start = _
    rw [start, nickname, if_neg named]
  rw [← config] at low
  obtain ⟨-, announced, told, tried⟩ := announces_goActive low node.nickname
  change begun.process.2.lifecycle = _ ∧ begun.process.2.nickname = _ ∧ ∃ announced, _ ∧
    begun.process.2.attempts = _
  rw [started]
  refine ⟨rfl, ?_, announced, told, by rw [tried, attempts]⟩
  rw [← nickname_core, core_goActive]
  exact (NodeCore.nickname_startHeartbeat _).trans nickname

/-- A node with its timers that accepts a nickname is active under it, and of its timers the general
one is stopped and the heartbeat runs if there is a period. -/
theorem settles_acceptNickname {node : Node Clock App} (banked : node.bank.isSome = true)
    (silent : node.isArmed .heartbeat = false) (room : Layout.nickname < node.store.size)
    (nickname : UInt8) :
    let assigned := node.acceptNickname nickname
    assigned.lifecycle = .active ∧ assigned.nickname = nickname ∧
      assigned.config = node.config ∧ assigned.isArmed .general = false ∧
      (assigned.isArmed .heartbeat = true ↔ node.config.heartbeatPeriod ≠ 0) := by
  have core := node.core_acceptNickname nickname
  dsimp only
  generalize node.acceptNickname nickname = assigned at core
  have stopped (slot : TimerSlot) :
      ((node.core.stop .general).setNickname nickname).isArmed slot =
        if slot = .general then false else node.isArmed slot :=
    node.core.isArmed_stop .general slot
  refine ⟨congrArg NodeCore.lifecycle core, ?_, ?_, ?_, ?_⟩
  · refine (congrArg NodeCore.nickname core).trans ?_
    refine (NodeCore.nickname_startHeartbeat _).trans ?_
    exact Store.read_write_self room nickname
  · exact (congrArg NodeCore.config core).trans (NodeCore.config_startHeartbeat _)
  · refine (congrArg (·.isArmed .general) core).trans ?_
    refine (NodeCore.isArmed_startHeartbeat_other (by decide)).trans ?_
    exact stopped .general
  · rw [show assigned.isArmed .heartbeat = _ from congrArg (·.isArmed .heartbeat) core]
    change (NodeCore.startHeartbeat _).isArmed .heartbeat = true ↔ _
    unfold NodeCore.startHeartbeat
    change (if node.config.heartbeatPeriod = 0 then _ else _ : NodeCore Clock).isArmed _ = true ↔ _
    split
    · rename_i silenced
      rw [stopped, if_neg (by decide), silent]
      exact iff_of_false (by decide) (not_not.mpr silenced)
    · rename_i beating
      rw [isArmed_start, if_pos rfl]
      exact iff_of_true ((banked_stop ..).trans banked) beating

/-- A searching node takes the nickname that is assigned to nodes without one by the event in front
of its inbox. -/
theorem takes_assignment {node found : Node Clock App} {call : HostCall}
    (processing : node.processing? call = some found)
    (searching : node.lifecycle = .nicknameDiscovery) {event : Event}
    (first : node.transport.inbox.head? = some event) (command : event.Manages .setNicknameId)
    {new : UInt8} (data : event.data = [Protocol.unassigned, new])
    (valid : new ≤ Protocol.highestNickname) :
    ∃ ready rest, node.Takes call event ready ∧ node.attempts <+: ready.attempts ∧
      (node.serve call).2 = ((ready.hear rest).acceptNickname new).countManagement := by
  have waiting : found.lifecycle = .nicknameDiscovery :=
    (elapsed_processing processing).lifecycle.trans searching
  have early : ¬found.core.ResetDue := fun due => due.1 waiting
  have still : found.serviceTimers.lifecycle = .nicknameDiscovery := by
    refine (congrArg NodeCore.lifecycle found.core_serviceTimers).trans ?_
    exact (elapsed_of_early early).lifecycle.trans waiting
  have same : found.serviceTimers.line = node.line :=
    found.line_serviceTimers.trans (line_processing processing)
  have takes : node.Takes call event found.serviceTimers := by
    refine ⟨by rw [processing]; rfl, .inl still, ?_⟩
    rw [show found.serviceTimers.transport.inbox = _ from congrArg Prod.fst same]
    exact first
  obtain ⟨rest, -, served⟩ := takes.serve_searching still command
  refine ⟨found.serviceTimers, rest, takes, ?_, ?_⟩
  · rw [← attempts_processing processing]
    exact found.attempts_serviceTimers
  · have accepted : (found.serviceTimers.hear rest).discoveryCommand .setNicknameId event =
        (true, (found.serviceTimers.hear rest).acceptNickname new) :=
      command_of_assigned data (.inl rfl) valid
    rw [served, accepted]
    rfl

/-- Whatever happened before, a node that searches takes the nickname that the next event assigns to
nodes without one, though a probe may go out first: it is active, and its timers, its lamp and its
last two frames show it. When it is restarted or reset it comes back with the nickname. -/
theorem searching_node_takes_nickname {config : Config} {store : Store} {transport : Transport}
    {clock : Clock} {app : App} {node : Node Clock App}
    (built : build config store transport clock app = .ok node) (acts : List (HostAct Clock App))
    (room : config.layout.stop ≤ (undergoAll acts node).store.size)
    (searching : (undergoAll acts node).lifecycle = .nicknameDiscovery) {event : Event}
    (first : (undergoAll acts node).transport.inbox.head? = some event)
    (command : event.Manages .setNicknameId) {new : UInt8}
    (data : event.data = [Protocol.unassigned, new]) (valid : new ≤ Protocol.highestNickname)
    {call : HostCall} (processes : ((undergoAll acts node).processing? call).isSome = true) :
    let reached := undergoAll acts node
    let assigned := (reached.serve call).2
    (assigned.lifecycle = .active ∧ assigned.nickname = new ∧
      assigned.isArmed .general = false ∧
      (assigned.isArmed .heartbeat = true ↔ config.heartbeatPeriod ≠ 0) ∧
      assigned.lamp? = some .on) ∧
    (∃ earlier accepted announced, assigned.attempts = earlier ++ [accepted, announced] ∧
      reached.attempts <+: earlier ∧ accepted.Says .nicknameIdAccepted new [] ∧
      announced.Says .newNodeOnline new [new]) ∧
    ∀ again, again = .restart ∨ again = .reset →
      let back := ((assigned.serve again).2.serve .process).2
      back.lifecycle = .active ∧ back.nickname = new ∧
        ∃ announced, announced.Says .newNodeOnline new [new] ∧
          back.attempts = assigned.attempts ++ [announced] := by
  have fresh := fresh_build built
  have settings := config_reached built acts
  have quiet : (undergoAll acts node).core.Quiet :=
    quiet_undergoAll (.of_apart (fresh.lifecycle_ne (by decide) rfl)) acts
  have banked := banked_undergoAll fresh.banked acts
  have low := Config.priority_lt fresh.checked
  generalize undergoAll acts node = reached at *
  intro _ assigned
  obtain ⟨found, processing⟩ := Option.isSome_iff_exists.mp processes
  obtain ⟨ready, rest, takes, tried, served⟩ :=
    takes_assignment processing searching first command data valid
  have same : ready.config = config := takes.elapsed.config.trans settings
  have equipped : ready.bank.isSome = true := by
    refine takes.inStep.banked.trans ?_
    rcases banked with failed | banked
    · exact absurd searching (Lifecycle.ne_of_failed failed rfl)
    · exact banked
  have silent : ready.isArmed .heartbeat = false :=
    quiet.steps takes.steps (takes.elapsed.lifecycle.trans searching)
  have enough : Layout.nickname < ready.store.size := by
    rw [show ready.store = reached.store from takes.elapsed.store]
    exact Nat.lt_of_lt_of_le config.layout.nickname_lt_stop room
  have heard : (ready.hear rest).config = config := same
  obtain ⟨active, named, kept, general, heartbeat⟩ :=
    settles_acceptNickname (show (ready.hear rest).bank.isSome = true from equipped) silent enough
      new
  obtain ⟨lit, accepted, announced, told, tells, sent⟩ :=
    announces_acceptNickname (show (ready.hear rest).config.priority.toNat < 8 from heard ▸ low) new
  have before : (ready.hear rest).attempts = ready.attempts := rfl
  rw [heard] at kept heartbeat
  rw [before] at sent
  change assigned = _ at served
  generalize (ready.hear rest).acceptNickname new = taken at *
  have nickname : assigned.nickname = new := (congrArg Node.nickname served).trans named
  have lifecycle : assigned.lifecycle = .active := (congrArg Node.lifecycle served).trans active
  refine ⟨⟨lifecycle, nickname, ?_, ?_, ?_⟩, ?_, fun again asked => ?_⟩
  · exact (congrArg (·.isArmed .general) served).trans general
  · rw [show assigned.isArmed .heartbeat = _ from congrArg (·.isArmed .heartbeat) served]
    exact heartbeat
  · exact (congrArg lamp? served).trans lit
  · exact ⟨ready.attempts, accepted, announced, (congrArg attempts served).trans sent, tried, told,
      tells⟩
  · have sound : assigned.lifecycle.fault? = none := congrArg Lifecycle.fault? lifecycle
    have present : assigned.nickname ≠ Protocol.unassigned := by
      rw [nickname]
      rintro rfl
      exact absurd valid (by decide)
    have config : assigned.config = config := (congrArg Node.config served).trans kept
    have back := comes_back sound present (config ▸ low) asked
    rwa [nickname] at back

def probingNode : Node SoftTimers SilentApplication :=
  (build {} (Store.erased 256) .open (SoftTimers.empty 4) SilentApplication.mk).toOption.get rfl

def probingActs : List (HostAct SoftTimers SilentApplication) :=
  [.call .process, .call (.receive assignment)]

/-- The call that takes the assignment finds the first probe unanswered. -/
theorem probing_node_takes_nickname :
    let reached := undergoAll probingActs probingNode
    let assigned := (reached.serve (.poll 500)).2
    reached.ProbeExpires (.poll 500) ∧ assigned.lifecycle = .active ∧ assigned.nickname = 0x21 ∧
      assigned.lamp? = some .on ∧
      ((assigned.serve .reset).2.serve .process).2.nickname = 0x21 := by
  have built : build {} (Store.erased 256) .open (SoftTimers.empty 4) SilentApplication.mk =
      .ok probingNode := rfl
  have room : ({} : Config).layout.stop ≤ (undergoAll probingActs probingNode).store.size := by
    decide +kernel
  have searching : (undergoAll probingActs probingNode).lifecycle = .nicknameDiscovery := by
    decide +kernel
  have first : (undergoAll probingActs probingNode).transport.inbox.head? = some assignment := by
    decide +kernel
  obtain ⟨⟨active, named, -, -, lit⟩, -, back⟩ :=
    searching_node_takes_nickname built probingActs room searching first ⟨rfl, rfl⟩
      (show assignment.data = [Protocol.unassigned, 0x21] from rfl) (by decide)
      (show ((undergoAll probingActs probingNode).processing? (.poll 500)).isSome = true from rfl)
  have expires : (((undergoAll probingActs probingNode).tick 500).takeExpired .general).1 = true :=
    by decide +kernel
  exact ⟨⟨searching, _, rfl, expires⟩, active, named, lit, (back .reset (.inr rfl)).2.1⟩

end Node

end Vscp
