/-
This file proves when a node passes from one state to another: on certain events, timers and calls
of its host, and on nothing else.
-/

import Vscp.Proofs.Node.Delay

namespace Vscp

/-- The search ends when every candidate but the master has answered. -/
theorem Discovery.acknowledge_exhausted_iff {discovery : Discovery} :
    discovery.acknowledge.1 = .exhausted ↔
      discovery.candidate ≠ Protocol.segmentMaster ∧ candidates ≤ discovery.acked + 1 := by
  unfold acknowledge
  split
  · rename_i master
    simp [master]
  · rename_i other
    dsimp only
    split
    · rename_i all
      simp [other, all]
    · rename_i some
      simp [some]

namespace NodeCore

variable {Clock : Type} [TimerService Clock] {core : NodeCore Clock}

theorem lifecycle_reset (sound : core.lifecycle.fault? = none) :
    core.reset.lifecycle = .starting := by
  have running : ¬core.lifecycle.fault?.isSome = true := by simp [sound]
  rw [NodeCore.reset, if_neg running]
  rfl

theorem lifecycle_serviceTimers (sound : core.lifecycle.fault? = none) (due : core.ResetDue) :
    core.serviceTimers.lifecycle = .starting := by
  rw [(elapsed_of_resetDue due).lifecycle]
  apply lifecycle_reset
  unfold forget
  split <;> exact sound

end NodeCore

namespace Node

open NodeCore

variable {Clock App : Type} [TimerService Clock] [Application App]

/-- The causes for which a call of the host takes a node to its next state. -/
inductive Change (node : Node Clock App) (call : HostCall) : Lifecycle → Prop where
  | activated {found : Node Clock App} (processing : node.processing? call = some found)
      (starting : node.lifecycle = .starting) (named : node.nickname ≠ Protocol.unassigned) :
      Change node call .active
  | searching {found : Node Clock App} (processing : node.processing? call = some found)
      (starting : node.lifecycle = .starting) (missing : node.nickname = Protocol.unassigned) :
      Change node call .nicknameDiscovery
  | assigned {event : Event} {ready : Node Clock App} (takes : node.Takes call event ready)
      (searching : node.lifecycle = .nicknameDiscovery) (command : event.Manages .setNicknameId)
      {old new : UInt8} {rest : List UInt8} (data : event.data = old :: new :: rest)
      (addressed : old = Protocol.unassigned ∨ old = ready.discovery.candidate)
      (valid : new ≤ Protocol.highestNickname) : Change node call .active
  | gaveUp {event : Event} {ready : Node Clock App} (takes : node.Takes call event ready)
      (searching : node.lifecycle = .nicknameDiscovery) (command : event.Manages .probeAck)
      (own : event.origin = ready.discovery.candidate)
      (other : ready.discovery.candidate ≠ Protocol.segmentMaster)
      (all : Discovery.candidates ≤ ready.discovery.acked + 1) : Change node call .idle
  | moved {event : Event} {ready : Node Clock App} (takes : node.Takes call event ready)
      (active : node.lifecycle = .active) (command : event.Manages .segmentControllerHeartbeat)
      {crc : UInt8} {rest : List UInt8} (data : event.data = crc :: rest)
      (other : crc ≠ ready.segmentCrc) : Change node call .nicknameDiscovery
  | collided {event : Event} {ready : Node Clock App} (takes : node.Takes call event ready)
      (active : node.lifecycle = .active) (command : event.Manages .probeAck)
      (own : event.origin = ready.nickname) : Change node call .nicknameDiscovery
  | parked {event : Event} {ready : Node Clock App} (takes : node.Takes call event ready)
      (active : node.lifecycle = .active) (command : event.Manages .dropNickname)
      {arguments : List UInt8} (addressed : ready.core.Addressed event arguments)
      (idle : (DropRequest.ofBytes (arguments.getD 0 0) (arguments.getD 1 0)).goIdle = true) :
      Change node call .idle
  | handedOver {event : Event} {ready : Node Clock App} (takes : node.Takes call event ready)
      (active : node.lifecycle = .active) (command : event.Manages .enterBootLoader)
      {algorithm : UInt8} {tail : List UInt8}
      (addressed : ready.core.Addressed event (algorithm :: tail))
      (own : algorithm = ready.config.bootLoaderAlgorithm)
      (present : algorithm ≠ Config.noBootLoader) (identified : ready.guid.drop 10 = tail) :
      Change node call .bootLoaderHandoff
  | dropped {event : Event} {ready : Node Clock App} (takes : node.Takes call event ready)
      (active : node.lifecycle = .active) (command : event.Manages .dropNickname)
      {arguments : List UInt8} (addressed : ready.core.Addressed event arguments)
      (stays : (DropRequest.ofBytes (arguments.getD 0 0) (arguments.getD 1 0)).goIdle = false)
      (atOnce : (DropRequest.ofBytes (arguments.getD 0 0) (arguments.getD 1 0)).delayed = false) :
      Change node call .starting
  | droppedLate {found : Node Clock App} (processing : node.processing? call = some found)
      (active : node.lifecycle = .active) (expired : (found.takeExpired .general).1 = true)
      (pending : node.resetPending = true) : Change node call .starting
  | guidDropped {event : Event} {ready : Node Clock App} (takes : node.Takes call event ready)
      (active : node.lifecycle = .active) (command : event.Manages .guidDropNickname)
      {index : UInt8} {bytes : List UInt8} (data : event.data = index :: bytes)
      {slot : SessionSlot}
      (completed : (ready.sessions.accept event.origin index bytes ready.guid).1 =
        .complete slot) :
      Change node call .starting
  | restarted (asked : call = .restart ∨ call = .reset) (sound : node.lifecycle.fault? = none) :
      Change node call .starting

variable {node ready : Node Clock App} {call : HostCall} {event : Event}

theorem change_of_activeStep (takes : node.Takes call event ready)
    (active : node.lifecycle = .active) {kind : Management} (command : event.Manages kind)
    {after : NodeCore Clock} (step : ActiveStep ready.core event kind after) :
    after.lifecycle = .active ∨ node.Change call after.lifecycle := by
  have still : ready.core.lifecycle = .active := takes.elapsed.lifecycle.trans active
  have sound : ready.core.lifecycle.fault? = none := by rw [still]; rfl
  cases step with
  | accessed access =>
      left
      rw [access.others]
      exact still
  | timed data same => exact .inl still
  | moved data other => exact .inr (.moved takes active command data other)
  | collided own => exact .inr (.collided takes active command own)
  | renamed addressed valid => exact .inl still
  | parked addressed decoded idle =>
      exact .inr (.parked takes active command addressed (decoded ▸ idle))
  | dropped addressed decoded stays atOnce =>
      right
      rw [lifecycle_reset (by rwa [lifecycle_withdraw])]
      exact .dropped takes active command addressed (decoded ▸ stays) (decoded ▸ atOnce)
  | delayed addressed decoded later => exact .inl still
  | handedOver addressed present own identified =>
      exact .inr (.handedOver takes active command addressed own present identified)
  | progressed data accepted => exact .inl still
  | completed data accepted =>
      rename_i index bytes slot sessions
      have running : (({ ready.core with sessions }.stop slot.timer).setNickname
          Protocol.unassigned).lifecycle.fault? = none := sound
      right
      rw [lifecycle_reset running]
      exact .guidDropped takes active command data (congrArg Prod.fst accepted)
  | discarded data accepted => exact .inl still

theorem change_of_searchStep (takes : node.Takes call event ready)
    (searching : node.lifecycle = .nicknameDiscovery) {kind : Management}
    (command : event.Manages kind) {after : NodeCore Clock}
    (step : SearchStep ready.core event kind after) :
    after.lifecycle = .nicknameDiscovery ∨ node.Change call after.lifecycle := by
  have still : ready.core.lifecycle = .nicknameDiscovery :=
    takes.elapsed.lifecycle.trans searching
  cases step with
  | assigned data addressed valid =>
      unfold Discovery.isAddressed at addressed
      simp only [Bool.or_eq_true, beq_iff_eq] at addressed
      exact .inr (.assigned takes searching command data addressed valid)
  | awaited own outcome => exact .inl still
  | probed own outcome => exact .inl still
  | gaveUp own outcome =>
      obtain ⟨other, all⟩ := Discovery.acknowledge_exhausted_iff.mp (congrArg Prod.fst outcome)
      exact .inr (.gaveUp takes searching command own other all)
  | silent data => exact .inl still
  | timed data =>
      left
      split <;> exact still

omit [Application App] in
/-- A reset that was put off comes due only in an active node. -/
theorem late_of_resetDue {found : Node Clock App} (processing : node.processing? call = some found)
    (running : found.lifecycle.Runs) (parked : node.core.Parked) (due : found.core.ResetDue) :
    node.lifecycle = .active ∧ (found.takeExpired .general).1 = true ∧
      node.resetPending = true := by
  have waited := elapsed_processing processing
  obtain ⟨settled, expired, pending⟩ := due
  rw [expired_takeExpired]
  refine ⟨?_, expired, waited.resetPending.symm.trans pending⟩
  rcases running with searching | active | idle
  · exact absurd searching settled
  · exact waited.lifecycle.symm.trans active
  · have unarmed := (Continues.of_elapsed waited).parked parked (.inl idle)
    exact absurd (unarmed.symm.trans (isArmed_of_expired expired)) (by decide)

omit [Application App] in
theorem resetDue_of_late {found : Node Clock App} (processing : node.processing? call = some found)
    (active : node.lifecycle = .active) (expired : (found.takeExpired .general).1 = true)
    (pending : node.resetPending = true) : found.core.ResetDue := by
  have waited := elapsed_processing processing
  have still : found.core.lifecycle = .active := waited.lifecycle.trans active
  rw [expired_takeExpired] at expired
  exact ⟨by simp [still], expired, waited.resetPending.trans pending⟩

/-- Every change of the state has one of its causes. -/
theorem Turn.change (parked : node.core.Parked) {after : NodeCore Clock}
    (turn : Turn node call after) :
    after.lifecycle = node.lifecycle ∨ node.Change call after.lifecycle := by
  cases turn with
  | accessed access =>
      left
      rw [access.others]
      rfl
  | judged engine => exact .inl rfl
  | ticked elapsed => exact .inl rfl
  | restarted asked sound => exact .inr (.restarted (.inl asked) sound)
  | reset asked =>
      cases fault : node.lifecycle.fault? with
      | none =>
          right
          rw [lifecycle_reset fault]
          exact .restarted (.inr asked) fault
      | some cause =>
          left
          have failed : node.core.lifecycle.fault?.isSome = true := Option.isSome_of_eq_some fault
          rw [NodeCore.reset, if_pos failed]
          rfl
  | inert processing inert => exact .inl (elapsed_processing processing).lifecycle
  | searched processing starting missing =>
      have waited := elapsed_processing processing
      exact .inr (.searching processing (waited.lifecycle.symm.trans starting)
        (waited.nickname.symm.trans missing))
  | activated processing starting named =>
      have waited := elapsed_processing processing
      refine .inr (.activated processing (waited.lifecycle.symm.trans starting) ?_)
      exact fun missing => named (waited.nickname.trans missing)
  | served processing running =>
      have waited := elapsed_processing processing
      rename_i found
      by_cases due : found.core.ResetDue
      · right
        obtain ⟨active, expired, pending⟩ := late_of_resetDue processing running parked due
        have sound : found.core.lifecycle.fault? = none :=
          congrArg Lifecycle.fault? (waited.lifecycle.trans active)
        rw [lifecycle_serviceTimers sound due]
        exact .droppedLate processing active expired pending
      · exact .inl ((elapsed_of_early due).lifecycle.trans waited.lifecycle)
  | took takes reaction =>
      have waited := takes.elapsed.lifecycle
      cases reaction with
      | ignored => exact .inl waited
      | judged active foreign engine event? => exact .inl waited
      | managed active command step =>
          have active := waited.symm.trans active
          rcases change_of_activeStep takes active command step with still | change
          · exact .inl (still.trans active.symm)
          · exact .inr change
      | searched searching command step =>
          have searching := waited.symm.trans searching
          rcases change_of_searchStep takes searching command step with still | change
          · exact .inl (still.trans searching.symm)
          · exact .inr change

/-- The command of the event decides the state of an active node. -/
theorem Takes.lifecycle_of_active (takes : node.Takes call event ready)
    (active : node.lifecycle = .active) {kind : Management} (command : event.Manages kind)
    {next : Lifecycle} (acted : ∀ rest, ∃ handled,
      (ready.hear rest).activeCommand kind event = (true, handled) ∧
        handled.core.lifecycle = next) :
    (node.serve call).2.lifecycle = next := by
  have still : ready.lifecycle = .active := takes.elapsed.lifecycle.trans active
  obtain ⟨rest, -, served⟩ := takes.serve_active still command
  obtain ⟨handled, acted, lifecycle⟩ := acted rest
  rw [served, acted]
  exact lifecycle

/-- The command of the event decides the state of a searching node. -/
theorem Takes.lifecycle_of_searching (takes : node.Takes call event ready)
    (searching : node.lifecycle = .nicknameDiscovery) {kind : Management}
    (command : event.Manages kind) {next : Lifecycle} (acted : ∀ rest, ∃ handled,
      (ready.hear rest).discoveryCommand kind event = (true, handled) ∧
        handled.core.lifecycle = next) :
    (node.serve call).2.lifecycle = next := by
  have still : ready.lifecycle = .nicknameDiscovery := takes.elapsed.lifecycle.trans searching
  obtain ⟨rest, -, served⟩ := takes.serve_searching still command
  obtain ⟨handled, acted, lifecycle⟩ := acted rest
  rw [served, acted]
  exact lifecycle

omit [TimerService Clock] [Application App] in
theorem length_guid (node : Node Clock App) : node.guid.length = Layout.guidLength := by
  exact Store.length_readMany ..

/-- The boot loader takes over at the request that names its algorithm and the node. -/
theorem lifecycle_enterBootLoader {algorithm : UInt8} {tail : List UInt8}
    (own : algorithm = node.config.bootLoaderAlgorithm) (present : algorithm ≠ Config.noBootLoader)
    (identified : node.guid.drop 10 = tail) :
    (node.enterBootLoader (algorithm :: tail)).lifecycle = .bootLoaderHandoff := by
  have length : tail.length = 6 := by
    rw [← identified, List.length_drop, length_guid]
    rfl
  match tail, length with
  | [first, second, third, fourth, fifth, sixth], _ =>
      have known : ¬(algorithm = Config.noBootLoader ∨
          algorithm ≠ node.config.bootLoaderAlgorithm) := by
        simpa only [not_or, ne_eq, not_not] using ⟨present, own⟩
      unfold enterBootLoader
      simp only [if_neg known, identified, ne_eq, not_true_eq_false, if_false]
      rfl

theorem guidDropFrame_complete {origin index : UInt8} {bytes : List UInt8} {slot : SessionSlot}
    {sessions : GuidDropSessions}
    (accepted : node.sessions.accept origin index bytes node.guid = (.complete slot, sessions)) :
    node.guidDropFrame origin (index :: bytes) =
      (true, ((({ node with sessions }.stopTimer slot.timer).log (.guidDrop origin)).setNickname
        Protocol.unassigned).reset) := by
  simp only [guidDropFrame, accepted]

/-- A searching node accepts a nickname that is meant for it. -/
theorem command_of_assigned {old new : UInt8} {rest : List UInt8}
    (data : event.data = old :: new :: rest)
    (addressed : old = Protocol.unassigned ∨ old = node.discovery.candidate)
    (valid : new ≤ Protocol.highestNickname) :
    node.discoveryCommand .setNicknameId event = (true, node.acceptNickname new) := by
  have asked : (node.discovery.isAddressed old && decide (new ≤ Protocol.highestNickname)) =
      true := by
    simpa [Discovery.isAddressed] using ⟨addressed, valid⟩
  unfold discoveryCommand
  rw [data]
  exact if_pos asked

/-- Every cause of a change has its effect. -/
theorem Change.lifecycle {next : Lifecycle} (change : node.Change call next) :
    (node.serve call).2.lifecycle = next := by
  cases change with
  | @activated found processing starting named =>
      have waited := elapsed_processing processing
      have started : found.lifecycle = .starting := waited.lifecycle.trans starting
      rw [serve_of_processing processing, process, started]
      refine congrArg Node.lifecycle (if_neg ?_)
      exact fun missing => named (waited.nickname.symm.trans missing)
  | @searching found processing starting missing =>
      have waited := elapsed_processing processing
      have started : found.lifecycle = .starting := waited.lifecycle.trans starting
      rw [serve_of_processing processing, process, started]
      refine (congrArg Node.lifecycle (if_pos (waited.nickname.trans missing))).trans ?_
      exact congrArg NodeCore.lifecycle (core_startDiscovery _)
  | @assigned event ready takes searching command old new others data addressed valid =>
      refine takes.lifecycle_of_searching searching command fun rest =>
        ⟨(ready.hear rest).acceptNickname new, ?_, rfl⟩
      exact command_of_assigned data addressed valid
  | @gaveUp event ready takes searching command own other all =>
      have ended : ready.discovery.acknowledge = (.exhausted, ready.discovery.acknowledge.2) :=
        Prod.ext (Discovery.acknowledge_exhausted_iff.mpr ⟨other, all⟩) rfl
      refine takes.lifecycle_of_searching searching command fun rest =>
        ⟨{ ready.hear rest with discovery := ready.discovery.acknowledge.2 }.giveUp, ?_, ?_⟩
      · have heard : (ready.hear rest).discovery.acknowledge =
            (.exhausted, ready.discovery.acknowledge.2) := ended
        unfold discoveryCommand
        refine (if_pos own).trans ?_
        simp only [heard]
      · simp only [giveUp, core_enterIdle]
        rfl
  | @moved event ready takes active command crc others data other =>
      refine takes.lifecycle_of_active active command fun rest => ⟨_, rfl, ?_⟩
      rw [data, core_segmentHeartbeat, if_pos ⟨other, rfl⟩]
      rfl
  | @collided event ready takes active command own =>
      refine takes.lifecycle_of_active active command fun rest => ⟨_, if_pos own, ?_⟩
      rw [core_startDiscovery]
      rfl
  | @parked event ready takes active command arguments addressed idle =>
      refine takes.lifecycle_of_active active command fun rest => ?_
      have heard : (ready.hear rest).core.Addressed event arguments := addressed
      refine ⟨_, (command_of_addressed heard).trans rfl, ?_⟩
      rw [core_dropNickname, if_pos idle]
      rfl
  | @handedOver event ready takes active command algorithm tail addressed own present identified =>
      refine takes.lifecycle_of_active active command fun rest => ?_
      have heard : (ready.hear rest).core.Addressed event (algorithm :: tail) := addressed
      refine ⟨_, (command_of_addressed heard).trans rfl, ?_⟩
      exact lifecycle_enterBootLoader own present identified
  | @dropped event ready takes active command arguments addressed stays atOnce =>
      have sound : ready.core.lifecycle.fault? = none :=
        congrArg Lifecycle.fault? (takes.elapsed.lifecycle.trans active)
      refine takes.lifecycle_of_active active command fun rest => ?_
      have heard : (ready.hear rest).core.Addressed event arguments := addressed
      refine ⟨_, (command_of_addressed heard).trans rfl, ?_⟩
      rw [core_dropNickname, if_neg (Bool.eq_false_iff.mp stays),
        if_neg (Bool.eq_false_iff.mp atOnce)]
      exact lifecycle_reset (by rwa [lifecycle_withdraw])
  | @droppedLate found processing active expired pending =>
      have waited := elapsed_processing processing
      have still : found.lifecycle = .active := waited.lifecycle.trans active
      have due := resetDue_of_late processing active expired pending
      have ended : found.serviceTimers.core.lifecycle = .starting := by
        rw [core_serviceTimers]
        exact lifecycle_serviceTimers (congrArg Lifecycle.fault? still) due
      rw [serve_of_processing processing, process_of_runs (.inr (.inl still)), takeEvent,
        if_pos (.inr ended)]
      exact ended
  | @guidDropped event ready takes active command index bytes data slot completed =>
      have still : ready.core.lifecycle = .active := takes.elapsed.lifecycle.trans active
      obtain ⟨sessions, accepted⟩ : ∃ sessions, ready.sessions.accept event.origin index bytes
          ready.guid = (.complete slot, sessions) := ⟨_, Prod.ext completed rfl⟩
      refine takes.lifecycle_of_active active command fun rest => ?_
      have heard : (ready.hear rest).sessions.accept event.origin index bytes
          (ready.hear rest).guid = (.complete slot, sessions) := accepted
      have acted : (ready.hear rest).activeCommand .guidDropNickname event =
          (ready.hear rest).guidDropFrame event.origin event.data := rfl
      rw [data, guidDropFrame_complete heard] at acted
      refine ⟨_, acted, ?_⟩
      rw [core_reset, core_setNickname, core_log, core_stopTimer]
      exact lifecycle_reset (congrArg Lifecycle.fault? still)
  | restarted asked sound =>
      rcases asked with rfl | rfl
      · have running : ¬node.lifecycle.fault?.isSome = true := by simp [sound]
        exact congrArg Node.lifecycle (if_neg running)
      · exact (congrArg NodeCore.lifecycle node.core_reset).trans (lifecycle_reset sound)

omit [TimerService Clock] [Application App] in
theorem Fresh.parked {config : Config} {transport : Transport} {node : Node Clock App}
    (fresh : node.Fresh config transport) : node.core.Parked :=
  fun _ => fresh.unarmed .general

/-- After any acts of its host, whatever they make of its surroundings, a call takes a node to
another state exactly for one of the causes of that change, and no other act does. A reset that
comes late was asked for by a request, and while the host leaves the surroundings alone the general
timer of the node has waited for it since. -/
theorem lifecycle_changes_for_causes {config : Config} {store : Store} {transport : Transport}
    {clock : Clock} {app : App} {node : Node Clock App}
    (built : build config store transport clock app = .ok node)
    (acts : List (HostAct Clock App)) :
    let before := undergoAll acts node
    (∀ act next, next ≠ before.lifecycle → ((before.undergo act).lifecycle = next ↔
      ∃ call, act = .call call ∧ before.Change call next)) ∧
    (before.lifecycle = .active → before.isArmed .general = true → before.resetPending = true →
      ∃ earlier call later request, acts = earlier ++ .call call :: later ∧
        (undergoAll earlier node).PutsOff call request ∧
        before.clearNickname = !request.keepNickname ∧
        ((∀ act ∈ later, ∃ call, act = .call call) → ∀ middle, middle <+: later →
          (undergoAll (earlier ++ .call call :: middle) node).core.Waiting)) := by
  intro before
  have fresh := fresh_build built
  constructor
  · intro act next other
    constructor
    · intro reached
      cases act with
      | surround store transport clock app => exact absurd reached.symm other
      | call call =>
          refine ⟨call, rfl, ?_⟩
          rcases (before.turn_serve call).change (parked_undergoAll fresh.parked acts) with
            still | change
          · exact absurd (reached.symm.trans still) other
          · exact reached ▸ change
    · rintro ⟨call, rfl, change⟩
      exact change.lifecycle
  · intro active armed owed
    exact asked_of_waiting fresh.settled owed ⟨armed, .inl active⟩

/-- An active node is asked to drop its nickname in five seconds, which pass. -/
def droppingActs : List (HostAct SoftTimers SilentApplication) :=
  [.call .process,
    .call (.receive { Event.new 0 8 0 with data := [0x10, 0, 5], dataWithin := by decide }),
    .call .process, .call (.tick 5000)]

theorem late_drop_has_cause :
    ∃ node, build {} ((Store.erased 256).write Layout.nickname 0x10) .open (SoftTimers.empty 4)
        SilentApplication.mk = .ok node ∧
      (undergoAll droppingActs node).Change .process .starting ∧
      ∃ earlier call later request, droppingActs = earlier ++ .call call :: later ∧
        (undergoAll earlier node).PutsOff call request ∧ request.keepNickname = false := by
  have built : build {} ((Store.erased 256).write Layout.nickname 0x10) .open (SoftTimers.empty 4)
      SilentApplication.mk = .ok _ := rfl
  obtain ⟨changes, late⟩ := lifecycle_changes_for_causes built droppingActs
  refine ⟨_, built, ?_, ?_⟩
  · obtain ⟨call, same, change⟩ :=
      (changes (.call .process) .starting (by decide +kernel)).mp (by decide +kernel)
    cases same
    exact change
  · obtain ⟨earlier, call, later, request, split, asked, clear, -⟩ :=
      late (by decide +kernel) (by decide +kernel) (by decide +kernel)
    refine ⟨earlier, call, later, request, split, asked, ?_⟩
    exact Bool.not_inj (clear.symm.trans (by decide +kernel))

end Node

end Vscp
