/-
This file says what a single call of the host comes to, and ties it to the event that the call takes
from the inbox.
-/

import Vscp.Host.Call
import Vscp.Proofs.Node.Expiry

namespace Vscp

theorem Management.ofTypeId?_eq_some_iff {typeId : UInt8} {kind : Management} :
    Management.ofTypeId? typeId = some kind ↔ typeId = kind.typeId := by
  constructor
  · intro known
    have matched := List.find?_some known
    exact (eq_of_beq matched).symm
  · rintro rfl
    cases kind <;> rfl

/-- A management event of a kind. -/
structure Event.Manages (event : Event) (kind : Management) : Prop where
  classId : event.classId = Protocol.managementClass
  typeId : event.typeId = kind.typeId

theorem Event.Manages.ofTypeId? {event : Event} {kind : Management}
    (command : event.Manages kind) : Management.ofTypeId? event.typeId = some kind :=
  Management.ofTypeId?_eq_some_iff.mpr command.typeId

/-- The states in which a node serves its timers and takes events. -/
def Lifecycle.Runs (lifecycle : Lifecycle) : Prop :=
  lifecycle = .nicknameDiscovery ∨ lifecycle = .active ∨ lifecycle = .idle

theorem Lifecycle.Runs.awake {lifecycle : Lifecycle} (running : lifecycle.Runs) :
    ¬(lifecycle.isInert = true ∨ lifecycle = .starting) := by
  rcases running with rfl | rfl | rfl <;> simp [isInert]

theorem Lifecycle.Runs.sound {lifecycle : Lifecycle} (running : lifecycle.Runs) :
    lifecycle.fault? = none := by
  rcases running with rfl | rfl | rfl <;> rfl

namespace NodeCore

variable {Clock : Type} [TimerService Clock]

/-- What a node makes of an event. -/
inductive Reaction (core : NodeCore Clock) (event : Event) : NodeCore Clock → Prop where
  | ignored : Reaction core event core
  | judged (active : core.lifecycle = .active)
      (foreign : event.classId ≠ Protocol.managementClass) (engine : RuleEngine)
      (event? : Option Event) :
      Reaction core event { core with engine, lastMatrixEvent := event? }
  | managed {kind : Management} {after : NodeCore Clock} (active : core.lifecycle = .active)
      (command : event.Manages kind) (step : ActiveStep core event kind after) :
      Reaction core event after
  | searched {kind : Management} {after : NodeCore Clock}
      (searching : core.lifecycle = .nicknameDiscovery) (command : event.Manages kind)
      (step : SearchStep core event kind after) : Reaction core event after

end NodeCore

namespace Node

open NodeCore

variable {Clock App : Type}

theorem core_reportFaults (faults : List RuleFault) (node : Node Clock App) :
    (faults.foldl reportFault node).core = node.core := by
  induction faults generalizing node with
  | nil => rfl
  | cons fault rest ih => exact ih (node.reportFault fault)

section Events

variable [Application App]

theorem core_fireRows (event : Event) (firings : List Firing) (node : Node Clock App) :
    (firings.foldl (fireRow event) node).core = node.core := by
  induction firings generalizing node with
  | nil => rfl
  | cons firing rest ih => exact ih (node.fireRow event firing)

/-- The rows of the matrix that fire are executed in their order and counted. -/
theorem runMatrix_eq (node : Node Clock App) {event : Event} {firings : List Firing}
    (fires : Firing.all (node.matrix.map (·.1)) (node.matrix.map (·.2)) event
      ⟨node.config.zone, node.config.subZone⟩ = firings) :
    node.runMatrix event = (firings.length, (firings.foldl (fireRow event) node).count
      fun counters => { counters with
        matrixActions := Counters.increased counters.matrixActions firings.length }) := by
  unfold runMatrix
  simp only [Firing.evaluate_eq, fires]

@[simp] theorem core_runMatrix (node : Node Clock App) (event : Event) :
    (node.runMatrix event).2.core = node.core := by
  rw [node.runMatrix_eq rfl]
  exact core_fireRows ..

theorem core_runRules (node : Node Clock App) (event : Event) :
    ∃ engine, (node.runRules event).2.core = { node.core with engine } := by
  unfold runRules
  split
  · obtain ⟨evaluation, engine⟩ := node.engine.evaluate node.ruleset event
    have reported := core_reportFaults evaluation.faults { node with engine }
    refine ⟨engine, ?_⟩
    dsimp only
    split
    · exact reported
    · rw [core_call, core_count, core_log]
      exact reported
  · exact ⟨node.engine, rfl⟩

theorem core_dispatch (node : Node Clock App) (event : Event) :
    ∃ engine event?, (node.dispatch event).2.core =
      { node.core with engine, lastMatrixEvent := event? } := by
  have matrix := node.core_runMatrix event
  obtain ⟨engine, rules⟩ := core_runRules (node.runMatrix event).2 event
  rw [matrix] at rules
  unfold dispatch
  dsimp only
  rw [core_call]
  split
  · refine ⟨engine, some event, ?_⟩
    change { ((node.runMatrix event).2.runRules event).2.core with
      lastMatrixEvent := some event } = _
    rw [rules]
  · exact ⟨engine, node.lastMatrixEvent, rules⟩

end Events

variable [TimerService Clock]

theorem elapsed_tick (node : Node Clock App) (elapsed : Nat) :
    Elapsed node.core (node.tick elapsed).core :=
  ⟨rfl, id⟩

/-- The node as a call that processes finds it; other calls do not process. -/
def processing? (node : Node Clock App) : HostCall → Option (Node Clock App)
  | .process => some node
  | .poll elapsed => some (node.tick elapsed)
  | _ => none

theorem elapsed_processing {node found : Node Clock App} {call : HostCall}
    (processing : node.processing? call = some found) : Elapsed node.core found.core := by
  cases call <;> cases processing
  · exact .refl _
  · exact node.elapsed_tick _

variable [Application App]

/-- The call lets the node take an event; `ready` is the node that has served its timers before
that. -/
structure Takes (node : Node Clock App) (call : HostCall) (event : Event)
    (ready : Node Clock App) : Prop where
  served : (node.processing? call).map serviceTimers = some ready
  running : ready.lifecycle.Runs
  first : ready.transport.inbox.head? = some event

/-- What a call of the host comes to. -/
inductive Turn (node : Node Clock App) (call : HostCall) : NodeCore Clock → Prop where
  | accessed {after : NodeCore Clock} (access : Accessed node.core after) : Turn node call after
  | judged (engine : RuleEngine) : Turn node call { node.core with engine }
  | ticked (elapsed : Nat) : Turn node call (node.tick elapsed).core
  | restarted (asked : call = .restart) (sound : node.lifecycle.fault? = none) :
      Turn node call (node.core.enter .starting)
  | reset (asked : call = .reset) : Turn node call node.core.reset
  | inert {found : Node Clock App} (processing : node.processing? call = some found)
      (inert : found.lifecycle.isInert = true) : Turn node call found.core
  | searched {found : Node Clock App} (processing : node.processing? call = some found)
      (starting : found.lifecycle = .starting) (missing : found.nickname = Protocol.unassigned) :
      Turn node call found.core.startDiscovery
  | activated {found : Node Clock App} (processing : node.processing? call = some found)
      (starting : found.lifecycle = .starting) (named : found.nickname ≠ Protocol.unassigned) :
      Turn node call found.core.goActive
  | served {found : Node Clock App} (processing : node.processing? call = some found)
      (running : found.lifecycle.Runs) : Turn node call found.core.serviceTimers
  | took {event : Event} {ready : Node Clock App} {after : NodeCore Clock}
      (takes : node.Takes call event ready) (reaction : Reaction ready.core event after) :
      Turn node call after

/-- An active node acts on an event of a known type or leaves it alone, and counts it. -/
theorem handleManagement_cases (node : Node Clock App) (event : Event) :
    (Management.ofTypeId? event.typeId = none ∧ node.handleManagement event = (.ignored, node)) ∨
    ∃ kind, Management.ofTypeId? event.typeId = some kind ∧
      ((∃ acted, node.activeCommand kind event = (true, acted) ∧
        node.handleManagement event = (.management event.typeId, acted.countManagement)) ∨
      (node.activeCommand kind event = (false, node) ∧
        node.handleManagement event = (.ignored, node.countManagement))) := by
  unfold handleManagement
  cases Management.ofTypeId? event.typeId with
  | none => exact .inl ⟨rfl, rfl⟩
  | some kind =>
      refine .inr ⟨kind, rfl, ?_⟩
      cases answered : node.activeCommand kind event with
      | mk handled acted =>
          cases handled with
          | true =>
              refine .inl ⟨acted, rfl, ?_⟩
              simp only [answered]
              rfl
          | false =>
              cases activeCommand_of_declined answered
              refine .inr ⟨rfl, ?_⟩
              simp only [answered]
              rfl

/-- A searching node acts on a management event and counts it, or leaves the event alone. -/
theorem handleDiscovery_cases (node : Node Clock App) (event : Event) :
    (∃ kind acted, event.Manages kind ∧ node.discoveryCommand kind event = (true, acted) ∧
      node.handleDiscovery event = (.management event.typeId, acted.countManagement)) ∨
    ((∀ kind, event.Manages kind → node.discoveryCommand kind event = (false, node)) ∧
      node.handleDiscovery event = (.ignored, node)) := by
  unfold handleDiscovery
  split
  · rename_i management
    cases known : Management.ofTypeId? event.typeId with
    | none =>
        refine .inr ⟨fun kind command => ?_, rfl⟩
        cases known.symm.trans command.ofTypeId?
    | some kind =>
        cases answered : node.discoveryCommand kind event with
        | mk handled acted =>
            cases handled with
            | true =>
                have typeId := Management.ofTypeId?_eq_some_iff.mp known
                refine .inl ⟨kind, acted, ⟨management, typeId⟩, answered, ?_⟩
                simp only [answered]
                rfl
            | false =>
                cases discoveryCommand_of_declined answered
                refine .inr ⟨fun other command => ?_, ?_⟩
                · cases known.symm.trans command.ofTypeId?
                  exact answered
                · simp only [answered]
                  rfl
  · rename_i foreign
    exact .inr ⟨fun kind command => absurd command.classId foreign, rfl⟩

theorem reaction_handleManagement {node : Node Clock App} {event : Event}
    (active : node.lifecycle = .active)
    (management : event.classId = Protocol.managementClass) :
    Reaction node.core event (node.handleManagement event).2.core := by
  rcases node.handleManagement_cases event with
    ⟨-, answer⟩ | ⟨kind, known, ⟨handled, acted, answer⟩ | ⟨-, answer⟩⟩
  · rw [answer]
    exact .ignored
  · have command : event.Manages kind :=
      ⟨management, Management.ofTypeId?_eq_some_iff.mp known⟩
    have step := activeStep_activeCommand acted
    rw [answer]
    exact .managed active command step
  · rw [answer]
    exact .ignored

theorem reaction_handleDiscovery {node : Node Clock App} (event : Event)
    (searching : node.lifecycle = .nicknameDiscovery) :
    Reaction node.core event (node.handleDiscovery event).2.core := by
  rcases node.handleDiscovery_cases event with ⟨kind, handled, command, acted, answer⟩ | ⟨-, answer⟩
  · have step := searchStep_discoveryCommand acted
    rw [answer]
    exact .searched searching command step
  · rw [answer]
    exact .ignored

theorem reaction_handle (node : Node Clock App) (event : Event) :
    Reaction node.core event (node.handle event).2.core := by
  unfold handle
  generalize received : node.count _ = counted
  have same : counted.core = node.core := received ▸ node.core_count _
  have lifecycle : counted.lifecycle = node.lifecycle := congrArg NodeCore.lifecycle same
  dsimp only
  rw [← same]
  split
  · rename_i searching
    exact reaction_handleDiscovery event (lifecycle.trans searching)
  · rename_i active
    split
    · rename_i management
      exact reaction_handleManagement (lifecycle.trans active) management
    · rename_i foreign
      obtain ⟨engine, event?, judged⟩ := counted.core_dispatch event
      rw [judged]
      exact .judged (lifecycle.trans active) foreign engine event?
  · exact .ignored

theorem runs_of_open {lifecycle : Lifecycle}
    (running : ¬(lifecycle.isInert = true ∨ lifecycle = .starting)) : lifecycle.Runs := by
  cases lifecycle with
  | starting => simp at running
  | nicknameDiscovery => exact .inl rfl
  | active => exact .inr (.inl rfl)
  | idle => exact .inr (.inr rfl)
  | error fault => simp [Lifecycle.isInert] at running
  | bootLoaderHandoff => simp [Lifecycle.isInert] at running

theorem answer_of_processing {node found : Node Clock App} {call : HostCall}
    (processing : node.processing? call = some found) :
    node.serve call = (.outcome found.process.1, found.process.2) := by
  cases call <;> cases processing <;> rfl

theorem serve_of_processing {node found : Node Clock App} {call : HostCall}
    (processing : node.processing? call = some found) :
    (node.serve call).2 = found.process.2 :=
  congrArg Prod.snd (answer_of_processing processing)

/-- A running node serves its timers before it takes an event. -/
theorem process_of_runs {node : Node Clock App} (running : node.lifecycle.Runs) :
    node.process = node.serviceTimers.takeEvent := by
  unfold process
  rcases running with searching | active | idle
  · rw [searching]
  · rw [active]
  · rw [idle]

/-- After its timers a running node takes an event, or nothing else happens. -/
theorem takeEvent_cases {node found : Node Clock App} {call : HostCall}
    (processing : node.processing? call = some found) :
    found.serviceTimers.takeEvent.2 = found.serviceTimers ∨
      ∃ event ready rest, node.Takes call event ready ∧ ready.transport.inbox = event :: rest ∧
        found.serviceTimers.takeEvent =
          { ready with transport := { ready.transport with inbox := rest } }.handle event := by
  have served : (node.processing? call).map serviceTimers = some found.serviceTimers := by
    rw [processing]
    rfl
  generalize found.serviceTimers = ready at served
  unfold takeEvent
  split
  · exact .inl rfl
  · rename_i awake
    split
    · exact .inl rfl
    · rename_i event rest inbox
      exact .inr ⟨event, ready, rest, ⟨served, runs_of_open awake, by rw [inbox]; rfl⟩, inbox, rfl⟩

theorem turn_takeEvent {node found : Node Clock App} {call : HostCall}
    (processing : node.processing? call = some found) (running : found.lifecycle.Runs) :
    Turn node call found.serviceTimers.takeEvent.2.core := by
  rcases takeEvent_cases processing with quiet | ⟨event, ready, rest, takes, -, handled⟩
  · rw [quiet, core_serviceTimers]
    exact .served processing running
  · rw [handled]
    have reaction := reaction_handle
      { ready with transport := { ready.transport with inbox := rest } } event
    exact .took takes reaction

theorem turn_process {node found : Node Clock App} {call : HostCall}
    (processing : node.processing? call = some found) : Turn node call found.process.2.core := by
  cases lifecycle : found.lifecycle with
  | starting =>
      have started : found.process.2 = found.start := by rw [process, lifecycle]
      rw [started, start]
      split
      · rename_i missing
        rw [core_startDiscovery]
        exact .searched processing lifecycle missing
      · rename_i named
        rw [core_goActive]
        exact .activated processing lifecycle named
  | nicknameDiscovery =>
      have running : found.lifecycle.Runs := .inl lifecycle
      rw [process_of_runs running]
      exact turn_takeEvent processing running
  | active =>
      have running : found.lifecycle.Runs := .inr (.inl lifecycle)
      rw [process_of_runs running]
      exact turn_takeEvent processing running
  | idle =>
      have running : found.lifecycle.Runs := .inr (.inr lifecycle)
      rw [process_of_runs running]
      exact turn_takeEvent processing running
  | error fault =>
      have stays : found.process.2 = found := by rw [process, lifecycle]
      rw [stays]
      exact .inert processing (by rw [lifecycle]; rfl)
  | bootLoaderHandoff =>
      have stays : found.process.2 = found := by rw [process, lifecycle]
      rw [stays]
      exact .inert processing (by rw [lifecycle]; rfl)

/-- Every call of the host comes to a turn. -/
theorem turn_serve (node : Node Clock App) (call : HostCall) :
    Turn node call (node.serve call).2.core := by
  cases call with
  | tick elapsed => exact .ticked elapsed
  | process => exact turn_process rfl
  | poll elapsed => exact turn_process (show node.processing? (.poll elapsed) = some _ from rfl)
  | receive event => exact .accessed (.refl _)
  | readRegister page offset => exact .accessed (node.accessed_readRegister page offset)
  | writeRegister page offset value =>
      exact .accessed (node.accessed_writeRegister page offset value)
  | raiseAlarm bits => exact .accessed ⟨rfl, rfl, fun _ _ => rfl⟩
  | restart =>
      change Turn node .restart node.restart.core
      unfold restart
      split
      · exact .accessed (.refl _)
      · rename_i sound
        exact .restarted rfl (Option.not_isSome_iff_eq_none.mp sound)
  | reset =>
      change Turn node .reset node.reset.core
      rw [core_reset]
      exact .reset rfl
  | clearCounters => exact .accessed (.refl _)
  | clearRuleFault => exact .judged .new

theorem lifecycle_of_resetDue {core : NodeCore Clock} (due : core.ResetDue) :
    ¬core.serviceTimers.lifecycle.Runs := by
  rw [(elapsed_of_resetDue due).lifecycle]
  intro running
  unfold NodeCore.reset at running
  split at running
  · rename_i failed
    rcases running with searching | active | idle
    · exact Lifecycle.ne_of_failed failed rfl searching
    · exact Lifecycle.ne_of_failed failed rfl active
    · exact Lifecycle.ne_of_failed failed rfl idle
  · rcases running with searching | active | idle
    · cases searching
    · cases active
    · cases idle

/-- The node with other events waiting for it. -/
def queue (node : Node Clock App) (inbox : List Event) : Node Clock App :=
  { node with transport := { node.transport with inbox } }

/-- The node as it handles an event that left these others in the inbox. -/
def hear (node : Node Clock App) (rest : List Event) : Node Clock App :=
  { node with transport := { node.transport with inbox := rest } }.count fun counters =>
    { counters with rxEvents := Counters.increased counters.rxEvents 1 }

/-- An event is handled as the state of the node says. -/
theorem handle_queue (node : Node Clock App) (event : Event) (rest : List Event) :
    (node.queue rest).handle event =
      match node.lifecycle with
      | .nicknameDiscovery => (node.hear rest).handleDiscovery event
      | .active =>
          if event.classId = Protocol.managementClass then (node.hear rest).handleManagement event
          else (node.hear rest).dispatch event
      | _ => (.ignored, node.hear rest) :=
  rfl

namespace Takes

variable {node ready : Node Clock App} {call : HostCall} {event : Event}

theorem found (takes : node.Takes call event ready) :
    ∃ found, node.processing? call = some found ∧ found.lifecycle.Runs ∧
      ¬found.core.ResetDue ∧ found.serviceTimers = ready := by
  obtain ⟨found, processing, served⟩ := Option.map_eq_some_iff.mp takes.served
  have running : found.core.serviceTimers.lifecycle.Runs := by
    rw [← core_serviceTimers, served]
    exact takes.running
  have early : ¬found.core.ResetDue := fun due => lifecycle_of_resetDue due running
  rw [(elapsed_of_early early).lifecycle] at running
  exact ⟨found, processing, running, early, served⟩

/-- Until a node takes an event, nothing happens to it but that time passes. -/
theorem elapsed (takes : node.Takes call event ready) : Elapsed node.core ready.core := by
  obtain ⟨found, processing, -, early, rfl⟩ := takes.found
  rw [core_serviceTimers]
  exact (elapsed_processing processing).trans (elapsed_of_early early)

/-- A call takes one event at most. -/
theorem unique {other : Event} {found : Node Clock App} (takes : node.Takes call event ready)
    (taken : node.Takes call other found) : event = other := by
  cases takes.served.symm.trans taken.served
  exact Option.some.inj (takes.first.symm.trans taken.first)

/-- A call that takes an event answers how the event was handled. -/
theorem handled (takes : node.Takes call event ready) :
    ∃ rest, ready.transport.inbox = event :: rest ∧
      node.serve call = (.outcome ((ready.queue rest).handle event).1,
        ((ready.queue rest).handle event).2) := by
  obtain ⟨found, processing, running, -, served⟩ := takes.found
  obtain ⟨rest, inbox⟩ := List.head?_eq_some_iff.mp takes.first
  have taken : found.process = (ready.queue rest).handle event := by
    rw [process_of_runs running, served, takeEvent, if_neg takes.running.awake, inbox]
    rfl
  exact ⟨rest, inbox, by rw [answer_of_processing processing, taken]⟩

theorem serve (takes : node.Takes call event ready) :
    ∃ rest, ready.transport.inbox = event :: rest ∧ (node.serve call).2 =
      (match ready.lifecycle with
      | .nicknameDiscovery => (ready.hear rest).handleDiscovery event
      | .active =>
          if event.classId = Protocol.managementClass then
            (ready.hear rest).handleManagement event
          else (ready.hear rest).dispatch event
      | _ => (.ignored, ready.hear rest)).2 := by
  obtain ⟨rest, inbox, handled⟩ := takes.handled
  refine ⟨rest, inbox, ?_⟩
  rw [handled]
  rfl

/-- An active node carries out the command of the event, if it is one. -/
theorem serve_active (takes : node.Takes call event ready) (active : ready.lifecycle = .active)
    {kind : Management} (command : event.Manages kind) :
    ∃ rest, ready.transport.inbox = event :: rest ∧ (node.serve call).2 =
      ((ready.hear rest).activeCommand kind event).2.countManagement := by
  obtain ⟨rest, inbox, served⟩ := takes.serve
  refine ⟨rest, inbox, served.trans ?_⟩
  simp only [active, if_pos command.classId, handleManagement, command.ofTypeId?]

/-- A searching node carries out the command of the event and counts it, if it is one. -/
theorem serve_searching (takes : node.Takes call event ready)
    (searching : ready.lifecycle = .nicknameDiscovery) {kind : Management}
    (command : event.Manages kind) :
    ∃ rest, ready.transport.inbox = event :: rest ∧ (node.serve call).2 =
      if ((ready.hear rest).discoveryCommand kind event).1 then
        ((ready.hear rest).discoveryCommand kind event).2.countManagement
      else ((ready.hear rest).discoveryCommand kind event).2 := by
  obtain ⟨rest, inbox, served⟩ := takes.serve
  refine ⟨rest, inbox, served.trans ?_⟩
  simp only [searching, handleDiscovery, if_pos command.classId, command.ofTypeId?]
  split <;> rfl

end Takes

end Node

end Vscp
