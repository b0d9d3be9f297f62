/-
This file says what every call of the host comes to: what is noted of it, which state it leaves and
what it counts.
-/

import Vscp.Proofs.Account.Serve

namespace Vscp

/-- Events are counted apart from the effects. -/
theorem Counters.foldl_record_with (effects : List Effect) (counters : Counters)
    (rxEvents protocolEvents : Nat) :
    effects.foldl Counters.record { counters with rxEvents, protocolEvents } =
      { effects.foldl Counters.record counters with rxEvents, protocolEvents } := by
  induction effects generalizing counters with
  | nil => rfl
  | cons effect rest ih =>
      have first : ({ counters with rxEvents, protocolEvents } : Counters).record effect =
          { counters.record effect with rxEvents, protocolEvents } := by
        cases effect with
        | frame event accepted => cases accepted <;> rfl
        | logged notice => cases notice <;> rfl
        | _ => rfl
      rw [List.foldl_cons, List.foldl_cons, first]
      exact ih _

namespace Node

variable {Clock App : Type}

/-- From the one node to the other these notes are taken, the counters are those of the effects in
between, and events that are received are counted as told. -/
def Reported (before after : Node Clock App) (rxEvents : Nat) (notes : List Note) : Prop :=
  before.config.priority.toNat < 8 → ∃ added, after.trace = before.trace ++ added ∧
    added.filterMap Effect.note? = notes ∧
    (before.counters.Capped → ∃ protocolEvents, after.counters =
      { added.foldl Counters.record before.counters with rxEvents, protocolEvents })

namespace Reported

variable {node ready after : Node Clock App} {notes later : List Note} {rxEvents : Nat}

theorem of_accounts (accounts : Accounts node after notes) :
    Reported node after node.counters.rxEvents notes := by
  intro low
  obtain ⟨added, grown, noted, counted⟩ := accounts.shown low
  refine ⟨added, grown, noted, fun capped => ⟨node.counters.protocolEvents, ?_⟩⟩
  exact (counted capped).trans (Counters.foldl_record_with added node.counters ..)

/-- An event that is taken is counted before it is handled. -/
theorem of_taken (waited : Accounts node ready notes) {rest : List Event}
    (handled : Accounts (ready.hear rest) after later) :
    Reported node after (Counters.increased node.counters.rxEvents 1) (notes ++ later) := by
  intro low
  obtain ⟨added, grown, noted, counted⟩ := waited.shown low
  obtain ⟨more, onward, also, further⟩ := handled.shown (waited.config ▸ low)
  refine ⟨added ++ more, ?_, ?_, fun capped => ⟨node.counters.protocolEvents, ?_⟩⟩
  · rw [onward, ← List.append_assoc, ← grown]
    rfl
  · rw [List.filterMap_append, noted, also]
  · have before : ready.counters = { added.foldl Counters.record node.counters with
        rxEvents := node.counters.rxEvents
        protocolEvents := node.counters.protocolEvents } :=
      (counted capped).trans (Counters.foldl_record_with added node.counters ..)
    have heard : (ready.hear rest).counters = { added.foldl Counters.record node.counters with
        rxEvents := Counters.increased node.counters.rxEvents 1
        protocolEvents := node.counters.protocolEvents } := by
      change { ready.counters with
        rxEvents := Counters.increased ready.counters.rxEvents 1 } = _
      rw [before]
    have sound : (ready.hear rest).counters.Capped := heard ▸ capped.records added
    rw [further sound, heard, Counters.foldl_record_with, List.foldl_append]

theorem countManagement (reported : Reported node after rxEvents notes) :
    Reported node after.countManagement rxEvents notes := by
  intro low
  obtain ⟨added, grown, noted, counted⟩ := reported low
  refine ⟨added, grown, noted, fun capped => ?_⟩
  obtain ⟨protocolEvents, same⟩ := counted capped
  refine ⟨Counters.increased protocolEvents 1, ?_⟩
  change { after.counters with
    protocolEvents := Counters.increased after.counters.protocolEvents 1 } = _
  rw [same]

end Reported

variable [TimerService Clock] [Application App]

/-- The event that a call takes, with the node that takes it. -/
def taking? (node : Node Clock App) (call : HostCall) : Option (Event × Node Clock App) :=
  ((node.processing? call).map serviceTimers).bind fun ready =>
    if ready.lifecycle.isInert ∨ ready.lifecycle = .starting then none
    else ready.transport.inbox.head?.map (·, ready)

theorem taking?_eq_some_iff {node ready : Node Clock App} {call : HostCall} {event : Event} :
    node.taking? call = some (event, ready) ↔ node.Takes call event ready := by
  unfold taking?
  constructor
  · intro taken
    obtain ⟨found, served, taken⟩ := Option.bind_eq_some_iff.mp taken
    split at taken
    · cases taken
    · rename_i awake
      obtain ⟨first, inbox, same⟩ := Option.map_eq_some_iff.mp taken
      cases same
      exact ⟨served, runs_of_open awake, inbox⟩
  · intro takes
    rw [takes.served, Option.bind_some, if_neg takes.running.awake, takes.first]
    rfl

theorem Takes.runs {node ready : Node Clock App} {call : HostCall} {event : Event}
    (takes : node.Takes call event ready) : node.lifecycle.Runs := by
  have lifecycle : ready.lifecycle = node.lifecycle := takes.elapsed.lifecycle
  exact lifecycle ▸ takes.running

theorem taking?_eq_none {node : Node Clock App} (asleep : ¬node.lifecycle.Runs)
    (call : HostCall) : node.taking? call = none :=
  Option.eq_none_iff_forall_ne_some.mpr fun _ taken =>
    asleep (taking?_eq_some_iff.mp taken).runs

theorem taking?_of_quiet {node : Node Clock App} {call : HostCall}
    (quiet : node.processing? call = none) : node.taking? call = none := by
  rw [taking?, quiet]
  rfl

/-- The events that the node has received after the call, as its counter shows them. -/
def countTaken (node : Node Clock App) (call : HostCall) : Nat :=
  if (node.taking? call).isSome then Counters.increased node.counters.rxEvents 1
  else node.counters.rxEvents

theorem countTaken_of_none {node : Node Clock App} {call : HostCall}
    (idle : node.taking? call = none) : node.countTaken call = node.counters.rxEvents := by
  rw [countTaken, idle]
  rfl

/-- What is noted during a call, and the state that it leaves. -/
inductive Report (node : Node Clock App) (call : HostCall) : Lifecycle → List Note → Prop where
  | aside {next : Lifecycle} (quiet : node.processing? call = none)
      (stays : next = node.lifecycle ∨ next = .starting) : Report node call next []
  | inert {found : Node Clock App} (processing : node.processing? call = some found)
      (inert : node.lifecycle.isInert = true) : Report node call node.lifecycle []
  | searched {found : Node Clock App} (processing : node.processing? call = some found)
      (starting : node.lifecycle = .starting) (missing : node.nickname = Protocol.unassigned) :
      Report node call .nicknameDiscovery Note.search
  | activated {found : Node Clock App} (processing : node.processing? call = some found)
      (starting : node.lifecycle = .starting) (named : node.nickname ≠ Protocol.unassigned) :
      Report node call .active (Note.activation node.nickname)
  | served {found : Node Clock App} {next : Lifecycle}
      (processing : node.processing? call = some found) (running : node.lifecycle.Runs)
      (idle : node.taking? call = none) (stays : next = node.lifecycle ∨ next = .starting) :
      Report node call next found.overdue
  | took {found ready : Node Clock App} {event : Event} {next : Lifecycle} {notes : List Note}
      (processing : node.processing? call = some found) (takes : node.Takes call event ready)
      (response : Response ready event next notes) : Report node call next (found.overdue ++ notes)

variable {node found : Node Clock App} {call : HostCall}

omit [Application App] in
theorem Accounts.processing (processing : node.processing? call = some found) :
    Accounts node found [] := by
  cases call <;> cases processing
  · exact .refl _
  · exact .of_same rfl rfl rfl

theorem lifecycle_serviceTimers_cases (running : found.lifecycle.Runs) :
    found.serviceTimers.lifecycle = found.lifecycle ∨
      found.serviceTimers.lifecycle = .starting := by
  have core : found.serviceTimers.lifecycle = found.core.serviceTimers.lifecycle :=
    congrArg NodeCore.lifecycle found.core_serviceTimers
  rw [core]
  by_cases due : found.core.ResetDue
  · exact .inr (NodeCore.lifecycle_serviceTimers running.sound due)
  · exact .inl (NodeCore.elapsed_of_early due).lifecycle

/-- A running node serves its timers, and then takes an event if there is one. -/
theorem report_of_runs (processing : node.processing? call = some found)
    (running : found.lifecycle.Runs) :
    ∃ notes, Report node call found.process.2.lifecycle notes ∧
      Reported node found.process.2 (node.countTaken call) notes := by
  have lifecycle : found.lifecycle = node.lifecycle := (elapsed_processing processing).lifecycle
  have waited := (Accounts.processing processing).trans (Accounts.serviceTimers found)
  cases taken : node.taking? call with
  | none =>
      have idle : found.process.2 = found.serviceTimers := by
        rw [process_of_runs running]
        rcases takeEvent_cases processing with quiet | ⟨event, ready, rest, takes, -⟩
        · exact quiet
        · cases taken.symm.trans (taking?_eq_some_iff.mpr takes)
      rw [countTaken_of_none taken, idle]
      refine ⟨_, .served processing (lifecycle ▸ running) taken ?_, .of_accounts waited⟩
      rw [← lifecycle]
      exact lifecycle_serviceTimers_cases running
  | some taken' =>
      obtain ⟨event, ready⟩ := taken'
      have takes := taking?_eq_some_iff.mp taken
      obtain ⟨rest, -, served⟩ := takes.handled
      obtain ⟨again, likewise, -, -, same⟩ := takes.found
      cases processing.symm.trans likewise
      obtain ⟨handled, notes, response, accounts, after⟩ := handle_accounts ready event rest
      have counted : node.countTaken call = Counters.increased node.counters.rxEvents 1 := by
        rw [countTaken, taken]
        rfl
      have reported := Reported.of_taken (same ▸ waited) accounts
      rw [← serve_of_processing processing, served, counted]
      rcases after with whole | managed
      · rw [whole]
        exact ⟨_, .took processing takes response, reported⟩
      · rw [managed]
        exact ⟨_, .took processing takes response, reported.countManagement⟩

theorem report_process (processing : node.processing? call = some found) :
    ∃ notes, Report node call found.process.2.lifecycle notes ∧
      Reported node found.process.2 (node.countTaken call) notes := by
  have elapsed := elapsed_processing processing
  have ticked := Accounts.processing processing
  have lifecycle : found.lifecycle = node.lifecycle := elapsed.lifecycle
  have nickname : found.nickname = node.nickname := elapsed.nickname
  by_cases running : found.lifecycle.Runs
  · exact report_of_runs processing running
  · rw [countTaken_of_none (taking?_eq_none (lifecycle ▸ running) call)]
    have inert (stays : found.process = (.inert, found)) (asleep : found.lifecycle.isInert = true) :
        ∃ notes, Report node call found.process.2.lifecycle notes ∧
          Reported node found.process.2 node.counters.rxEvents notes := by
      rw [stays, lifecycle]
      exact ⟨[], .inert processing (lifecycle ▸ asleep), .of_accounts ticked⟩
    cases state : found.lifecycle with
    | starting =>
        have starting : node.lifecycle = .starting := lifecycle.symm.trans state
        have started : found.process.2 = found.start := by rw [process, state]
        rw [started, start]
        split
        · rename_i missing
          have searching : found.startDiscovery.lifecycle = .nicknameDiscovery :=
            congrArg NodeCore.lifecycle (core_startDiscovery _)
          rw [searching]
          exact ⟨_, .searched processing starting (nickname.symm.trans missing),
            .of_accounts (ticked.trans (Accounts.startDiscovery found))⟩
        · rename_i named
          have active : (found.goActive found.nickname).lifecycle = .active :=
            congrArg NodeCore.lifecycle (found.core_goActive found.nickname)
          rw [active, nickname]
          rw [nickname] at named
          exact ⟨_, .activated processing starting named,
            .of_accounts (ticked.trans (Accounts.goActive found _))⟩
    | error fault => exact inert (by rw [process, state]) (by rw [state]; rfl)
    | bootLoaderHandoff => exact inert (by rw [process, state]) (by rw [state]; rfl)
    | nicknameDiscovery => exact absurd (.inl state) running
    | active => exact absurd (.inr (.inl state)) running
    | idle => exact absurd (.inr (.inr state)) running

/-- Every call of the host comes to its report, unless it clears the counters. -/
theorem report_serve (node : Node Clock App) (call : HostCall) (kept : call ≠ .clearCounters) :
    ∃ notes, Report node call (node.serve call).2.lifecycle notes ∧
      Reported node (node.serve call).2 (node.countTaken call) notes := by
  have processed {found : Node Clock App} (processing : node.processing? call = some found) :
      ∃ notes, Report node call (node.serve call).2.lifecycle notes ∧
        Reported node (node.serve call).2 (node.countTaken call) notes := by
    rw [serve_of_processing processing]
    exact report_process processing
  have aside (quiet : node.processing? call = none)
      (accounts : Accounts node (node.serve call).2 [])
      (stays : (node.serve call).2.lifecycle = node.lifecycle ∨
        (node.serve call).2.lifecycle = .starting) :
      ∃ notes, Report node call (node.serve call).2.lifecycle notes ∧
        Reported node (node.serve call).2 (node.countTaken call) notes := by
    rw [countTaken_of_none (taking?_of_quiet quiet)]
    exact ⟨[], .aside quiet stays, .of_accounts accounts⟩
  cases call with
  | tick elapsed => exact aside rfl (.of_same rfl rfl rfl) (.inl rfl)
  | process => exact processed (show node.processing? .process = some node from rfl)
  | poll elapsed =>
      exact processed (show node.processing? (.poll elapsed) = some (node.tick elapsed) from rfl)
  | receive event => exact aside rfl (.of_same rfl rfl rfl) (.inl rfl)
  | readRegister page offset =>
      exact aside rfl (.readRegister node page offset)
        (.inl (node.accessed_readRegister page offset).lifecycle)
  | writeRegister page offset value =>
      exact aside rfl (.writeRegister node page offset value)
        (.inl (node.accessed_writeRegister page offset value).lifecycle)
  | raiseAlarm bits => exact aside rfl (.of_same rfl rfl rfl) (.inl rfl)
  | restart =>
      have restarted : Accounts node node.restart [] ∧
          (node.restart.lifecycle = node.lifecycle ∨ node.restart.lifecycle = .starting) := by
        unfold restart
        split
        · exact ⟨.refl node, .inl rfl⟩
        · exact ⟨(Accounts.log node _ fun _ => rfl).trans (.enter ..), .inr rfl⟩
      exact aside rfl restarted.1 restarted.2
  | reset =>
      refine aside rfl (.reset node) ?_
      have core : (node.serve .reset).2.lifecycle = node.core.reset.lifecycle :=
        congrArg NodeCore.lifecycle node.core_reset
      rw [core]
      unfold NodeCore.reset
      split
      · exact .inl rfl
      · exact .inr rfl
  | clearCounters => exact absurd rfl kept
  | clearRuleFault => exact aside rfl (.of_same rfl rfl rfl) (.inl rfl)

/-- What the node does during a call, in order. -/
def effectsOf (node : Node Clock App) (call : HostCall) : List Effect :=
  (node.serve call).2.trace.drop node.trace.length

/-- What is noted of the node during a call. -/
def notesOf (node : Node Clock App) (call : HostCall) : List Note :=
  (node.effectsOf call).filterMap Effect.note?

theorem effectsOf_eq {added : List Effect}
    (grown : (node.serve call).2.trace = node.trace ++ added) : node.effectsOf call = added := by
  rw [effectsOf, grown, List.drop_left]

/-- What can be seen of the effects can be seen of the notes. -/
theorem filterMap_effectsOf {Kind : Type} {seen : Effect → Option Kind}
    {noted : Note → Option Kind} (same : ∀ effect, seen effect = effect.note?.bind noted)
    (node : Node Clock App) (call : HostCall) :
    (node.effectsOf call).filterMap seen = (node.notesOf call).filterMap noted := by
  rw [notesOf, List.filterMap_filterMap]
  exact congrArg (List.filterMap · (node.effectsOf call)) (funext same)

/-- The trace of a node whose frames can be made only grows, and is reported. -/
theorem noted_serve (low : node.config.priority.toNat < 8) (call : HostCall) :
    Report node call (node.serve call).2.lifecycle (node.notesOf call) ∧
      (node.serve call).2.trace = node.trace ++ node.effectsOf call := by
  by_cases clears : call = .clearCounters
  · subst clears
    have none : (node.serve .clearCounters).2.trace = node.trace ++ [] :=
      (List.append_nil node.trace).symm
    rw [notesOf, effectsOf_eq none]
    exact ⟨.aside rfl (.inl rfl), none⟩
  · obtain ⟨notes, report, reported⟩ := report_serve node call clears
    obtain ⟨added, grown, noted, -⟩ := reported low
    rw [notesOf, effectsOf_eq grown, noted]
    exact ⟨report, grown⟩

/-- What happens during a call is counted, unless the call clears the counters. -/
theorem counters_serve (low : node.config.priority.toNat < 8) (capped : node.counters.Capped)
    (kept : call ≠ .clearCounters) : ∃ protocolEvents, (node.serve call).2.counters =
      { (node.effectsOf call).foldl Counters.record node.counters with
        rxEvents := node.countTaken call
        protocolEvents } := by
  obtain ⟨notes, -, reported⟩ := report_serve node call kept
  obtain ⟨added, grown, -, counted⟩ := reported low
  rw [effectsOf_eq grown]
  exact counted capped

end Node

end Vscp
