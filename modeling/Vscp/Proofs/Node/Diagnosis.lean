/-
This file proves that the counters of a node show, up to their largest value, how often each thing
that they count has happened since they were cleared.
-/

import Vscp.Proofs.Account.Tally

namespace Vscp

instance (event : Event) (kind : Management) : Decidable (event.Manages kind) :=
  decidable_of_iff (event.classId = Protocol.managementClass ∧ event.typeId = kind.typeId)
    ⟨fun both => ⟨both.1, both.2⟩, fun command => ⟨command.classId, command.typeId⟩⟩

/-- What the effect makes the application execute. -/
def Effect.execution? : Effect → Option Call
  | .called (.execute action param event) => some (.execute action param event)
  | _ => none

/-- The origin and payload of a frame that asks for a nickname or announces one. -/
def Effect.online? : Effect → Option (UInt8 × List UInt8)
  | .frame event _ =>
      if event.classId = Protocol.managementClass ∧
          event.typeId = Management.newNodeOnline.typeId then some (event.origin, event.data)
      else none
  | _ => none

namespace Note

def execution? : Note → Option Call
  | .executed action param event => some (.execute action param event)
  | _ => none

def online? : Note → Option (UInt8 × List UInt8)
  | .online origin data => some (origin, data)
  | _ => none

end Note

theorem Effect.online?_eq (effect : Effect) : effect.online? = effect.note?.bind Note.online? := by
  cases effect with
  | frame event accepted =>
      change (if _ then _ else _) = (Note.ofFrame? ..).bind Note.online?
      unfold Note.ofFrame?
      split
      · rfl
      · split <;> rfl
  | called call => cases call <;> rfl
  | logged notice => cases notice <;> rfl
  | _ => rfl

theorem Effect.execution?_eq (effect : Effect) :
    effect.execution? = effect.note?.bind Note.execution? := by
  cases effect with
  | frame event accepted =>
      change none = (Note.ofFrame? ..).bind Note.execution?
      unfold Note.ofFrame?
      split
      · rfl
      · split <;> rfl
  | called call => cases call <;> rfl
  | logged notice => cases notice <;> rfl
  | _ => rfl

namespace Tally

theorem ofNotes_firings (event : Event) (firings : List Firing) :
    ofNotes (firings.flatMap (·.notes event)) = { fired := firings } := by
  induction firings with
  | nil => rfl
  | cons firing rest ih =>
      rw [List.flatMap_cons, ofNotes_append, ih]
      rfl

theorem ofNotes_faults (faults : List RuleFault) :
    ofNotes (faults.map .faulted) = { faults } := by
  induction faults with
  | nil => rfl
  | cons fault rest ih =>
      rw [List.map_cons, ← List.singleton_append, ofNotes_append, ih]
      rfl

theorem ofNotes_hit (event : Event) (hit? : Option RuleHit) :
    ofNotes (hit?.toList.flatMap (·.notes event)) = { hits := hit?.toList } := by
  cases hit? <;> rfl

end Tally

namespace Node

section Events

variable {Clock App : Type}

/-- The event is one for the matrices of an active node. -/
def Judges (node : Node Clock App) (event : Event) : Prop :=
  node.lifecycle = .active ∧ event.classId ≠ Protocol.managementClass

instance (node : Node Clock App) (event : Event) : Decidable (node.Judges event) :=
  inferInstanceAs (Decidable (_ ∧ _))

instance (node : Node Clock App) (event : Event) : Decidable (node.Collides event) :=
  inferInstanceAs (Decidable (_ ∧ _ ∧ _))

/-- The searches that begin when the node comes to the next state, one or none. -/
def begun (node : Node Clock App) (next : Lifecycle) : Nat :=
  if node.lifecycle ≠ .nicknameDiscovery ∧ next = .nicknameDiscovery then 1 else 0

/-- What an event comes to that the node takes, apart from frames and searches. -/
def eventTally (node : Node Clock App) (event : Event) : Tally where
  fired := if node.Judges event then node.firings event else []
  hits := if node.Judges event then (node.hit? event).toList else []
  faults := if node.Judges event then node.faults event else []
  collisions := if node.Collides event then 1 else 0

theorem ofNotes_judgement (node : Node Clock App) (event : Event) :
    Tally.ofNotes (node.judgement event) = {
      fired := node.firings event
      hits := (node.hit? event).toList
      faults := node.faults event } := by
  rw [judgement, Tally.ofNotes_append, Tally.ofNotes_append, Tally.ofNotes_firings,
    Tally.ofNotes_faults, Tally.ofNotes_hit]
  simp [Tally.append_def, Tally.append]

theorem ofNotes_overdue [TimerService Clock] (node : Node Clock App) :
    Tally.ofNotes node.overdue = {} := by
  unfold overdue
  split
  · rfl
  · split <;> rfl

theorem Accounts.Pursuit.tally {next : Lifecycle} {notes : List Note}
    (pursuit : Accounts.Pursuit next notes) : Tally.ofNotes notes = {} := by
  cases pursuit <;> rfl

/-- What rows and rules execute is what fires. -/
theorem executions_judgement (node : Node Clock App) (event : Event) :
    (node.judgement event).filterMap Note.execution? =
      (node.firings event).map (·.call event) ++
        (node.hit? event).toList.map (·.call event) := by
  have rows (firings : List Firing) :
      (firings.flatMap (·.notes event)).filterMap Note.execution? =
        firings.map (·.call event) := by
    rw [List.filterMap_flatMap, List.map_eq_flatMap]
    rfl
  have faults (faults : List RuleFault) :
      (faults.map .faulted).filterMap Note.execution? = [] := by
    rw [List.filterMap_map]
    exact List.filterMap_eq_nil_iff.mpr fun _ _ => rfl
  have rule : ((node.hit? event).toList.flatMap (·.notes event)).filterMap Note.execution? =
      (node.hit? event).toList.map (·.call event) := by
    cases node.hit? event <;> rfl
  rw [judgement, List.filterMap_append, List.filterMap_append, rows, faults, rule]
  rfl

theorem executions_overdue [TimerService Clock] (node : Node Clock App) :
    node.overdue.filterMap Note.execution? = [] := by
  unfold overdue
  split
  · rfl
  · split <;> rfl

/-- Only a searching node probes when its timers run out. -/
theorem online_overdue [TimerService Clock] {node : Node Clock App}
    (awake : node.lifecycle ≠ .nicknameDiscovery) : node.overdue.filterMap Note.online? = [] := by
  unfold overdue
  rw [if_neg fun probing => awake probing.1]
  split <;> rfl

variable {node : Node Clock App} {event : Event} {next : Lifecycle} {notes : List Note}

theorem begun_of_stays (stays : next = node.lifecycle ∨ next = .starting) :
    node.begun next = 0 := by
  refine if_neg ?_
  rintro ⟨awake, searching⟩
  rcases stays with still | starting
  · exact awake (still.symm.trans searching)
  · cases starting.symm.trans searching

/-- What is noted of an event is what it comes to, and whether it begins a search. -/
theorem Response.tally (response : Response node event next notes) :
    Tally.ofNotes notes = { node.eventTally event with searches := node.begun next } := by
  unfold eventTally begun
  cases response with
  | settled managed apart stays =>
      have spared : ¬node.Judges event := fun judges => judges.2 (managed judges.1)
      have calm : ¬(node.lifecycle ≠ .nicknameDiscovery ∧ next = .nicknameDiscovery) := by
        rintro ⟨awake, searching⟩
        rcases stays with still | ⟨-, other⟩
        · exact awake (still.symm.trans searching)
        · exact other searching
      simp only [if_neg spared, if_neg apart, if_neg calm]
      rfl
  | collided collides =>
      have spared : ¬node.Judges event := fun judges => judges.2 collides.2.1.classId
      simp only [if_neg spared, if_pos collides, collides.1]
      rfl
  | moved active managed apart =>
      have spared : ¬node.Judges event := fun judges => judges.2 managed
      simp only [if_neg spared, if_neg apart, active]
      rfl
  | judged active foreign =>
      have judges : node.Judges event := ⟨active, foreign⟩
      have apart : ¬node.Collides event := fun collides => foreign collides.2.1.classId
      simp only [if_pos judges, if_neg apart, ofNotes_judgement, active]
      rfl
  | pursued searching pursuit =>
      have spared : ¬node.Judges event := fun judges => by cases searching.symm.trans judges.1
      have apart : ¬node.Collides event := fun collides => by
        cases searching.symm.trans collides.1
      simp only [if_neg spared, if_neg apart, searching, pursuit.tally]
      rfl

/-- Only what the event fires is executed. -/
theorem Response.executions (response : Response node event next notes) :
    notes.filterMap Note.execution? =
      (node.eventTally event).fired.map (·.call event) ++
        (node.eventTally event).hits.map (·.call event) := by
  unfold eventTally
  cases response with
  | settled managed apart stays =>
      simp only [if_neg (show ¬node.Judges event from fun judges => judges.2 (managed judges.1))]
      rfl
  | collided collides =>
      have spared : ¬node.Judges event := fun judges => judges.2 collides.2.1.classId
      simp only [if_neg spared]
      rfl
  | moved active managed apart =>
      have spared : ¬node.Judges event := fun judges => judges.2 managed
      simp only [if_neg spared]
      rfl
  | judged active foreign =>
      simp only [if_pos (show node.Judges event from ⟨active, foreign⟩)]
      exact executions_judgement node event
  | pursued searching pursuit =>
      have spared : ¬node.Judges event := fun judges => by cases searching.symm.trans judges.1
      simp only [if_neg spared]
      cases pursuit <;> rfl

/-- A search that an event begins asks for the first candidate. -/
theorem Response.probed (response : Response node event next notes) (began : node.begun next = 1) :
    notes.filterMap Note.online? = [(Protocol.unassigned, [Protocol.segmentMaster])] := by
  obtain ⟨awake, searching⟩ : node.lifecycle ≠ .nicknameDiscovery ∧ next = .nicknameDiscovery := by
    by_contra calm
    rw [begun, if_neg calm] at began
    cases began
  cases response with
  | settled managed apart stays =>
      rcases stays with still | ⟨-, other⟩
      · exact absurd (still.symm.trans searching) awake
      · exact absurd searching other
  | collided collides => rfl
  | moved active managed apart => rfl
  | judged active foreign => cases searching
  | pursued before pursuit => exact absurd before awake

end Events

variable {Clock App : Type} [TimerService Clock] [Application App]

/-- What the event comes to that a call takes. -/
def takenTally (node : Node Clock App) (call : HostCall) : Tally :=
  match node.taking? call with
  | none => {}
  | some (event, ready) => ready.eventTally event

/-- What a call comes to: the events that are missing from the inbox afterwards, the frames that the
segment takes and refuses meanwhile, what becomes of an event, and the search that begins. -/
def tallyOf (node : Node Clock App) (call : HostCall) : Tally :=
  let after := (node.serve call).2
  let waiting := node.transport.inbox
  { node.takenTally call with
    received := waiting.take (waiting.length - after.transport.inbox.length)
    sent := (node.effectsOf call).filterMap Effect.taken?
    refused := (node.effectsOf call).filterMap Effect.refused?
    searches := node.begun after.lifecycle }

section Calls

variable {node : Node Clock App} {call : HostCall} {next : Lifecycle} {notes : List Note}

theorem takenTally_of_none (idle : node.taking? call = none) : node.takenTally call = {} := by
  rw [takenTally, idle]

/-- What is noted of a call is what it comes to. -/
theorem Report.tally (report : Report node call next notes) :
    Tally.ofNotes notes = { node.takenTally call with searches := node.begun next } := by
  have asleep (still : ¬node.lifecycle.Runs) : node.takenTally call = {} :=
    takenTally_of_none (taking?_eq_none still call)
  cases report with
  | aside quiet stays =>
      rw [takenTally_of_none (taking?_of_quiet quiet), begun_of_stays stays]
      rfl
  | inert processing inert =>
      rw [asleep fun running => running.awake (.inl inert), begun_of_stays (.inl rfl)]
      rfl
  | searched processing starting missing =>
      rw [asleep fun running => running.awake (.inr starting), begun, starting]
      rfl
  | activated processing starting named =>
      rw [asleep fun running => running.awake (.inr starting), begun, starting]
      rfl
  | served processing running idle stays =>
      rw [takenTally_of_none idle, begun_of_stays stays, ofNotes_overdue]
  | took processing takes response =>
      rename_i found ready event notes
      have lifecycle : ready.lifecycle = node.lifecycle := takes.elapsed.lifecycle
      have begun : ready.begun next = node.begun next := by rw [Node.begun, lifecycle, Node.begun]
      rw [takenTally, taking?_eq_some_iff.mpr takes, Tally.ofNotes_append, ofNotes_overdue,
        Tally.empty_append, response.tally, begun]

/-- Only what an event fires that is taken is executed. -/
theorem Report.executions (report : Report node call next notes) :
    notes.filterMap Note.execution? = ((node.taking? call).map (·.1)).toList.flatMap fun event =>
      (node.takenTally call).fired.map (·.call event) ++
        (node.takenTally call).hits.map (·.call event) := by
  have asleep (still : ¬node.lifecycle.Runs) : node.taking? call = none :=
    taking?_eq_none still call
  cases report with
  | aside quiet stays =>
      rw [taking?_of_quiet quiet]
      rfl
  | inert processing inert =>
      rw [asleep fun running => running.awake (.inl inert)]
      rfl
  | searched processing starting missing =>
      rw [asleep fun running => running.awake (.inr starting)]
      rfl
  | activated processing starting named =>
      rw [asleep fun running => running.awake (.inr starting)]
      rfl
  | served processing running idle stays =>
      rw [idle]
      exact executions_overdue _
  | took processing takes response =>
      rw [takenTally, taking?_eq_some_iff.mpr takes, List.filterMap_append, executions_overdue,
        response.executions]
      exact (List.append_nil _).symm

/-- A search that begins asks for the first candidate, and for no other. -/
theorem Report.probed (report : Report node call next notes) (began : node.begun next = 1) :
    notes.filterMap Note.online? = [(Protocol.unassigned, [Protocol.segmentMaster])] := by
  have stopped (stays : next = node.lifecycle ∨ next = .starting) : False := by
    rw [begun_of_stays stays] at began
    cases began
  cases report with
  | aside quiet stays => exact (stopped stays).elim
  | inert processing inert => exact (stopped (.inl rfl)).elim
  | searched processing starting missing => rfl
  | activated processing starting named =>
      rw [begun, starting] at began
      cases began
  | served processing running idle stays => exact (stopped stays).elim
  | took processing takes response =>
      rename_i found ready event notes
      have lifecycle : ready.lifecycle = node.lifecycle := takes.elapsed.lifecycle
      have before : found.lifecycle = node.lifecycle := (elapsed_processing processing).lifecycle
      have likewise : ready.begun next = 1 := by
        rw [begun, lifecycle]
        exact began
      have awake : found.lifecycle ≠ .nicknameDiscovery := fun searching => by
        rw [begun, ← before, searching] at began
        simp at began
      rw [List.filterMap_append, online_overdue awake, response.probed likewise]
      rfl

/-- A call that processes removes the event that it takes from the inbox, and no other. -/
theorem inbox_of_processing {found : Node Clock App}
    (processing : node.processing? call = some found) :
    node.transport.inbox =
      ((node.taking? call).map (·.1)).toList ++ (node.serve call).2.transport.inbox := by
  cases taken : node.taking? call with
  | some pair =>
      obtain ⟨event, ready⟩ := pair
      have takes := taking?_eq_some_iff.mp taken
      obtain ⟨rest, inbox, served⟩ := takes.handled
      have left : (node.serve call).2.transport.inbox = rest := by
        rw [served]
        exact congrArg Prod.fst (line_handle (ready.queue rest) event)
      rw [left]
      exact (congrArg Prod.fst takes.line).symm.trans inbox
  | none =>
      rw [serve_of_processing processing]
      rcases line_process processing with same | ⟨event, ready, rest, takes, -⟩
      · exact (congrArg Prod.fst same).symm
      · cases taken.symm.trans (taking?_eq_some_iff.mpr takes)

/-- The events that are missing from the inbox after a call are those that the call took. -/
theorem received_tallyOf (node : Node Clock App) (call : HostCall) :
    (node.tallyOf call).received = ((node.taking? call).map (·.1)).toList := by
  have removed : (node.tallyOf call).received = node.transport.inbox.take
      (node.transport.inbox.length - (node.serve call).2.transport.inbox.length) := rfl
  rw [removed]
  cases processing : node.processing? call with
  | some found =>
      rw [inbox_of_processing processing, List.length_append, Nat.add_sub_cancel]
      exact List.take_left
  | none =>
      have kept : node.transport.inbox.length ≤ (node.serve call).2.transport.inbox.length := by
        rcases node.line_serve call with same | ⟨event, same⟩ | ⟨event, ready, rest, takes, -⟩
        · exact Nat.le_of_eq (congrArg (·.1.length) same).symm
        · have inbox : (node.serve call).2.transport.inbox = _ := congrArg Prod.fst same
          rw [inbox, List.length_append]
          exact Nat.le_add_right ..
        · obtain ⟨found, processes, -⟩ := takes.found
          cases processing.symm.trans processes
      rw [taking?_of_quiet processing, Nat.sub_eq_zero_of_le kept]
      rfl

theorem countTaken_eq (node : Node Clock App) (call : HostCall) {count : Nat}
    (shown : node.counters.rxEvents = min count 65535) :
    node.countTaken call = min (count + (node.tallyOf call).received.length) 65535 := by
  rw [countTaken, received_tallyOf, shown]
  cases node.taking? call with
  | none => rfl
  | some taken => exact Counters.increased_min count

/-- The counters go on to show the tally with every call. -/
theorem counters_tallyOf (low : node.config.priority.toNat < 8) {tally : Tally}
    {protocolEvents : Nat} (shown : node.counters = tally.counters protocolEvents)
    (kept : call ≠ .clearCounters) : ∃ protocolEvents,
      (node.serve call).2.counters = (tally ++ node.tallyOf call).counters protocolEvents := by
  have capped : node.counters.Capped := shown ▸ tally.capped_counters protocolEvents
  obtain ⟨counted, after⟩ := counters_serve low capped kept
  have received := node.countTaken_eq call (congrArg Counters.rxEvents shown)
  have noted : Tally.ofNotes ((node.effectsOf call).filterMap Effect.note?) = _ :=
    (noted_serve low call).1.tally
  refine ⟨counted, ?_⟩
  rw [after, received, shown, Tally.foldl_record_counters, Tally.ofEffects, noted]
  simp only [Tally.counters, Tally.append_def, Tally.append, List.length_append]
  rfl

/-- What a call does is accounted for. The trace grows by its effects; a call that processes removes
one event at most, and none before the node has started or when it is inert; it executes what fires
on that event; and a search begins once at most, with one probe, for the first candidate. -/
structure AccountsFor (node : Node Clock App) (call : HostCall) : Prop where
  grown : (node.serve call).2.trace = node.trace ++ node.effectsOf call
  removed {found : Node Clock App} (processing : node.processing? call = some found) :
    node.transport.inbox = (node.tallyOf call).received ++ (node.serve call).2.transport.inbox
  single : (node.tallyOf call).received.length ≤ 1
  closed : node.lifecycle = .starting ∨ node.lifecycle.isInert = true →
    (node.tallyOf call).received = []
  executed : (node.effectsOf call).filterMap Effect.execution? =
    (node.tallyOf call).received.flatMap fun event =>
      (node.tallyOf call).fired.map (·.call event) ++ (node.tallyOf call).hits.map (·.call event)
  probed : (node.tallyOf call).searches = 0 ∨ (node.tallyOf call).searches = 1 ∧
    (node.effectsOf call).filterMap Effect.online? =
      [(Protocol.unassigned, [Protocol.segmentMaster])]

theorem accountsFor (low : node.config.priority.toNat < 8) (call : HostCall) :
    AccountsFor node call := by
  obtain ⟨report, grown⟩ := noted_serve low call
  have received := node.received_tallyOf call
  refine ⟨grown, fun processing => ?_, ?_, fun closed => ?_, ?_, ?_⟩
  · rw [received]
    exact inbox_of_processing processing
  · rw [received]
    cases node.taking? call <;> simp
  · have idle : node.taking? call = none :=
      taking?_eq_none (fun running => running.awake closed.symm) call
    rw [received, idle]
    rfl
  · rw [received, filterMap_effectsOf Effect.execution?_eq]
    exact report.executions
  · by_cases began : node.begun (node.serve call).2.lifecycle = 1
    · refine .inr ⟨began, ?_⟩
      rw [filterMap_effectsOf Effect.online?_eq]
      exact report.probed began
    · left
      change node.begun _ = 0
      unfold begun at began ⊢
      split at began
      · exact absurd rfl began
      · rename_i calm
        exact if_neg calm

end Calls

section Runs

variable {node : Node Clock App}

/-- What the acts of the host come to, from the first to the last. -/
def tallyAll : List (HostAct Clock App) → Node Clock App → Tally
  | [], _ => {}
  | .call call :: rest, node => node.tallyOf call ++ tallyAll rest (node.serve call).2
  | .surround store transport clock app :: rest, node =>
      tallyAll rest { node with store, transport, clock, app }

/-- While the counters are not cleared, they go on to show the tally. -/
theorem counters_undergoAll {acts : List (HostAct Clock App)}
    (low : node.config.priority.toNat < 8) (kept : ∀ act ∈ acts, act ≠ .call .clearCounters)
    {tally : Tally} {protocolEvents : Nat}
    (shown : node.counters = tally.counters protocolEvents) : ∃ protocolEvents,
      (undergoAll acts node).counters = (tally ++ tallyAll acts node).counters protocolEvents := by
  induction acts generalizing node tally protocolEvents with
  | nil => exact ⟨protocolEvents, by rw [tallyAll, Tally.append_empty]; exact shown⟩
  | cons act rest ih =>
      have later : ∀ other ∈ rest, other ≠ .call .clearCounters := fun other within =>
        kept other (List.mem_cons_of_mem _ within)
      cases act with
      | surround store transport clock app =>
          let moved := { node with store, transport, clock, app }
          have still : moved.counters = tally.counters protocolEvents := shown
          exact ih (show moved.config.priority.toNat < 8 from low) later still
      | call call =>
          have counted : call ≠ .clearCounters := fun clears =>
            kept _ List.mem_cons_self (congrArg HostAct.call clears)
          obtain ⟨_, after⟩ := counters_tallyOf low shown counted
          have onward := ih ((node.config_serve call).symm ▸ low) later after
          rw [tallyAll, ← Tally.append_assoc]
          exact onward

/-- After any acts of its host the counters of a node show, each up to its largest value, what has
happened since they were cleared or the node was built, and the fault that they name is the latest.
Every call that came before is accounted for. -/
theorem counters_show_occurrences {config : Config} {store : Store} {transport : Transport}
    {clock : Clock} {app : App} (built : build config store transport clock app = .ok node)
    (acts : List (HostAct Clock App)) :
    (∀ earlier later, acts = earlier ++ later →
      (earlier = [] ∨ ∃ before, earlier = before ++ [.call .clearCounters]) →
      (∀ act ∈ later, act ≠ .call .clearCounters) →
      let tally := tallyAll later (undergoAll earlier node)
      let counters := (undergoAll acts node).counters
      counters.rxEvents = min tally.received.length 65535 ∧
      counters.txEvents = min tally.sent.length 65535 ∧
      counters.txDropped = min tally.refused.length 65535 ∧
      counters.matrixActions = min tally.fired.length 65535 ∧
      counters.ruleActions = min tally.hits.length 65535 ∧
      counters.ruleFaults = min tally.faults.length 65535 ∧
      counters.lastRuleFault = tally.faults.getLast? ∧
      counters.nicknameCollisions = min tally.collisions 65535 ∧
      counters.discoveryRestarts = min tally.searches 65535) ∧
    ∀ earlier call later, acts = earlier ++ .call call :: later →
      AccountsFor (undergoAll earlier node) call := by
  have low := Config.priority_lt (fresh_build built).checked
  have always (earlier : List (HostAct Clock App)) :
      (undergoAll earlier node).config.priority.toNat < 8 :=
    (config_reached built earlier).symm ▸ low
  constructor
  · rintro earlier later rfl cleared kept
    have empty : (undergoAll earlier node).counters = Tally.counters {} 0 := by
      rcases cleared with rfl | ⟨before, rfl⟩
      · obtain ⟨_, -, rfl⟩ := map_eq_ok_iff.mp built
        dsimp only
        split <;> rfl
      · rw [undergoAll_concat]
        rfl
    obtain ⟨protocolEvents, shown⟩ := counters_undergoAll (always earlier) kept empty
    rw [Tally.empty_append] at shown
    intro tally counters
    have whole : counters = tally.counters protocolEvents := by
      rw [← shown]
      exact congrArg Node.counters (List.foldl_append ..)
    rw [whole]
    exact ⟨rfl, rfl, rfl, rfl, rfl, rfl, rfl, rfl, rfl⟩
  · intro earlier call later _
    exact accountsFor (always earlier) call

/-- The counters are cleared after one event, and another comes. -/
def clearedActs : List (HostAct SoftTimers SilentApplication) :=
  lampActs ++ [.call .process, .call .clearCounters]

def countedActs : List (HostAct SoftTimers SilentApplication) :=
  [.call (.receive lampEvent), .call .process]

theorem lamp_counts_since_cleared :
    let counters := (undergoAll (clearedActs ++ countedActs) lampNode).counters
    counters.rxEvents = 1 ∧ counters.matrixActions = 1 ∧ counters.ruleActions = 1 ∧
      (undergoAll lampActs lampNode).AccountsFor .process := by
  have built : build lampConfig lampStore .open (SoftTimers.empty 4) SilentApplication.mk =
      .ok lampNode := rfl
  obtain ⟨shown, accounted⟩ := counters_show_occurrences built (clearedActs ++ countedActs)
  obtain ⟨received, -, -, fired, hits, -⟩ := shown clearedActs countedActs rfl
    (.inr ⟨lampActs ++ [.call .process], rfl⟩) (by simp [countedActs])
  refine ⟨?_, ?_, ?_, accounted lampActs .process _ rfl⟩
  · exact received.trans (by decide +kernel)
  · exact fired.trans (by decide +kernel)
  · exact hits.trans (by decide +kernel)

end Runs

end Node

end Vscp
