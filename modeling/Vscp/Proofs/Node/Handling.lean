/-
This file proves what the counter of management events shows: the events that a node handles, and
those of a known type that an active node ignores.
-/

import Vscp.Proofs.Node.Diagnosis
import Vscp.Proofs.Node.Epoch
import Vscp.Proofs.Node.Ignored

namespace Vscp

/-- No effect counts as a management event. -/
theorem Counters.protocolEvents_records (effects : List Effect) (counters : Counters) :
    (effects.foldl Counters.record counters).protocolEvents = counters.protocolEvents := by
  have kept := foldl_record_with effects counters counters.rxEvents counters.protocolEvents
  exact (congrArg Counters.protocolEvents kept :)

def Outcome.isManagement : Outcome → Bool
  | .management _ => true
  | _ => false

namespace Node

section Events

variable {Clock App : Type}

/-- What is noted of a node leaves the count of management events alone. -/
theorem Accounts.protocolEvents {before after : Node Clock App} {notes : List Note}
    (accounts : Accounts before after notes) (low : before.config.priority.toNat < 8)
    (capped : before.counters.Capped) :
    after.counters.protocolEvents = before.counters.protocolEvents := by
  obtain ⟨added, -, -, counted⟩ := accounts.shown low
  rw [counted capped, Counters.protocolEvents_records]

theorem Accounts.capped {before after : Node Clock App} {notes : List Note}
    (accounts : Accounts before after notes) (low : before.config.priority.toNat < 8)
    (capped : before.counters.Capped) : after.counters.Capped := by
  obtain ⟨added, -, -, counted⟩ := accounts.shown low
  exact counted capped ▸ capped.records added

/-- An active node ignores an event of the management class whose type it knows. -/
def Disregards (ready : Node Clock App) (event : Event) (outcome : Outcome) : Prop :=
  ready.lifecycle = .active ∧ event.classId = Protocol.managementClass ∧
    (Management.ofTypeId? event.typeId).isSome = true ∧ outcome = .ignored

instance (ready : Node Clock App) (event : Event) (outcome : Outcome) :
    Decidable (ready.Disregards event outcome) :=
  inferInstanceAs (Decidable (_ ∧ _ ∧ _ ∧ _))

/-- The count of management events after an event with this outcome. -/
def countAfter (ready : Node Clock App) (event : Event) (outcome : Outcome) : Nat :=
  if outcome.isManagement = true ∨ ready.Disregards event outcome then
    Counters.increased ready.counters.protocolEvents 1
  else ready.counters.protocolEvents

variable {ready handled : Node Clock App} {event : Event} {rest : List Event} {notes : List Note}

theorem countAfter_of_handled (low : ready.config.priority.toNat < 8)
    (capped : ready.counters.Capped) (accounts : Accounts (ready.hear rest) handled notes)
    (typeId : UInt8) :
    handled.countManagement.counters.protocolEvents =
      ready.countAfter event (.management typeId) := by
  have same : handled.counters.protocolEvents = ready.counters.protocolEvents :=
    accounts.protocolEvents low capped
  rw [countAfter, if_pos (.inl rfl), ← same]
  rfl

theorem countAfter_of_ignored (uncounted : ¬ready.Disregards event .ignored) :
    ready.counters.protocolEvents = ready.countAfter event .ignored := by
  rw [countAfter, if_neg]
  rintro (⟨⟨⟩⟩ | disregarded)
  exact uncounted disregarded

variable [TimerService Clock] [Application App]

/-- Handling an event counts exactly if it is a management event that the node handles, or one of a
known type that an active node ignores. -/
theorem protocolEvents_handle (low : ready.config.priority.toNat < 8)
    (capped : ready.counters.Capped) (event : Event) (rest : List Event) :
    ((ready.queue rest).handle event).2.counters.protocolEvents =
      ready.countAfter event ((ready.queue rest).handle event).1 := by
  rw [handle_queue]
  split
  · rename_i searching
    have still : (ready.hear rest).lifecycle = .nicknameDiscovery := searching
    have calm : ¬ready.Disregards event .ignored := fun disregarded => by
      cases searching.symm.trans disregarded.1
    rcases (ready.hear rest).handleDiscovery_cases event with
      ⟨kind, handled, -, acted, answer⟩ | ⟨-, answer⟩
    · obtain ⟨notes, -, accounts⟩ := Accounts.discoveryCommand still acted
      rw [answer]
      exact countAfter_of_handled low capped accounts event.typeId
    · rw [answer]
      exact countAfter_of_ignored calm
  · rename_i active
    split
    · rename_i management
      rcases (ready.hear rest).handleManagement_cases event with
        ⟨unknown, answer⟩ | ⟨kind, known, ⟨handled, acted, answer⟩ | ⟨-, answer⟩⟩
      · rw [answer]
        refine countAfter_of_ignored fun disregarded => ?_
        rw [Disregards, unknown] at disregarded
        cases disregarded.2.2.1
      · have command : event.Manages kind :=
          ⟨management, Management.ofTypeId?_eq_some_iff.mp known⟩
        obtain ⟨notes, -, accounts⟩ := response_of_command active command rest acted
        rw [answer]
        exact countAfter_of_handled low capped accounts event.typeId
      · have disregarded : ready.Disregards event .ignored :=
          ⟨active, management, by rw [known]; rfl, rfl⟩
        rw [answer, countAfter, if_pos (.inr disregarded)]
        rfl
    · have heard : (ready.hear rest).config.priority.toNat < 8 := low
      have same := (Accounts.dispatch (ready.hear rest) event).protocolEvents heard capped
      rw [same, countAfter, if_neg]
      · rfl
      · rintro (⟨⟨⟩⟩ | ⟨-, -, -, ⟨⟩⟩)
  · rename_i others
    exact countAfter_of_ignored fun disregarded => others disregarded.1

end Events

variable {Clock App : Type} [TimerService Clock] [Application App]

section Calls

/-- The call answers that the node handled a management event. -/
def handles (node : Node Clock App) (call : HostCall) : Bool :=
  match (node.serve call).1 with
  | .outcome outcome => outcome.isManagement
  | _ => false

/-- The call answers that the node ignored an event, and the node was active and knows the type of
the event. -/
def disregards (node : Node Clock App) (call : HostCall) : Bool :=
  match node.taking? call, (node.serve call).1 with
  | some (event, ready), .outcome outcome => ready.Disregards event outcome
  | _, _ => false

variable {node found ready : Node Clock App} {call : HostCall} {event : Event}

/-- Without an event a node that processes handles none, and is noted to do what it does. -/
theorem process_of_untaken (processing : node.processing? call = some found)
    (idle : node.taking? call = none) :
    found.process.1.isManagement = false ∧ ∃ notes, Accounts found found.process.2 notes := by
  by_cases running : found.lifecycle.Runs
  · have still : found.serviceTimers.takeEvent = (.noEvent, found.serviceTimers) := by
      rw [taking?, processing, Option.map_some, Option.bind_some] at idle
      unfold takeEvent
      split
      · rfl
      · rename_i awake
        rw [if_neg awake] at idle
        split
        · rfl
        · rename_i inbox
          rw [inbox] at idle
          cases idle
    rw [process_of_runs running, still]
    exact ⟨rfl, _, Accounts.serviceTimers found⟩
  · unfold process
    split
    · exact ⟨rfl, [], .refl found⟩
    · exact ⟨rfl, [], .refl found⟩
    · refine ⟨rfl, ?_⟩
      unfold start
      split
      · exact ⟨_, Accounts.startDiscovery found⟩
      · exact ⟨_, Accounts.goActive found _⟩
    · rename_i searching
      exact absurd (.inl searching) running
    · rename_i active
      exact absurd (.inr (.inl active)) running
    · rename_i parked
      exact absurd (.inr (.inr parked)) running

/-- So does every other call without an event, unless it clears the counters. -/
theorem serve_of_untaken (kept : call ≠ .clearCounters) (idle : node.taking? call = none) :
    node.handles call = false ∧ ∃ notes, Accounts node (node.serve call).2 notes := by
  have processed {found : Node Clock App} (processing : node.processing? call = some found) :
      node.handles call = false ∧ ∃ notes, Accounts node (node.serve call).2 notes := by
    obtain ⟨silent, notes, accounts⟩ := process_of_untaken processing idle
    rw [handles, answer_of_processing processing]
    exact ⟨silent, _, (Accounts.processing processing).trans accounts⟩
  cases call with
  | process => exact processed (show node.processing? .process = some node from rfl)
  | poll elapsed =>
      exact processed (show node.processing? (.poll elapsed) = some (node.tick elapsed) from rfl)
  | readRegister page offset => exact ⟨rfl, [], .readRegister node page offset⟩
  | writeRegister page offset value => exact ⟨rfl, [], .writeRegister node page offset value⟩
  | restart =>
      refine ⟨rfl, ?_⟩
      change ∃ notes, Accounts node node.restart notes
      unfold restart
      split
      · exact ⟨[], .refl node⟩
      · exact ⟨_, (Accounts.log node _ fun _ => rfl).trans (.enter ..)⟩
  | reset => exact ⟨rfl, [], .reset node⟩
  | clearCounters => exact absurd rfl kept
  | _ => exact ⟨rfl, [], .of_same rfl rfl rfl⟩

/-- A call counts one management event if it handles or disregards one, and none otherwise. -/
theorem protocolEvents_serve (low : node.config.priority.toNat < 8)
    (capped : node.counters.Capped) (kept : call ≠ .clearCounters) :
    (node.serve call).2.counters.protocolEvents =
      if node.handles call = true ∨ node.disregards call = true then
        Counters.increased node.counters.protocolEvents 1
      else node.counters.protocolEvents := by
  cases taken : node.taking? call with
  | none =>
      obtain ⟨silent, notes, accounts⟩ := serve_of_untaken kept taken
      rw [accounts.protocolEvents low capped, silent, disregards, taken, if_neg (by simp)]
  | some pair =>
      obtain ⟨event, ready⟩ := pair
      have takes := taking?_eq_some_iff.mp taken
      obtain ⟨rest, -, served⟩ := takes.handled
      obtain ⟨found, processing, -, -, rfl⟩ := takes.found
      have waited := (Accounts.processing processing).trans (Accounts.serviceTimers found)
      have counted := protocolEvents_handle (waited.config ▸ low) (waited.capped low capped)
        event rest
      rw [handles, disregards, taken, served, counted, countAfter,
        waited.protocolEvents low capped]
      simp only [decide_eq_true_eq]

theorem capped_serve (low : node.config.priority.toNat < 8) (capped : node.counters.Capped)
    (call : HostCall) : (node.serve call).2.counters.Capped := by
  by_cases clears : call = .clearCounters
  · subst clears
    exact Nat.zero_le _
  · obtain ⟨protocolEvents, counted⟩ := counters_serve low capped clears
    rw [counted]
    exact capped.records (node.effectsOf call)

omit [TimerService Clock] [Application App] in
/-- Why an event is declined depends on the nickname and the sessions only. -/
theorem Declines.of_same {other : Node Clock App} {kind : Management}
    (declined : node.Declines event kind) (nickname : other.nickname = node.nickname)
    (sessions : other.sessions = node.sessions) : other.Declines event kind := by
  have addressed : other.isAddressed event = node.isAddressed event := by
    rw [isAddressed, isAddressed, nickname]
  cases declined with
  | answer directed answers => exact .answer directed answers
  | unaddressed directed foreign => exact .unaddressed directed (addressed.trans foreign)
  | short needs short => exact .short needs short
  | outOfRange given high => exact .outOfRange given high
  | foreignAck foreign => exact .foreignAck (nickname ▸ foreign)
  | unplaced unplaced => exact .unplaced (sessions ▸ unplaced)
  | unasked unasked => exact .unasked (nickname ▸ unasked)

/-- An active node disregards the management events that it declines. -/
theorem disregards_iff : node.disregards call = true ↔
    ∃ event ready kind, node.Takes call event ready ∧ ready.lifecycle = .active ∧
      event.Manages kind ∧ ready.Declines event kind := by
  constructor
  · intro disregarded
    unfold disregards at disregarded
    cases taken : node.taking? call with
    | none => simp [taken] at disregarded
    | some pair =>
        obtain ⟨event, ready⟩ := pair
        have takes := taking?_eq_some_iff.mp taken
        obtain ⟨rest, -, served⟩ := takes.handled
        simp only [taken, served, decide_eq_true_eq] at disregarded
        obtain ⟨active, management, known, ignored⟩ := disregarded
        obtain ⟨kind, known⟩ := Option.isSome_iff_exists.mp known
        have typeId := Management.ofTypeId?_eq_some_iff.mp known
        rw [handle_queue, active] at ignored
        simp only [if_pos management] at ignored
        have declined := handleManagement_ignored_iff.mp ignored kind typeId
        exact ⟨event, ready, kind, takes, active, ⟨management, typeId⟩, declined.of_same rfl rfl⟩
  · rintro ⟨event, ready, kind, takes, active, command, declined⟩
    obtain ⟨rest, -, served⟩ := takes.handled
    have unmoved : ((ready.hear rest).activeCommand kind event).1 = false :=
      activeCommand_declined_iff.mpr (declined.of_same rfl rfl)
    have ignored : ((ready.queue rest).handle event).1 = .ignored := by
      rw [handle_queue, active]
      simp [command.classId, handleManagement, command.ofTypeId?, unmoved]
    unfold disregards
    simp only [taking?_eq_some_iff.mpr takes, served, decide_eq_true_eq]
    exact ⟨active, command.classId, by rw [command.ofTypeId?]; rfl, ignored⟩

end Calls

section Runs

/-- How many calls of the host are counted. -/
def countCalls (counted : Node Clock App → HostCall → Bool) :
    List (HostAct Clock App) → Node Clock App → Nat
  | [], _ => 0
  | .call call :: rest, node =>
      (counted node call).toNat + countCalls counted rest (node.serve call).2
  | .surround store transport clock app :: rest, node =>
      countCalls counted rest { node with store, transport, clock, app }

variable {node : Node Clock App}

/-- No call both handles an event and disregards it. -/
theorem not_disregards_of_handles {call : HostCall} (handled : node.handles call = true) :
    node.disregards call = false := by
  unfold handles at handled
  unfold disregards
  generalize (node.serve call).1 = answer at handled ⊢
  cases answer with
  | outcome outcome =>
      cases node.taking? call with
      | none => rfl
      | some pair =>
          refine decide_eq_false fun disregarded => ?_
          rw [disregarded.2.2.2] at handled
          cases handled
  | _ => cases handled

theorem protocolEvents_serve_min (low : node.config.priority.toNat < 8)
    (capped : node.counters.Capped) {call : HostCall} (kept : call ≠ .clearCounters) {count : Nat}
    (shown : node.counters.protocolEvents = min count 65535) :
    (node.serve call).2.counters.protocolEvents =
      min (count + ((node.handles call).toNat + (node.disregards call).toNat)) 65535 := by
  rw [protocolEvents_serve low capped kept, shown, Counters.increased_min]
  cases handled : node.handles call with
  | true => rw [not_disregards_of_handles handled]; rfl
  | false => cases node.disregards call <;> rfl

/-- While the counters are not cleared, the counter goes on to show the events that are handled and
those that are disregarded. -/
theorem protocolEvents_undergoAll {acts : List (HostAct Clock App)}
    (low : node.config.priority.toNat < 8) (capped : node.counters.Capped)
    (kept : ∀ act ∈ acts, act ≠ .call .clearCounters) {count : Nat}
    (shown : node.counters.protocolEvents = min count 65535) :
    (undergoAll acts node).counters.protocolEvents =
      min (count + (countCalls handles acts node + countCalls disregards acts node)) 65535 := by
  induction acts generalizing node count with
  | nil => exact shown
  | cons act rest ih =>
      have later : ∀ other ∈ rest, other ≠ .call .clearCounters := fun other within =>
        kept other (List.mem_cons_of_mem _ within)
      cases act with
      | surround store transport clock app =>
          let moved := { node with store, transport, clock, app }
          exact ih (show moved.config.priority.toNat < 8 from low) capped later shown
      | call call =>
          have counted : call ≠ .clearCounters := fun clears =>
            kept _ List.mem_cons_self (congrArg HostAct.call clears)
          have onward := ih ((node.config_serve call).symm ▸ low) (capped_serve low capped call)
            later (protocolEvents_serve_min low capped counted shown)
          refine onward.trans (congrArg (min · 65535) ?_)
          rw [countCalls, countCalls]
          omega

theorem capped_undergoAll (low : node.config.priority.toNat < 8) (capped : node.counters.Capped)
    (acts : List (HostAct Clock App)) : (undergoAll acts node).counters.Capped := by
  induction acts generalizing node with
  | nil => exact capped
  | cons act rest ih =>
      cases act with
      | surround store transport clock app =>
          let moved := { node with store, transport, clock, app }
          exact ih (show moved.config.priority.toNat < 8 from low) capped
      | call call => exact ih ((node.config_serve call).symm ▸ low) (capped_serve low capped call)

/-- After any acts of its host a node shows, up to the largest value of the counter, how many
management events it handled since its counters were cleared or it was built, and how many it
disregarded: the latter are the events that an active node declines. Events of an unknown type and
those that a searching node ignores do not count. -/
theorem protocol_events_count_known_commands {config : Config} {store : Store}
    {transport : Transport} {clock : Clock} {app : App}
    (built : build config store transport clock app = .ok node)
    (acts : List (HostAct Clock App)) :
    (∀ earlier later, acts = earlier ++ later →
      (earlier = [] ∨ ∃ before, earlier = before ++ [.call .clearCounters]) →
      (∀ act ∈ later, act ≠ .call .clearCounters) →
      let cleared := undergoAll earlier node
      let shown := (undergoAll acts node).counters.protocolEvents
      shown = min (countCalls handles later cleared + countCalls disregards later cleared) 65535 ∧
      (countCalls disregards later cleared = 0 →
        shown = min (countCalls handles later cleared) 65535)) ∧
    ∀ call, (undergoAll acts node).disregards call = true ↔
      ∃ event ready kind, (undergoAll acts node).Takes call event ready ∧
        ready.lifecycle = .active ∧ event.Manages kind ∧ ready.Declines event kind := by
  have low := Config.priority_lt (fresh_build built).checked
  have always (earlier : List (HostAct Clock App)) :
      (undergoAll earlier node).config.priority.toNat < 8 :=
    (config_reached built earlier).symm ▸ low
  have fresh : node.counters = {} := by
    obtain ⟨_, -, rfl⟩ := map_eq_ok_iff.mp built
    dsimp only
    split <;> rfl
  have capped : node.counters.Capped := fresh ▸ Nat.zero_le _
  refine ⟨?_, fun call => disregards_iff⟩
  rintro earlier later rfl begins kept
  have none : (undergoAll earlier node).counters.protocolEvents = min 0 65535 := by
    rcases begins with rfl | ⟨before, rfl⟩
    · exact congrArg Counters.protocolEvents fresh
    · rw [undergoAll_concat]
      rfl
  have shown := protocolEvents_undergoAll (always earlier)
    (capped_undergoAll (always []) capped earlier) kept none
  rw [Nat.zero_add] at shown
  have whole : undergoAll (earlier ++ later) node = undergoAll later (undergoAll earlier node) :=
    List.foldl_append ..
  intro cleared count
  have counted : count = _ := (congrArg (·.counters.protocolEvents) whole).trans shown
  refine ⟨counted, fun calm => ?_⟩
  rw [counted, calm, Nat.add_zero]

/-- A request for register 0 of the node with this nickname. -/
def readEvent (nickname : UInt8) : Event :=
  { Event.new 0 9 0 with data := [nickname, 0], dataWithin := by simp }

def readActs (nickname : UInt8) : List (HostAct SoftTimers SilentApplication) :=
  [.call (.receive (readEvent nickname)), .call .process]

def settlingActs : List (HostAct SoftTimers SilentApplication) :=
  [.call .process, .call .clearCounters]

/-- The lamp handles a request and disregards one for another node. -/
theorem lamp_counts_foreign_request :
    let acts := settlingActs ++ (readActs 0x10 ++ readActs 0x20)
    let cleared := undergoAll settlingActs lampNode
    countCalls handles (readActs 0x10 ++ readActs 0x20) cleared = 1 ∧
      countCalls disregards (readActs 0x10 ++ readActs 0x20) cleared = 1 ∧
      (undergoAll acts lampNode).counters.protocolEvents = 2 := by
  have built : build lampConfig lampStore .open (SoftTimers.empty 4) SilentApplication.mk =
      .ok lampNode := rfl
  obtain ⟨shown, -⟩ := protocol_events_count_known_commands built
    (settlingActs ++ (readActs 0x10 ++ readActs 0x20))
  obtain ⟨counted, -⟩ := shown settlingActs (readActs 0x10 ++ readActs 0x20) rfl
    (.inr ⟨[.call .process], rfl⟩) (by simp [readActs])
  refine ⟨by decide +kernel, by decide +kernel, counted.trans ?_⟩
  decide +kernel

/-- A request for another node is ignored, but counts. -/
theorem foreign_request_counted :
    ¬∀ (config : Config) (store : Store) (transport : Transport) (clock : SoftTimers)
      (app : SilentApplication) (node : Node SoftTimers SilentApplication)
      (acts earlier later : List (HostAct SoftTimers SilentApplication)),
      build config store transport clock app = .ok node → acts = earlier ++ later →
        (earlier = [] ∨ ∃ before, earlier = before ++ [.call .clearCounters]) →
        (∀ act ∈ later, act ≠ .call .clearCounters) →
        (undergoAll acts node).counters.protocolEvents =
          min (countCalls handles later (undergoAll earlier node)) 65535 := by
  intro counts
  have built : build {} settledStore .open (SoftTimers.empty 4) SilentApplication.mk =
      .ok settledNode := rfl
  have same := counts _ _ _ _ _ _ _ [] (.call .process :: readActs 0x20) built rfl (.inl rfl)
    (by simp [readActs])
  exact absurd same (by decide +kernel)

end Runs

end Node

end Vscp
