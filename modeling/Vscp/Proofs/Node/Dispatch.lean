/-
This file proves what an active node does on an application event: it carries out what its pages
show, tells the application and changes nothing else.
-/

import Vscp.Proofs.Node.Window

namespace Vscp

/-- What the effect tells the application. -/
def Effect.call? : Effect → Option Call
  | .called call => some call
  | _ => none

/-- The effect touches neither the store nor the timers nor the segment. -/
def Effect.IsTelling : Effect → Prop
  | .called _ | .logged _ => True
  | _ => False

def Firing.call (event : Event) (firing : Firing) : Call :=
  .execute firing.action firing.param event

def RuleHit.call (event : Event) (hit : RuleHit) : Call :=
  .execute hit.action hit.param event

namespace Node

variable {Clock App : Type}

/-- The rows that fire on the event. -/
def firings (node : Node Clock App) (event : Event) : List Firing :=
  Firing.all (node.matrix.map (·.1)) (node.matrix.map (·.2)) event
    ⟨node.config.zone, node.config.subZone⟩

/-- The rule that fires on the event, if the node has rules. -/
def hit? (node : Node Clock App) (event : Event) : Option RuleHit :=
  if node.config.rulesEnabled then (node.engine.evaluate node.ruleset event).1.hit else none

/-- What the event makes the application execute. -/
def executions (node : Node Clock App) (event : Event) : List Call :=
  (node.firings event).map (·.call event) ++ (node.hit? event).toList.map (·.call event)

theorem executions_ne_nil_iff (node : Node Clock App) (event : Event) :
    node.executions event ≠ [] ↔
      0 < (node.firings event).length ∨ (node.hit? event).isSome = true := by
  unfold executions
  cases node.firings event with
  | nil => cases node.hit? event <;> simp
  | cons firing rest => simp

variable [Application App]

/-- From the one node to the other the application is told these calls, and nothing else happens to
the surroundings. -/
structure Notifies (before after : Node Clock App) (calls : List Call) : Prop where
  app : after.app = calls.foldl Application.notify before.app
  transport : after.transport = before.transport
  trace : ∃ added, after.trace = before.trace ++ added ∧
    added.filterMap Effect.call? = calls ∧ ∀ effect ∈ added, effect.IsTelling

namespace Notifies

variable {first second third : Node Clock App} {calls later : List Call}

/-- What the application cannot see may change unnoticed. -/
theorem of_same (app : second.app = first.app) (transport : second.transport = first.transport)
    (trace : second.trace = first.trace) : Notifies first second [] :=
  ⟨app, transport, [], trace.trans (List.append_nil _).symm, rfl, fun _ none => by cases none⟩

theorem refl (node : Node Clock App) : Notifies node node [] :=
  .of_same rfl rfl rfl

theorem trans (left : Notifies first second calls) (right : Notifies second third later) :
    Notifies first third (calls ++ later) where
  app := by
    rw [right.app, left.app, List.foldl_append]
  transport := right.transport.trans left.transport
  trace := by
    obtain ⟨added, grown, told, telling⟩ := left.trace
    obtain ⟨more, onward, heard, alsoTelling⟩ := right.trace
    refine ⟨added ++ more, ?_, ?_, ?_⟩
    · rw [onward, grown, List.append_assoc]
    · rw [List.filterMap_append, told, heard]
    · exact List.forall_mem_append.mpr ⟨telling, alsoTelling⟩

/-- What tells nothing adds nothing to what is told. -/
theorem trans_nil (left : Notifies first second calls) (right : Notifies second third []) :
    Notifies first third calls := by
  have both := left.trans right
  rwa [List.append_nil] at both

theorem log (node : Node Clock App) (notice : Notice) : Notifies node (node.log notice) [] :=
  ⟨rfl, rfl, [.logged notice], rfl, rfl, List.forall_mem_singleton.mpr trivial⟩

theorem count (node : Node Clock App) (update : Counters → Counters) :
    Notifies node (node.count update) [] :=
  .of_same rfl rfl rfl

theorem call (node : Node Clock App) (call : Call) : Notifies node (node.call call) [call] :=
  ⟨rfl, rfl, [.called call], rfl, rfl, List.forall_mem_singleton.mpr trivial⟩

theorem fireRows (event : Event) (firings : List Firing) (node : Node Clock App) :
    Notifies node (firings.foldl (fireRow event) node) (firings.map (·.call event)) := by
  induction firings generalizing node with
  | nil => exact refl node
  | cons firing rest ih =>
      have fired := (log node (.rowFires firing)).trans (call _ (firing.call event))
      exact fired.trans (ih _)

theorem reportFaults (faults : List RuleFault) (node : Node Clock App) :
    Notifies node (faults.foldl reportFault node) [] := by
  induction faults generalizing node with
  | nil => exact refl node
  | cons fault rest ih =>
      have reported : Notifies node (node.reportFault fault) [] :=
        (log node (.ruleFault fault)).trans (count _ _)
      exact reported.trans (ih _)

end Notifies

section Steps

variable (node : Node Clock App) (event : Event)

theorem runMatrix_notifies :
    (node.runMatrix event).1 = (node.firings event).length ∧
      Notifies node (node.runMatrix event).2 ((node.firings event).map (·.call event)) := by
  have fired := Notifies.fireRows event (node.firings event) node
  rw [node.runMatrix_eq (rfl : _ = node.firings event)]
  refine ⟨rfl, ?_⟩
  dsimp only
  exact fired.trans_nil (.count _ _)

/-- The faults of the rules in front of the one that fires are only logged. -/
theorem runRules_notifies :
    (node.runRules event).1 = node.hit? event ∧
      Notifies node (node.runRules event).2 ((node.hit? event).toList.map (·.call event)) := by
  unfold runRules hit?
  split
  · generalize node.engine.evaluate node.ruleset event = evaluated
    obtain ⟨evaluation, engine⟩ := evaluated
    have judged : Notifies node { node with engine } [] := .of_same rfl rfl rfl
    have reported := judged.trans (.reportFaults evaluation.faults { node with engine })
    dsimp only
    cases evaluation.hit with
    | none => exact ⟨rfl, reported⟩
    | some hit =>
        have noted := reported.trans (.log _ (.ruleFires hit))
        exact ⟨rfl, (noted.trans (.count _ _)).trans (.call _ (hit.call event))⟩
  · exact ⟨rfl, .refl node⟩

/-- Running the rows changes nothing that the rules read. -/
theorem hit?_runMatrix : (node.runMatrix event).2.hit? event = node.hit? event := by
  have same := node.core_runMatrix event
  generalize (node.runMatrix event).2 = ran at same ⊢
  have engine : ran.engine = node.engine := congrArg NodeCore.engine same
  have config : ran.config = node.config := congrArg NodeCore.config same
  have store : ran.store = node.store := congrArg NodeCore.store same
  unfold hit? ruleset layout
  rw [engine, config, store]

/-- An application event fires its rows, then its rule, and is then provided. -/
theorem dispatch_notifies :
    (node.dispatch event).1 = .application (node.firings event).length (node.hit? event) ∧
      Notifies node (node.dispatch event).2 (node.executions event ++ [.provide event]) := by
  obtain ⟨fired, matrix⟩ := node.runMatrix_notifies event
  obtain ⟨hit, rules⟩ := (node.runMatrix event).2.runRules_notifies event
  rw [hit?_runMatrix] at hit rules
  unfold dispatch
  dsimp only
  rw [fired, hit]
  refine ⟨rfl, ?_⟩
  refine Notifies.trans ?_ (.call _ (.provide event))
  have both := matrix.trans rules
  split
  · exact both.trans_nil (.of_same rfl rfl rfl)
  · exact both

/-- The event is remembered if it fired anything; otherwise only the rule engine may note a
fault. -/
theorem core_dispatch_eq : ∃ engine, (node.dispatch event).2.core = { node.core with
    engine
    lastMatrixEvent :=
      if node.executions event = [] then node.lastMatrixEvent else some event } := by
  obtain ⟨fired, -⟩ := node.runMatrix_notifies event
  obtain ⟨hit, -⟩ := (node.runMatrix event).2.runRules_notifies event
  obtain ⟨engine, rules⟩ := core_runRules (node.runMatrix event).2 event
  rw [hit?_runMatrix] at hit
  rw [core_runMatrix] at rules
  refine ⟨engine, ?_⟩
  unfold dispatch
  dsimp only
  rw [core_call, fired, hit]
  -- the node counts what fired, the statement looks at what is executed
  split
  · rename_i executed
    rw [if_neg ((node.executions_ne_nil_iff event).mpr executed)]
    exact congrArg (fun core => { core with lastMatrixEvent := some event }) rules
  · rename_i quiet
    rw [if_pos (not_not.mp (mt (node.executions_ne_nil_iff event).mp quiet))]
    exact rules

end Steps

section Pages

variable (node : Node Clock App) (event : Event)

/-- The rows that fire on the event, as the matrix page shows them. -/
def pageFirings : List Firing :=
  let rows := node.config.matrixRows.toNat
  let shown := node.window node.config.matrixPage (17 * rows)
  Firing.all (MatrixRow.decode rows shown) (ExtensionRow.decode rows shown) event
    ⟨node.config.zone, node.config.subZone⟩

/-- The rule that fires on the event, as the ruleset page shows it. -/
def pageHit? : Option RuleHit :=
  if node.config.rulesEnabled then
    let shown := node.window node.config.rulesetPage node.config.rulesetCapacity.toNat
    (node.engine.evaluate shown event).1.hit
  else none

/-- What the event makes the application execute, as the pages show it. -/
def pageExecutions : List Call :=
  (node.pageFirings event).map (·.call event) ++ (node.pageHit? event).toList.map (·.call event)

/-- The event is handled as the pages show: the application executes what fires and is provided with
the event, the answer and the last event of the matrix say what fired, the core changes in nothing
else but the fault of the rule engine, and nothing is done to the store, the timers or the
segment. -/
structure FollowsPages (handled : Outcome × Node Clock App) : Prop where
  outcome : handled.1 = .application (node.pageFirings event).length (node.pageHit? event)
  notifies : Notifies node handled.2 (node.pageExecutions event ++ [.provide event])
  core : ∃ engine, handled.2.core = { node.core with
    engine
    lastMatrixEvent :=
      if node.pageExecutions event = [] then node.lastMatrixEvent else some event }

variable {node} (paged : node.config.Paged)

include paged

theorem firings_eq_page : node.firings event = node.pageFirings event := by
  have length : 17 * node.config.matrixRows.toNat = node.config.matrixLength := Nat.mul_comm ..
  unfold firings pageFirings
  dsimp only
  rw [length, matrix_rows paged, matrix_extensions paged]

theorem hit?_eq_page : node.hit? event = node.pageHit? event := by
  unfold hit? pageHit?
  split
  · rename_i enabled
    rw [window_ruleset paged enabled]
  · rfl

theorem executions_eq_page : node.executions event = node.pageExecutions event := by
  unfold executions pageExecutions
  rw [firings_eq_page event paged, hit?_eq_page event paged]

/-- Before an event is dispatched it is only counted. -/
theorem followsPages_handle [TimerService Clock] (active : node.lifecycle = .active)
    (application : event.classId ≠ Protocol.managementClass) :
    node.FollowsPages event (node.handle event) := by
  have counted := Notifies.count node fun counters =>
    { counters with rxEvents := Counters.increased counters.rxEvents 1 }
  generalize heard : node.count (fun counters =>
    { counters with rxEvents := Counters.increased counters.rxEvents 1 }) = counting at counted
  have dispatched : node.handle event = counting.dispatch event := by
    unfold handle
    rw [active, heard]
    exact if_neg application
  have same : counting.firings event = node.pageFirings event ∧
      counting.hit? event = node.pageHit? event ∧
      counting.executions event = node.pageExecutions event ∧ counting.core = node.core ∧
      counting.lastMatrixEvent = node.lastMatrixEvent := by
    rw [← heard, ← firings_eq_page event paged, ← hit?_eq_page event paged,
      ← executions_eq_page event paged]
    exact ⟨rfl, rfl, rfl, rfl, rfl⟩
  obtain ⟨firings, hit, executions, core, last⟩ := same
  obtain ⟨outcome, notifies⟩ := counting.dispatch_notifies event
  obtain ⟨engine, after⟩ := counting.core_dispatch_eq event
  rw [firings, hit] at outcome
  rw [executions] at notifies
  rw [executions, core, last] at after
  rw [dispatched]
  exact ⟨outcome, counted.trans notifies, engine, after⟩

end Pages

section Runs

variable [TimerService Clock]

/-- After any acts of the host an active node handles an application event as its pages show, and a
call that takes one, from a node that has served its timers and is active, handles it so. -/
theorem events_follow_pages {config : Config} {store : Store} {transport : Transport}
    {clock : Clock} {app : App} {node : Node Clock App}
    (built : build config store transport clock app = .ok node) (acts : List (HostAct Clock App))
    {event : Event} (application : event.classId ≠ Protocol.managementClass) :
    let reached := undergoAll acts node
    (reached.lifecycle = .active → reached.FollowsPages event (reached.handle event)) ∧
    ∀ call ready, reached.Takes call event ready → ready.lifecycle = .active →
      ∃ rest handled, ready.transport.inbox = event :: rest ∧
        reached.serve call = (.outcome handled.1, handled.2) ∧
        (ready.queue rest).FollowsPages event handled := by
  intro reached
  have settings : reached.config = config := config_reached built acts
  have paged := Config.paged_of_check (fresh_build built).checked
  refine ⟨fun active => ?_, fun call ready takes active => ?_⟩
  · exact followsPages_handle event (settings ▸ paged) active application
  · obtain ⟨rest, inbox, handled⟩ := takes.handled
    have same : (ready.queue rest).config = config := takes.elapsed.config.trans settings
    exact ⟨rest, _, inbox, handled, followsPages_handle event (same ▸ paged) active application⟩

end Runs

/-- A node with one row for events of class 20, and a rule that looks at their payload. -/
def lampConfig : Config :=
  { matrixRows := 1, rulesEnabled := true }

def lampStore : Store :=
  let bytes :=
    { origin := 0, flags := 0x80, classMask := 0xFF, classFilter := 20, typeMask := 0
      typeFilter := 0, action := 0x10, param := 3 : MatrixRow }.bytes ++ List.replicate 9 0 ++
      [1, 7, 0x22, 0, 0x03, 0x21, 1, 0]
  ((Store.erased 64).write Layout.nickname 0x10).writeMany Layout.matrixBase bytes

def lampNode : Node SoftTimers SilentApplication :=
  (build lampConfig lampStore .open (SoftTimers.empty 4) SilentApplication.mk).toOption.get rfl

def lampEvent : Event :=
  { Event.new 20 2 1 with data := [0, 1, 9, 9], dataWithin := by decide }

def lampActs : List (HostAct SoftTimers SilentApplication) :=
  [.call .process, .call (.receive lampEvent)]

/-- It takes the event from the segment and switches by the row, then by the rule. -/
theorem lamp_switches_twice :
    ∃ ready rest handled, (undergoAll lampActs lampNode).Takes .process lampEvent ready ∧
      (undergoAll lampActs lampNode).serve .process = (.outcome handled.1, handled.2) ∧
      (ready.queue rest).FollowsPages lampEvent handled ∧
      (ready.queue rest).pageExecutions lampEvent =
        [.execute 0x10 3 lampEvent, .execute 0x22 0 lampEvent] := by
  have built : build lampConfig lampStore .open (SoftTimers.empty 4) SilentApplication.mk =
      .ok lampNode := rfl
  have active : (undergoAll lampActs lampNode).serviceTimers.lifecycle = .active := by
    decide +kernel
  have waiting : (undergoAll lampActs lampNode).serviceTimers.transport.inbox = [lampEvent] := by
    decide +kernel
  have takes : (undergoAll lampActs lampNode).Takes .process lampEvent
      (undergoAll lampActs lampNode).serviceTimers :=
    ⟨rfl, .inr (.inl active), congrArg List.head? waiting⟩
  obtain ⟨-, follows⟩ := events_follow_pages built lampActs (show lampEvent.classId ≠ 0 by decide)
  obtain ⟨rest, handled, inbox, served, handles⟩ := follows .process _ takes active
  obtain ⟨-, rfl⟩ := List.cons.inj (waiting.symm.trans inbox)
  refine ⟨_, [], handled, takes, served, handles, ?_⟩
  decide +kernel

end Node

end Vscp
