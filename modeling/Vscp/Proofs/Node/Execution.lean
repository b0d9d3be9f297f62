/-
This file proves that of all that an application event makes the application execute only the action
of a rule can be the one that does nothing.
-/

import Vscp.Proofs.Matrix.Firing

namespace Vscp

/-- No row fires the action that does nothing. -/
theorem Firing.acting_of_mem_all {rows : List MatrixRow} {extensions : List ExtensionRow}
    {event : Event} {node : Zone} {firing : Firing}
    (fires : firing ∈ all rows extensions event node) : firing.action ≠ MatrixRow.noOperation :=
  ((mem_all_iff rows extensions event node firing).mp fires).acting

namespace Node

variable {Clock App : Type}

/-- From the one node to the other the application is told to execute the action. -/
def Executes (before after : Node Clock App) (action param : UInt8) (event : Event) : Prop :=
  ∃ added, after.trace = before.trace ++ added ∧
    .called (.execute action param event) ∈ added

variable [Application App]

/-- What is executed is one of the calls that the application is told. -/
theorem Notifies.executes_iff {before after : Node Clock App} {calls : List Call}
    (notifies : Notifies before after calls) {action param : UInt8} {event : Event} :
    Executes before after action param event ↔ .execute action param event ∈ calls := by
  obtain ⟨added, grown, told, -⟩ := notifies.trace
  have shown : .called (.execute action param event) ∈ added ↔
      .execute action param event ∈ calls := by
    rw [← told, List.mem_filterMap]
    constructor
    · intro effect
      exact ⟨_, effect, rfl⟩
    · rintro ⟨effect, there, call⟩
      cases effect with
      | called call' =>
          cases call
          exact there
      | _ => cases call
  rw [← shown]
  constructor
  · rintro ⟨other, alike, executed⟩
    rwa [List.append_cancel_left (grown.symm.trans alike)]
  · intro executed
    exact ⟨added, grown, executed⟩

section Pages

variable {node : Node Clock App} {event : Event}

/-- The rows execute nothing that has no effect, and a rule executes its own action. -/
theorem mem_pageExecutions_idle_iff {param : UInt8} {cause : Event} :
    .execute MatrixRow.noOperation param cause ∈ node.pageExecutions event ++ [.provide event] ↔
      cause = event ∧ ∃ hit, node.pageHit? event = some hit ∧
        hit.action = MatrixRow.noOperation ∧ hit.param = param := by
  have rows : .execute MatrixRow.noOperation param cause ∉
      (node.pageFirings event).map (·.call event) := by
    intro told
    obtain ⟨firing, fires, call⟩ := List.mem_map.mp told
    exact Firing.acting_of_mem_all fires (Call.execute.inj call).1
  simp only [pageExecutions, List.mem_append, rows, false_or, List.mem_map, Option.mem_toList,
    List.mem_singleton, reduceCtorEq, or_false, RuleHit.call, Call.execute.injEq]
  constructor
  · rintro ⟨hit, fires, action, same, rfl⟩
    exact ⟨rfl, hit, fires, action, same⟩
  · rintro ⟨rfl, hit, fires, action, same⟩
    exact ⟨hit, fires, action, same, rfl⟩

theorem FollowsPages.executes_idle_iff {handled : Outcome × Node Clock App}
    (follows : node.FollowsPages event handled) (param : UInt8) (cause : Event) :
    Executes node handled.2 MatrixRow.noOperation param cause ↔
      cause = event ∧ ∃ hit, node.pageHit? event = some hit ∧
        hit.action = MatrixRow.noOperation ∧ hit.param = param :=
  follows.notifies.executes_iff.trans mem_pageExecutions_idle_iff

end Pages

section Runs

variable [TimerService Clock]

/-- After any acts of its host an active node that handles an application event executes the action
that does nothing exactly when the rule that fires has it. No row makes it do so. -/
theorem idle_action_only_by_rule {config : Config} {store : Store} {transport : Transport}
    {clock : Clock} {app : App} {node : Node Clock App}
    (built : build config store transport clock app = .ok node) (acts : List (HostAct Clock App))
    {event : Event} (application : event.classId ≠ Protocol.managementClass) :
    let reached := undergoAll acts node
    let idles := fun (ready : Node Clock App) (param : UInt8) (cause : Event) =>
      cause = event ∧ ∃ hit, ready.pageHit? event = some hit ∧
        hit.action = MatrixRow.noOperation ∧ hit.param = param
    (reached.lifecycle = .active → ∀ param cause,
      Executes reached (reached.handle event).2 MatrixRow.noOperation param cause ↔
        idles reached param cause) ∧
    ∀ call ready, reached.Takes call event ready → ready.lifecycle = .active → ∀ param cause,
      Executes ready (reached.serve call).2 MatrixRow.noOperation param cause ↔
        idles ready param cause := by
  intro reached idles
  have settings : reached.config = config := config_reached built acts
  have paged := Config.paged_of_check (fresh_build built).checked
  constructor
  · intro active param cause
    have follows := followsPages_handle event (settings ▸ paged) active application
    exact follows.executes_idle_iff param cause
  · intro call ready takes active param cause
    obtain ⟨rest, -, handled⟩ := takes.handled
    have same : ready.config = config := takes.elapsed.config.trans settings
    have paged : ready.config.Paged := same ▸ paged
    have queued : (ready.queue rest).config.Paged := paged
    have follows := followsPages_handle event queued active application
    -- the pages say the same whatever waits behind the event
    have shown : (ready.queue rest).pageHit? event = ready.pageHit? event :=
      calc
        _ = (ready.queue rest).hit? event := (hit?_eq_page event queued).symm
        _ = ready.hit? event := rfl
        _ = ready.pageHit? event := hit?_eq_page event paged
    have idle := follows.executes_idle_iff param cause
    rw [shown] at idle
    rw [handled]
    exact idle

end Runs

/-- The row and the rule that switch the lamp leave nothing to be done in vain. -/
theorem lamp_executes_nothing_idle :
    ∃ ready, (undergoAll lampActs lampNode).Takes .process lampEvent ready ∧
      ∀ param cause, ¬Executes ready ((undergoAll lampActs lampNode).serve .process).2
        MatrixRow.noOperation param cause := by
  have built : build lampConfig lampStore .open (SoftTimers.empty 4) SilentApplication.mk =
      .ok lampNode := rfl
  have active : (undergoAll lampActs lampNode).serviceTimers.lifecycle = .active := by
    decide +kernel
  have takes : (undergoAll lampActs lampNode).Takes .process lampEvent
      (undergoAll lampActs lampNode).serviceTimers :=
    ⟨rfl, .inr (.inl active), by decide +kernel⟩
  obtain ⟨-, idles⟩ :=
    idle_action_only_by_rule built lampActs (show lampEvent.classId ≠ 0 by decide)
  refine ⟨_, takes, fun param cause executed => ?_⟩
  obtain ⟨-, hit, fires, idle, -⟩ := (idles .process _ takes active param cause).mp executed
  have switches : (undergoAll lampActs lampNode).serviceTimers.pageHit? lampEvent =
      some ⟨0, 0x22, 0⟩ := by decide +kernel
  rw [switches] at fires
  cases fires
  exact absurd idle (by decide)

/-- The lamp with a rule whose action does nothing. -/
def dullStore : Store :=
  lampStore.write (lampNode.layout.rulesetBase + 2) MatrixRow.noOperation

def dullNode : Node SoftTimers SilentApplication :=
  (build lampConfig dullStore .open (SoftTimers.empty 4) SilentApplication.mk).toOption.get rfl

theorem dull_rule_executes_idle_action :
    ¬∀ (config : Config) (store : Store) (transport : Transport) (clock : SoftTimers)
      (app : SilentApplication) (node ready : Node SoftTimers SilentApplication)
      (acts : List (HostAct SoftTimers SilentApplication)) (call : HostCall) (event : Event)
      (param : UInt8) (cause : Event),
      build config store transport clock app = .ok node →
        event.classId ≠ Protocol.managementClass →
        (undergoAll acts node).Takes call event ready → ready.lifecycle = .active →
        ¬Executes ready ((undergoAll acts node).serve call).2 MatrixRow.noOperation param
          cause := by
  intro never
  have built : build lampConfig dullStore .open (SoftTimers.empty 4) SilentApplication.mk =
      .ok dullNode := rfl
  have active : (undergoAll lampActs dullNode).serviceTimers.lifecycle = .active := by
    decide +kernel
  refine never _ _ _ _ _ dullNode _ lampActs .process lampEvent 0 lampEvent built (by decide)
    ⟨rfl, .inr (.inl active), by decide +kernel⟩ active ?_
  exact ⟨[.logged (.rowFires ⟨0, 0x10, 3⟩), .called (.execute 0x10 3 lampEvent),
    .logged (.ruleFires ⟨0, 0, 0⟩), .called (.execute 0 0 lampEvent), .called (.provide lampEvent)],
    by decide +kernel, by decide⟩

end Node

end Vscp
