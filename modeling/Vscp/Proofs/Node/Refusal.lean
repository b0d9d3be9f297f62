/-
This file compares nodes whose frames the segment takes or refuses differently, and proves that they
do the same.
-/

import Mathlib.Data.List.Forall2
import Vscp.Proofs.Accord.Serve
import Vscp.Proofs.Node.Run

namespace Vscp

/-- The effect without the answer of the segment; the notice of a refusal is only an answer. -/
def Effect.unanswered? : Effect → Option Effect
  | .frame event _ => some (.frame event true)
  | .logged (.refusedFrame ..) => none
  | effect => some effect

/-- The counters without those of frames. -/
def Counters.unsent (counters : Counters) : Counters :=
  { counters with txEvents := 0, txDropped := 0 }

theorem Counters.unsent_recordFrame (counters : Counters) (accepted : Bool) :
    (counters.recordFrame accepted).unsent = counters.unsent := by
  cases accepted <;> rfl

theorem Counters.Steady.unsent {update : Counters → Counters} (steady : Steady update)
    (counters : Counters) : (update counters).unsent = update counters.unsent :=
  (steady counters 0 0).symm

theorem Effect.Plain.unanswered? {effect : Effect} (plain : effect.Plain) :
    effect.unanswered? = some effect := by
  cases effect with
  | frame event accepted => exact plain.elim
  | logged notice =>
      cases notice with
      | refusedFrame classId typeId => exact plain.elim
      | _ => rfl
  | _ => rfl

namespace Node

variable {Clock App : Type}

/-- What the node did, whatever the segment answered. -/
def deeds (node : Node Clock App) : List Effect :=
  node.trace.filterMap Effect.unanswered?

theorem deeds_emit (node : Node Clock App) {effect : Effect}
    (shown : effect.unanswered? = some effect) :
    (node.emit effect).deeds = node.deeds ++ [effect] := by
  unfold deeds emit
  rw [List.filterMap_append, List.filterMap_cons_some shown]
  rfl

section Frames

variable (node : Node Clock App) (classId : UInt16) (typeId origin : UInt8) (data : List UInt8)

/-- The frame as the node makes it. -/
def frame? : Except EventError Event :=
  (((Event.new classId typeId origin).withHardCoded node.config.hardCoded).withPriority
    node.config.priority).bind (·.withData data)

/-- What the segment does with a frame shows in no deed. -/
theorem deeds_send : (node.send classId typeId origin data).deeds =
    node.deeds ++ [match node.frame? classId typeId origin data with
      | .error cause => .logged (.malformedFrame classId typeId cause)
      | .ok event => .frame event true] := by
  unfold send
  change Node.deeds (match node.frame? classId typeId origin data with
    | .error _ => _
    | .ok _ => _) = _
  unfold deeds
  cases node.frame? classId typeId origin data with
  | error cause => exact List.filterMap_append
  | ok event =>
      dsimp only
      cases node.transport.accepts node.transport.attempted with
      | true => exact List.filterMap_append
      | false =>
          change (node.trace ++ [Effect.frame event false] ++ [Effect.logged _]).filterMap _ = _
          rw [List.filterMap_append, List.filterMap_append]
          exact List.append_nil _

theorem app_send : (node.send classId typeId origin data).app = node.app := by
  unfold send
  dsimp only
  split
  · rfl
  · split <;> rfl

theorem inbox_send :
    (node.send classId typeId origin data).transport.inbox = node.transport.inbox := by
  unfold send
  dsimp only
  split
  · rfl
  · split <;> rfl

theorem unsent_send :
    (node.send classId typeId origin data).counters.unsent = node.counters.unsent := by
  unfold send
  dsimp only
  split
  · exact Counters.unsent_recordFrame ..
  · split
    · exact Counters.unsent_recordFrame ..
    · exact Counters.unsent_recordFrame ..

end Frames

/-- The nodes differ at most in what the segment answers to their frames. -/
structure Alike (node other : Node Clock App) : Prop where
  core : other.core = node.core
  app : other.app = node.app
  inbox : other.transport.inbox = node.transport.inbox
  counters : other.counters.unsent = node.counters.unsent
  deeds : other.deeds = node.deeds

namespace Alike

variable {node other : Node Clock App}

/-- Both nodes make the same frame, and neither looks at the answer. -/
theorem send (alike : node.Alike other) (classId : UInt16) (typeId origin : UInt8)
    (data : List UInt8) :
    (node.send classId typeId origin data).Alike (other.send classId typeId origin data) where
  core := by
    rw [core_send, core_send]
    exact alike.core
  app := by
    rw [app_send, app_send]
    exact alike.app
  inbox := by
    rw [inbox_send, inbox_send]
    exact alike.inbox
  counters := by
    rw [unsent_send, unsent_send]
    exact alike.counters
  deeds := by
    -- whether the frame can be made hangs on the settings, not on the segment
    have config : other.config = node.config := congrArg NodeCore.config alike.core
    rw [deeds_send, deeds_send, alike.deeds, frame?, frame?, config]

/-- To be alike is an accord. -/
def accord : OpenAccord Clock App where
  Holds := Alike
  strict := False
  core := Alike.core
  app := Alike.app
  inbox := Alike.inbox
  adopt update _ _ alike :=
    ⟨congrArg update alike.core, alike.app, alike.inbox, alike.counters, alike.deeds⟩
  replace _ alike := ⟨alike.core, rfl, alike.inbox, alike.counters, alike.deeds⟩
  emit plain alike := by
    refine ⟨alike.core, alike.app, alike.inbox, alike.counters, ?_⟩
    rw [deeds_emit _ plain.unanswered?, deeds_emit _ plain.unanswered?, alike.deeds]
  write address value alike := by
    refine ⟨congrArg (·.writeStore address value) alike.core, alike.app, alike.inbox,
      alike.counters, ?_⟩
    exact (deeds_emit _ rfl).trans ((congrArg (· ++ _) alike.deeds).trans (deeds_emit _ rfl).symm)
  count update steady alike := by
    refine ⟨alike.core, alike.app, alike.inbox, ?_, alike.deeds⟩
    change (update _).unsent = (update _).unsent
    rw [steady.unsent, steady.unsent, alike.counters]
  send _ _ _ _ _ alike := alike.send ..
  queue _ alike := ⟨alike.core, alike.app, rfl, alike.counters, alike.deeds⟩
  clear alike := ⟨alike.core, alike.app, alike.inbox, rfl, alike.deeds⟩

end Alike

end Node

/-- The same act, up to the answers of the segment. -/
inductive HostAct.Alike {Clock App : Type} : HostAct Clock App → HostAct Clock App → Prop where
  | call (call : HostCall) : Alike (.call call) (.call call)
  | surround (store : Store) {transport other : Transport} (clock : Clock) (app : App)
      (inbox : other.inbox = transport.inbox) :
      Alike (.surround store transport clock app) (.surround store other clock app)

theorem HostAct.Alike.refl {Clock App : Type} (act : HostAct Clock App) : act.Alike act := by
  cases act with
  | call call => exact .call call
  | surround store transport clock app => exact .surround store clock app rfl

namespace Node

variable {Clock App : Type} [TimerService Clock] [Application App]

theorem Alike.serve {node other : Node Clock App} (alike : node.Alike other) (call : HostCall) :
    (other.serve call).1 = (node.serve call).1 ∧
      (node.serve call).2.Alike (other.serve call).2 := by
  have both : Alike.accord.Holds node other := alike
  exact OpenAccord.serve both False.elim call

theorem Alike.undergo {node other : Node Clock App} (alike : node.Alike other)
    {act likewise : HostAct Clock App} (same : act.Alike likewise) :
    (node.undergo act).Alike (other.undergo likewise) := by
  cases same with
  | call call => exact (alike.serve call).2
  | surround store clock app inbox =>
      refine ⟨?_, rfl, inbox, alike.counters, alike.deeds⟩
      exact congrArg (fun core => { core with store, clock }) alike.core

theorem Alike.undergoAll {node other : Node Clock App} (alike : node.Alike other)
    {acts others : List (HostAct Clock App)} (same : List.Forall₂ HostAct.Alike acts others) :
    (undergoAll acts node).Alike (undergoAll others other) := by
  induction same generalizing node other with
  | nil => exact alike
  | cons first _ ih => exact ih (alike.undergo first)

/-- A node over another transport with the same events is built alike. -/
theorem alike_build {config : Config} {store : Store} {transport other : Transport} {clock : Clock}
    {app : App} {node : Node Clock App}
    (built : build config store transport clock app = .ok node)
    (inbox : other.inbox = transport.inbox) :
    ∃ twin, build config store other clock app = .ok twin ∧ node.Alike twin := by
  obtain ⟨sound, checked, rfl⟩ := map_eq_ok_iff.mp built
  refine ⟨_, map_eq_ok_iff.mpr ⟨sound, checked, rfl⟩, ?_⟩
  generalize TimerBank.createMany 4 clock = created
  obtain ⟨answers, clock⟩ := created
  dsimp only
  split
  · exact ⟨rfl, rfl, inbox, rfl, rfl⟩
  · exact ⟨rfl, rfl, inbox, rfl, rfl⟩

/-- Whatever the segment answers to the frames of a node, the node builds as well and, after the
same acts of its host, answers every call alike, has attempted the same frames and done everything
else alike, and is in the same state but for the counters of frames. -/
theorem refusals_go_unnoticed {config : Config} {store : Store} {transport other : Transport}
    {clock : Clock} {app : App} {node : Node Clock App}
    (built : build config store transport clock app = .ok node)
    (inbox : other.inbox = transport.inbox) :
    ∃ twin, build config store other clock app = .ok twin ∧
      ∀ acts others, List.Forall₂ HostAct.Alike acts others →
        let reached := undergoAll acts node
        let likewise := undergoAll others twin
        likewise.core = reached.core ∧ likewise.app = reached.app ∧
        likewise.transport.inbox = reached.transport.inbox ∧
        likewise.counters.unsent = reached.counters.unsent ∧
        likewise.deeds = reached.deeds ∧
        ∀ call, (likewise.serve call).1 = (reached.serve call).1 := by
  obtain ⟨twin, also, alike⟩ := alike_build built inbox
  refine ⟨twin, also, fun acts others same => ?_⟩
  have reached := alike.undergoAll same
  exact ⟨reached.core, reached.app, reached.inbox, reached.counters, reached.deeds,
    fun call => (reached.serve call).1⟩

/-- A node announces its nickname and answers a question for its version. -/
def answeringActs : List (HostAct SoftTimers SilentApplication) :=
  [.call .process,
    .call (.receive { Event.new 0 9 0 with data := [0x10, 0x81], dataWithin := by decide }),
    .call .process]

def answeringNode (accepts : Bool) : Node SoftTimers SilentApplication :=
  (build {} ((Store.erased 256).write Layout.nickname 0x10) ⟨[], 0, fun _ => accepts⟩
    (SoftTimers.empty 4) SilentApplication.mk).toOption.get rfl

/-- It does so whether or not the segment takes its frames. -/
theorem refused_answers_alike :
    (undergoAll answeringActs (answeringNode false)).deeds =
        (undergoAll answeringActs (answeringNode true)).deeds ∧
      (undergoAll answeringActs (answeringNode false)).counters.txDropped = 2 ∧
      (undergoAll answeringActs (answeringNode true)).counters.txEvents = 2 := by
  have built (accepts : Bool) :
      build {} ((Store.erased 256).write Layout.nickname 0x10) ⟨[], 0, fun _ => accepts⟩
        (SoftTimers.empty 4) SilentApplication.mk = .ok (answeringNode accepts) := rfl
  obtain ⟨twin, also, alike⟩ := refusals_go_unnoticed (built true)
    (show (Transport.mk [] 0 fun _ => false).inbox = _ from rfl)
  cases also.symm.trans (built false)
  obtain ⟨-, -, -, -, deeds, -⟩ := alike answeringActs answeringActs
    (List.forall₂_same.mpr fun act _ => .refl act)
  exact ⟨deeds, by decide +kernel, by decide +kernel⟩

end Node

end Vscp
