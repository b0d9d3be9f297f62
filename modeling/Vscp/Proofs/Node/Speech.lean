/-
This file proves that every frame of a node is well formed and speaks for the nickname that the
store holds at that moment.
-/

import Vscp.Proofs.Accord.Serve
import Vscp.Proofs.Node.Announce

namespace Vscp

namespace Effect

/-- The store after the effect. -/
def apply (store : Store) : Effect → Store
  | .stored address value => store.write address value
  | _ => store

/-- The segment refuses a frame. -/
def isRefusal : Effect → Bool
  | .frame _ false => true
  | _ => false

/-- A frame carries the nickname in the store, and without one it only asks for one. No frame is too
malformed to be sent. -/
def Truthful (store : Store) : Effect → Prop
  | .frame event _ =>
      event.origin = store.read Layout.nickname ∧
        (event.origin = Protocol.unassigned → event.Manages .newNodeOnline)
  | .logged (.malformedFrame ..) => False
  | _ => True

theorem Plain.apply {effect : Effect} (plain : effect.Plain) (store : Store) :
    effect.apply store = store := by
  cases effect <;> first | rfl | exact plain.elim

theorem Plain.truthful {effect : Effect} (plain : effect.Plain) (store : Store) :
    effect.Truthful store := by
  cases effect with
  | frame event accepted => exact plain.elim
  | logged notice =>
      cases notice with
      | malformedFrame classId typeId cause => exact plain.elim
      | _ => trivial
  | _ => trivial

theorem Plain.isRefusal {effect : Effect} (plain : effect.Plain) : effect.isRefusal = false := by
  cases effect <;> first | rfl | exact plain.elim

end Effect

namespace Store

/-- The store after effects that follow each other. -/
def replay (store : Store) (effects : List Effect) : Store :=
  effects.foldl Effect.apply store

/-- Every effect is truthful about the store that the ones before it leave. -/
def Tells : Store → List Effect → Prop
  | _, [] => True
  | store, effect :: rest => effect.Truthful store ∧ Tells (effect.apply store) rest

theorem replay_concat (store : Store) (effects : List Effect) (effect : Effect) :
    store.replay (effects ++ [effect]) = effect.apply (store.replay effects) := by
  unfold replay
  rw [List.foldl_append]
  rfl

theorem tells_append {store : Store} {earlier later : List Effect} :
    store.Tells (earlier ++ later) ↔
      store.Tells earlier ∧ (store.replay earlier).Tells later := by
  induction earlier generalizing store with
  | nil => exact (iff_of_eq (true_and _)).symm
  | cons effect rest ih => exact (and_congr_right fun _ => ih).trans and_assoc.symm

/-- What is told holds for each effect at its own moment. -/
theorem Tells.at {store : Store} {earlier later : List Effect} {effect : Effect}
    (tells : store.Tells (earlier ++ effect :: later)) : effect.Truthful (store.replay earlier) :=
  (tells_append.mp tells).2.1

theorem Tells.concat {store : Store} {effects : List Effect} (tells : store.Tells effects)
    {effect : Effect} (truthful : effect.Truthful (store.replay effects)) :
    store.Tells (effects ++ [effect]) :=
  tells_append.mpr ⟨tells, truthful, trivial⟩

theorem tells_of_plain {effects : List Effect} (plain : ∀ effect ∈ effects, effect.Plain)
    (store : Store) : store.Tells effects ∧ store.replay effects = store := by
  induction effects with
  | nil => exact ⟨trivial, rfl⟩
  | cons effect rest ih =>
      have first := plain effect List.mem_cons_self
      obtain ⟨tells, same⟩ := ih fun later within => plain later (List.mem_cons_of_mem _ within)
      unfold Tells replay
      rw [List.foldl_cons, first.apply]
      exact ⟨⟨first.truthful store, tells⟩, same⟩

end Store

namespace Node

variable {Clock App : Type}

/-- The effects of the node since it was built over a store explain what the store holds, are
truthful, and since `start` no more frames count as dropped than the segment refused. -/
structure Spoken (store : Store) (start node : Node Clock App) : Prop where
  priority : node.config.priority.toNat < 8
  replayed : node.store = store.replay node.trace
  tells : store.Tells node.trace
  dropped : ∃ added, node.trace = start.trace ++ added ∧
    node.counters.txDropped ≤ start.counters.txDropped + added.countP Effect.isRefusal

namespace Spoken

variable {store : Store} {start node after : Node Clock App}

/-- Nothing is left to tell about the node itself. -/
theorem restart (spoken : Spoken store start node) : Spoken store node node :=
  ⟨spoken.priority, spoken.replayed, spoken.tells, [], (List.append_nil _).symm, Nat.le_refl _⟩

/-- A node that has sent and stored nothing has told the truth. -/
theorem of_plain (priority : node.config.priority.toNat < 8) (stored : node.store = store)
    (plain : ∀ effect ∈ node.trace, effect.Plain) : Spoken store node node := by
  obtain ⟨tells, same⟩ := Store.tells_of_plain plain store
  exact ⟨priority, stored.trans same.symm, tells, [], (List.append_nil _).symm, Nat.le_refl _⟩

theorem of_same (spoken : Spoken store start node) (config : after.config = node.config)
    (stored : after.store = node.store) (trace : after.trace = node.trace)
    (dropped : after.counters.txDropped ≤ node.counters.txDropped) : Spoken store start after where
  priority := config ▸ spoken.priority
  replayed := by
    rw [stored, trace]
    exact spoken.replayed
  tells := trace ▸ spoken.tells
  dropped := by
    obtain ⟨added, grown, few⟩ := spoken.dropped
    exact ⟨added, trace.trans grown, Nat.le_trans dropped few⟩

/-- A truthful effect is told, and a refused frame may count as dropped. -/
theorem tell (spoken : Spoken store start node) (effect : Effect)
    (truthful : effect.Truthful node.store) (config : after.config = node.config)
    (stored : after.store = effect.apply node.store) (trace : after.trace = node.trace ++ [effect])
    (dropped : after.counters.txDropped ≤
      node.counters.txDropped + [effect].countP Effect.isRefusal) : Spoken store start after where
  priority := config ▸ spoken.priority
  replayed := by
    rw [stored, trace, Store.replay_concat, ← spoken.replayed]
  tells := by
    rw [trace]
    apply spoken.tells.concat
    rw [← spoken.replayed]
    exact truthful
  dropped := by
    obtain ⟨added, grown, few⟩ := spoken.dropped
    refine ⟨added ++ [effect], ?_, ?_⟩
    · rw [trace, grown, List.append_assoc]
    · rw [List.countP_append]
      omega

theorem send (spoken : Spoken store start node) {classId : UInt16} {typeId origin : UInt8}
    {data : List UInt8} (may : node.MaySend classId typeId origin data) :
    Spoken store start (node.send classId typeId origin data) := by
  obtain ⟨event, made, eventClass, eventType, eventOrigin, -⟩ := Event.made classId typeId origin
    node.config.hardCoded spoken.priority may.short
  have truthful (accepted : Bool) : (Effect.frame event accepted).Truthful node.store := by
    refine ⟨eventOrigin.trans may.own, fun missing => ?_⟩
    obtain ⟨management, asks⟩ := may.asking (eventOrigin.symm.trans missing)
    subst management
    exact ⟨eventClass, eventType.trans asks⟩
  unfold Node.send
  simp only [made]
  cases node.transport.accepts node.transport.attempted with
  | true => exact spoken.tell _ (truthful true) rfl rfl rfl (Nat.le_refl _)
  | false =>
      have refused : Spoken store start
          (({ node with
            transport := { node.transport with attempted := node.transport.attempted + 1 } }.emit
              (.frame event false)).count (·.recordFrame false)) :=
        spoken.tell _ (truthful false) rfl rfl rfl (Nat.min_le_left ..)
      exact refused.tell (.logged (.refusedFrame classId typeId)) trivial rfl rfl rfl
        (Nat.le_refl _)

/-- What a node says stays so while it sends what it may. -/
def lasting (store : Store) (start : Node Clock App) : Lasting Clock App where
  Holds := Spoken store start
  strict := True
  adopt _ config stored spoken := spoken.of_same (config _) (stored _) rfl (Nat.le_refl _)
  replace _ spoken := spoken.of_same rfl rfl rfl (Nat.le_refl _)
  emit plain spoken :=
    spoken.tell _ (plain.truthful _) rfl (plain.apply _).symm rfl (Nat.le_add_right ..)
  write address value spoken :=
    spoken.tell (.stored address value) trivial rfl rfl rfl (Nat.le_refl _)
  count _ steady spoken := spoken.of_same rfl rfl rfl (Nat.le_of_eq (steady.txDropped _))
  send _ _ _ _ ground spoken := spoken.send (ground trivial)
  queue _ spoken := spoken.of_same rfl rfl rfl (Nat.le_refl _)
  clear spoken := spoken.of_same rfl rfl rfl (Nat.zero_le _)

end Spoken

section Runs

variable [TimerService Clock] [Application App] {config : Config} {store : Store}
  {transport : Transport} {clock : Clock} {app : App} {node : Node Clock App}

theorem spoken_build (built : build config store transport clock app = .ok node) :
    Spoken store node node := by
  obtain ⟨_, checked, rfl⟩ := map_eq_ok_iff.mp built
  have priority := Config.priority_lt checked
  generalize TimerBank.createMany 4 clock = created
  obtain ⟨answers, clock⟩ := created
  have plain : ∀ effect ∈ answers.map Effect.timerCreated, effect.Plain := by
    intro effect created
    obtain ⟨answer, -, rfl⟩ := List.mem_map.mp created
    trivial
  dsimp only
  split
  · exact .of_plain priority rfl plain
  · refine .of_plain priority rfl (List.forall_mem_append.mpr ⟨?_, ?_⟩)
    · exact List.forall_mem_append.mpr ⟨plain, List.forall_mem_singleton.mpr trivial⟩
    · exact List.forall_mem_singleton.mpr trivial

/-- The host may change what surrounds the node, but not what it has stored. -/
def SparesStore (node : Node Clock App) : HostAct Clock App → Prop
  | .call _ => True
  | .surround store .. => store = node.store

theorem spoken_serve (spoken : Spoken store node node)
    (governed : NodeCore.Governed config node.core) (call : HostCall) :
    Spoken store node (node.serve call).2 :=
  (Spoken.lasting store node).serve spoken (fun _ => ⟨config, governed⟩) call

theorem spoken_undergoAll (built : build config store transport clock app = .ok node)
    (room : config.layout.stop ≤ store.size) (acts : List (HostAct Clock App))
    (spared : ∀ earlier act later, acts = earlier ++ act :: later →
      (undergoAll earlier node).SparesStore act) :
    Spoken store (undergoAll acts node) (undergoAll acts node) ∧
      NodeCore.Governed config (undergoAll acts node).core := by
  -- what an act spares is said about the node that the acts before it reach
  induction acts using List.reverseRecOn with
  | nil => exact ⟨spoken_build built, governed_build built room⟩
  | append_singleton acts act ih =>
      obtain ⟨spoken, governed⟩ := ih fun earlier previous later split => by
        apply spared earlier previous (later ++ [act])
        rw [split, List.append_assoc]
        rfl
      have spares := spared acts act [] rfl
      rw [undergoAll_concat]
      cases act with
      | call call =>
          exact ⟨(spoken_serve spoken governed call).restart, governed.steps (steps_serve _ call)⟩
      | surround stored transport clock app =>
          cases spares
          have kept : Spoken store (undergoAll acts node)
              ((undergoAll acts node).undergo (.surround _ transport clock app)) :=
            spoken.of_same rfl rfl rfl (Nat.le_refl _)
          refine ⟨kept.restart, ?_⟩
          rcases governed with failed | invariant
          · exact .inl failed
          · exact .inr (invariant.of_sameTimers (.of_same rfl rfl rfl rfl rfl))

/-- As long as the host leaves the store alone, the store holds what the node has written since it
was built, every frame is made, carries the nickname that the store held at that moment, and asks
for a nickname if it carries none, and with each call no more frames count as dropped than the
segment refused. -/
theorem frames_speak_for_nickname (built : build config store transport clock app = .ok node)
    (room : config.layout.stop ≤ store.size) (acts : List (HostAct Clock App))
    (spared : ∀ earlier act later, acts = earlier ++ act :: later →
      (undergoAll earlier node).SparesStore act) :
    let reached := undergoAll acts node
    reached.store = store.replay reached.trace ∧
    (∀ classId typeId cause, .logged (.malformedFrame classId typeId cause) ∉ reached.trace) ∧
    (∀ earlier event accepted later, reached.trace = earlier ++ .frame event accepted :: later →
      event.origin = (store.replay earlier).read Layout.nickname ∧
        (event.origin = Protocol.unassigned → event.Manages .newNodeOnline)) ∧
    ∀ call, ∃ added, (reached.serve call).2.trace = reached.trace ++ added ∧
      (reached.serve call).2.counters.txDropped ≤
        reached.counters.txDropped + added.countP Effect.isRefusal := by
  intro reached
  obtain ⟨spoken, governed⟩ := spoken_undergoAll built room acts spared
  have tells (earlier later : List Effect) (effect : Effect)
      (split : reached.trace = earlier ++ effect :: later) :
      effect.Truthful (store.replay earlier) := by
    have told := spoken.tells
    rw [show (undergoAll acts node).trace = earlier ++ effect :: later from split] at told
    exact told.at
  refine ⟨spoken.replayed, ?_, ?_, ?_⟩
  · intro classId typeId cause malformed
    obtain ⟨earlier, later, split⟩ := List.append_of_mem malformed
    exact tells earlier later _ split
  · intro earlier event accepted later split
    exact tells earlier later _ split
  · intro call
    exact (spoken_serve spoken governed call).dropped

end Runs

/-- A segment that takes every frame but the second. -/
def mutingTransport : Transport :=
  ⟨[], 0, (· ≠ 1)⟩

def mutedNode : Node SoftTimers SilentApplication :=
  (build {} (Store.erased 256) mutingTransport (SoftTimers.empty 4)
    SilentApplication.mk).toOption.get rfl

/-- The node accepts the nickname that it is given. -/
def acceptingActs : List (HostAct SoftTimers SilentApplication) :=
  (namingCalls ++ [HostCall.process]).map .call

theorem refused_acceptance_speaks :
    ∃ earlier later, (undergoAll acceptingActs mutedNode).trace =
        earlier ++ .frame (Event.new 0 7 0x21) false :: later ∧
      ((Store.erased 256).replay earlier).read Layout.nickname = 0x21 := by
  have room : ({} : Config).layout.stop ≤ (Store.erased 256).size := by
    rw [Store.size, Store.erased, Array.size_replicate]
    decide
  have built : build {} (Store.erased 256) mutingTransport (SoftTimers.empty 4)
      SilentApplication.mk = .ok mutedNode := rfl
  have spared (earlier : List (HostAct SoftTimers SilentApplication))
      (act : HostAct SoftTimers SilentApplication)
      (later : List (HostAct SoftTimers SilentApplication))
      (split : acceptingActs = earlier ++ act :: later) :
      (undergoAll earlier mutedNode).SparesStore act := by
    have within : act ∈ acceptingActs := by
      rw [split]
      exact List.mem_append_right _ List.mem_cons_self
    obtain ⟨call, -, rfl⟩ := List.mem_map.mp within
    trivial
  have refused :
      .frame (Event.new 0 7 0x21) false ∈ (undergoAll acceptingActs mutedNode).trace := by
    decide +kernel
  obtain ⟨-, -, said, -⟩ := frames_speak_for_nickname built room acceptingActs spared
  obtain ⟨earlier, later, split⟩ := List.append_of_mem refused
  exact ⟨earlier, later, split, (said earlier _ false later split).1.symm⟩

end Node

end Vscp
