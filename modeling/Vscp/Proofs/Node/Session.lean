/-
This file proves that a session by which other nodes withdraw a nickname and the timer of the
session begin and end together, unless the node leaves to its boot loader in between.
-/

import Mathlib.Data.List.Induction
import Vscp.Proofs.Node.Run

namespace Vscp

namespace GuidDropSessions

variable {sessions after : GuidDropSessions} {origin index : UInt8} {bytes guid : List UInt8}
  {slot : SessionSlot}

/-- The sessions that a frame with an outcome leaves behind. -/
def following (sessions : GuidDropSessions) (session : GuidDropSession) :
    FrameOutcome → GuidDropSessions
  | .progress slot => sessions.set slot (some session)
  | .complete slot | .dropped (some slot) => sessions.set slot none
  | .dropped none => sessions

/-- A frame changes no session but its own. -/
theorem accept_following (sessions : GuidDropSessions) (origin index : UInt8)
    (bytes guid : List UInt8) :
    ∃ session, (sessions.accept origin index bytes guid).2 =
      sessions.following session (sessions.accept origin index bytes guid).1 := by
  unfold accept
  split
  · exact ⟨⟨origin, 0⟩, rfl⟩
  · dsimp only
    split
    · split
      · exact ⟨_, rfl⟩
      · exact ⟨⟨origin, 0⟩, rfl⟩
    · exact ⟨⟨origin, 0⟩, rfl⟩

theorem accept_progress
    (accepted : sessions.accept origin index bytes guid = (.progress slot, after)) :
    ∃ session, after = sessions.set slot (some session) := by
  have left := sessions.accept_following origin index bytes guid
  rwa [accepted] at left

theorem accept_dropped
    (accepted : sessions.accept origin index bytes guid = (.dropped (some slot), after)) :
    after = sessions.set slot none := by
  obtain ⟨session, left⟩ := sessions.accept_following origin index bytes guid
  rwa [accepted] at left

@[simp] theorem isOpen_empty (slot : SessionSlot) : empty.isOpen slot = false := by
  cases slot <;> rfl

@[simp] theorem isOpen_set (sessions : GuidDropSessions) (slot other : SessionSlot)
    (session? : Option GuidDropSession) :
    (sessions.set slot session?).isOpen other =
      if other = slot then session?.isSome else sessions.isOpen other := by
  unfold isOpen
  rw [get_set]
  split <;> rfl

end GuidDropSessions

theorem SessionSlot.timer_inj {slot other : SessionSlot} :
    slot.timer = other.timer ↔ slot = other := by
  cases slot <;> cases other <;> simp [timer]

namespace NodeCore

variable {Clock : Type}

/-- Of a session and its timer none was touched, or both are there, or none is. -/
structure InStep (before after : NodeCore Clock) : Prop where
  banked : after.bank.isSome = before.bank.isSome
  paired : ∀ slot : SessionSlot, after.sessions.isOpen slot = after.isArmed slot.timer ∨
    (after.sessions.isOpen slot = before.sessions.isOpen slot ∧
      after.isArmed slot.timer = before.isArmed slot.timer)

/-- The node has left to its boot loader and runs no timer. -/
structure Parted (before after : NodeCore Clock) : Prop where
  banked : after.bank.isSome = before.bank.isSome
  handedOver : after.lifecycle = .bootLoaderHandoff
  unarmed : ∀ slot, after.isArmed slot = false

namespace InStep

variable {first second third before after core : NodeCore Clock}

theorem of_kept (banked : after.bank.isSome = before.bank.isSome)
    (sessions : after.sessions = before.sessions)
    (armed : ∀ slot : SessionSlot, after.isArmed slot.timer = before.isArmed slot.timer) :
    InStep before after :=
  ⟨banked, fun slot => .inr ⟨congrArg (·.isOpen slot) sessions, armed slot⟩⟩

theorem of_same (sessions : after.sessions = before.sessions) (bank : after.bank = before.bank) :
    InStep before after :=
  .of_kept (congrArg Option.isSome bank) sessions
    fun slot => congrArg (·.any (·.isArmed slot.timer)) bank

theorem refl (core : NodeCore Clock) : InStep core core :=
  .of_same rfl rfl

theorem trans (left : InStep first second) (right : InStep second third) :
    InStep first third := by
  refine ⟨right.banked.trans left.banked, fun slot => ?_⟩
  rcases right.paired slot with agreed | ⟨sessions, armed⟩
  · exact .inl agreed
  · rw [sessions, armed]
    exact left.paired slot

theorem of_cleared (banked : after.bank.isSome = before.bank.isSome)
    (sessions : after.sessions = .empty) (unarmed : ∀ slot, after.isArmed slot = false) :
    InStep before after := by
  refine ⟨banked, fun slot => .inl ?_⟩
  rw [sessions, unarmed, GuidDropSessions.isOpen_empty]

theorem of_accessed (access : Accessed before after) : InStep before after := by
  refine .of_same ?_ ?_
  · rw [access.others]
  · rw [access.others]

/-- A change of one session goes with a change of its timer. -/
theorem of_slot {slot : SessionSlot} {session? : Option GuidDropSession}
    (banked : after.bank.isSome = before.bank.isSome)
    (moved : after.sessions = before.sessions.set slot session?)
    (own : after.isArmed slot.timer = session?.isSome)
    (others : ∀ other, other ≠ slot.timer → after.isArmed other = before.isArmed other) :
    InStep before after := by
  refine ⟨banked, fun other => ?_⟩
  rw [moved, GuidDropSessions.isOpen_set]
  by_cases same : other = slot
  · subst same
    rw [if_pos rfl, own]
    exact .inl rfl
  · have apart : other.timer ≠ slot.timer := fun timer => same (SessionSlot.timer_inj.mp timer)
    rw [if_neg same]
    exact .inr ⟨rfl, others _ apart⟩

theorem withdraw (core : NodeCore Clock) (request : DropRequest) :
    InStep core (core.withdraw request) := by
  unfold NodeCore.withdraw
  split <;> exact .of_same rfl rfl

theorem forget (core : NodeCore Clock) : InStep core core.forget := by
  unfold NodeCore.forget
  split <;> exact .of_same rfl rfl

end InStep

theorem Parted.of_inStep {before core after : NodeCore Clock} (inStep : InStep before core)
    (parted : Parted core after) : Parted before after :=
  ⟨parted.banked.trans inStep.banked, parted.handedOver, parted.unarmed⟩

variable [TimerService Clock]

@[simp] theorem banked_start (core : NodeCore Clock) (slot : TimerSlot) (timeout : Nat) :
    (core.start slot timeout).bank.isSome = core.bank.isSome :=
  Option.isSome_map

@[simp] theorem banked_stop (core : NodeCore Clock) (slot : TimerSlot) :
    (core.stop slot).bank.isSome = core.bank.isSome :=
  Option.isSome_map

@[simp] theorem banked_stopAll (core : NodeCore Clock) :
    core.stopAll.bank.isSome = core.bank.isSome := by
  simp [stopAll, TimerSlot.all]

@[simp] theorem banked_seeExpiry (core : NodeCore Clock) (slot : TimerSlot) :
    (core.seeExpiry slot).bank.isSome = core.bank.isSome :=
  Option.isSome_map

namespace InStep

/-- The general timer and the heartbeat belong to no session. -/
theorem start {slot : TimerSlot} (other : ∀ session : SessionSlot, session.timer ≠ slot)
    (core : NodeCore Clock) (timeout : Nat) : InStep core (core.start slot timeout) :=
  .of_kept (banked_start ..) rfl fun session => by simp [other session]

theorem stop {slot : TimerSlot} (other : ∀ session : SessionSlot, session.timer ≠ slot)
    (core : NodeCore Clock) : InStep core (core.stop slot) :=
  .of_kept (banked_stop ..) rfl fun session => by simp [other session]

theorem seeExpiry {slot : TimerSlot} (other : ∀ session : SessionSlot, session.timer ≠ slot)
    (core : NodeCore Clock) : InStep core (core.seeExpiry slot) :=
  .of_kept (banked_seeExpiry ..) rfl fun session => by simp [isArmed_seeExpiry, other session]

theorem startHeartbeat (core : NodeCore Clock) : InStep core core.startHeartbeat := by
  unfold NodeCore.startHeartbeat
  split
  · exact .refl _
  · exact .start SessionSlot.timer_ne_heartbeat _ _

theorem goActive (core : NodeCore Clock) : InStep core core.goActive :=
  (startHeartbeat core).trans (.of_same rfl rfl)

theorem probe (core : NodeCore Clock) : InStep core core.probe :=
  .start SessionSlot.timer_ne_general _ _

theorem startDiscovery (core : NodeCore Clock) : InStep core core.startDiscovery := by
  have silenced : InStep core (core.stop .heartbeat) := .stop SessionSlot.timer_ne_heartbeat _
  have searching : InStep (core.stop .heartbeat)
      ({ core.stop .heartbeat with discovery := .new }.enter .nicknameDiscovery) :=
    .of_same rfl rfl
  exact (silenced.trans searching).trans (.probe _)

theorem enterIdle (core : NodeCore Clock) : InStep core core.enterIdle :=
  .of_cleared (banked_stopAll _) rfl core.isArmed_stopAll

theorem reset (core : NodeCore Clock) : InStep core core.reset := by
  unfold NodeCore.reset
  split
  · exact .refl _
  · exact .of_cleared (banked_stopAll _) rfl core.isArmed_stopAll

theorem serviceGeneral (core : NodeCore Clock) : InStep core core.serviceGeneral := by
  have seen : InStep core (core.seeExpiry .general) :=
    .seeExpiry SessionSlot.timer_ne_general core
  unfold NodeCore.serviceGeneral
  split
  · unfold onGeneralExpiry
    split
    · have tracked : InStep (core.seeExpiry .general)
          { core.seeExpiry .general with discovery := core.discovery.timeout } := .of_same rfl rfl
      exact (seen.trans tracked).trans (.probe _)
    · split
      · exact (seen.trans (.forget _)).trans (.reset _)
      · exact seen
  · exact .refl _

theorem serviceSession (core : NodeCore Clock) (slot : SessionSlot) :
    InStep core (core.serviceSession slot) := by
  unfold NodeCore.serviceSession
  split
  · rename_i due
    have closed : { core.seeExpiry slot.timer with
        sessions := (core.sessions.expire slot).2 }.sessions = core.sessions.set slot none := rfl
    refine .of_slot (banked_seeExpiry ..) closed ?_ fun other apart => ?_
    · change (core.seeExpiry slot.timer).isArmed slot.timer = false
      simp [isArmed_seeExpiry, due]
    · change (core.seeExpiry slot.timer).isArmed other = _
      rw [isArmed_seeExpiry, if_neg apart]
  · exact .refl _

theorem serviceHeartbeat (core : NodeCore Clock) : InStep core core.serviceHeartbeat := by
  have seen : InStep core (core.seeExpiry .heartbeat) :=
    .seeExpiry SessionSlot.timer_ne_heartbeat core
  unfold NodeCore.serviceHeartbeat
  split
  · split
    · exact seen.trans (.startHeartbeat _)
    · exact seen
  · exact .refl _

theorem serviceTimers (core : NodeCore Clock) : InStep core core.serviceTimers :=
  (((serviceGeneral core).trans (serviceSession _ _)).trans (serviceSession _ _)).trans
    (serviceHeartbeat _)

end InStep

variable {core after : NodeCore Clock} {event : Event} {kind : Management}

/-- Only the boot loader parts an active node from its timers and not from its sessions. -/
theorem ActiveStep.inStep (active : core.lifecycle = .active) (banked : core.bank.isSome = true)
    (step : ActiveStep core event kind after) : InStep core after ∨ Parted core after := by
  cases step with
  | accessed access => exact .inl (.of_accessed access)
  | timed data same => exact .inl (.of_same rfl rfl)
  | moved data other =>
      rename_i crc rest
      have written : InStep core
          ((core.writeStore Layout.segmentCrc crc).setNickname Protocol.unassigned) :=
        .of_same rfl rfl
      exact .inl (written.trans (.startDiscovery _))
  | collided own =>
      have written : InStep core (core.setNickname Protocol.unassigned) := .of_same rfl rfl
      exact .inl (written.trans (.startDiscovery _))
  | renamed addressed valid => exact .inl (.of_same rfl rfl)
  | parked addressed decoded idle => exact .inl ((InStep.withdraw core _).trans (.enterIdle _))
  | dropped addressed decoded stays atOnce =>
      exact .inl ((InStep.withdraw core _).trans (.reset _))
  | delayed addressed decoded later =>
      rename_i arguments request
      have pending : InStep core
          { core with resetPending := true, clearNickname := !request.keepNickname } :=
        .of_same rfl rfl
      exact .inl (pending.trans (.start SessionSlot.timer_ne_general _ _))
  | handedOver addressed present own identified =>
      exact .inr ⟨banked_stopAll _, rfl, core.isArmed_stopAll⟩
  | progressed data accepted =>
      obtain ⟨session, rfl⟩ := GuidDropSessions.accept_progress accepted
      refine .inl (.of_slot (banked_start ..) (Eq.refl (core.sessions.set _ (some session))) ?_
        fun other apart => ?_)
      · simpa using banked
      · rw [isArmed_start, if_neg apart]
        rfl
  | completed data accepted =>
      rename_i index bytes slot sessions
      -- the sessions of this core are not those of its timers, but the reset clears both
      have running : ¬(({ core with sessions }.stop slot.timer).setNickname
          Protocol.unassigned).lifecycle.fault?.isSome = true := by
        change ¬core.lifecycle.fault?.isSome = true
        simp [active, Lifecycle.fault?]
      rw [NodeCore.reset, if_neg running]
      exact .inl (.of_cleared ((banked_stopAll _).trans (banked_stop ..)) rfl (isArmed_stopAll _))
  | discarded data accepted =>
      obtain rfl := GuidDropSessions.accept_dropped accepted
      refine .inl (.of_slot (banked_stop ..) (Eq.refl (core.sessions.set _ none)) ?_
        fun other apart => ?_)
      · simp
      · rw [isArmed_stop, if_neg apart]
        rfl

theorem SearchStep.inStep (step : SearchStep core event kind after) : InStep core after := by
  cases step with
  | assigned data addressed valid =>
      rename_i old new rest
      have stopped : InStep core (core.stop .general) := .stop SessionSlot.timer_ne_general _
      have named : InStep (core.stop .general) ((core.stop .general).setNickname new) :=
        .of_same rfl rfl
      exact (stopped.trans named).trans (.goActive _)
  | awaited own outcome =>
      rename_i discovery
      have tracked : InStep core { core with discovery } := .of_same rfl rfl
      exact tracked.trans (.start SessionSlot.timer_ne_general _ _)
  | probed own outcome =>
      rename_i discovery
      have tracked : InStep core { core with discovery } := .of_same rfl rfl
      exact tracked.trans (.probe _)
  | gaveUp own outcome =>
      rename_i discovery
      have tracked : InStep core { core with discovery } := .of_same rfl rfl
      exact (tracked.trans (.stop SessionSlot.timer_ne_general _)).trans (.enterIdle _)
  | silent data => exact .refl _
  | timed data => split <;> exact .of_same rfl rfl

theorem Reaction.inStep (banked : core.lifecycle = .active → core.bank.isSome = true)
    (reaction : Reaction core event after) : InStep core after ∨ Parted core after := by
  cases reaction with
  | ignored => exact .inl (.refl _)
  | judged active foreign engine event? => exact .inl (.of_same rfl rfl)
  | managed active command step => exact step.inStep active (banked active)
  | searched searching command step => exact .inl step.inStep

end NodeCore

namespace Node

open NodeCore

variable {Clock App : Type} [TimerService Clock]

theorem inStep_processing {node found : Node Clock App} {call : HostCall}
    (processing : node.processing? call = some found) : InStep node.core found.core := by
  cases call <;> cases processing
  · exact .refl _
  · exact .of_same rfl rfl

variable [Application App]

theorem Takes.inStep {node ready : Node Clock App} {call : HostCall} {event : Event}
    (takes : node.Takes call event ready) : InStep node.core ready.core := by
  obtain ⟨found, processing, -, -, rfl⟩ := takes.found
  rw [core_serviceTimers]
  exact (inStep_processing processing).trans (.serviceTimers _)

/-- A call moves every session together with its timer, or leaves to the boot loader. -/
theorem Turn.inStep {node : Node Clock App} {call : HostCall} {after : NodeCore Clock}
    (banked : node.lifecycle = .active → node.bank.isSome = true) (turn : Turn node call after) :
    InStep node.core after ∨ Parted node.core after := by
  cases turn with
  | accessed access => exact .inl (.of_accessed access)
  | judged engine => exact .inl (.of_same rfl rfl)
  | ticked elapsed => exact .inl (.of_same rfl rfl)
  | restarted asked sound => exact .inl (.of_same rfl rfl)
  | reset asked => exact .inl (.reset _)
  | inert processing inert => exact .inl (inStep_processing processing)
  | searched processing starting missing =>
      exact .inl ((inStep_processing processing).trans (.startDiscovery _))
  | activated processing starting named =>
      exact .inl ((inStep_processing processing).trans (.goActive _))
  | served processing running =>
      exact .inl ((inStep_processing processing).trans (.serviceTimers _))
  | took takes reaction =>
      have waited := takes.inStep
      have armed (active : _ = Lifecycle.active) : _ = true :=
        waited.banked.trans (banked (takes.elapsed.lifecycle.symm.trans active))
      rcases reaction.inStep armed with inStep | parted
      · exact .inl (waited.trans inStep)
      · exact .inr (.of_inStep waited parted)

/-- A node that has not failed has its timers. -/
def Banked (node : Node Clock App) : Prop :=
  node.lifecycle.fault?.isSome = true ∨ node.bank.isSome = true

omit [TimerService Clock] [Application App] in
theorem Banked.of_active {node : Node Clock App} (banked : node.Banked)
    (active : node.lifecycle = .active) : node.bank.isSome = true := by
  rcases banked with failed | banked
  · exact absurd active (Lifecycle.ne_of_failed failed rfl)
  · exact banked

theorem Banked.inStep {node : Node Clock App} (banked : node.Banked) (call : HostCall) :
    InStep node.core (node.serve call).2.core ∨ Parted node.core (node.serve call).2.core :=
  (node.turn_serve call).inStep banked.of_active

theorem Banked.serve {node : Node Clock App} (banked : node.Banked) (call : HostCall) :
    (node.serve call).2.Banked := by
  have moved := banked.inStep call
  rcases banked with failed | banked
  · left
    have stays : (node.serve call).2.lifecycle = node.lifecycle :=
      (node.steps_serve call).failed failed
    rwa [stays]
  · right
    rcases moved with inStep | parted
    · exact inStep.banked.trans banked
    · exact parted.banked.trans banked

/-- A session that no timer ends. -/
def Orphaned (node : Node Clock App) (slot : SessionSlot) : Prop :=
  node.sessions.isOpen slot = true ∧ node.isArmed slot.timer = false

/-- No call arms the timer of a session that is not open. -/
theorem Banked.owned {node : Node Clock App} (banked : node.Banked) (call : HostCall)
    {slot : SessionSlot}
    (owned : node.isArmed slot.timer = true → node.sessions.isOpen slot = true) :
    (node.serve call).2.isArmed slot.timer = true →
      (node.serve call).2.sessions.isOpen slot = true := by
  intro timed
  rcases banked.inStep call with inStep | parted
  · rcases inStep.paired slot with agreed | ⟨sessions, armed⟩
    · exact agreed.trans timed
    · exact sessions.trans (owned (armed.symm.trans timed))
  · exact absurd ((parted.unarmed slot.timer).symm.trans timed) (by decide)

/-- Only the boot loader orphans a session. -/
theorem Banked.orphaned {node : Node Clock App} (banked : node.Banked) (call : HostCall)
    {slot : SessionSlot} (alone : (node.serve call).2.Orphaned slot) :
    (node.serve call).2.lifecycle = .bootLoaderHandoff ∨ node.Orphaned slot := by
  obtain ⟨there, untimed⟩ := alone
  rcases banked.inStep call with inStep | parted
  · right
    rcases inStep.paired slot with agreed | ⟨sessions, armed⟩
    · exact absurd ((agreed.symm.trans there).symm.trans untimed) (by decide)
    · exact ⟨sessions.symm.trans there, armed.symm.trans untimed⟩
  · exact .inl parted.handedOver

omit [TimerService Clock] [Application App] in
theorem Fresh.banked {config : Config} {transport : Transport} {node : Node Clock App}
    (fresh : node.Fresh config transport) : node.Banked := by
  rcases fresh.lifecycle with ⟨-, banked⟩ | failed
  · exact .inr banked
  · exact .inl (congrArg (·.fault?.isSome) failed)

theorem banked_serveAll {node : Node Clock App} (banked : node.Banked) (calls : List HostCall) :
    (serveAll calls node).2.Banked := by
  induction calls generalizing node with
  | nil => exact banked
  | cons call rest ih => exact ih (banked.serve call)

theorem owned_serveAll {node : Node Clock App} (banked : node.Banked) {slot : SessionSlot}
    (owned : node.isArmed slot.timer = true → node.sessions.isOpen slot = true)
    (calls : List HostCall) :
    (serveAll calls node).2.isArmed slot.timer = true →
      (serveAll calls node).2.sessions.isOpen slot = true := by
  induction calls generalizing node with
  | nil => exact owned
  | cons call rest ih => exact ih (banked.serve call) (banked.owned call owned)

/-- A session without its timer has had none since the node left to its boot loader. -/
theorem orphaned_serveAll {node : Node Clock App} (banked : node.Banked) {slot : SessionSlot}
    (tended : ¬node.Orphaned slot) {calls : List HostCall}
    (alone : (serveAll calls node).2.Orphaned slot) :
    ∃ earlier later, calls = earlier ++ later ∧
      (serveAll earlier node).2.lifecycle = .bootLoaderHandoff ∧
      ∀ middle, middle <+: later → (serveAll (earlier ++ middle) node).2.Orphaned slot := by
  induction calls using List.reverseRecOn with
  | nil => exact absurd alone tended
  | append_singleton calls call ih =>
      rw [serveAll_concat] at alone
      rcases (banked_serveAll banked calls).orphaned call alone with left | before
      · rw [← serveAll_concat] at left alone
        refine ⟨calls ++ [call], [], (List.append_nil _).symm, left, fun middle within => ?_⟩
        rw [List.prefix_nil.mp within, List.append_nil]
        exact alone
      · obtain ⟨earlier, later, split, left, since⟩ := ih before
        refine ⟨earlier, later ++ [call], by rw [split, List.append_assoc], left, ?_⟩
        intro middle within
        rcases List.prefix_concat_iff.mp within with whole | within
        · rw [whole, ← List.append_assoc, ← split, serveAll_concat]
          exact alone
        · exact since middle within

/-- After any calls of the host the timer of a session is armed only while the session is open,
and an open session has its timer armed, unless it has had none since the node left to its boot
loader. -/
theorem sessions_timed_unless_parted {config : Config} {store : Store} {transport : Transport}
    {clock : Clock} {app : App} {node : Node Clock App}
    (built : build config store transport clock app = .ok node) (calls : List HostCall)
    (slot : SessionSlot) :
    let reached := (serveAll calls node).2
    (reached.isArmed slot.timer = true → reached.sessions.isOpen slot = true) ∧
    (reached.sessions.isOpen slot = true → reached.isArmed slot.timer = true ∨
      ∃ earlier later, calls = earlier ++ later ∧
        (serveAll earlier node).2.lifecycle = .bootLoaderHandoff ∧
        ∀ middle, middle <+: later → (serveAll (earlier ++ middle) node).2.Orphaned slot) := by
  intro reached
  have fresh := fresh_build built
  have shut : node.sessions.isOpen slot = false := by
    rw [fresh.sessions, GuidDropSessions.isOpen_empty]
  constructor
  · refine owned_serveAll fresh.banked (fun armed => ?_) calls
    exact absurd ((fresh.unarmed slot.timer).symm.trans armed) (by decide)
  · intro there
    cases timed : reached.isArmed slot.timer with
    | true => exact .inl rfl
    | false =>
        refine .inr (orphaned_serveAll fresh.banked (fun alone => ?_) ⟨there, timed⟩)
        exact absurd (shut.symm.trans alone.1) (by decide)

/-- The settings, the store and the calls of a node that leaves to its boot loader in the middle
of a withdrawal and is restarted by its host. -/
def partingConfig : Config :=
  { bootLoaderAlgorithm := 1 }

def partingStore : Store :=
  (Store.forLayout partingConfig.layout
    [0xFF, 0xFF, 0xFF, 0xFF, 0xFF, 0xFF, 0xFF, 0xFE, 0, 1, 2, 3, 4, 5, 6, 7]).write
    Layout.nickname 0x10

def partingCalls : List HostCall :=
  [.process,
    .receive { Event.new 0 23 9 with data := [0, 0xFF, 0xFF, 0xFF, 0xFF], dataWithin := by decide },
    .process,
    .receive
      { Event.new 0 12 0 with data := [0x10, 1, 2, 3, 4, 5, 6, 7], dataWithin := by decide },
    .process, .restart, .process, .poll 5000]

/-- The session of the withdrawal is open past its time when the node is active again. -/
theorem parted_session_untimed :
    ¬∀ (config : Config) (store : Store) (transport : Transport) (clock : SoftTimers)
      (app : SilentApplication) (node : Node SoftTimers SilentApplication)
      (calls : List HostCall) (slot : SessionSlot),
      build config store transport clock app = .ok node →
        (serveAll calls node).2.sessions.isOpen slot =
          (serveAll calls node).2.isArmed slot.timer := by
  intro together
  have agreed := together partingConfig partingStore .open (SoftTimers.empty 4) ⟨⟩ _ partingCalls
    .first rfl
  exact absurd agreed (by decide +kernel)

theorem parting_session_orphaned :
    ∃ node, build partingConfig partingStore .open (SoftTimers.empty 4) SilentApplication.mk =
        .ok node ∧
      ∃ earlier later, partingCalls = earlier ++ later ∧
        (serveAll earlier node).2.lifecycle = .bootLoaderHandoff ∧
        ∀ middle, middle <+: later → (serveAll (earlier ++ middle) node).2.Orphaned .first := by
  have built : build partingConfig partingStore .open (SoftTimers.empty 4) SilentApplication.mk =
      .ok _ := rfl
  obtain ⟨-, timed⟩ := sessions_timed_unless_parted built partingCalls .first
  refine ⟨_, built, (timed (by decide +kernel)).resolve_left (by decide +kernel)⟩

end Node

end Vscp
