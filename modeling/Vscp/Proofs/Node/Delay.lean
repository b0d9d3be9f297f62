/-
This file proves that a node owes a reset only to a request of its past, and that the general timer
of an active node waits for nothing else.
-/

import Mathlib.Data.List.Induction
import Vscp.Proofs.Node.Run

namespace Vscp

namespace NodeCore

variable {Clock : Type}

/-- The node waits with the general timer while it has a nickname. -/
structure Waiting (core : NodeCore Clock) : Prop where
  armed : core.isArmed .general = true
  named : core.lifecycle = .active ∨
    (core.lifecycle = .starting ∧ core.nickname ≠ Protocol.unassigned)

/-- A node that has stopped does not wait with the general timer. -/
def Parked (core : NodeCore Clock) : Prop :=
  core.lifecycle = .idle ∨ core.lifecycle = .bootLoaderHandoff → core.isArmed .general = false

/-- A node that searches has no nickname, and one that has stopped does not wait. -/
structure Settled (core : NodeCore Clock) : Prop where
  missing : core.lifecycle = .nicknameDiscovery → core.nickname = Protocol.unassigned
  parked : core.Parked

/-- The node owes no other reset than before and has not begun to wait. -/
structure Continues (before after : NodeCore Clock) : Prop where
  owed : after.resetPending = true →
    before.resetPending = true ∧ after.clearNickname = before.clearNickname
  missing : before.Settled → after.lifecycle = .nicknameDiscovery →
    after.nickname = Protocol.unassigned
  parked : before.Parked → after.Parked
  waiting : before.Settled → after.Waiting → before.Waiting

theorem Continues.settled {before after : NodeCore Clock} (continues : Continues before after)
    (start : before.Settled) : after.Settled :=
  ⟨continues.missing start, continues.parked start.parked⟩

theorem Parked.of_awake {core : NodeCore Clock} (awake : core.lifecycle ≠ .idle)
    (present : core.lifecycle ≠ .bootLoaderHandoff) : core.Parked := by
  rintro (idle | handed)
  · exact absurd idle awake
  · exact absurd handed present

namespace Continues

variable {first second third before after core : NodeCore Clock}

theorem trans (left : Continues first second) (right : Continues second third) :
    Continues first third where
  owed pending := by
    obtain ⟨owed, kept⟩ := right.owed pending
    obtain ⟨pending, same⟩ := left.owed owed
    exact ⟨pending, kept.trans same⟩
  missing start := right.missing (left.settled start)
  parked start := right.parked (left.parked start)
  waiting start last := left.waiting start (right.waiting (left.settled start) last)

/-- Nothing changes for the reset while state, nickname and debt stay and no timer is armed. -/
theorem of_kept (lifecycle : after.lifecycle = before.lifecycle)
    (nickname : before.lifecycle ≠ .active → after.nickname = before.nickname)
    (general : after.isArmed .general = true → before.isArmed .general = true)
    (pending : after.resetPending = before.resetPending)
    (clear : after.clearNickname = before.clearNickname) : Continues before after where
  owed owed := ⟨pending.symm.trans owed, clear⟩
  missing start searching := by
    rw [lifecycle] at searching
    rw [nickname (by simp [searching])]
    exact start.missing searching
  parked start stopped := by
    rw [lifecycle] at stopped
    have unarmed := start stopped
    refine Bool.eq_false_iff.mpr fun armed => ?_
    exact absurd (unarmed.symm.trans (general armed)) (by decide)
  waiting _ last := by
    refine ⟨general last.armed, ?_⟩
    have named := last.named
    rw [lifecycle] at named
    rcases named with active | ⟨starting, named⟩
    · exact .inl active
    · rw [nickname (by simp [starting])] at named
      exact .inr ⟨starting, named⟩

theorem refl (core : NodeCore Clock) : Continues core core :=
  .of_kept rfl (fun _ => rfl) id rfl rfl

theorem of_accessed (access : Accessed before after) : Continues before after := by
  refine .of_kept ?_ (fun _ => access.nickname) ?_ ?_ ?_
  all_goals rw [access.others]
  exact id

theorem of_elapsed (elapsed : Elapsed before after) : Continues before after :=
  .of_kept elapsed.lifecycle (fun _ => elapsed.nickname) elapsed.general elapsed.resetPending
    elapsed.clearNickname

/-- Without the general timer a node does not wait. -/
theorem of_unarmed (settled : after.lifecycle ≠ .nicknameDiscovery)
    (unarmed : after.isArmed .general = false)
    (owed : after.resetPending = true →
      before.resetPending = true ∧ after.clearNickname = before.clearNickname) :
    Continues before after where
  owed := owed
  missing _ searching := absurd searching settled
  parked _ _ := unarmed
  waiting _ last := absurd (unarmed.symm.trans last.armed) (by decide)

/-- A node that searches waits for the answers to its probes. -/
theorem of_searching (searching : after.lifecycle = .nicknameDiscovery)
    (missing : before.Settled → after.nickname = Protocol.unassigned)
    (pending : after.resetPending = before.resetPending)
    (clear : after.clearNickname = before.clearNickname) : Continues before after where
  owed owed := ⟨pending.symm.trans owed, clear⟩
  missing start _ := missing start
  parked _ := by apply Parked.of_awake <;> simp [searching]
  waiting _ last := by
    rcases last.named with active | ⟨starting, -⟩
    · exact absurd (searching.symm.trans active) (by decide)
    · exact absurd (searching.symm.trans starting) (by decide)

/-- A restart of a node that has not failed leaves its timers alone. -/
theorem restart (sound : core.lifecycle.fault? = none) : Continues core (core.enter .starting) where
  owed owed := ⟨owed, rfl⟩
  missing _ searching := by cases searching
  parked _ := by apply Parked.of_awake <;> simp [enter]
  waiting start last := by
    have armed : core.isArmed .general = true := last.armed
    have named : core.nickname ≠ Protocol.unassigned := by
      rcases last.named with active | ⟨-, named⟩
      · cases active
      · exact named
    refine ⟨armed, ?_⟩
    cases lifecycle : core.lifecycle with
    | starting => exact .inr ⟨rfl, named⟩
    | nicknameDiscovery => exact absurd (start.missing lifecycle) named
    | active => exact .inl rfl
    | idle => exact absurd ((start.parked (.inl lifecycle)).symm.trans armed) (by decide)
    | bootLoaderHandoff =>
        exact absurd ((start.parked (.inr lifecycle)).symm.trans armed) (by decide)
    | error fault =>
        rw [lifecycle] at sound
        cases sound

variable [TimerService Clock]

theorem startDiscovery (missing : core.nickname = Protocol.unassigned) :
    Continues core core.startDiscovery :=
  .of_searching rfl (fun _ => missing) rfl rfl

theorem enterIdle (before core : NodeCore Clock) : Continues before core.enterIdle :=
  .of_unarmed (show Lifecycle.idle ≠ _ by decide) (core.isArmed_stopAll _) fun owed => by cases owed

theorem goActive (starting : core.lifecycle = .starting)
    (named : core.nickname ≠ Protocol.unassigned) : Continues core core.goActive where
  owed owed := by
    change core.startHeartbeat.resetPending = true at owed
    change _ ∧ core.startHeartbeat.clearNickname = _
    rw [resetPending_startHeartbeat] at owed
    rw [clearNickname_startHeartbeat]
    exact ⟨owed, rfl⟩
  missing _ searching := by cases searching
  parked _ := by apply Parked.of_awake <;> simp [NodeCore.goActive, enter]
  waiting _ last := by
    have armed : core.startHeartbeat.isArmed .general = true := last.armed
    rw [isArmed_startHeartbeat_other (by decide)] at armed
    exact ⟨armed, .inr ⟨starting, named⟩⟩

theorem reset_of_sound (before : NodeCore Clock) (sound : core.lifecycle.fault? = none) :
    Continues before core.reset := by
  have running : ¬core.lifecycle.fault?.isSome = true := by simp [sound]
  rw [NodeCore.reset, if_neg running]
  exact .of_unarmed (show Lifecycle.starting ≠ _ by decide) (core.isArmed_stopAll _)
    fun owed => by cases owed

theorem reset (core : NodeCore Clock) : Continues core core.reset := by
  cases fault : core.lifecycle.fault? with
  | none => exact reset_of_sound core fault
  | some cause =>
      have failed : core.lifecycle.fault?.isSome = true := by rw [fault]; rfl
      rw [NodeCore.reset, if_pos failed]
      exact .refl _

theorem serviceTimers (running : core.lifecycle.Runs) : Continues core core.serviceTimers := by
  by_cases due : core.ResetDue
  · refine (reset_of_sound core ?_).trans (.of_elapsed (elapsed_of_resetDue due))
    have lifecycle : (core.seeExpiry .general).forget.lifecycle = core.lifecycle := by
      unfold forget
      split <;> rfl
    rw [lifecycle]
    rcases running with searching | active | idle
    · rw [searching]; rfl
    · rw [active]; rfl
    · rw [idle]; rfl
  · exact .of_elapsed (elapsed_of_early due)

end Continues

variable [TimerService Clock] {core after : NodeCore Clock} {event : Event} {kind : Management}

/-- The event asks an active node for a reset that it puts off. -/
structure PutsOff (core : NodeCore Clock) (event : Event) (request : DropRequest) : Prop where
  active : core.lifecycle = .active
  command : event.Manages .dropNickname
  asked : ∃ arguments, core.Addressed event arguments ∧
    request = .ofBytes (arguments.getD 0 0) (arguments.getD 1 0)
  delayed : request.delayed = true

/-- Nothing but a request makes an active node wait for a reset. -/
theorem ActiveStep.continues (active : core.lifecycle = .active)
    (command : event.Manages kind) (step : ActiveStep core event kind after) :
    (∃ request, core.PutsOff event request ∧ after.lifecycle = .active ∧
      after.clearNickname = !request.keepNickname) ∨ Continues core after := by
  have sound : core.lifecycle.fault? = none := by rw [active]; rfl
  have renamed (nickname : UInt8) : Continues core (core.setNickname nickname) :=
    .of_kept rfl (absurd active) id rfl rfl
  cases step with
  | accessed access => exact .inr (.of_accessed access)
  | timed data same => exact .inr (.of_kept rfl (fun _ => rfl) id rfl rfl)
  | moved data other =>
      rename_i crc rest
      have written : Continues core
          ((core.writeStore Layout.segmentCrc crc).setNickname Protocol.unassigned) :=
        .of_kept rfl (absurd active) id rfl rfl
      exact .inr (written.trans (.startDiscovery (nickname_unassign _)))
  | collided own => exact .inr ((renamed _).trans (.startDiscovery (nickname_unassign _)))
  | renamed addressed valid => exact .inr (renamed _)
  | parked addressed decoded idle => exact .inr (.enterIdle _ _)
  | dropped addressed decoded stays atOnce =>
      refine .inr (.reset_of_sound _ ?_)
      rw [lifecycle_withdraw]
      exact sound
  | delayed addressed decoded later =>
      exact .inl ⟨_, ⟨active, command, ⟨_, addressed, decoded⟩, later⟩, active, rfl⟩
  | handedOver addressed present own identified =>
      exact .inr (.of_unarmed (show Lifecycle.bootLoaderHandoff ≠ _ by decide)
        (core.isArmed_stopAll _) fun owed => ⟨owed, rfl⟩)
  | progressed data accepted =>
      refine .inr (.of_kept rfl (fun _ => rfl) (fun armed => ?_) rfl rfl)
      rw [isArmed_start, if_neg (SessionSlot.timer_ne_general _).symm] at armed
      exact armed
  | completed data accepted => exact .inr (.reset_of_sound _ sound)
  | discarded data accepted =>
      refine .inr (.of_kept rfl (fun _ => rfl) (fun armed => ?_) rfl rfl)
      rw [isArmed_stop, if_neg (SessionSlot.timer_ne_general _).symm] at armed
      exact armed

theorem SearchStep.continues (searching : core.lifecycle = .nicknameDiscovery)
    (step : SearchStep core event kind after) : Continues core after := by
  cases step with
  | assigned data addressed valid =>
      rename_i old new rest
      refine .of_unarmed (show Lifecycle.active ≠ _ by decide) ?_ fun owed => ?_
      · change ((core.stop .general).setNickname new).startHeartbeat.isArmed .general = false
        rw [isArmed_startHeartbeat_other (by decide)]
        change (core.stop .general).isArmed .general = false
        rw [isArmed_stop, if_pos rfl]
      · change ((core.stop .general).setNickname new).startHeartbeat.resetPending = true at owed
        change _ ∧ ((core.stop .general).setNickname new).startHeartbeat.clearNickname = _
        rw [resetPending_startHeartbeat] at owed
        rw [clearNickname_startHeartbeat]
        exact ⟨owed, rfl⟩
  | awaited own outcome =>
      exact .of_searching searching (fun start => start.missing searching) rfl rfl
  | probed own outcome =>
      exact .of_searching searching (fun start => start.missing searching) rfl rfl
  | gaveUp own outcome => exact .enterIdle _ _
  | silent data => exact .refl _
  | timed data =>
      split
      · exact .of_kept rfl (fun _ => rfl) id rfl rfl
      · exact .of_kept rfl (fun _ => Store.read_write_other core.store (by decide) _) id rfl rfl

theorem Reaction.continues (reaction : Reaction core event after) :
    (∃ request, core.PutsOff event request ∧ after.lifecycle = .active ∧
      after.clearNickname = !request.keepNickname) ∨ Continues core after := by
  cases reaction with
  | ignored => exact .inr (.refl _)
  | judged active foreign engine event? => exact .inr (.of_kept rfl (fun _ => rfl) id rfl rfl)
  | managed active command step => exact step.continues active command
  | searched searching command step => exact .inr (step.continues searching)

end NodeCore

namespace Node

open NodeCore

variable {Clock App : Type} [TimerService Clock] [Application App]

/-- The call takes an event that asks for a reset, and the node puts the reset off. -/
def PutsOff (node : Node Clock App) (call : HostCall) (request : DropRequest) : Prop :=
  ∃ event ready, node.Takes call event ready ∧ ready.core.PutsOff event request

/-- A call that puts off a reset makes the node owe it; any other call makes it owe nothing new. -/
theorem Turn.continues {node : Node Clock App} {call : HostCall} {after : NodeCore Clock}
    (turn : Turn node call after) :
    (∃ request, node.PutsOff call request ∧ after.lifecycle = .active ∧
      after.clearNickname = !request.keepNickname) ∨ Continues node.core after := by
  cases turn with
  | accessed access => exact .inr (.of_accessed access)
  | judged engine => exact .inr (.of_kept rfl (fun _ => rfl) id rfl rfl)
  | ticked elapsed => exact .inr (.of_elapsed (node.elapsed_tick elapsed))
  | restarted asked sound => exact .inr (.restart sound)
  | reset asked => exact .inr (.reset _)
  | inert processing inert => exact .inr (.of_elapsed (elapsed_processing processing))
  | searched processing starting missing =>
      have waited := elapsed_processing processing
      exact .inr ((Continues.of_elapsed waited).trans (.startDiscovery missing))
  | activated processing starting named =>
      have waited := elapsed_processing processing
      exact .inr ((Continues.of_elapsed waited).trans (.goActive starting named))
  | served processing running =>
      have waited := elapsed_processing processing
      exact .inr ((Continues.of_elapsed waited).trans (.serviceTimers running))
  | took takes reaction =>
      rcases reaction.continues with ⟨request, asked, active, clear⟩ | later
      · exact .inl ⟨request, ⟨_, _, takes, asked⟩, active, clear⟩
      · exact .inr ((Continues.of_elapsed takes.elapsed).trans later)

/-- One of the acts put off the reset that the node owes after them, and unless the host has
changed what surrounds the node, a node that waits has waited with the general timer since. -/
def OwedTo (node : Node Clock App) (acts : List (HostAct Clock App)) (request : DropRequest) :
    Prop :=
  ∃ earlier call later, acts = earlier ++ .call call :: later ∧
    (undergoAll earlier node).PutsOff call request ∧
    ((∀ act ∈ later, ∃ call, act = .call call) →
      (undergoAll acts node).core.Settled ∧
      ((undergoAll acts node).core.Waiting → ∀ middle, middle <+: later →
        (undergoAll (earlier ++ .call call :: middle) node).core.Waiting))

/-- The node goes on to owe the reset. -/
theorem OwedTo.concat {node : Node Clock App} {acts : List (HostAct Clock App)}
    {request : DropRequest} (owedTo : node.OwedTo acts request) (act : HostAct Clock App)
    (continues : ∀ call, act = .call call →
      Continues (undergoAll acts node).core ((undergoAll acts node).serve call).2.core) :
    node.OwedTo (acts ++ [act]) request := by
  obtain ⟨earlier, call, later, split, asked, since⟩ := owedTo
  refine ⟨earlier, call, later ++ [act], by simp [split], asked, fun alone => ?_⟩
  obtain ⟨last, rfl⟩ := alone act (by simp)
  obtain ⟨settled, waited⟩ := since fun act within => alone act (by simp [within])
  have kept := continues last rfl
  rw [undergoAll_concat]
  refine ⟨kept.settled settled, fun waiting middle within => ?_⟩
  rcases List.prefix_concat_iff.mp within with whole | within
  · have all : earlier ++ .call call :: middle = acts ++ [.call last] := by simp [whole, split]
    rw [all, undergoAll_concat]
    exact waiting
  · exact waited (kept.waiting settled waiting) middle within

/-- A node owes a reset only to a request, and withdraws its nickname as the request says. -/
theorem owedTo_undergoAll {node : Node Clock App} (fresh : node.resetPending = false)
    {acts : List (HostAct Clock App)} (owed : (undergoAll acts node).resetPending = true) :
    ∃ request, node.OwedTo acts request ∧
      (undergoAll acts node).clearNickname = !request.keepNickname := by
  induction acts using List.reverseRecOn with
  | nil => exact absurd (fresh.symm.trans owed) (by decide)
  | append_singleton acts act ih =>
      rw [undergoAll_concat] at owed ⊢
      cases act with
      | surround store transport clock app =>
          -- the debt stays, but from here on nothing is said about the wait
          obtain ⟨request, owedTo, clear⟩ := ih owed
          exact ⟨request, owedTo.concat _ (by simp), clear⟩
      | call call =>
          rcases ((undergoAll acts node).turn_serve call).continues with
            ⟨request, asked, active, clear⟩ | kept
          · refine ⟨request, ⟨acts, call, [], rfl, asked, fun _ => ?_⟩, clear⟩
            rw [undergoAll_concat]
            have settled : ((undergoAll acts node).serve call).2.core.Settled :=
              ⟨by simp [active], by apply Parked.of_awake <;> simp [active]⟩
            refine ⟨settled, fun waiting middle within => ?_⟩
            rw [List.prefix_nil.mp within, undergoAll_concat]
            exact waiting
          · obtain ⟨pending, same⟩ := kept.owed owed
            obtain ⟨request, owedTo, clear⟩ := ih pending
            refine ⟨request, owedTo.concat _ fun other taken => ?_, same.trans clear⟩
            cases taken
            exact kept

/-- After any acts a node that has stopped does not wait with the general timer. -/
theorem parked_undergoAll {node : Node Clock App} (start : node.core.Parked)
    (acts : List (HostAct Clock App)) : (undergoAll acts node).core.Parked := by
  induction acts using List.reverseRecOn with
  | nil => exact start
  | append_singleton acts act ih =>
      rw [undergoAll_concat]
      cases act with
      | surround store transport clock app => exact ih
      | call call =>
          rcases ((undergoAll acts node).turn_serve call).continues with
            ⟨request, asked, active, clear⟩ | kept
          · apply Parked.of_awake <;> simp [undergo, active]
          · exact kept.parked ih

/-- A node that waits was asked to by a request of its past. -/
theorem asked_of_waiting {node : Node Clock App} (fresh : node.resetPending = false)
    {acts : List (HostAct Clock App)} (owed : (undergoAll acts node).resetPending = true)
    (waiting : (undergoAll acts node).core.Waiting) :
    ∃ earlier call later request, acts = earlier ++ .call call :: later ∧
      (undergoAll earlier node).PutsOff call request ∧
      (undergoAll acts node).clearNickname = !request.keepNickname ∧
      ((∀ act ∈ later, ∃ call, act = .call call) → ∀ middle, middle <+: later →
        (undergoAll (earlier ++ .call call :: middle) node).core.Waiting) := by
  obtain ⟨request, ⟨earlier, call, later, split, asked, since⟩, clear⟩ :=
    owedTo_undergoAll fresh owed
  exact ⟨earlier, call, later, request, split, asked, clear, fun alone => (since alone).2 waiting⟩

/-- While its host only calls it, a node waits from the request on. -/
theorem asked_of_calls {node : Node Clock App} (fresh : node.resetPending = false)
    {calls : List HostCall} (owed : (serveAll calls node).2.resetPending = true)
    (waiting : (serveAll calls node).2.core.Waiting) :
    ∃ earlier call later request, calls = earlier ++ call :: later ∧
      (serveAll earlier node).2.PutsOff call request ∧
      (serveAll calls node).2.clearNickname = !request.keepNickname ∧
      ∀ middle, middle <+: later → (serveAll (earlier ++ call :: middle) node).2.core.Waiting := by
  rw [← undergoAll_calls] at owed waiting
  obtain ⟨before, call, after, request, split, asked, clear, since⟩ :=
    asked_of_waiting fresh owed waiting
  obtain ⟨earlier, rest, rfl, rfl, tail⟩ := List.map_eq_append_iff.mp split
  obtain ⟨same, later, rfl, taken, rfl⟩ := List.map_eq_cons_iff.mp tail
  cases taken
  rw [undergoAll_calls] at asked clear
  refine ⟨earlier, call, later, request, rfl, asked, clear, fun middle within => ?_⟩
  have waited := since (by simp) (middle.map .call) (within.map _)
  rw [← List.map_cons, ← List.map_append, undergoAll_calls] at waited
  exact waited

end Node

end Vscp
