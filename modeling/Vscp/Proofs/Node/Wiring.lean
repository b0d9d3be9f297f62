/-
This file proves that the timers of a node stay wired to its clock, and how their time runs down.
-/

import Vscp.Proofs.Except
import Vscp.Proofs.Node.Step
import Vscp.Proofs.Timer.Soft

namespace Vscp

namespace TimerBank

@[simp] theorem timers_mark (bank : TimerBank) (slot : TimerSlot) (armed : Bool) :
    (bank.mark slot armed).timers = bank.timers := rfl

@[simp] theorem timers_takeExpired {Clock : Type} [TimerService Clock] (bank : TimerBank)
    (clock : Clock) (slot : TimerSlot) : (bank.takeExpired clock slot).2.timers = bank.timers := by
  unfold takeExpired
  split <;> rfl

end TimerBank

namespace NodeCore

/-- The time that the timer of a slot has left, if it runs. -/
def left? (core : NodeCore SoftTimers) (slot : TimerSlot) : Option Nat :=
  core.bank.bind fun bank => core.clock.remaining? (bank.timers.get slot)

/-- Every slot has a timer of the clock for itself. -/
def Wired (core : NodeCore SoftTimers) : Prop :=
  ∀ bank ∈ core.bank, bank.Wired core.clock

/-- The timers of the slots, and how many there are. -/
def wiring (core : NodeCore SoftTimers) : Option (PerTimer UInt8) × Nat :=
  (core.bank.map (·.timers), core.clock.remaining.length)

variable {core after : NodeCore SoftTimers} {slot other : TimerSlot} {event : Event}
  {kind : Management}

theorem Wired.of_wiring (wired : core.Wired) (same : after.wiring = core.wiring) :
    after.Wired := by
  obtain ⟨timers, length⟩ := Prod.mk.inj same
  intro bank banked
  rw [Option.mem_def.mp banked] at timers
  obtain ⟨before, there, alike⟩ := Option.map_eq_some_iff.mp timers.symm
  have alike : bank.timers = before.timers := alike.symm
  have kept := wired before there
  refine ⟨fun slot => ?_, fun slot other => ?_⟩
  · rw [alike, length]
    exact kept.within slot
  · rw [alike]
    exact kept.apart slot other

@[simp] theorem wiring_start (core : NodeCore SoftTimers) (slot : TimerSlot) (timeout : Nat) :
    (core.start slot timeout).wiring = core.wiring := by
  unfold wiring start
  cases core.bank with
  | none => rfl
  | some bank => exact congrArg (Prod.mk _) (SoftTimers.length_start ..)

@[simp] theorem wiring_stop (core : NodeCore SoftTimers) (slot : TimerSlot) :
    (core.stop slot).wiring = core.wiring := by
  unfold wiring stop
  cases core.bank with
  | none => rfl
  | some bank => exact congrArg (Prod.mk _) (SoftTimers.length_stop ..)

@[simp] theorem wiring_stopAll (core : NodeCore SoftTimers) :
    core.stopAll.wiring = core.wiring := by
  simp [stopAll, TimerSlot.all]

@[simp] theorem wiring_seeExpiry (core : NodeCore SoftTimers) (slot : TimerSlot) :
    (core.seeExpiry slot).wiring = core.wiring := by
  unfold wiring seeExpiry
  cases core.bank with
  | none => rfl
  | some bank => exact congrArg (fun timers => (some timers, _)) (bank.timers_takeExpired _ _)

@[simp] theorem wiring_startHeartbeat (core : NodeCore SoftTimers) :
    core.startHeartbeat.wiring = core.wiring := by
  unfold startHeartbeat
  split
  · rfl
  · exact wiring_start ..

@[simp] theorem wiring_reset (core : NodeCore SoftTimers) : core.reset.wiring = core.wiring := by
  unfold reset
  split
  · rfl
  · exact core.wiring_stopAll

theorem Accessed.wiring (access : Accessed core after) : after.wiring = core.wiring := by
  rw [access.others]
  rfl

theorem wiring_withdraw (core : NodeCore SoftTimers) (request : DropRequest) :
    (core.withdraw request).wiring = core.wiring := by
  unfold withdraw
  split <;> rfl

theorem ActiveStep.wiring (step : ActiveStep core event kind after) :
    after.wiring = core.wiring := by
  cases step with
  | accessed access => exact access.wiring
  | timed data same => rfl
  | moved data other => exact (wiring_start ..).trans (wiring_stop ..)
  | collided own => exact (wiring_start ..).trans (wiring_stop ..)
  | renamed addressed valid => rfl
  | parked addressed decoded idle => exact (wiring_stopAll _).trans (core.wiring_withdraw _)
  | dropped addressed decoded stays atOnce => exact (wiring_reset _).trans (core.wiring_withdraw _)
  | delayed addressed decoded later => exact wiring_start ..
  | handedOver addressed present own identified => exact core.wiring_stopAll
  | progressed data accepted => exact wiring_start ..
  | completed data accepted => exact (wiring_reset _).trans (wiring_stop ..)
  | discarded data accepted => exact wiring_stop ..

theorem SearchStep.wiring (step : SearchStep core event kind after) :
    after.wiring = core.wiring := by
  cases step with
  | assigned data addressed valid => exact (wiring_startHeartbeat _).trans (wiring_stop ..)
  | awaited own outcome => exact wiring_start ..
  | probed own outcome => exact wiring_start ..
  | gaveUp own outcome => exact (wiring_stopAll _).trans (wiring_stop ..)
  | silent data => rfl
  | timed data =>
      split
      · rfl
      · rfl

/-- No step changes which timer belongs to which slot. -/
theorem Step.wiring (step : Step core after) : after.wiring = core.wiring := by
  cases step with
  | accessed access => exact access.wiring
  | judged engine event? => rfl
  | ticked elapsed => exact congrArg (Prod.mk _) (SoftTimers.length_advance ..)
  | restarted sound => rfl
  | reset => exact core.wiring_reset
  | searched starting missing => exact (wiring_start ..).trans (wiring_stop ..)
  | activated starting named => exact core.wiring_startHeartbeat
  | probed searching due => exact (wiring_start ..).trans (wiring_seeExpiry ..)
  | resetLate running due pending =>
      refine (wiring_reset _).trans ?_
      split
      · exact wiring_seeExpiry ..
      · exact wiring_seeExpiry ..
  | ranOut running due settled => exact wiring_seeExpiry ..
  | sessionEnded slot due => exact wiring_seeExpiry ..
  | beat due active named => exact (wiring_startHeartbeat _).trans (wiring_seeExpiry ..)
  | beatMissed due silent => exact wiring_seeExpiry ..
  | managed active step => exact step.wiring
  | assigned searching step => exact step.wiring

theorem Wired.steps (wired : core.Wired) (steps : Steps core after) : after.Wired :=
  wired.of_wiring (steps.keeps (fun step same => step.wiring.trans same) rfl)

/-- A timer that is started has its whole time left, and the others keep theirs. -/
theorem Wired.left?_start (wired : core.Wired) (slot other : TimerSlot) (timeout : Nat) :
    (core.start slot timeout).left? other =
      if other = slot then core.bank.map fun _ => timeout else core.left? other := by
  cases banked : core.bank with
  | none => simp [left?, start, banked]
  | some bank =>
      have wires := wired bank banked
      have own : bank.timers.get other = bank.timers.get slot ↔ other = slot :=
        ⟨wires.apart other slot, congrArg _⟩
      have started := SoftTimers.remaining?_start (bank.timers.get other) (wires.within slot) timeout
      simp only [left?, start, banked, Option.map_some, Option.bind_some, Option.elim_some,
        TimerBank.timers_mark]
      simp only [own] at started
      exact started

theorem Wired.left?_stop (wired : core.Wired) (slot other : TimerSlot) :
    (core.stop slot).left? other = if other = slot then none else core.left? other := by
  cases banked : core.bank with
  | none => simp [left?, stop, banked]
  | some bank =>
      have own : bank.timers.get other = bank.timers.get slot ↔ other = slot :=
        ⟨(wired bank banked).apart other slot, congrArg _⟩
      have stopped := core.clock.remaining?_stop (bank.timers.get slot) (bank.timers.get other)
      simp only [left?, stop, banked, Option.map_some, Option.bind_some, Option.elim_some,
        TimerBank.timers_mark]
      simp only [own] at stopped
      exact stopped

theorem left?_seeExpiry (core : NodeCore SoftTimers) (slot other : TimerSlot) :
    (core.seeExpiry slot).left? other = core.left? other := by
  unfold left? seeExpiry
  cases core.bank with
  | none => rfl
  | some bank =>
      simp only [Option.map_some, Option.bind_some, TimerBank.timers_takeExpired]

/-- An armed timer has expired once it has no time left. -/
theorem expired_eq (core : NodeCore SoftTimers) (slot : TimerSlot) :
    core.expired slot = (core.isArmed slot && !(core.left? slot).any (0 < ·)) := by
  unfold expired isArmed left?
  cases core.bank with
  | none => rfl
  | some bank => rfl

end NodeCore

namespace Node

variable {App : Type}

/-- The clock of a new node has created its timers. -/
theorem wired_build [Application App] {config : Config} {store : Store} {transport : Transport}
    {clock : SoftTimers} {app : App} {node : Node SoftTimers App}
    (built : build config store transport clock app = .ok node) : node.core.Wired := by
  obtain ⟨_, -, rfl⟩ := map_eq_ok_iff.mp built
  have wired := @TimerBank.wired_ofAnswers? 4 clock
  generalize TimerBank.createMany 4 clock = created at wired
  obtain ⟨answers, clock⟩ := created
  dsimp only
  split
  · exact fun bank made => wired made
  · exact fun bank made => wired made

/-- Every timer that runs has less time left after a tick. -/
theorem left?_tick (node : Node SoftTimers App) (elapsed : Nat) (slot : TimerSlot) :
    (node.tick elapsed).core.left? slot = (node.core.left? slot).map (· - elapsed) := by
  change (node.bank.bind fun bank => (node.clock.advance elapsed).remaining? _) =
    (node.bank.bind fun bank => node.clock.remaining? _).map _
  cases node.bank with
  | none => rfl
  | some bank => exact SoftTimers.remaining?_advance ..

end Node

end Vscp
