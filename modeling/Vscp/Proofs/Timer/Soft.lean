/-
This file proves how the timers of a service that counts time itself run down, and that a bank which
it has created has a timer of its own in every slot.
-/

import Vscp.Timer.Bank

namespace Vscp

namespace SoftTimers

variable (timers : SoftTimers) (timer other : UInt8)

@[simp] theorem length_start (timeout : Nat) :
    (timers.start timer timeout).remaining.length = timers.remaining.length :=
  List.length_set

@[simp] theorem length_stop :
    (timers.stop timer).remaining.length = timers.remaining.length :=
  List.length_set

@[simp] theorem length_advance (elapsed : Nat) :
    (timers.advance elapsed).remaining.length = timers.remaining.length :=
  List.length_map ..

variable {timers timer} in
/-- Only the timer that is started has another remaining time. -/
theorem remaining?_start (within : timer.toNat < timers.remaining.length) (timeout : Nat) :
    (timers.start timer timeout).remaining? other =
      if other = timer then some timeout else timers.remaining? other := by
  unfold remaining? start
  rw [List.getElem?_set]
  by_cases same : other = timer
  · subst same
    simp [within]
  · have apart : timer.toNat ≠ other.toNat := fun number => same (UInt8.toNat_inj.mp number.symm)
    rw [if_neg apart, if_neg same]

theorem remaining?_stop :
    (timers.stop timer).remaining? other =
      if other = timer then none else timers.remaining? other := by
  unfold remaining? stop
  rw [List.getElem?_set]
  by_cases same : other = timer
  · subst same
    rw [if_pos rfl, if_pos rfl]
    split <;> rfl
  · have apart : timer.toNat ≠ other.toNat := fun number => same (UInt8.toNat_inj.mp number.symm)
    rw [if_neg apart, if_neg same]

theorem remaining?_advance (elapsed : Nat) :
    (timers.advance elapsed).remaining? timer = (timers.remaining? timer).map (· - elapsed) := by
  unfold remaining? advance
  rw [List.getElem?_map]
  cases timers.remaining[timer.toNat]? <;> rfl

/-- A new timer takes the next number, as long as a byte holds it. -/
theorem create_cases :
    timers.create = (none, timers) ∨
      (timers.remaining.length < 256 ∧
        timers.create = (some (UInt8.ofNat timers.remaining.length),
          { timers with remaining := timers.remaining ++ [none] })) := by
  unfold create
  dsimp only
  split
  · rename_i room
    exact .inr ⟨room.2, rfl⟩
  · exact .inl rfl

end SoftTimers

namespace TimerBank

/-- Every slot has a timer of the service for itself. -/
structure Wired (bank : TimerBank) (clock : SoftTimers) : Prop where
  within : ∀ slot, (bank.timers.get slot).toNat < clock.remaining.length
  apart : ∀ slot other, bank.timers.get slot = bank.timers.get other → slot = other

theorem get_of_ofAnswers? {answers : List (Option UInt8)} {bank : TimerBank}
    (made : ofAnswers? answers = some bank) (slot : TimerSlot) :
    answers[slot.index]? = some (some (bank.timers.get slot)) := by
  unfold ofAnswers? at made
  split at made
  · cases made
    cases slot <;> rfl
  · cases made

/-- The timers that a service creates are numbered one after the other. -/
theorem toNat_createMany (count : Nat) (clock : SoftTimers) :
    clock.remaining.length ≤ (createMany count clock).2.remaining.length ∧
      ∀ index timer, (createMany count clock).1[index]? = some (some timer) →
        timer.toNat = clock.remaining.length + index ∧
          timer.toNat < (createMany count clock).2.remaining.length := by
  induction count generalizing clock with
  | zero => exact ⟨Nat.le_refl _, fun index timer none => by cases none⟩
  | succ count ih =>
      rcases clock.create_cases with refused | ⟨room, created⟩
      · have all : createMany (count + 1) clock = ([none], clock) := by
          rw [createMany, show TimerService.create clock = _ from refused]
        rw [all]
        refine ⟨Nat.le_refl _, fun index timer made => ?_⟩
        cases index <;> simp at made
      -- the rest is numbered from the length that the first timer leaves
      · generalize grown : { clock with remaining := clock.remaining ++ [none] } = larger at created
        have length : larger.remaining.length = clock.remaining.length + 1 := by
          rw [← grown, List.length_append]
          rfl
        have all : createMany (count + 1) clock =
            (some (UInt8.ofNat clock.remaining.length) :: (createMany count larger).1,
              (createMany count larger).2) := by
          rw [createMany, show TimerService.create clock = _ from created]
        obtain ⟨longer, rest⟩ := ih larger
        rw [all]
        refine ⟨by dsimp only; omega, fun index timer made => ?_⟩
        cases index with
        | zero =>
            cases made
            rw [UInt8.toNat_ofNat_of_lt' room]
            dsimp only
            omega
        | succ index =>
            obtain ⟨number, within⟩ := rest index timer made
            exact ⟨by omega, within⟩

/-- The bank that is made of new timers has one of its own in every slot. -/
theorem wired_ofAnswers? {count : Nat} {clock : SoftTimers} {bank : TimerBank}
    (made : ofAnswers? (createMany count clock).1 = some bank) :
    bank.Wired (createMany count clock).2 := by
  have numbered (slot : TimerSlot) :=
    (toNat_createMany count clock).2 slot.index _ (get_of_ofAnswers? made slot)
  refine ⟨fun slot => (numbered slot).2, fun slot other same => ?_⟩
  have index : slot.index = other.index := by
    have left := (numbered slot).1
    have right := (numbered other).1
    rw [same] at left
    omega
  cases slot <;> cases other <;> first | rfl | cases index

end TimerBank

end Vscp
