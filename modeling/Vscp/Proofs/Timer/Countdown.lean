/-
This file proves that a bank of timers reports every expiry once and when it is due, whatever is
done to the other timers of the bank.
-/

import Mathlib.Data.List.Induction
import Vscp.Proofs.Split
import Vscp.Proofs.Timer.Soft

namespace Vscp

/-- What can be done to a bank of timers and to the clock that they belong to. -/
inductive TimerAct where
  | start (slot : TimerSlot) (timeout : Nat)
  | stop (slot : TimerSlot)
  | advance (elapsed : Nat)
  | take (slot : TimerSlot)
  deriving DecidableEq, Repr

namespace TimerAct

/-- The milliseconds that pass with the act. -/
def elapsed : TimerAct → Nat
  | advance elapsed => elapsed
  | _ => 0

/-- The milliseconds that pass with acts that follow each other. -/
def total : List TimerAct → Nat
  | [] => 0
  | act :: rest => act.elapsed + total rest

theorem total_concat (acts : List TimerAct) (act : TimerAct) :
    total (acts ++ [act]) = total acts + act.elapsed := by
  induction acts with
  | nil => exact Nat.add_comm ..
  | cons first rest ih =>
      rw [List.cons_append, total, total, ih, Nat.add_assoc]

/-- Time passes for every slot; the other acts are about one of them. -/
def concerns (slot : TimerSlot) : TimerAct → Bool
  | start own _ | stop own | take own => own == slot
  | advance _ => true

/-- What the act makes of the time that a slot has left before its expiry is taken. -/
def follow (slot : TimerSlot) (pending? : Option Nat) : TimerAct → Option Nat
  | start own timeout => if slot = own then some timeout else pending?
  | stop own => if slot = own then none else pending?
  | advance elapsed => pending?.map (· - elapsed)
  | take own => if slot = own ∧ pending? = some 0 then none else pending?

theorem follow_of_not_concerns {slot : TimerSlot} {act : TimerAct}
    (apart : act.concerns slot = false) (pending? : Option Nat) :
    follow slot pending? act = pending? := by
  have other {own : TimerSlot} (differs : (own == slot) = false) : slot ≠ own :=
    fun same => by simp [same] at differs
  cases act with
  | start own timeout => exact if_neg (other apart)
  | stop own => exact if_neg (other apart)
  | advance elapsed => cases apart
  | take own => exact if_neg fun due => other apart due.1

theorem foldl_follow_concerns (slot : TimerSlot) (acts : List TimerAct) (pending? : Option Nat) :
    (acts.filter (·.concerns slot)).foldl (follow slot) pending? =
      acts.foldl (follow slot) pending? := by
  induction acts generalizing pending? with
  | nil => rfl
  | cons act rest ih =>
      rw [List.filter_cons]
      split
      · exact ih _
      · rename_i apart
        rw [ih, List.foldl_cons, follow_of_not_concerns (Bool.eq_false_iff.mpr apart)]

/-- The act lets the slot run on. -/
structure Spares (slot : TimerSlot) (pending? : Option Nat) (act : TimerAct) : Prop where
  other : ∀ timeout, act ≠ .start slot timeout
  moving : act ≠ .stop slot
  untaken : act = .take slot → pending? ≠ some 0

/-- An act starts the slot, ends its run, or lets it run on. -/
theorem follow_cases (slot : TimerSlot) (pending? : Option Nat) (act : TimerAct) :
    (∃ timeout, act = .start slot timeout ∧ follow slot pending? act = some timeout) ∨
    (act = .stop slot ∨ act = .take slot ∧ pending? = some 0) ∧ follow slot pending? act = none ∨
    Spares slot pending? act ∧ follow slot pending? act = pending?.map (· - act.elapsed) := by
  have same : pending? = pending?.map (· - 0) := by simp
  cases act with
  | start own timeout =>
      by_cases own' : slot = own
      · exact .inl ⟨timeout, by rw [own'], if_pos own'⟩
      · refine .inr (.inr ⟨⟨?_, ?_, ?_⟩, (if_neg own').trans same⟩) <;> simp [Ne.symm own']
  | stop own =>
      by_cases own' : slot = own
      · exact .inr (.inl ⟨.inl (by rw [own']), if_pos own'⟩)
      · refine .inr (.inr ⟨⟨?_, ?_, ?_⟩, (if_neg own').trans same⟩) <;> simp [Ne.symm own']
  | advance elapsed => exact .inr (.inr ⟨⟨by simp, by simp, by simp⟩, rfl⟩)
  | take own =>
      by_cases due : slot = own ∧ pending? = some 0
      · exact .inr (.inl ⟨.inr ⟨by rw [due.1], due.2⟩, if_pos due⟩)
      · refine .inr (.inr ⟨⟨by simp, by simp, ?_⟩, (if_neg due).trans same⟩)
        rintro taken spent
        cases taken
        exact due ⟨rfl, spent⟩

end TimerAct

/-- A bank of timers with the clock that they belong to. -/
structure TimedBank where
  bank : TimerBank
  clock : SoftTimers

namespace TimedBank

def perform (timed : TimedBank) : TimerAct → TimedBank
  | .start slot timeout =>
      let (bank, clock) := timed.bank.start timed.clock slot timeout
      { bank, clock }
  | .stop slot =>
      let (bank, clock) := timed.bank.stop timed.clock slot
      { bank, clock }
  | .advance elapsed => { timed with clock := TimerService.advance timed.clock elapsed }
  | .take slot => { timed with bank := (timed.bank.takeExpired timed.clock slot).2 }

def performAll (acts : List TimerAct) (timed : TimedBank) : TimedBank :=
  acts.foldl perform timed

theorem performAll_concat (acts : List TimerAct) (act : TimerAct) (timed : TimedBank) :
    performAll (acts ++ [act]) timed = (performAll acts timed).perform act :=
  List.foldl_append ..

/-- The answer to one who takes the expiry of the slot. -/
def reports (timed : TimedBank) (slot : TimerSlot) : Bool :=
  (timed.bank.takeExpired timed.clock slot).1

/-- The time that an armed slot has left. -/
def pending? (timed : TimedBank) (slot : TimerSlot) : Option Nat :=
  if timed.bank.isArmed slot then
    some ((timed.clock.remaining? (timed.bank.timers.get slot)).getD 0)
  else none

theorem pending?_congr {timed other : TimedBank} {slot : TimerSlot}
    (armed : other.bank.isArmed slot = timed.bank.isArmed slot)
    (left : other.clock.remaining? (other.bank.timers.get slot) =
      timed.clock.remaining? (timed.bank.timers.get slot)) :
    other.pending? slot = timed.pending? slot := by
  rw [pending?, pending?, armed, left]

theorem expired_iff (timed : TimedBank) (slot : TimerSlot) :
    timed.bank.expired timed.clock slot = true ↔ timed.pending? slot = some 0 := by
  have running : TimerService.running timed.clock (timed.bank.timers.get slot) =
      (timed.clock.remaining? (timed.bank.timers.get slot)).any (0 < ·) := rfl
  rw [TimerBank.expired, running, pending?]
  cases timed.bank.isArmed slot with
  | false => simp
  | true => cases timed.clock.remaining? (timed.bank.timers.get slot) <;> simp

theorem reports_iff (timed : TimedBank) (slot : TimerSlot) :
    timed.reports slot = true ↔ timed.pending? slot = some 0 := by
  rw [← timed.expired_iff, reports, TimerBank.takeExpired]
  cases timed.bank.expired timed.clock slot <;> simp

section Wired

variable {timed : TimedBank} (wired : timed.bank.Wired timed.clock)

include wired

/-- No act changes which timer belongs to which slot. -/
theorem wired_perform (act : TimerAct) :
    (timed.perform act).bank.Wired (timed.perform act).clock := by
  cases act with
  | start slot timeout =>
      exact ⟨fun other => (SoftTimers.length_start ..).symm ▸ wired.within other, wired.apart⟩
  | stop slot =>
      exact ⟨fun other => (SoftTimers.length_stop ..).symm ▸ wired.within other, wired.apart⟩
  | advance elapsed =>
      exact ⟨fun other => (SoftTimers.length_advance ..).symm ▸ wired.within other, wired.apart⟩
  | take slot =>
      change (timed.bank.takeExpired timed.clock slot).2.Wired timed.clock
      unfold TimerBank.takeExpired
      split
      · exact ⟨wired.within, wired.apart⟩
      · exact wired

/-- Every slot follows the acts on its own. -/
theorem pending?_perform (act : TimerAct) (slot : TimerSlot) :
    (timed.perform act).pending? slot = act.follow slot (timed.pending? slot) := by
  cases act with
  | start own timeout =>
      have armed : (timed.perform (.start own timeout)).bank.isArmed slot =
          if slot = own then true else timed.bank.isArmed slot := PerTimer.get_set ..
      have left := SoftTimers.remaining?_start (timed.bank.timers.get slot)
        (wired.within own) timeout
      change _ = if slot = own then some timeout else timed.pending? slot
      by_cases same : slot = own
      · subst same
        rw [if_pos rfl] at armed left ⊢
        rw [pending?, armed, if_pos rfl]
        exact congrArg (fun remaining? => some (remaining?.getD 0)) left
      · rw [if_neg same] at armed ⊢
        rw [if_neg (mt (wired.apart slot own) same)] at left
        exact pending?_congr armed left
  | stop own =>
      have armed : (timed.perform (.stop own)).bank.isArmed slot =
          if slot = own then false else timed.bank.isArmed slot := PerTimer.get_set ..
      have left := timed.clock.remaining?_stop (timed.bank.timers.get own)
        (timed.bank.timers.get slot)
      change _ = if slot = own then none else timed.pending? slot
      by_cases same : slot = own
      · rw [if_pos same] at armed ⊢
        rw [pending?, armed]
        rfl
      · rw [if_neg same] at armed ⊢
        rw [if_neg (mt (wired.apart slot own) same)] at left
        exact pending?_congr armed left
  | advance elapsed =>
      have left := timed.clock.remaining?_advance (timed.bank.timers.get slot) elapsed
      change (if timed.bank.isArmed slot then some (((timed.clock.advance elapsed).remaining?
        (timed.bank.timers.get slot)).getD 0) else none) = (timed.pending? slot).map (· - elapsed)
      rw [left, pending?]
      cases timed.bank.isArmed slot with
      | false => rfl
      | true => cases timed.clock.remaining? (timed.bank.timers.get slot) <;> simp
  | take own =>
      have due := timed.expired_iff own
      change pending? { timed with bank := (timed.bank.takeExpired timed.clock own).2 } slot =
        if slot = own ∧ timed.pending? slot = some 0 then none else timed.pending? slot
      unfold TimerBank.takeExpired
      by_cases expired : timed.bank.expired timed.clock own = true
      · have armed : (timed.bank.armed.set own false).get slot =
            if slot = own then false else timed.bank.isArmed slot := PerTimer.get_set ..
        rw [if_pos expired]
        by_cases same : slot = own
        · rw [if_pos ⟨same, same ▸ due.mp expired⟩]
          rw [if_pos same] at armed
          rw [pending?, TimerBank.isArmed, armed]
          rfl
        · rw [if_neg fun taken => same taken.1]
          rw [if_neg same] at armed
          exact pending?_congr armed rfl
      · rw [if_neg expired, if_neg]
        rintro ⟨rfl, spent⟩
        exact expired (due.mpr spent)

theorem wired_performAll (acts : List TimerAct) :
    (performAll acts timed).bank.Wired (performAll acts timed).clock := by
  induction acts generalizing timed with
  | nil => exact wired
  | cons act rest ih => exact ih (wired_perform wired act)

theorem pending?_performAll (acts : List TimerAct) (slot : TimerSlot) :
    (performAll acts timed).pending? slot =
      acts.foldl (TimerAct.follow slot) (timed.pending? slot) := by
  induction acts generalizing timed with
  | nil => rfl
  | cons act rest ih =>
      have rest := ih (wired_perform wired act)
      rw [pending?_perform wired] at rest
      exact rest

end Wired

section Runs

variable {timed : TimedBank} {slot : TimerSlot} {acts later : List TimerAct} {act : TimerAct}
  {timeout : Nat}

/-- The slot was started with this timeout before these last acts. Since then it was neither started
again nor stopped, and its expiry was not taken. -/
def RunsSince (timed : TimedBank) (slot : TimerSlot) (acts : List TimerAct) (timeout : Nat)
    (later : List TimerAct) : Prop :=
  ∃ earlier, acts = earlier ++ .start slot timeout :: later ∧
    (∀ again, .start slot again ∉ later) ∧ .stop slot ∉ later ∧
    ∀ middle rest, later = middle ++ .take slot :: rest →
      (performAll (earlier ++ .start slot timeout :: middle) timed).reports slot = false

/-- The last act starts the slot, or it lets it run on. -/
theorem runsSince_concat_iff :
    timed.RunsSince slot (acts ++ [act]) timeout later ↔
      (act = .start slot timeout ∧ later = []) ∨
      ∃ before, later = before ++ [act] ∧ timed.RunsSince slot acts timeout before ∧
        act.Spares slot ((performAll acts timed).pending? slot) := by
  constructor
  · rintro ⟨earlier, split, single, unstopped, untaken⟩
    rcases concat_eq_split_iff.mp split with ⟨-, same, rfl⟩ | ⟨before, rfl, rfl⟩
    · exact .inl ⟨same, rfl⟩
    · refine .inr ⟨before, rfl, ⟨earlier, rfl, ?_, ?_, ?_⟩, ?_, ?_, ?_⟩
      · exact fun again there => single again (List.mem_append_left _ there)
      · exact fun there => unstopped (List.mem_append_left _ there)
      · intro middle rest there
        exact untaken middle (rest ++ [act]) (by simp [there])
      · rintro again rfl
        exact single again (by simp)
      · rintro rfl
        exact unstopped (by simp)
      · rintro rfl spent
        exact absurd ((reports_iff _ slot).mpr spent) (by simp [untaken before [] rfl])
  · rintro (⟨rfl, rfl⟩ | ⟨before, rfl, ⟨earlier, rfl, single, unstopped, untaken⟩, spared⟩)
    · exact ⟨acts, rfl, by simp, by simp, by simp⟩
    · refine ⟨earlier, by simp, ?_, ?_, ?_⟩
      · intro again there
        rcases List.mem_append.mp there with there | last
        · exact single again there
        · exact spared.other again (List.mem_singleton.mp last).symm
      · intro there
        rcases List.mem_append.mp there with there | last
        · exact unstopped there
        · exact spared.moving (List.mem_singleton.mp last).symm
      · intro middle rest there
        rcases concat_eq_split_iff.mp there with ⟨rfl, same, -⟩ | ⟨rest, rfl, -⟩
        · have waits := spared.untaken same
          exact Bool.eq_false_iff.mpr (mt (reports_iff _ slot).mp waits)
        · exact untaken middle rest rfl

/-- An armed slot has left what the time since its start has not used up. -/
theorem pending?_eq_some_iff (wired : timed.bank.Wired timed.clock)
    (unarmed : timed.pending? slot = none) (acts : List TimerAct) (left : Nat) :
    (performAll acts timed).pending? slot = some left ↔
      ∃ timeout later, timed.RunsSince slot acts timeout later ∧
        left = timeout - TimerAct.total later := by
  induction acts using List.reverseRecOn generalizing left with
  | nil =>
      refine iff_of_false (by simp [performAll, unarmed]) ?_
      rintro ⟨timeout, later, ⟨earlier, split, -⟩, -⟩
      simp at split
  | append_singleton acts act ih =>
      rw [performAll_concat, pending?_perform (wired_performAll wired acts)]
      simp only [runsSince_concat_iff]
      rcases TimerAct.follow_cases slot ((performAll acts timed).pending? slot) act with
        ⟨timeout, rfl, followed⟩ | ⟨ended, followed⟩ | ⟨spared, followed⟩
      · rw [followed]
        constructor
        · intro full
          cases full
          exact ⟨_, [], .inl ⟨rfl, rfl⟩, rfl⟩
        · rintro ⟨again, later, ⟨same, rfl⟩ | ⟨before, -, -, spared⟩, rfl⟩
          · cases same
            rfl
          · exact absurd rfl (spared.other _)
      · rw [followed]
        refine iff_of_false (by simp) ?_
        rintro ⟨timeout, later, ⟨rfl, -⟩ | ⟨before, -, -, spared⟩, -⟩
        · rcases ended with stopped | ⟨taken, -⟩
          · cases stopped
          · cases taken
        · rcases ended with stopped | ⟨taken, spent⟩
          · exact spared.moving stopped
          · exact spared.untaken taken spent
      · rw [followed, Option.map_eq_some_iff]
        constructor
        · rintro ⟨rest, pending, rfl⟩
          obtain ⟨timeout, before, since, rfl⟩ := (ih rest).mp pending
          refine ⟨timeout, before ++ [act], .inr ⟨before, rfl, since, spared⟩, ?_⟩
          rw [TimerAct.total_concat, Nat.sub_sub]
        · rintro ⟨timeout, later, ⟨same, -⟩ | ⟨before, rfl, since, -⟩, rfl⟩
          · exact absurd same (spared.other timeout)
          · refine ⟨_, (ih _).mpr ⟨timeout, before, since, rfl⟩, ?_⟩
            rw [TimerAct.total_concat, Nat.sub_sub]

end Runs

section Allocation

variable {bank : TimerBank} {clock allotted : SoftTimers}
  (made : TimerBank.allocate clock = (some bank, allotted))

include made

theorem wired_allocate : bank.Wired allotted := by
  obtain ⟨answered, rfl⟩ : TimerBank.ofAnswers? (TimerBank.createMany 4 clock).1 = some bank ∧
      (TimerBank.createMany 4 clock).2 = allotted := Prod.mk.inj made
  exact TimerBank.wired_ofAnswers? answered

/-- A new bank has no slot armed. -/
theorem pending?_allocate (slot : TimerSlot) : pending? ⟨bank, allotted⟩ slot = none := by
  have answered := (Prod.mk.inj made).1
  unfold TimerBank.ofAnswers? at answered
  split at answered
  · cases answered
    exact if_neg (by simp [TimerBank.isArmed])
  · cases answered

/-- A bank that was allocated, whatever was created before, has a timer of its own in every slot.
After any acts the expiry of a slot is reported exactly when the slot was started, was neither
stopped nor taken since its last start, and the time since then comes to the timeout. What is done
to the other slots makes no difference. -/
theorem expiry_reported_once_when_due :
    (∀ slot other, bank.timers.get slot = bank.timers.get other → slot = other) ∧
    ∀ acts slot,
      let timed : TimedBank := ⟨bank, allotted⟩
      ((performAll acts timed).reports slot = true ↔
        ∃ timeout later, timed.RunsSince slot acts timeout later ∧
          timeout ≤ TimerAct.total later) ∧
      (performAll (acts.filter (·.concerns slot)) timed).reports slot =
        (performAll acts timed).reports slot := by
  have wired := wired_allocate made
  refine ⟨wired.apart, fun acts slot => ?_⟩
  have unarmed := pending?_allocate made slot
  intro timed
  constructor
  · rw [reports_iff, pending?_eq_some_iff wired unarmed]
    simp only [eq_comm (a := 0), Nat.sub_eq_zero_iff_le, timed]
  · have alone : (performAll (acts.filter (·.concerns slot)) timed).pending? slot =
        (performAll acts timed).pending? slot := by
      rw [pending?_performAll wired, pending?_performAll wired, TimerAct.foldl_follow_concerns]
    rw [Bool.eq_iff_iff, reports_iff, reports_iff, alone]

end Allocation

/-- A clock on which another timer was created and started before. -/
def sharedClock : SoftTimers :=
  (SoftTimers.empty 5).create.2.start 0 70

def sharedBank : TimedBank where
  bank := { timers := ⟨1, 2, 3, 4⟩, armed := PerTimer.all false }
  clock := (TimerBank.allocate sharedClock).2

/-- The heartbeat is started twice, and the first take comes too early for the second start. -/
def sharedActs : List TimerAct :=
  [.start .heartbeat 5, .advance 3, .start .heartbeat 10, .start .general 1, .advance 6,
    .stop .general, .take .heartbeat, .advance 4]

theorem shared_clock_reports_heartbeat_once :
    TimerBank.allocate sharedClock = (some sharedBank.bank, sharedBank.clock) ∧
      (∃ timeout later, sharedBank.RunsSince .heartbeat sharedActs timeout later ∧
        timeout ≤ TimerAct.total later) ∧
      ¬∃ timeout later,
        sharedBank.RunsSince .heartbeat (sharedActs ++ [.take .heartbeat]) timeout later ∧
          timeout ≤ TimerAct.total later := by
  have made : TimerBank.allocate sharedClock = (some sharedBank.bank, sharedBank.clock) := rfl
  obtain ⟨-, runs⟩ := expiry_reported_once_when_due made
  refine ⟨made, ?_, ?_⟩
  · exact (runs sharedActs .heartbeat).1.mp (by decide)
  · exact mt (runs (sharedActs ++ [.take .heartbeat]) .heartbeat).1.mpr (by decide)

end TimedBank

end Vscp
