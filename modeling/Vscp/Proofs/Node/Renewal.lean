/-
This file follows what a node keeps of the wait for factory defaults and how often it tells its
application of factory defaults and of resets.
-/

import Vscp.Proofs.Node.Dispatch

namespace Vscp

/-- The effect tells of a reset or of factory defaults. -/
def Effect.Renews (effect : Effect) : Prop :=
  effect = .called .reset ∨ effect = .called .restoreFactoryDefaults

/-- The wait for factory defaults, and how often resets and factory defaults were told of. -/
structure Renewal where
  armedAt : Option Nat
  uptime : Nat
  resets : Nat
  restores : Nat

namespace Renewal

/-- A reset ends the wait. -/
def reset (renewal : Renewal) : Renewal :=
  { renewal with armedAt := none, resets := renewal.resets + 1 }

def restore (renewal : Renewal) : Renewal :=
  { renewal with restores := renewal.restores + 1 }

/-- The second value has come while the first one is waited for. -/
def confirmed (renewal : Renewal) (value : UInt8) : Bool :=
  value == 0xAA && renewal.armedAt.any (renewal.uptime - · ≤ 1000)

/-- Every write ends the wait, and the first value begins it anew. -/
def write (renewal : Renewal) (value : UInt8) : Renewal where
  armedAt := if value = 0x55 then some renewal.uptime else none
  uptime := renewal.uptime
  resets := renewal.resets
  restores := renewal.restores + (renewal.confirmed value).toNat

end Renewal

/-- The register that restores factory defaults. -/
def StandardRange.restoreDefaults : UInt8 := 0xA2

/-- No other offset leads to the register. -/
theorem StandardSlot.register_ne_restoreDefaults {offset : UInt8} {slot : StandardSlot}
    (found : StandardSlot.at? offset = some slot) (other : offset ≠ StandardRange.restoreDefaults) :
    slot.register ≠ .restoreDefaults := by
  obtain ⟨range, matched, rfl⟩ := Option.map_eq_some_iff.mp found
  have within := List.find?_some matched
  intro register
  obtain rfl : range = ⟨.restoreDefaults, 0xA2, 0xA2, .writeOnly⟩ :=
    StandardRange.eq_of_register (List.mem_of_find?_eq_some matched) (by decide) register
  simp only [Bool.and_eq_true, decide_eq_true_eq] at within
  exact other (UInt8.le_antisymm within.2 within.1)

namespace RegisterMap

variable (map : RegisterMap) (page : UInt16)

theorem resolve_restoreDefaults : map.resolve page StandardRange.restoreDefaults =
    .standard ⟨.restoreDefaults, 0, .writeOnly⟩ := by
  rw [resolve, if_pos (by decide)]
  rfl

theorem at?_of_resolve {map : RegisterMap} {page : UInt16} {offset : UInt8} {slot : StandardSlot}
    (resolved : map.resolve page offset = .standard slot) :
    StandardSlot.at? offset = some slot := by
  unfold resolve at resolved
  split at resolved
  · split at resolved
    · cases resolved
      assumption
    · cases resolved
  · split at resolved
    · split at resolved <;> cases resolved
    · split at resolved
      · split at resolved <;> cases resolved
      · cases resolved

end RegisterMap

namespace Node

section Quiet

variable {Clock App : Type}

/-- How often the application was told to restore factory defaults. -/
def restoresTold (node : Node Clock App) : Nat :=
  node.trace.count (.called .restoreFactoryDefaults)

def renewal (node : Node Clock App) : Renewal where
  armedAt := node.restoreArmedAt
  uptime := node.uptime
  resets := node.trace.count (.called .reset)
  restores := node.restoresTold

theorem renewal_emit (node : Node Clock App) {effect : Effect} (other : ¬effect.Renews) :
    (node.emit effect).renewal = node.renewal := by
  obtain ⟨reset, restore⟩ := not_or.mp other
  simp [renewal, restoresTold, emit, List.count_append, reset, restore]

@[simp] theorem renewal_log (node : Node Clock App) (notice : Notice) :
    (node.log notice).renewal = node.renewal :=
  node.renewal_emit (by simp [Effect.Renews])

@[simp] theorem renewal_count (node : Node Clock App) (update : Counters → Counters) :
    (node.count update).renewal = node.renewal := rfl

@[simp] theorem renewal_enter (node : Node Clock App) (lifecycle : Lifecycle) :
    (node.enter lifecycle).renewal = node.renewal := rfl

@[simp] theorem renewal_writeStore (node : Node Clock App) (address : Nat) (value : UInt8) :
    (node.writeStore address value).renewal = node.renewal :=
  renewal_emit _ (by simp [Effect.Renews])

@[simp] theorem renewal_setNickname (node : Node Clock App) (nickname : UInt8) :
    (node.setNickname nickname).renewal = node.renewal :=
  renewal_writeStore ..

@[simp] theorem renewal_send (node : Node Clock App) (classId : UInt16) (typeId origin : UInt8)
    (data : List UInt8) : (node.send classId typeId origin data).renewal = node.renewal := by
  unfold send
  dsimp only
  split
  · simp
  · have sent (event : Event) (accepted : Bool) (transport : Transport) :
        ({ node with transport }.emit (.frame event accepted)).renewal = node.renewal :=
      renewal_emit _ (by simp [Effect.Renews])
    split <;> simp [sent]

@[simp] theorem renewal_reply (node : Node Clock App) (kind : Management) (data : List UInt8) :
    (node.reply kind data).renewal = node.renewal :=
  renewal_send ..

theorem renewal_sendFrames (kind : Management) (frames : List (List UInt8))
    (node : Node Clock App) : (node.sendFrames kind frames).renewal = node.renewal := by
  induction frames generalizing node with
  | nil => rfl
  | cons frame rest ih => exact (ih _).trans (node.renewal_reply kind frame)

section Timers

variable [TimerService Clock]

@[simp] theorem renewal_startTimer (node : Node Clock App) (slot : TimerSlot) (timeout : Nat) :
    (node.startTimer slot timeout).renewal = node.renewal := by
  unfold startTimer
  split
  · rfl
  · exact renewal_emit _ (by simp [Effect.Renews])

@[simp] theorem renewal_stopTimer (node : Node Clock App) (slot : TimerSlot) :
    (node.stopTimer slot).renewal = node.renewal := by
  unfold stopTimer
  split
  · rfl
  · exact renewal_emit _ (by simp [Effect.Renews])

@[simp] theorem renewal_stopAllTimers (node : Node Clock App) :
    node.stopAllTimers.renewal = node.renewal := by
  simp [stopAllTimers, TimerSlot.all]

@[simp] theorem renewal_takeExpired (node : Node Clock App) (slot : TimerSlot) :
    (node.takeExpired slot).2.renewal = node.renewal := by
  unfold takeExpired
  split <;> rfl

@[simp] theorem renewal_startHeartbeat (node : Node Clock App) :
    node.startHeartbeat.renewal = node.renewal := by
  unfold startHeartbeat
  split
  · rfl
  · exact renewal_startTimer ..

@[simp] theorem renewal_sendProbe (node : Node Clock App) :
    node.sendProbe.renewal = node.renewal := by
  simp [sendProbe]

@[simp] theorem renewal_serviceSession (node : Node Clock App) (slot : SessionSlot) :
    (node.serviceSession slot).renewal = node.renewal := by
  have taken := node.renewal_takeExpired slot.timer
  unfold serviceSession
  dsimp only
  split
  · split
    · exact (renewal_log ..).trans taken
    · exact taken
  · exact taken

@[simp] theorem renewal_serviceHeartbeat (node : Node Clock App) :
    node.serviceHeartbeat.renewal = node.renewal := by
  unfold serviceHeartbeat sendHeartbeat
  dsimp only
  split <;> simp

end Timers

section Calls

variable [Application App]

theorem renewal_call (node : Node Clock App) {call : Call} (other : ¬(Effect.called call).Renews) :
    (node.call call).renewal = node.renewal :=
  renewal_emit _ other

@[simp] theorem renewal_setLamp (node : Node Clock App) (lamp : Lamp) :
    (node.setLamp lamp).renewal = node.renewal :=
  node.renewal_call (by simp [Effect.Renews])

@[simp] theorem renewal_peek (node : Node Clock App) (target : RegisterTarget) (page : UInt16)
    (offset : UInt8) : (node.peek target page offset).2.renewal = node.renewal := by
  cases target with
  | application => exact renewal_emit _ (by simp [Effect.Renews])
  | _ => rfl

theorem renewal_readRegister (node : Node Clock App) (page : UInt16) (offset : UInt8) :
    (node.readRegister page offset).2.renewal = node.renewal := by
  unfold readRegister afterRead
  dsimp only
  split <;> exact node.renewal_peek ..

theorem renewal_readEach (page : UInt16) (registers : List UInt8) (node : Node Clock App) :
    (readEach page registers node).2.renewal = node.renewal := by
  induction registers generalizing node with
  | nil => rfl
  | cons register rest ih => exact (ih _).trans (node.renewal_readRegister page register)

theorem renewal_pageRead (node : Node Clock App) (offset : UInt8) (count : Nat) :
    (node.pageRead offset count).renewal = node.renewal :=
  (renewal_sendFrames ..).trans (renewal_readEach ..)

theorem renewal_extendedPageRead (node : Node Clock App) (page : UInt16) (offset : UInt8)
    (count : Nat) : (node.extendedPageRead page offset count).renewal = node.renewal :=
  (renewal_sendFrames ..).trans (renewal_readEach ..)

/-- What only tells of other things neither resets nor restores anything. -/
theorem Notifies.count_called {before after : Node Clock App} {calls : List Call}
    (notifies : Notifies before after calls) (call : Call) (other : call ∉ calls) :
    after.trace.count (.called call) = before.trace.count (.called call) := by
  obtain ⟨added, grown, rfl, -⟩ := notifies.trace
  have none : added.count (.called call) = 0 := by
    refine List.count_eq_zero.mpr fun told => other ?_
    exact List.mem_filterMap.mpr ⟨_, told, rfl⟩
  rw [grown, List.count_append, none]
  rfl

theorem renewal_dispatch (node : Node Clock App) (event : Event) :
    (node.dispatch event).2.renewal = node.renewal := by
  have notifies := (node.dispatch_notifies event).2
  obtain ⟨engine, core⟩ := node.core_dispatch_eq event
  have resets := notifies.count_called .reset
    (by simp [executions, Firing.call, RuleHit.call])
  have restores := notifies.count_called .restoreFactoryDefaults
    (by simp [executions, Firing.call, RuleHit.call])
  have armed : (node.dispatch event).2.restoreArmedAt = node.restoreArmedAt :=
    (congrArg NodeCore.restoreArmedAt core :)
  have uptime : (node.dispatch event).2.uptime = node.uptime :=
    (congrArg NodeCore.uptime core :)
  rw [renewal, armed, uptime, resets, restoresTold, restores]
  rfl

end Calls

end Quiet

section Writes

variable {Clock App : Type} [Application App]

/-- A write to the register does to the wait what it says. -/
theorem renewal_writeRestore (node : Node Clock App) (value : UInt8) :
    (node.writeRestore value).renewal = node.renewal.write value := by
  unfold writeRestore restoreArm restoreConfirm Config.restoreWindow
  dsimp only
  split
  · rename_i first
    have missed : node.renewal.confirmed value = false := by simp [Renewal.confirmed, first]
    rw [Renewal.write, missed, if_pos first]
    simp [renewal, restoresTold, log, emit, List.count_append]
  · rename_i other
    rw [Renewal.write, if_neg other]
    split
    · rename_i second
      have met : node.renewal.confirmed value = true := by
        simpa [Renewal.confirmed, renewal] using second
      rw [met]
      simp [renewal, restoresTold, call, log, emit, List.count_append]
    · rename_i late
      have missed : node.renewal.confirmed value = false := by
        simpa [Renewal.confirmed, renewal] using late
      rw [missed]
      rfl

theorem renewal_writeStandard (node : Node Clock App) (slot : StandardSlot) (value : UInt8) :
    (node.writeStandard slot value).renewal =
      if slot.register = .restoreDefaults then node.renewal.write value else node.renewal := by
  unfold writeStandard
  split
  · simp [*]
  · simp [*]
  · simp [*]
    rfl
  · simp [*]
    rfl
  · simp [*, renewal_writeRestore]
  · rename_i other
    rw [if_neg other]

theorem renewal_writeRegister (node : Node Clock App) (page : UInt16) (offset value : UInt8) :
    (node.writeRegister page offset value).2.renewal =
      if offset = StandardRange.restoreDefaults then node.renewal.write value
      else node.renewal := by
  by_cases own : offset = StandardRange.restoreDefaults
  · subst own
    rw [if_pos rfl, writeRegister, node.registerMap.resolve_restoreDefaults page]
    simp [Access.writable, renewal_writeStandard]
  · rw [if_neg own]
    unfold writeRegister
    dsimp only
    split
    · rename_i slot target
      have other : slot.register ≠ .restoreDefaults :=
        StandardSlot.register_ne_restoreDefaults (RegisterMap.at?_of_resolve target) own
      split <;> simp [renewal_writeStandard, other]
    · simp
    · simp
    · exact renewal_emit _ (by simp [Effect.Renews])
    · simp

/-- Writes to other registers leave the wait alone. -/
theorem renewal_writeEach_of_other {page : UInt16} {places : List (UInt8 × UInt8)}
    (other : ∀ place ∈ places, place.1 ≠ StandardRange.restoreDefaults) (node : Node Clock App) :
    (writeEach page places node).2.renewal = node.renewal := by
  induction places generalizing node with
  | nil => rfl
  | cons place rest ih =>
      obtain ⟨first, later⟩ := List.forall_mem_cons.mp other
      refine (ih later (node.writeRegister page place.1 place.2).2).trans ?_
      rw [renewal_writeRegister, if_neg first]

/-- Writes that go upwards reach the register once at most. -/
theorem renewal_writeEach_of_mem {page : UInt16} {places : List (UInt8 × UInt8)}
    (ascending : places.Pairwise fun place later => place.1 < later.1) {value : UInt8}
    (listed : (StandardRange.restoreDefaults, value) ∈ places) (node : Node Clock App) :
    (writeEach page places node).2.renewal = node.renewal.write value := by
  induction places generalizing node with
  | nil => cases listed
  | cons place rest ih =>
      obtain ⟨above, later⟩ := List.pairwise_cons.mp ascending
      change (writeEach page rest (node.writeRegister page place.1 place.2).2).2.renewal = _
      rcases List.mem_cons.mp listed with rfl | within
      · have other : ∀ next ∈ rest, next.1 ≠ StandardRange.restoreDefaults := fun next there =>
          (UInt8.ne_of_lt (above next there)).symm
        rw [renewal_writeEach_of_other other, renewal_writeRegister, if_pos rfl]
      · have below := UInt8.ne_of_lt (above _ within)
        rw [ih later within, renewal_writeRegister, if_neg below]

theorem renewal_stepRegister (node : Node Clock App) (register : UInt8) (step : UInt8 → UInt8) :
    (node.stepRegister register step).renewal =
      if register = StandardRange.restoreDefaults then
        node.renewal.write (step (node.readRegister node.pageSelect register).1)
      else node.renewal := by
  unfold stepRegister replyRegister
  dsimp only
  rw [renewal_reply, renewal_writeRegister, renewal_peek]
  rfl

end Writes

end Node

end Vscp
