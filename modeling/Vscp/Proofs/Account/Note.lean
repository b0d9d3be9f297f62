/-
This file notes down what a node does in the order in which it does it, and ties the counters of the
node to the effects that its trace shows.
-/

import Vscp.Proofs.Node.Announce

namespace Vscp

/-- What is noted of an effect: how the lamp is set, which frames ask for a nickname, announce one
or are heartbeats, what is executed, and what is counted besides events and other frames. -/
inductive Note where
  | lamp (lamp : Lamp)
  | executed (action param : UInt8) (event : Event)
  | online (origin : UInt8) (data : List UInt8)
  | beat (origin : UInt8) (data : List UInt8)
  | fired (firing : Firing)
  | hit (hit : RuleHit)
  | faulted (fault : RuleFault)
  | collided
  | searched
  deriving DecidableEq, Repr

/-- What is noted of a frame with these fields. -/
def Note.ofFrame? (classId : UInt16) (typeId origin : UInt8) (data : List UInt8) : Option Note :=
  if classId = Protocol.managementClass ∧ typeId = Management.newNodeOnline.typeId then
    some (.online origin data)
  else if classId = Protocol.informationClass ∧ typeId = Protocol.nodeHeartbeatType then
    some (.beat origin data)
  else none

def Note.ofCall? : Call → Option Note
  | .setLamp shown => some (.lamp shown)
  | .execute action param event => some (.executed action param event)
  | _ => none

def Note.ofNotice? : Notice → Option Note
  | .rowFires firing => some (.fired firing)
  | .ruleFires rule => some (.hit rule)
  | .ruleFault fault => some (.faulted fault)
  | .collision _ => some .collided
  | .discoveryStarted => some .searched
  | _ => none

def Effect.note? : Effect → Option Note
  | .frame event _ => Note.ofFrame? event.classId event.typeId event.origin event.data
  | .called call => Note.ofCall? call
  | .logged notice => Note.ofNotice? notice
  | _ => none

def Counters.recordNotice (counters : Counters) : Notice → Counters
  | .rowFires _ => { counters with matrixActions := increased counters.matrixActions 1 }
  | .ruleFires _ => { counters with ruleActions := increased counters.ruleActions 1 }
  | .ruleFault fault => counters.recordRuleFault fault
  | .collision _ =>
      { counters with nicknameCollisions := increased counters.nicknameCollisions 1 }
  | .discoveryStarted =>
      { counters with discoveryRestarts := increased counters.discoveryRestarts 1 }
  | _ => counters

/-- The counters after an effect that is counted. -/
def Counters.record (counters : Counters) : Effect → Counters
  | .frame _ accepted => counters.recordFrame accepted
  | .logged notice => counters.recordNotice notice
  | _ => counters

/-- The counter of the rows that fired is not beyond its largest value. -/
def Counters.Capped (counters : Counters) : Prop :=
  counters.matrixActions ≤ 65535

theorem Counters.Capped.record {counters : Counters} (capped : counters.Capped) (effect : Effect) :
    (counters.record effect).Capped := by
  cases effect with
  | frame event accepted => cases accepted <;> exact capped
  | logged notice =>
      cases notice with
      | rowFires firing => exact Nat.min_le_right ..
      | _ => exact capped
  | _ => exact capped

theorem Counters.Capped.records {counters : Counters} (capped : counters.Capped)
    (effects : List Effect) : (effects.foldl Counters.record counters).Capped := by
  induction effects generalizing counters with
  | nil => exact capped
  | cons effect rest ih => exact ih (capped.record effect)

namespace Node

variable {Clock App : Type}

/-- From the one node to the other these notes are taken, and the counters are those of the effects
in between. -/
structure Accounts (before after : Node Clock App) (notes : List Note) : Prop where
  config : after.config = before.config
  shown : before.config.priority.toNat < 8 → ∃ added, after.trace = before.trace ++ added ∧
    added.filterMap Effect.note? = notes ∧
    (before.counters.Capped → after.counters = added.foldl Counters.record before.counters)

namespace Accounts

variable {first second third : Node Clock App} {notes later : List Note}

theorem of_same (config : second.config = first.config) (trace : second.trace = first.trace)
    (counters : second.counters = first.counters) : Accounts first second [] :=
  ⟨config, fun _ => ⟨[], trace.trans (List.append_nil _).symm, rfl, fun _ => counters⟩⟩

theorem refl (node : Node Clock App) : Accounts node node [] :=
  .of_same rfl rfl rfl

theorem trans (left : Accounts first second notes) (right : Accounts second third later) :
    Accounts first third (notes ++ later) where
  config := right.config.trans left.config
  shown low := by
    obtain ⟨added, grown, noted, counted⟩ := left.shown low
    obtain ⟨more, onward, also, further⟩ := right.shown (left.config ▸ low)
    refine ⟨added ++ more, ?_, ?_, fun capped => ?_⟩
    · rw [onward, grown, List.append_assoc]
    · rw [List.filterMap_append, noted, also]
    · have between := counted capped
      rw [further (between ▸ capped.records added), between, List.foldl_append]

/-- What comes without a note at the end changes none. -/
theorem trans_quiet (left : Accounts first second notes) (right : Accounts second third []) :
    Accounts first third notes := by
  have both := left.trans right
  rwa [List.append_nil] at both

/-- Effects that are counted as they are shown. -/
theorem of_effects (added : List Effect) (config : second.config = first.config)
    (trace : second.trace = first.trace ++ added)
    (counters : second.counters = added.foldl Counters.record first.counters) :
    Accounts first second (added.filterMap Effect.note?) :=
  ⟨config, fun _ => ⟨added, trace, rfl, fun _ => counters⟩⟩

section Acts

variable (node : Node Clock App)

theorem emit {effect : Effect} (plain : ∀ counters : Counters, counters.record effect = counters) :
    Accounts node (node.emit effect) (List.filterMap Effect.note? [effect]) :=
  .of_effects [effect] rfl rfl (plain _).symm

theorem log (notice : Notice)
    (plain : ∀ counters : Counters, counters.record (.logged notice) = counters) :
    Accounts node (node.log notice) (List.filterMap Effect.note? [.logged notice]) :=
  emit node plain

theorem enter (lifecycle : Lifecycle) : Accounts node (node.enter lifecycle) [] :=
  .of_same rfl rfl rfl

theorem writeStore (address : Nat) (value : UInt8) :
    Accounts node (node.writeStore address value) [] :=
  .of_effects [.stored address value] rfl rfl rfl

theorem setNickname (nickname : UInt8) : Accounts node (node.setNickname nickname) [] :=
  writeStore node Layout.nickname nickname

theorem setSegmentCrc (crc : UInt8) : Accounts node (node.setSegmentCrc crc) [] :=
  writeStore node Layout.segmentCrc crc

/-- A short frame is noted by its fields, and counted whether or not the segment takes it. -/
theorem send (classId : UInt16) (typeId origin : UInt8) {data : List UInt8}
    (short : data.length ≤ 8) :
    Accounts node (node.send classId typeId origin data)
      (Note.ofFrame? (UInt16.ofNat (classId.toNat % 512)) typeId origin data).toList where
  config := congrArg NodeCore.config (core_send ..)
  shown low := by
    obtain ⟨event, made, ownClass, ownType, own, content⟩ :=
      Event.made classId typeId origin node.config.hardCoded low short
    have noted (accepted : Bool) (more : List Effect) :
        (Effect.frame event accepted :: more).filterMap Effect.note? =
          (Note.ofFrame? (UInt16.ofNat (classId.toNat % 512)) typeId origin data).toList ++
            more.filterMap Effect.note? := by
      rw [List.filterMap_cons, Effect.note?, ownClass, ownType, own, content]
      cases Note.ofFrame? (UInt16.ofNat (classId.toNat % 512)) typeId origin data <;> rfl
    unfold Node.send
    simp only [made]
    split
    · rename_i accepted
      refine ⟨[.frame event true], ?_, (noted true []).trans (List.append_nil _), ?_⟩
      · exact congrArg (fun accepted => node.trace ++ [.frame event accepted]) accepted
      · exact fun _ => congrArg node.counters.recordFrame accepted
    · rename_i refused
      have refused := Bool.eq_false_iff.mpr refused
      refine ⟨[.frame event false, .logged (.refusedFrame classId typeId)], ?_,
        (noted false _).trans (List.append_nil _), ?_⟩
      · rw [refused]
        exact List.append_assoc ..
      · exact fun _ => congrArg node.counters.recordFrame refused

/-- Of the management frames only those are noted that ask for a nickname or announce one. -/
theorem manage (kind : Management) (origin : UInt8) {data : List UInt8}
    (short : data.length ≤ 8) :
    Accounts node (node.send Protocol.managementClass kind.typeId origin data)
      (if kind = .newNodeOnline then [.online origin data] else []) := by
  have sent := send node Protocol.managementClass kind.typeId origin short
  cases kind <;> exact sent

theorem reply {kind : Management} (other : kind ≠ .newNodeOnline) {data : List UInt8}
    (short : data.length ≤ 8) : Accounts node (node.reply kind data) [] := by
  have sent := manage node kind node.nickname short
  rwa [if_neg other] at sent

theorem sendFrames {kind : Management} (other : kind ≠ .newNodeOnline)
    {frames : List (List UInt8)} (short : ∀ frame ∈ frames, frame.length ≤ 8) :
    Accounts node (node.sendFrames kind frames) [] := by
  induction frames generalizing node with
  | nil => exact refl node
  | cons frame rest ih =>
      have first := reply node other (short frame List.mem_cons_self)
      exact first.trans (ih _ fun later within => short later (List.mem_cons_of_mem _ within))

end Acts

section Timers

variable [TimerService Clock] (node : Node Clock App)

theorem startTimer (slot : TimerSlot) (timeout : Nat) :
    Accounts node (node.startTimer slot timeout) [] := by
  unfold Node.startTimer
  split
  · exact refl node
  · rename_i bank _
    exact .of_effects [.timerStarted (bank.timers.get slot) timeout] rfl rfl rfl

theorem stopTimer (slot : TimerSlot) : Accounts node (node.stopTimer slot) [] := by
  unfold Node.stopTimer
  split
  · exact refl node
  · rename_i bank _
    exact .of_effects [.timerStopped (bank.timers.get slot)] rfl rfl rfl

theorem stopAllTimers : Accounts node node.stopAllTimers [] := by
  have general := stopTimer node .general
  have sessions := (general.trans (stopTimer _ .multiFrame1)).trans (stopTimer _ .multiFrame2)
  exact sessions.trans (stopTimer _ .heartbeat)

theorem takeExpired (slot : TimerSlot) : Accounts node (node.takeExpired slot).2 [] := by
  unfold Node.takeExpired
  split <;> exact .of_same rfl rfl rfl

theorem startHeartbeat : Accounts node node.startHeartbeat [] := by
  unfold Node.startHeartbeat
  split
  · exact refl node
  · exact startTimer ..

/-- A probe asks for its candidate. -/
theorem sendProbe :
    Accounts node node.sendProbe [.online Protocol.unassigned [node.discovery.candidate]] := by
  have noted := log node (.probing node.discovery.candidate) fun _ => rfl
  have asked := noted.trans (manage _ .newNodeOnline Protocol.unassigned
    (show [node.discovery.candidate].length ≤ 8 by simp))
  exact asked.trans_quiet (startTimer ..)

end Timers

section Application

variable [Application App] (node : Node Clock App)

theorem call (call : Call) :
    Accounts node (node.call call) (List.filterMap Effect.note? [.called call]) :=
  .of_effects [.called call] rfl rfl rfl

theorem setLamp (lamp : Lamp) : Accounts node (node.setLamp lamp) [.lamp lamp] :=
  call node (.setLamp lamp)

theorem peek (target : RegisterTarget) (page : UInt16) (offset : UInt8) :
    Accounts node (node.peek target page offset).2 [] := by
  cases target with
  | application =>
      exact .of_effects [.registerRead page offset] rfl rfl rfl
  | _ => exact refl node

omit [Application App] in
theorem afterRead (target : RegisterTarget) : Accounts node (node.afterRead target) [] := by
  unfold Node.afterRead
  split <;> exact .of_same rfl rfl rfl

theorem readRegister (page : UInt16) (offset : UInt8) :
    Accounts node (node.readRegister page offset).2 [] :=
  (peek node (node.registerMap.resolve page offset) page offset).trans (afterRead ..)

theorem writeRestore (value : UInt8) : Accounts node (node.writeRestore value) [] := by
  unfold Node.writeRestore
  split
  · exact .of_effects [.logged .restoreArmed] rfl rfl rfl
  · split
    · exact .of_effects [.logged .restoring, .called .restoreFactoryDefaults] rfl
        (List.append_assoc ..) rfl
    · exact .of_same rfl rfl rfl

theorem writeStandard (slot : StandardSlot) (value : UInt8) :
    Accounts node (node.writeStandard slot value) [] := by
  unfold Node.writeStandard
  split
  · exact writeStore ..
  · exact writeStore ..
  · exact .of_same rfl rfl rfl
  · exact .of_same rfl rfl rfl
  · exact writeRestore ..
  · exact refl node

theorem writeRegister (page : UInt16) (offset value : UInt8) :
    Accounts node (node.writeRegister page offset value).2 [] := by
  unfold Node.writeRegister
  dsimp only
  split
  · rename_i slot _
    have written : Accounts node (if slot.access.writable then node.writeStandard slot value
        else node) [] := by
      split
      · exact writeStandard ..
      · exact refl node
    exact written.trans (peek ..)
  · exact (writeStore ..).trans (peek ..)
  · exact (writeStore ..).trans (peek ..)
  · exact .of_effects [.registerWritten page offset value] rfl rfl rfl
  · exact peek ..

theorem readEach (page : UInt16) (registers : List UInt8) :
    Accounts node (Node.readEach page registers node).2 [] := by
  induction registers generalizing node with
  | nil => exact refl node
  | cons register rest ih => exact (readRegister node page register).trans (ih _)

theorem writeEach (page : UInt16) (writes : List (UInt8 × UInt8)) :
    Accounts node (Node.writeEach page writes node).2 [] := by
  induction writes generalizing node with
  | nil => exact refl node
  | cons write rest ih => exact (writeRegister node page write.1 write.2).trans (ih _)

end Application

end Accounts

end Node

end Vscp
