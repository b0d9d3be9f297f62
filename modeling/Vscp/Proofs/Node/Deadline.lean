/-
This file proves that a reset which a node puts off comes once and on time, whatever the node is
asked for in between.
-/

import Vscp.Proofs.Node.Announce
import Vscp.Proofs.Node.Ignored
import Vscp.Proofs.Node.Session
import Vscp.Proofs.Node.Telling
import Vscp.Proofs.Node.Wait

namespace Vscp

namespace HostCall

/-- The milliseconds that pass with the call. -/
def elapsed : HostCall → Nat
  | tick elapsed | poll elapsed => elapsed
  | _ => 0

/-- The call serves the timers and lets the node take an event. -/
def processes : HostCall → Bool
  | process | poll _ => true
  | _ => false

/-- The milliseconds that pass with calls that follow each other. -/
def total : List HostCall → Nat
  | [] => 0
  | call :: rest => call.elapsed + total rest

theorem total_concat (calls : List HostCall) (call : HostCall) :
    total (calls ++ [call]) = total calls + call.elapsed := by
  induction calls with
  | nil => exact Nat.add_comm ..
  | cons first rest ih =>
      rw [List.cons_append, total, total, ih, Nat.add_assoc]

end HostCall

namespace Node

open NodeCore

variable {App : Type} [Application App] {node found : Node SoftTimers App} {call : HostCall}
  {request : DropRequest} {left : Nat}

/-- The host neither starts the node over nor lets it take an event that ends the wait. -/
def Spares (node : Node SoftTimers App) (call : HostCall) : Prop :=
  call ≠ .restart ∧ call ≠ .reset ∧
    ∀ event ready, node.Takes call event ready → ¬ready.core.Interrupts event

omit [Application App] in
theorem Delayed.tick (delayed : Delayed node.core request left) (elapsed : Nat) :
    Delayed (node.tick elapsed).core request (left - elapsed) where
  active := delayed.active
  named := delayed.named
  pending := delayed.pending
  clear := delayed.clear
  armed := delayed.armed
  wired := delayed.wired.steps (.single (.ticked elapsed))
  left := by rw [left?_tick, delayed.left, Option.map_some]

omit [Application App] in
theorem processing?_isSome (node : Node SoftTimers App) (call : HostCall) :
    (node.processing? call).isSome = call.processes := by
  cases call <;> rfl

omit [Application App] in
theorem Delayed.processing (delayed : Delayed node.core request left)
    (processing : node.processing? call = some found) :
    Delayed found.core request (left - call.elapsed) := by
  cases call <;> cases processing
  · exact delayed
  · exact Delayed.tick delayed _

/-- A call that processes before the time is over leaves the node waiting. -/
theorem Delayed.process (delayed : Delayed node.core request left) (spared : node.Spares call)
    (processing : node.processing? call = some found) (early : call.elapsed < left) :
    Delayed (node.serve call).2.core request (left - call.elapsed) := by
  have waiting := Delayed.processing delayed processing
  have running : found.lifecycle.Runs := .inr (.inl waiting.active)
  have served := waiting.serviceTimers (Nat.sub_pos_of_lt early)
  rw [serve_of_processing processing, process_of_runs running]
  rw [← core_serviceTimers] at served
  -- the timers are served before the event, so it finds a node that still waits
  rcases takeEvent_cases processing with quiet | ⟨event, ready, rest, takes, -, handled⟩
  · rw [quiet]
    exact served
  · obtain ⟨same, also, -, -, reached⟩ := takes.found
    cases processing.symm.trans also
    rw [reached] at served
    rw [handled]
    have reacted := reaction_handle
      { ready with transport := { ready.transport with inbox := rest } } event
    exact served.reaction (spared.2.2 event ready takes) reacted

/-- A call that spares the wait takes no more of it than its own time. -/
theorem Delayed.serve (delayed : Delayed node.core request left) (spared : node.Spares call)
    (early : call.processes = true → call.elapsed < left) :
    Delayed (node.serve call).2.core request (left - call.elapsed) := by
  cases call with
  | tick elapsed => exact Delayed.tick delayed elapsed
  | process => exact Delayed.process delayed spared rfl (early rfl)
  | poll elapsed => exact Delayed.process delayed spared rfl (early rfl)
  | receive event => exact delayed
  | readRegister page offset => exact delayed.accessed (node.accessed_readRegister page offset)
  | writeRegister page offset value =>
      exact delayed.accessed (node.accessed_writeRegister page offset value)
  | raiseAlarm bits => exact delayed.of_kept rfl delayed.named rfl rfl rfl rfl rfl
  | restart => exact absurd rfl spared.1
  | reset => exact absurd rfl spared.2.1
  | clearCounters => exact delayed
  | clearRuleFault => exact delayed.of_kept rfl delayed.named rfl rfl rfl rfl rfl

/-- The host lets the node wait: none of the calls ends the wait before its time, and none processes
when the time is over. -/
structure Awaits (node : Node SoftTimers App) (limit : Nat) (calls : List HostCall) : Prop where
  spared : ∀ middle next rest, calls = middle ++ next :: rest →
    (serveAll middle node).2.Spares next
  early : ∀ middle next rest, calls = middle ++ next :: rest → next.processes = true →
    HostCall.total (middle ++ [next]) < limit

theorem Awaits.of_append {limit : Nat} {earlier later : List HostCall}
    (awaits : node.Awaits limit (earlier ++ later)) : node.Awaits limit earlier where
  spared middle next rest split := awaits.spared middle next (rest ++ later) (by simp [split])
  early middle next rest split := awaits.early middle next (rest ++ later) (by simp [split])

/-- The node still waits after the calls. -/
theorem Delayed.serveAll (delayed : Delayed node.core request left) {calls : List HostCall}
    (awaits : node.Awaits left calls) :
    Delayed (Node.serveAll calls node).2.core request (left - HostCall.total calls) := by
  induction calls using List.reverseRecOn with
  | nil => exact delayed
  | append_singleton calls call ih =>
      have within (processes : call.processes = true) :
          call.elapsed < left - HostCall.total calls := by
        have limit := awaits.early calls call [] rfl processes
        rw [HostCall.total_concat] at limit
        omega
      rw [serveAll_concat, HostCall.total_concat, ← Nat.sub_sub]
      exact Delayed.serve (ih awaits.of_append) (awaits.spared calls call [] rfl) within

/-- While it waits the node tells of no reset. -/
theorem Delayed.resetsTold (delayed : Delayed node.core request left) {calls : List HostCall}
    (awaits : node.Awaits left calls) :
    (Node.serveAll calls node).2.resetsTold = node.resetsTold := by
  induction calls using List.reverseRecOn with
  | nil => rfl
  | append_singleton calls call ih =>
      have active := (Delayed.serveAll delayed awaits).active
      rw [serveAll_concat] at active ⊢
      rcases (Node.serveAll calls node).2.tellsReset_serve call with same | ⟨starting, -⟩
      · exact same.trans (ih awaits.of_append)
      · exact absurd (active.symm.trans starting) (by decide)

/-- While it waits the node keeps its nickname, unless it is given another one. -/
theorem Delayed.nickname (delayed : Delayed node.core request left) {calls : List HostCall}
    (awaits : node.Awaits left calls)
    (unnamed : ∀ middle next rest, calls = middle ++ next :: rest →
      ¬(Node.serveAll middle node).2.Readdresses next) :
    (Node.serveAll calls node).2.nickname = node.nickname := by
  induction calls using List.reverseRecOn with
  | nil => rfl
  | append_singleton calls call ih =>
      have named := (Delayed.serveAll delayed awaits).named
      have active := (Delayed.serveAll delayed awaits.of_append).active
      have before := ih awaits.of_append fun middle next rest split =>
        unnamed middle next (rest ++ [call]) (by simp [split])
      rw [serveAll_concat] at named ⊢
      exact (nickname_serve active (unnamed calls call [] rfl) named).trans before

/-- When the time is over the node starts over instead of taking an event. -/
structure StartsOver (request : DropRequest) (before : Node SoftTimers App)
    (answer : HostAnswer) (after : Node SoftTimers App) : Prop where
  answer : answer = .outcome .noEvent
  inbox : after.transport.inbox = before.transport.inbox
  told : after.resetsTold = before.resetsTold + 1
  lifecycle : after.lifecycle = .starting
  unarmed : ∀ slot, after.isArmed slot = false
  sessions : after.sessions = .empty
  nickname : after.nickname =
    if request.keepNickname then before.nickname else Protocol.unassigned

theorem Delayed.startsOver (delayed : Delayed node.core request left)
    (processes : call.processes = true) (late : left ≤ call.elapsed) :
    StartsOver request node (node.serve call).1 (node.serve call).2 := by
  obtain ⟨found, processing⟩ := Option.isSome_iff_exists.mp
    ((node.processing?_isSome call).trans processes)
  have waiting := Delayed.processing delayed processing
  rw [Nat.sub_eq_zero_of_le late] at waiting
  have due := waiting.resetDue
  have sound : found.core.lifecycle.fault? = none := by rw [waiting.active]; rfl
  have running : found.lifecycle.Runs := .inr (.inl waiting.active)
  have starting : found.serviceTimers.lifecycle = .starting :=
    (congrArg NodeCore.lifecycle (core_serviceTimers found)).trans
      (lifecycle_serviceTimers sound due)
  have served : node.serve call = (.outcome .noEvent, found.serviceTimers) := by
    rw [answer_of_processing processing, process_of_runs running, takeEvent,
      if_pos (.inr starting)]
  have core : found.serviceTimers.core = (found.core.seeExpiry .general).forget.reset :=
    (core_serviceTimers found).trans (serviceTimers_of_resetDue sound due)
  have forgets : (found.core.seeExpiry .general).forget.lifecycle.fault? = none := by
    rw [lifecycle_forget]
    exact sound
  rw [served]
  exact {
    answer := rfl
    inbox := congrArg Prod.fst (found.line_serviceTimers.trans (line_processing processing))
    told := by
      rw [resetsTold_of_resetDue sound due, ← ticked_of_processing processing, resetsTold_ticked]
    lifecycle := starting
    unarmed := fun slot =>
      (congrArg (·.isArmed slot) core).trans (isArmed_reset forgets slot)
    sessions := (congrArg NodeCore.sessions core).trans (sessions_reset forgets)
    nickname := by
      have same : (found.core.seeExpiry .general).nickname = node.nickname :=
        (elapsed_processing processing).nickname
      have cleared : (found.core.seeExpiry .general).clearNickname = !request.keepNickname :=
        waiting.clear
      have reset : found.serviceTimers.nickname = (found.core.seeExpiry .general).forget.nickname :=
        (congrArg NodeCore.nickname core).trans
          (congrArg (·.read Layout.nickname) (store_reset _))
      rw [reset, nickname_forget, cleared, same]
      cases request.keepNickname <;> rfl }

theorem Takes.processes {event : Event} {ready : Node SoftTimers App}
    (takes : node.Takes call event ready) : call.processes = true := by
  obtain ⟨found, processing, -⟩ := takes.found
  rw [← node.processing?_isSome, processing]
  rfl

theorem Takes.wired {event : Event} {ready : Node SoftTimers App}
    (takes : node.Takes call event ready) (wired : node.core.Wired) : ready.core.Wired := by
  obtain ⟨found, processing, running, -, rfl⟩ := takes.found
  rw [core_serviceTimers]
  exact wired.steps ((steps_processing processing).trans (steps_serviceTimers running))

/-- A node that is asked for a reset begins to wait for it under the nickname that it has. -/
theorem delayed_of_putsOff (wired : node.core.Wired) (banked : node.Banked)
    (asked : node.PutsOff call request) :
    Delayed (node.serve call).2.core request (request.delay * 1000) ∧
      (node.serve call).2.nickname = node.nickname := by
  obtain ⟨event, ready, takes, active, command, ⟨arguments, addressed, decoded⟩, later⟩ := asked
  obtain ⟨rest, -, served⟩ := takes.serve_active active command
  -- the node has served its timers by now, which keeps their wiring but not what is left of them
  have heard : (ready.hear rest).core.Addressed event arguments := addressed
  have acted : (ready.hear rest).activeCommand .dropNickname event =
      (true, (ready.hear rest).dropNickname request) := decoded ▸ command_of_addressed heard
  have stays : ¬request.goIdle = true := fun idle => by simp [DropRequest.delayed, idle] at later
  have waiting : (node.serve call).2.core =
      { ready.core with resetPending := true, clearNickname := !request.keepNickname }.start
        .general (request.delay * 1000) := by
    rw [served, acted]
    exact (core_dropNickname ..).trans ((if_neg stays).trans (if_pos later))
  have present : ready.core.bank.isSome = true :=
    takes.inStep.banked.trans (banked.of_active (takes.elapsed.lifecycle.symm.trans active))
  have wires : Wired { ready.core with
      resetPending := true, clearNickname := !request.keepNickname } :=
    (takes.wired wired).of_wiring rfl
  refine ⟨?_, ?_⟩
  · rw [waiting]
    refine ⟨active, addressed.1, rfl, rfl, ?_, wires.of_wiring (wiring_start ..), ?_⟩
    · rw [isArmed_start, if_pos rfl]
      exact present
    · rw [wires.left?_start, if_pos rfl]
      obtain ⟨bank, there⟩ := Option.isSome_iff_exists.mp present
      exact Option.map_eq_some_iff.mpr ⟨bank, there, rfl⟩
  · exact (congrArg NodeCore.nickname waiting).trans takes.elapsed.nickname

section Answers

variable {Clock App : Type} [TimerService Clock] [Application App]

/-- The node is active under a nickname, carries out the commands that name it and defends it. -/
structure Answering (node : Node Clock App) : Prop where
  active : node.lifecycle = .active
  named : node.nickname ≠ Protocol.unassigned
  obeys : ∀ call event ready kind arguments, node.Takes call event ready → event.Manages kind →
    kind.isBroadcast = false → event.data = node.nickname :: arguments →
    ∃ rest, (node.serve call).2 =
      ((ready.hear rest).addressedCommand kind arguments).2.countManagement
  defends : ∀ call event ready, node.Takes call event ready → event.Manages .newNodeOnline →
    event.data.head? = some node.nickname →
    ∃ frame accepted more, (node.serve call).2.trace =
        ready.trace ++ .logged (.defending node.nickname) :: .frame frame accepted :: more ∧
      frame.Manages .probeAck ∧ frame.origin = node.nickname

theorem answering_of_active {node : Node Clock App} (low : node.config.priority.toNat < 8)
    (active : node.lifecycle = .active) (named : node.nickname ≠ Protocol.unassigned) :
    node.Answering := by
  have obeys {call : HostCall} {event : Event} {ready : Node Clock App} {kind : Management}
      {arguments : List UInt8} (takes : node.Takes call event ready) (command : event.Manages kind)
      (directed : kind.isBroadcast = false) (data : event.data = node.nickname :: arguments) :
      ∃ rest, (node.serve call).2 =
        ((ready.hear rest).addressedCommand kind arguments).2.countManagement := by
    have nickname : ready.nickname = node.nickname := takes.elapsed.nickname
    obtain ⟨rest, -, served⟩ := takes.serve_active (takes.elapsed.lifecycle.trans active) command
    have addressed : (ready.hear rest).core.Addressed event arguments :=
      ⟨fun missing => named (nickname.symm.trans missing), data.trans (by rw [← nickname]; rfl)⟩
    rw [activeCommand_of_directed directed, command_of_addressed addressed] at served
    exact ⟨rest, served⟩
  refine ⟨active, named, fun _ _ _ _ _ => obeys, fun call event ready takes command first => ?_⟩
  have nickname : ready.nickname = node.nickname := takes.elapsed.nickname
  have same : ready.config = node.config := takes.elapsed.config
  obtain ⟨arguments, data⟩ := List.head?_eq_some_iff.mp first
  obtain ⟨rest, served⟩ := obeys takes command rfl data
  have heard : ((ready.hear rest).log (.defending ready.nickname)).config.priority.toNat < 8 :=
    same ▸ low
  obtain ⟨frame, more, tried, manages, own, -⟩ :=
    trace_send heard .probeAck ready.nickname (show ([] : List UInt8).length ≤ 8 by decide)
  refine ⟨frame, ready.transport.accepts ready.transport.attempted, more, ?_, manages,
    own.trans nickname⟩
  rw [served, ← nickname]
  refine tried.trans ?_
  exact List.append_assoc ..

end Answers

section Runs

variable {App : Type} [Application App]

/-- A reset that an active node was asked to put off comes once and on time. Until then the node
answers on its nickname, which it keeps unless it is given another one, and tells of no reset; the
first call that processes when the time is over starts the node over. -/
theorem delayed_reset_comes_on_time {config : Config} {store : Store} {transport : Transport}
    {clock : SoftTimers} {app : App} {node : Node SoftTimers App}
    (built : build config store transport clock app = .ok node) {earlier later : List HostCall}
    {call : HostCall} {request : DropRequest}
    (asked : (serveAll earlier node).2.PutsOff call request)
    (awaits : (serveAll (earlier ++ [call]) node).2.Awaits (request.delay * 1000) later) :
    let before := (serveAll earlier node).2
    let accepted := (serveAll (earlier ++ [call]) node).2
    let reached := (serveAll later accepted).2
    reached.Answering ∧
    reached.resetsTold = before.resetsTold ∧
    ((∀ middle next rest, later = middle ++ next :: rest →
      ¬(serveAll middle accepted).2.Readdresses next) → reached.nickname = before.nickname) ∧
    ∀ next, next.processes = true →
      request.delay * 1000 ≤ HostCall.total (later ++ [next]) →
      StartsOver request reached (reached.serve next).1 (reached.serve next).2 := by
  intro before accepted reached
  have fresh := fresh_build built
  have wired : before.core.Wired := (wired_build built).steps (steps_serveAll earlier node)
  have banked : before.Banked := banked_serveAll fresh.banked earlier
  have accept : accepted = (before.serve call).2 := serveAll_concat earlier call node
  obtain ⟨delayed, kept⟩ := delayed_of_putsOff wired banked asked
  rw [← accept] at delayed kept
  have waiting := Delayed.serveAll delayed awaits
  have settings : reached.config = config := by
    have all : reached = (serveAll ((earlier ++ [call]) ++ later) node).2 :=
      (serveAll_append ..).symm
    rw [all, ← undergoAll_calls]
    exact config_reached built _
  have low : reached.config.priority.toNat < 8 := settings ▸ Config.priority_lt fresh.checked
  refine ⟨answering_of_active low waiting.active waiting.named, ?_, fun unnamed => ?_,
    fun next processes late => ?_⟩
  · rw [Delayed.resetsTold delayed awaits, accept]
    rcases before.tellsReset_serve call with same | ⟨starting, -⟩
    · exact same
    · rw [← accept] at starting
      exact absurd (delayed.active.symm.trans starting) (by decide)
  · exact (Delayed.nickname delayed awaits unnamed).trans kept
  · rw [HostCall.total_concat] at late
    exact Delayed.startsOver waiting processes (by omega)

end Runs

/-- A node that is asked to drop its nickname in two seconds. -/
def droppingNode : Node SoftTimers SilentApplication :=
  (build {} ((Store.erased 256).write Layout.nickname 0x10) .open (SoftTimers.empty 4)
    SilentApplication.mk).toOption.get rfl

def droppingEvent : Event :=
  { Event.new 0 8 0 with data := [0x10, 0, 2], dataWithin := by decide }

def droppingCalls : List HostCall :=
  [.process, .receive droppingEvent]

/-- Another node asks for the nickname in the meantime. -/
def contestingEvent : Event :=
  { Event.new 0 2 0xFF with data := [0x10], dataWithin := by decide }

def waitingCalls : List HostCall :=
  [.receive contestingEvent, .poll 1000, .tick 999]

theorem droppingNode_putsOff :
    (serveAll droppingCalls droppingNode).2.PutsOff .process ⟨false, false, false, 2⟩ := by
  have takes : (serveAll droppingCalls droppingNode).2.Takes .process droppingEvent
      (serveAll droppingCalls droppingNode).2.serviceTimers :=
    ⟨rfl, .inr (.inl (by decide +kernel)), by decide +kernel⟩
  have addressed : (serveAll droppingCalls droppingNode).2.serviceTimers.core.Addressed
      droppingEvent [0, 2] :=
    ⟨by decide +kernel, by decide +kernel⟩
  exact ⟨droppingEvent, _, takes, by decide +kernel, ⟨rfl, rfl⟩, ⟨[0, 2], addressed, rfl⟩, rfl⟩

theorem droppingNode_awaits :
    (serveAll (droppingCalls ++ [.process]) droppingNode).2.Awaits 2000 waitingCalls where
  spared middle next rest split := by
    rcases middle with _ | ⟨_, _ | ⟨_, _ | ⟨_, middle⟩⟩⟩
    · cases split
      exact ⟨by simp, by simp, fun event ready takes => absurd takes.processes (by decide)⟩
    · cases split
      -- the only event that the run takes asks for the nickname, which ends no wait
      refine ⟨by simp, by simp, fun event ready takes interrupts => ?_⟩
      obtain rfl := Option.some.inj takes.served
      have heard : some contestingEvent = some event :=
        (by decide +kernel : some contestingEvent = _).trans takes.first
      cases heard
      cases interrupts with
      | dropped command | handedOver command | collided command | moved command
      | withdrawn command => exact absurd command.typeId (by decide)
    · cases split
      exact ⟨by simp, by simp, fun event ready takes => absurd takes.processes (by decide)⟩
    · simp [waitingCalls] at split
  early middle next rest split processes := by
    rcases middle with _ | ⟨_, _ | ⟨_, _ | ⟨_, middle⟩⟩⟩
    · cases split
      cases processes
    · cases split
      decide
    · cases split
      cases processes
    · simp [waitingCalls] at split

/-- After two seconds the node starts over without its nickname. -/
theorem dropping_node_starts_over :
    let reached := (serveAll waitingCalls
      (serveAll (droppingCalls ++ [.process]) droppingNode).2).2
    reached.Answering ∧ reached.nickname = 0x10 ∧
      StartsOver ⟨false, false, false, 2⟩ reached (reached.serve (.poll 1)).1
        (reached.serve (.poll 1)).2 := by
  have built : build {} ((Store.erased 256).write Layout.nickname 0x10) .open (SoftTimers.empty 4)
      SilentApplication.mk = .ok droppingNode := rfl
  obtain ⟨answering, -, -, ends⟩ :=
    delayed_reset_comes_on_time built droppingNode_putsOff droppingNode_awaits
  exact ⟨answering, by decide +kernel, ends (.poll 1) rfl (by decide)⟩

end Node

end Vscp
