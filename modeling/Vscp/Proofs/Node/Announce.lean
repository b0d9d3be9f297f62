/-
This file proves that a node announces the nickname with which it becomes active and defends it as
long as it stays active.
-/

import Vscp.Proofs.Node.Identity
import Vscp.Proofs.Node.Line

namespace Vscp

theorem Config.priority_lt {config : Config} (checked : config.check = .ok ()) :
    config.priority.toNat < 8 := by
  unfold check at checked
  repeat
    split at checked
    · cases checked
  rename_i usable _
  have bound := UInt8.le_iff_toNat_le.mp (UInt8.not_lt.mp usable)
  exact Nat.lt_succ_of_le bound

/-- A short frame of low priority is made as it is asked for. -/
theorem Event.made (classId : UInt16) (typeId origin : UInt8) (hardCoded : Bool) {priority : UInt8}
    (low : priority.toNat < 8) {data : List UInt8} (short : data.length ≤ 8) :
    ∃ event, ((((Event.new classId typeId origin).withHardCoded hardCoded).withPriority
        priority).bind (·.withData data)) = .ok event ∧
      event.classId = UInt16.ofNat (classId.toNat % 512) ∧ event.typeId = typeId ∧
      event.origin = origin ∧ event.data = data := by
  unfold Event.withPriority Event.withData
  rw [dif_pos low]
  exact ⟨_, dif_pos short, rfl, rfl, rfl, rfl⟩

/-- The event is sent under a nickname by another node, which announces or defends it. -/
def Event.Contests (event : Event) (nickname : UInt8) : Prop :=
  (event.Manages .newNodeOnline ∧ event.data.head? = some nickname) ∨
    (event.Manages .probeAck ∧ event.origin = nickname)

/-- The frame that the segment took from the node. -/
def Effect.taken? : Effect → Option Event
  | .frame event true => some event
  | _ => none

namespace Node

section Frames

variable {Clock App : Type}

/-- The frames that the segment took from the node, in order. -/
def sent (node : Node Clock App) : List Event :=
  node.trace.filterMap Effect.taken?

/-- The segment takes every frame of the node. -/
structure Audible (node : Node Clock App) : Prop where
  priority : node.config.priority.toNat < 8
  accepts : ∀ attempt, node.transport.accepts attempt = true

theorem mem_sent_emit {node : Node Clock App} {event : Event} (sent : event ∈ node.sent)
    (effect : Effect) : event ∈ (node.emit effect).sent := by
  unfold Node.sent
  change event ∈ (node.trace ++ [effect]).filterMap Effect.taken?
  rw [List.filterMap_append]
  exact List.mem_append_left _ sent

/-- A short management frame is tried as it is, whether or not the segment takes it. -/
theorem trace_send {node : Node Clock App} (low : node.config.priority.toNat < 8)
    (kind : Management) (origin : UInt8) {data : List UInt8} (short : data.length ≤ 8) :
    ∃ event more,
      (node.send Protocol.managementClass kind.typeId origin data).trace =
        node.trace ++ .frame event (node.transport.accepts node.transport.attempted) :: more ∧
      event.Manages kind ∧ event.origin = origin ∧ event.data = data := by
  obtain ⟨event, made, classId, typeId, content⟩ := Event.made Protocol.managementClass
    kind.typeId origin node.config.hardCoded low short
  unfold send
  simp only [made]
  split
  · exact ⟨event, [], rfl, ⟨classId, typeId⟩, content⟩
  · exact ⟨event, [.logged (.refusedFrame Protocol.managementClass kind.typeId)],
      List.append_assoc .., ⟨classId, typeId⟩, content⟩

/-- A management frame of an audible node goes out as it is. -/
theorem Audible.send {node : Node Clock App} (audible : node.Audible) (kind : Management)
    (origin : UInt8) {data : List UInt8} (short : data.length ≤ 8) :
    ∃ event ∈ (node.send Protocol.managementClass kind.typeId origin data).sent,
      event.Manages kind ∧ event.origin = origin ∧ event.data = data := by
  obtain ⟨event, more, tried, content⟩ := trace_send audible.priority kind origin short
  refine ⟨event, ?_, content⟩
  rw [sent, tried, audible.accepts]
  exact List.mem_filterMap.mpr ⟨.frame event true, by simp, rfl⟩

end Frames

section Announcements

variable {Clock App : Type} [TimerService Clock] [Application App] {node : Node Clock App}
  {call : HostCall} {event : Event}

omit [Application App] in
theorem mem_sent_startHeartbeat (sent : event ∈ node.sent) : event ∈ node.startHeartbeat.sent := by
  unfold startHeartbeat startTimer
  split
  · exact sent
  · split
    · exact sent
    · exact mem_sent_emit sent _

omit [TimerService Clock] [Application App] in
/-- Time and the events that wait change nothing of what can be heard. -/
theorem Audible.of_same {after : Node Clock App} (audible : node.Audible)
    (config : after.config = node.config)
    (accepts : after.transport.accepts = node.transport.accepts) : after.Audible where
  priority := config ▸ audible.priority
  accepts := accepts ▸ audible.accepts

/-- An active node has announced its nickname. -/
theorem Audible.goActive (audible : node.Audible) (nickname : UInt8) :
    ∃ event ∈ (node.goActive nickname).sent, event.Contests nickname := by
  obtain ⟨event, sent, command, -, data⟩ := audible.send .newNodeOnline nickname
    (show [nickname].length ≤ 8 by simp)
  refine ⟨event, ?_, .inl ⟨command, by rw [data]; rfl⟩⟩
  have called : event ∈ (Node.setLamp _ .on).sent := mem_sent_emit sent _
  exact mem_sent_emit (mem_sent_startHeartbeat called) _

theorem Audible.acceptNickname (audible : node.Audible) (nickname : UInt8) :
    ∃ event ∈ (node.acceptNickname nickname).sent, event.Contests nickname := by
  have accepted := node.core_stopTimer .general
  refine Audible.goActive (.of_same audible ?_ ?_) nickname
  · refine (congrArg NodeCore.config (core_send ..)).trans ?_
    exact congrArg NodeCore.config accepted
  · refine (congrArg Prod.snd (line_send ..)).trans ?_
    exact congrArg Prod.snd (node.line_stopTimer .general)

omit [TimerService Clock] [Application App] in
theorem nickname_core (node : Node Clock App) : node.core.nickname = node.nickname := rfl

theorem core_acceptNickname (node : Node Clock App) (nickname : UInt8) :
    (node.acceptNickname nickname).core =
      ((node.core.stop .general).setNickname nickname).goActive := by
  simp only [Node.acceptNickname, core_goActive, core_log, core_send, core_setNickname,
    core_stopTimer]

/-- The nickname that a node accepts is kept or lost. -/
theorem nickname_acceptNickname (node : Node Clock App) (nickname : UInt8) :
    (node.acceptNickname nickname).nickname = nickname ∨
      (node.acceptNickname nickname).nickname = Protocol.unassigned := by
  rw [← nickname_core, core_acceptNickname, NodeCore.goActive]
  change (NodeCore.startHeartbeat _).nickname = _ ∨ (NodeCore.startHeartbeat _).nickname = _
  rw [NodeCore.nickname_startHeartbeat]
  exact NodeCore.nickname_setNickname_cases ..

omit [TimerService Clock] [Application App] in
theorem nickname_countManagement (node : Node Clock App) :
    node.countManagement.nickname = node.nickname := rfl

/-- A node that becomes active announces the nickname that it has then. -/
theorem Change.announces (audible : node.Audible) (change : node.Change call .active)
    (named : (node.serve call).2.nickname ≠ Protocol.unassigned) :
    ∃ event ∈ (node.serve call).2.sent, event.Contests (node.serve call).2.nickname := by
  cases change with
  | @activated found processing starting present =>
      have waited := elapsed_processing processing
      have heard : found.Audible :=
        audible.of_same waited.config (congrArg Prod.snd (line_processing processing))
      have started : found.lifecycle = .starting := waited.lifecycle.trans starting
      have missing : ¬found.nickname = Protocol.unassigned := fun missing =>
        present (waited.nickname.symm.trans missing)
      have served : (node.serve call).2 = found.goActive found.nickname := by
        rw [serve_of_processing processing, process, started]
        exact if_neg missing
      have nickname : (found.goActive found.nickname).nickname = found.nickname :=
        (congrArg NodeCore.nickname (found.core_goActive _)).trans
          (NodeCore.nickname_startHeartbeat _)
      rw [served, nickname]
      exact heard.goActive found.nickname
  | @assigned event ready takes searching command old new others data addressed valid =>
      have still : ready.lifecycle = .nicknameDiscovery :=
        takes.elapsed.lifecycle.trans searching
      obtain ⟨rest, -, served⟩ := takes.serve_searching still command
      have acted : (ready.hear rest).discoveryCommand .setNicknameId event =
          (true, (ready.hear rest).acceptNickname new) := command_of_assigned data addressed valid
      rw [acted, if_pos rfl] at served
      have heard : (ready.hear rest).Audible :=
        audible.of_same takes.elapsed.config (congrArg Prod.snd takes.line)
      have kept := (ready.hear rest).nickname_acceptNickname new
      obtain ⟨announcement, sent, contests⟩ := heard.acceptNickname new
      generalize (ready.hear rest).acceptNickname new = accepted at served kept sent
      rw [served] at named ⊢
      rw [nickname_countManagement] at named ⊢
      rw [kept.resolve_right named]
      exact ⟨announcement, sent, contests⟩

/-- The call takes an event that sets the nickname of an active node. -/
def Readdresses (node : Node Clock App) (call : HostCall) : Prop :=
  ∃ event ready arguments, node.Takes call event ready ∧ node.lifecycle = .active ∧
    event.Manages .setNicknameId ∧ ready.core.Addressed event arguments

theorem Rewrite.of_active {address : Nat} {value : UInt8}
    (cause : node.Rewrite call address value) (own : address = Layout.nickname)
    (active : node.lifecycle = .active) : value = Protocol.unassigned ∨ node.Readdresses call := by
  cases cause with
  | reported => exact absurd own (by decide)
  | assigned takes searching => exact absurd (active.symm.trans searching) (by decide)
  | renamed takes active command addressed valid =>
      exact .inr ⟨_, _, _, takes, active, command, addressed⟩
  | moved | collided | dropped | droppedLate | guidDropped => exact .inl rfl

/-- A node that has a nickname after a call has kept it, unless the call sets another. -/
theorem nickname_serve (active : node.lifecycle = .active) (unnamed : ¬node.Readdresses call)
    (named : (node.serve call).2.nickname ≠ Protocol.unassigned) :
    (node.serve call).2.nickname = node.nickname := by
  have still : node.core.lifecycle = .active := active
  have parked : node.core.Parked := by apply NodeCore.Parked.of_awake <;> simp [still]
  have explained := (node.turn_serve call).explained (.inl (Nat.le_refl Layout.nickname)) parked
  refine explained.resolve_right fun cause => ?_
  exact (cause.of_active rfl active).elim named unnamed

/-- While a node stays active, an event that contests its nickname waits or is answered. -/
theorem Audible.defends (audible : node.Audible) (active : node.lifecycle = .active)
    (named : node.nickname ≠ Protocol.unassigned)
    (still : (node.serve call).2.lifecycle = .active) (waiting : event ∈ node.transport.inbox)
    (contests : event.Contests node.nickname) :
    event ∈ (node.serve call).2.transport.inbox ∨
      ∃ reply ∈ (node.serve call).2.sent, reply.Contests node.nickname := by
  rcases waits_or_taken waiting call with waits | ⟨ready, takes⟩
  · exact .inl waits
  · right
    have nickname : ready.nickname = node.nickname := takes.elapsed.nickname
    rcases contests with ⟨command, first⟩ | ⟨command, origin⟩
    -- the announcement of another node is answered, the answer of another node ends the state
    · obtain ⟨rest, -, served⟩ := takes.serve_active (takes.elapsed.lifecycle.trans active) command
      obtain ⟨arguments, data⟩ := List.head?_eq_some_iff.mp first
      have heard : (ready.hear rest).Audible :=
        audible.of_same takes.elapsed.config (congrArg Prod.snd takes.line)
      have addressed : (ready.hear rest).core.Addressed event arguments :=
        ⟨fun missing => named (nickname.symm.trans missing), data.trans (by rw [← nickname]; rfl)⟩
      have acted : (ready.hear rest).activeCommand .newNodeOnline event =
          (ready.hear rest).addressedCommand .newNodeOnline arguments :=
        command_of_addressed addressed
      have noted : ((ready.hear rest).log (.defending ready.nickname)).Audible :=
        heard.of_same rfl rfl
      obtain ⟨reply, sent, answer, origin, -⟩ := noted.send .probeAck ready.nickname
        (show ([] : List UInt8).length ≤ 8 by decide)
      rw [served, acted]
      exact ⟨reply, sent, .inr ⟨answer, origin.trans nickname⟩⟩
    · have collided := Change.collided takes active command (origin.trans nickname.symm)
      exact absurd (collided.lifecycle.symm.trans still) (by decide)

/-- An active node has been active before under its nickname and missed no event that contests it,
or has just announced or defended the nickname. -/
theorem Audible.contends (audible : node.Audible) (parked : node.core.Parked)
    (unnamed : ¬node.Readdresses call) (still : (node.serve call).2.lifecycle = .active)
    (named : (node.serve call).2.nickname ≠ Protocol.unassigned) :
    (node.lifecycle = .active ∧ node.nickname = (node.serve call).2.nickname ∧
      ∀ event ∈ node.transport.inbox, event.Contests node.nickname →
        event ∈ (node.serve call).2.transport.inbox) ∨
    ∃ event ∈ (node.serve call).2.sent, event.Contests (node.serve call).2.nickname := by
  by_cases spoken : ∃ event ∈ (node.serve call).2.sent, event.Contests (node.serve call).2.nickname
  · exact .inr spoken
  · left
    by_cases active : node.lifecycle = .active
    · have kept := nickname_serve active unnamed named
      rw [kept] at spoken named
      refine ⟨active, kept.symm, fun event waiting contests => ?_⟩
      exact (audible.defends active named still waiting contests).resolve_right spoken
    · rcases (node.turn_serve call).change parked with same | change
      · exact absurd (same.symm.trans still) active
      · have activated : node.Change call .active := cast (congrArg (Change _ _) still) change
        exact absurd (activated.announces audible named) spoken

end Announcements

end Node

end Vscp
