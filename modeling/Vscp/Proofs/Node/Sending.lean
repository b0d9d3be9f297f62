/-
This file proves that sending frames does nothing but that: the frames are tried as they are, in
order, and a node that has sent them differs in its line and its counters alone.
-/

import Vscp.Proofs.Node.Announce
import Vscp.Proofs.Node.Refusal

namespace Vscp

/-- The frame that the node tried to send, whether or not the segment took it. -/
def Effect.attempt? : Effect → Option Event
  | .frame event _ => some event
  | _ => none

/-- The effect is part of sending a frame. -/
def Effect.isSending : Effect → Bool
  | .frame .. | .logged (.malformedFrame ..) | .logged (.refusedFrame ..) => true
  | _ => false

theorem Effect.Plain.isSending {effect : Effect} (plain : effect.Plain) :
    effect.isSending = false := by
  cases effect with
  | frame event accepted => exact plain.elim
  | logged notice =>
      cases notice with
      | malformedFrame classId typeId cause => exact plain.elim
      | refusedFrame classId typeId => exact plain.elim
      | _ => rfl
  | _ => rfl

/-- A management frame of this kind with this origin and payload. -/
structure Event.Says (event : Event) (kind : Management) (origin : UInt8) (data : List UInt8) : Prop
    extends event.Manages kind where
  origin : event.origin = origin
  data : event.data = data

namespace Node

variable {Clock App : Type}

/-- The frames that the node tried to send, in order. -/
def attempts (node : Node Clock App) : List Event :=
  node.trace.filterMap Effect.attempt?

/-- What the node did besides sending frames. -/
def doings (node : Node Clock App) : List Effect :=
  node.trace.filter fun effect => !effect.isSending

theorem attempts_emit (node : Node Clock App) (effect : Effect) :
    (node.emit effect).attempts = node.attempts ++ effect.attempt?.toList := by
  unfold attempts emit
  rw [List.filterMap_append]
  cases effect <;> rfl

theorem attempts_emit_of_none {node : Node Clock App} {effect : Effect}
    (other : effect.attempt? = none) : (node.emit effect).attempts = node.attempts := by
  rw [attempts_emit, other]
  exact List.append_nil _

theorem doings_emit (node : Node Clock App) {effect : Effect} (other : effect.isSending = false) :
    (node.emit effect).doings = node.doings ++ [effect] := by
  unfold doings emit
  rw [List.filter_append, List.filter_singleton, other]
  rfl

theorem doings_emit_of_sending (node : Node Clock App) {effect : Effect}
    (sending : effect.isSending = true) : (node.emit effect).doings = node.doings := by
  unfold doings emit
  rw [List.filter_append, List.filter_singleton, sending]
  exact List.append_nil _

theorem doings_send (node : Node Clock App) (classId : UInt16) (typeId origin : UInt8)
    (data : List UInt8) : (node.send classId typeId origin data).doings = node.doings := by
  unfold send
  dsimp only
  split
  · exact doings_emit_of_sending node rfl
  · split
    · exact doings_emit_of_sending _ rfl
    · exact (doings_emit_of_sending _ rfl).trans (doings_emit_of_sending _ rfl)

/-- From the one node to the other these frames are tried, and nothing else happens but that events
are counted. -/
structure Tries (before after : Node Clock App) (frames : List Event) : Prop where
  core : after.core = before.core
  app : after.app = before.app
  inbox : after.transport.inbox = before.transport.inbox
  accepts : after.transport.accepts = before.transport.accepts
  attempted : after.transport.attempted = before.transport.attempted + frames.length
  trace : ∃ added, after.trace = before.trace ++ added ∧
    added.filterMap Effect.attempt? = frames ∧ ∀ effect ∈ added, effect.isSending = true

/-- Only frames are counted. -/
structure Sends (before after : Node Clock App) (frames : List Event) : Prop
    extends before.Tries after frames where
  counters : after.counters.unsent = before.counters.unsent

namespace Tries

variable {first second third before after : Node Clock App} {frames later : List Event}

theorem refl (node : Node Clock App) : Tries node node [] where
  core := rfl
  app := rfl
  inbox := rfl
  accepts := rfl
  attempted := rfl
  trace := ⟨[], (List.append_nil _).symm, rfl, fun _ none => by cases none⟩

theorem trans (left : Tries first second frames) (right : Tries second third later) :
    Tries first third (frames ++ later) where
  core := right.core.trans left.core
  app := right.app.trans left.app
  inbox := right.inbox.trans left.inbox
  accepts := right.accepts.trans left.accepts
  attempted := by
    rw [right.attempted, left.attempted, List.length_append, Nat.add_assoc]
  trace := by
    obtain ⟨added, grown, tried, sending⟩ := left.trace
    obtain ⟨more, onward, triedLater, alsoSending⟩ := right.trace
    refine ⟨added ++ more, ?_, ?_, ?_⟩
    · rw [onward, grown, List.append_assoc]
    · rw [List.filterMap_append, tried, triedLater]
    · exact List.forall_mem_append.mpr ⟨sending, alsoSending⟩

theorem attempts (tries : Tries before after frames) :
    after.attempts = before.attempts ++ frames := by
  obtain ⟨added, grown, tried, -⟩ := tries.trace
  unfold Node.attempts
  rw [grown, List.filterMap_append, tried]

theorem doings (tries : Tries before after frames) : after.doings = before.doings := by
  obtain ⟨added, grown, -, sending⟩ := tries.trace
  have hidden : (added.filter fun effect => !effect.isSending) = [] := by
    apply List.filter_eq_nil_iff.mpr
    intro effect within
    simp [sending effect within]
  unfold Node.doings
  rw [grown, List.filter_append, hidden, List.append_nil]

end Tries

namespace Sends

variable {first second third : Node Clock App} {frames later : List Event}

theorem refl (node : Node Clock App) : Sends node node [] :=
  ⟨.refl node, rfl⟩

theorem trans (left : Sends first second frames) (right : Sends second third later) :
    Sends first third (frames ++ later) :=
  ⟨left.toTries.trans right.toTries, right.counters.trans left.counters⟩

/-- A short management frame of low priority is tried as it is. -/
theorem send {node : Node Clock App} (low : node.config.priority.toNat < 8) (kind : Management)
    (origin : UInt8) {data : List UInt8} (short : data.length ≤ 8) :
    ∃ event, event.Says kind origin data ∧
      Sends node (node.send Protocol.managementClass kind.typeId origin data) [event] := by
  obtain ⟨event, made, classId, typeId, own, content⟩ := Event.made Protocol.managementClass
    kind.typeId origin node.config.hardCoded low short
  refine ⟨event, ⟨⟨classId, typeId⟩, own, content⟩, ?_⟩
  refine ⟨⟨core_send .., app_send .., inbox_send .., ?_, ?_, ?_⟩, unsent_send ..⟩
  all_goals
    unfold Node.send
    simp only [made]
  · split <;> rfl
  · split <;> rfl
  · split
    · exact ⟨[.frame event _], rfl, rfl, List.forall_mem_singleton.mpr rfl⟩
    · exact ⟨[.frame event _, .logged (.refusedFrame Protocol.managementClass kind.typeId)],
        List.append_assoc .., rfl, by simp [Effect.isSending]⟩

/-- A reply goes out under the nickname of the node. -/
theorem reply {node : Node Clock App} (low : node.config.priority.toNat < 8) (kind : Management)
    {data : List UInt8} (short : data.length ≤ 8) :
    ∃ event, event.Says kind node.nickname data ∧ Sends node (node.reply kind data) [event] :=
  send low kind node.nickname short

/-- A train of replies is tried frame by frame. -/
theorem sendFrames {node : Node Clock App} (low : node.config.priority.toNat < 8)
    (kind : Management) {payloads : List (List UInt8)}
    (short : ∀ payload ∈ payloads, payload.length ≤ 8) :
    ∃ frames, List.Forall₂ (fun frame payload => frame.Says kind node.nickname payload) frames
        payloads ∧
      Sends node (node.sendFrames kind payloads) frames := by
  induction payloads generalizing node with
  | nil => exact ⟨[], .nil, refl node⟩
  | cons payload rest ih =>
      obtain ⟨frame, told, replied⟩ := reply low kind (short payload (by simp))
      have config : (node.reply kind payload).config = node.config :=
        congrArg NodeCore.config replied.core
      have nickname : (node.reply kind payload).nickname = node.nickname :=
        congrArg NodeCore.nickname replied.core
      rw [← config] at low
      obtain ⟨frames, tellings, sent⟩ :=
        ih low fun later within => short later (List.mem_cons_of_mem _ within)
      rw [nickname] at tellings
      exact ⟨frame :: frames, .cons told tellings, replied.trans sent⟩

end Sends

end Node

end Vscp
