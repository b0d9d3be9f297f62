/-
This file proves which events a node ignores and that it does nothing on them.
-/

import Vscp.Proofs.GuidDrop.Table
import Vscp.Proofs.Node.Turn

namespace Vscp

/-- The number of bytes that a command needs after the nickname that it names; other events are no
such commands. -/
def Management.arguments? : Management → Option Nat
  | .newNodeOnline | .dropNickname | .enterBootLoader | .getDmInfo => some 0
  | .setNicknameId | .readRegister | .incrementRegister | .decrementRegister => some 1
  | .writeRegister | .pageRead | .pageWrite => some 2
  | .extendedPageRead => some 3
  | .extendedPageWrite => some 4
  | _ => none

/-- The events that concern an active node whatever nickname they name. -/
def Management.isBroadcast : Management → Bool
  | .segmentControllerHeartbeat | .probeAck | .guidDropNickname | .whoIsThere => true
  | _ => false

namespace Node

variable {Clock App : Type}

/-- Why an active node leaves an event of a known type alone. -/
inductive Declines (node : Node Clock App) (event : Event) : Management → Prop where
  | answer {kind : Management} (directed : kind.isBroadcast = false)
      (answers : kind.arguments? = none) : Declines node event kind
  | unaddressed {kind : Management} (directed : kind.isBroadcast = false)
      (foreign : node.isAddressed event = false) : Declines node event kind
  | short {kind : Management} {needed : Nat} (needs : kind.arguments? = some needed)
      (short : event.data.length ≤ needed) : Declines node event kind
  | outOfRange {new : UInt8} (given : event.byte? 1 = some new)
      (high : Protocol.highestNickname < new) : Declines node event .setNicknameId
  | foreignAck (foreign : event.origin ≠ node.nickname) : Declines node event .probeAck
  | unplaced (unplaced : ∀ index ∈ event.byte? 0, node.sessions.slotFor? event.origin index = none) :
      Declines node event .guidDropNickname
  | unasked (unasked : ∀ target ∈ event.byte? 0,
      target ≠ node.nickname ∧ target ≠ Protocol.unassigned) : Declines node event .whoIsThere

/-- Why a searching node leaves an event of a known type alone. -/
inductive Overlooks (node : Node Clock App) (event : Event) : Management → Prop where
  | other {kind : Management}
      (other : kind ∉ [.setNicknameId, .probeAck, .segmentControllerHeartbeat]) :
      Overlooks node event kind
  | foreignAck (foreign : event.origin ≠ node.discovery.candidate) :
      Overlooks node event .probeAck
  | unassigned (unassigned : ∀ old ∈ event.byte? 0, ∀ new ∈ event.byte? 1,
      node.discovery.isAddressed old = false ∨ Protocol.highestNickname < new) :
      Overlooks node event .setNicknameId

variable [TimerService Clock] [Application App] {node : Node Clock App} {event : Event}
  {kind : Management} {arguments : List UInt8}

/-- A command is refused if bytes are missing or the nickname it gives is out of range. -/
theorem addressedCommand_declined_iff :
    (node.addressedCommand kind arguments).1 = false ↔
      (∀ needed ∈ kind.arguments?, arguments.length < needed) ∨
      (kind = .setNicknameId ∧ ∃ new ∈ arguments.head?, Protocol.highestNickname < new) := by
  unfold addressedCommand
  split
  case h_2 =>
    split <;> simp_all [Management.arguments?]
  case h_14 =>
    refine iff_of_true rfl (.inl fun needed needs => ?_)
    cases kind <;> cases needs <;>
      rcases arguments with _ | ⟨_, _ | ⟨_, _ | ⟨_, _ | ⟨_, _⟩⟩⟩⟩ <;> grind
  all_goals simp [Management.arguments?]

theorem guidDropFrame_declined_iff :
    (node.guidDropFrame event.origin event.data).1 = false ↔
      ∀ index ∈ event.byte? 0, node.sessions.slotFor? event.origin index = none := by
  unfold guidDropFrame Event.byte?
  split
  · rename_i data
    simp [data]
  · rename_i index bytes data
    have unplaced : (∀ number ∈ event.data[0]?, node.sessions.slotFor? event.origin number = none) ↔
        node.sessions.slotFor? event.origin index = none := by
      simp [data]
    rw [unplaced, ← GuidDropSessions.refused_iff bytes node.guid]
    dsimp only
    split <;> simp [*]

theorem activeCommand_of_directed (directed : kind.isBroadcast = false) :
    node.activeCommand kind event =
      if node.isAddressed event then node.addressedCommand kind event.data.tail
      else (false, node) := by
  cases kind <;> first | rfl | cases directed

theorem declines_of_directed (directed : kind.isBroadcast = false) :
    (node.activeCommand kind event).1 = false ↔ node.Declines event kind := by
  rw [activeCommand_of_directed directed]
  cases addressed : node.isAddressed event with
  | false => exact iff_of_true rfl (.unaddressed directed addressed)
  | true =>
      have given : 0 < event.data.length := by
        refine List.length_pos_iff.mpr fun empty => ?_
        simp [isAddressed, empty] at addressed
      have second : event.data.tail.head? = event.byte? 1 := List.head?_tail
      rw [if_pos rfl, addressedCommand_declined_iff, second, List.length_tail]
      constructor
      · rintro (short | ⟨rfl, new, named, high⟩)
        · cases needs : kind.arguments? with
          | none => exact .answer directed needs
          | some needed => exact .short needs (Nat.le_of_pred_lt (short needed needs))
        · exact .outOfRange named high
      · intro declined
        cases declined with
        | answer _ answers => exact .inl (by simp [answers])
        | unaddressed _ foreign => cases addressed.symm.trans foreign
        | short needs few =>
            refine .inl fun needed also => ?_
            cases needs.symm.trans also
            exact Nat.lt_of_lt_of_le (Nat.sub_one_lt_of_lt given) few
        | outOfRange named high => exact .inr ⟨rfl, _, named, high⟩
        | _ => cases directed

/-- An active node declines an event exactly for one of the causes. -/
theorem activeCommand_declined_iff :
    (node.activeCommand kind event).1 = false ↔ node.Declines event kind := by
  cases directed : kind.isBroadcast with
  | false => exact declines_of_directed directed
  | true =>
      cases kind with
      | segmentControllerHeartbeat =>
          refine iff_of_false (by simp [activeCommand]) fun declined => ?_
          cases declined <;> contradiction
      | probeAck =>
          have foreign : (node.activeCommand .probeAck event).1 = false ↔
              event.origin ≠ node.nickname := by
            simp [activeCommand, apply_ite Prod.fst]
          rw [foreign]
          refine ⟨.foreignAck, fun declined => ?_⟩
          cases declined <;> first | assumption | contradiction
      | guidDropNickname =>
          refine guidDropFrame_declined_iff.trans ⟨.unplaced, fun declined => ?_⟩
          cases declined <;> first | assumption | contradiction
      | whoIsThere =>
          have unasked : (node.activeCommand .whoIsThere event).1 = false ↔
              ∀ target ∈ event.byte? 0, target ≠ node.nickname ∧ target ≠ Protocol.unassigned := by
            rw [Event.byte?, ← List.head?_eq_getElem?]
            cases first : event.data.head? <;> simp [activeCommand, first, apply_ite Prod.fst]
          rw [unasked]
          refine ⟨.unasked, fun declined => ?_⟩
          cases declined <;> first | assumption | contradiction
      | _ => cases directed

/-- A searching node overlooks an event exactly for one of the causes. -/
theorem discoveryCommand_declined_iff :
    (node.discoveryCommand kind event).1 = false ↔ node.Overlooks event kind := by
  cases kind with
  | setNicknameId =>
      have unassigned : (node.discoveryCommand .setNicknameId event).1 = false ↔
          ∀ old ∈ event.byte? 0, ∀ new ∈ event.byte? 1,
            node.discovery.isAddressed old = false ∨ Protocol.highestNickname < new := by
        unfold Event.byte?
        rcases data : event.data with _ | ⟨old, _ | ⟨new, rest⟩⟩
        · simp [discoveryCommand, data]
        · simp [discoveryCommand, data]
        · cases own : node.discovery.isAddressed old <;>
            simp [discoveryCommand, data, own, apply_ite Prod.fst]
      rw [unassigned]
      refine ⟨.unassigned, fun overlooked => ?_⟩
      cases overlooked with
      | other other => exact absurd (by decide) other
      | unassigned unassigned => exact unassigned
  | probeAck =>
      have foreign : (node.discoveryCommand .probeAck event).1 = false ↔
          event.origin ≠ node.discovery.candidate := by
        by_cases own : event.origin = node.discovery.candidate
        · refine iff_of_false ?_ (not_not_intro own)
          simp only [discoveryCommand, if_pos own]
          split <;> simp
        · exact iff_of_true (by simp [discoveryCommand, own]) own
      rw [foreign]
      refine ⟨.foreignAck, fun overlooked => ?_⟩
      cases overlooked with
      | other other => exact absurd (by decide) other
      | foreignAck foreign => exact foreign
  | segmentControllerHeartbeat =>
      refine iff_of_false (by simp [discoveryCommand]) fun overlooked => ?_
      cases overlooked with
      | other other => exact absurd (by decide) other
  | _ => exact iff_of_true rfl (.other (by decide))

theorem handleManagement_ignored_iff :
    (node.handleManagement event).1 = .ignored ↔
      ∀ kind : Management, event.typeId = kind.typeId → node.Declines event kind := by
  rcases node.handleManagement_cases event with ⟨unknown, answer⟩ | ⟨kind, known, answered⟩
  · rw [answer]
    refine iff_of_true rfl fun kind typeId => ?_
    cases unknown.symm.trans (Management.ofTypeId?_eq_some_iff.mpr typeId)
  · have only (other : Management) : event.typeId = other.typeId ↔ kind = other := by
      rw [← Management.ofTypeId?_eq_some_iff, known, Option.some_inj]
    simp only [only, forall_eq', ← activeCommand_declined_iff]
    rcases answered with ⟨handled, acted, answer⟩ | ⟨declined, answer⟩
    · rw [acted, answer]
      simp
    · rw [declined, answer]
      exact iff_of_true rfl rfl

theorem handleDiscovery_ignored_iff :
    (node.handleDiscovery event).1 = .ignored ↔
      ∀ kind : Management, event.Manages kind → node.Overlooks event kind := by
  simp only [← discoveryCommand_declined_iff]
  rcases node.handleDiscovery_cases event with
    ⟨kind, handled, command, acted, answer⟩ | ⟨declined, answer⟩
  · rw [answer]
    refine iff_of_false (by simp) fun overlooked => ?_
    cases (congrArg Prod.fst acted).symm.trans (overlooked kind command)
  · rw [answer]
    exact iff_of_true rfl fun kind command => congrArg Prod.fst (declined kind command)

/-- Every command of an active node that ends unhandled has left the node as it was, so that the
count of the event is all that moves. -/
theorem handleManagement_of_ignored (ignored : (node.handleManagement event).1 = .ignored) :
    ∃ protocolEvents, (node.handleManagement event).2 =
      { node with counters := { node.counters with protocolEvents } } := by
  rcases node.handleManagement_cases event with
    ⟨-, answer⟩ | ⟨kind, -, ⟨handled, -, answer⟩ | ⟨-, answer⟩⟩
  · rw [answer]
    exact ⟨node.counters.protocolEvents, rfl⟩
  · rw [answer] at ignored
    cases ignored
  · rw [answer]
    exact ⟨_, rfl⟩

theorem handleDiscovery_of_ignored (ignored : (node.handleDiscovery event).1 = .ignored) :
    (node.handleDiscovery event).2 = node := by
  rcases node.handleDiscovery_cases event with ⟨kind, handled, -, -, answer⟩ | ⟨-, answer⟩
  · rw [answer] at ignored
    cases ignored
  · rw [answer]

/-- An event that only concerns the node that it names is ignored by every other node. -/
theorem ignored_of_foreign (directed : ∀ kind : Management, event.typeId = kind.typeId →
    kind.isBroadcast = false) (foreign : event.byte? 0 ≠ some node.nickname) :
    (node.handleManagement event).1 = .ignored := by
  refine handleManagement_ignored_iff.mpr fun kind known => .unaddressed (directed kind known) ?_
  rw [Event.byte?, ← List.head?_eq_getElem?] at foreign
  simp [isAddressed, foreign]

/-- On an event that it ignores a node does nothing but count it, since a command that declines an
event, of whatever kind, leaves the node that it was working on as it found it. An active node
ignores the events that it declines and a searching node those that it overlooks; among them are the
frames for which the table of sessions has no slot, which it leaves as it is, and the events that
concern another node. -/
theorem ignored_events_change_nothing (node : Node Clock App) (event : Event) :
    ((node.handleManagement event).1 = .ignored →
      ∃ protocolEvents, (node.handleManagement event).2 =
        { node with counters := { node.counters with protocolEvents } }) ∧
    ((node.handleDiscovery event).1 = .ignored → (node.handleDiscovery event).2 = node) ∧
    ((node.handleManagement event).1 = .ignored ↔
      ∀ kind : Management, event.typeId = kind.typeId → node.Declines event kind) ∧
    ((node.handleDiscovery event).1 = .ignored ↔
      ∀ kind : Management, event.Manages kind → node.Overlooks event kind) ∧
    (∀ index bytes, node.sessions.slotFor? event.origin index = none →
      node.sessions.accept event.origin index bytes node.guid = (.dropped none, node.sessions)) ∧
    ((∀ kind ∈ [Management.segmentControllerHeartbeat, .probeAck, .guidDropNickname, .whoIsThere],
        event.typeId ≠ kind.typeId) →
      event.byte? 0 ≠ some node.nickname → (node.handleManagement event).1 = .ignored) ∧
    (∀ kind after, node.activeCommand kind event = (false, after) → after = node) ∧
    (∀ kind after, node.discoveryCommand kind event = (false, after) → after = node) := by
  refine ⟨handleManagement_of_ignored, handleDiscovery_of_ignored, handleManagement_ignored_iff,
    handleDiscovery_ignored_iff, fun index bytes foreign => ?_, fun other foreign => ?_,
    fun _ _ => activeCommand_of_declined, fun _ _ => discoveryCommand_of_declined⟩
  · exact GuidDropSessions.verdict_iff.mp (.refused foreign)
  · refine ignored_of_foreign (fun kind known => ?_) foreign
    cases kind <;> first | rfl | exact absurd known (other _ (by decide))

end Node

end Vscp
