/-
This file proves that the identity of a node never changes, and its nickname and the check sum of
its segment only for certain causes.
-/

import Vscp.Proofs.Node.Change

namespace Vscp

namespace NodeCore

variable {Clock : Type} [TimerService Clock]

@[simp] theorem store_startHeartbeat (core : NodeCore Clock) :
    core.startHeartbeat.store = core.store := by
  unfold startHeartbeat
  split <;> rfl

@[simp] theorem store_reset (core : NodeCore Clock) : core.reset.store = core.store := by
  unfold reset
  split <;> rfl

end NodeCore

/-- The management events that may give a node a nickname, take it away or report a segment. -/
def Management.naming : List Management :=
  [segmentControllerHeartbeat, probeAck, setNicknameId, dropNickname, guidDropNickname]

namespace Node

open NodeCore

variable {Clock App : Type} [TimerService Clock] [Application App]

/-- The causes for which a call of the host changes a byte of the identity, with the address of the
byte and its new value. -/
inductive Rewrite (node : Node Clock App) (call : HostCall) : Nat → UInt8 → Prop where
  | reported {event : Event} {ready : Node Clock App} (takes : node.Takes call event ready)
      (awake : node.lifecycle = .nicknameDiscovery ∨ node.lifecycle = .active)
      (command : event.Manages .segmentControllerHeartbeat) {crc : UInt8} {rest : List UInt8}
      (data : event.data = crc :: rest) : Rewrite node call Layout.segmentCrc crc
  | assigned {event : Event} {ready : Node Clock App} (takes : node.Takes call event ready)
      (searching : node.lifecycle = .nicknameDiscovery) (command : event.Manages .setNicknameId)
      {old new : UInt8} {rest : List UInt8} (data : event.data = old :: new :: rest)
      (addressed : old = Protocol.unassigned ∨ old = ready.discovery.candidate)
      (valid : new ≤ Protocol.highestNickname) : Rewrite node call Layout.nickname new
  | renamed {event : Event} {ready : Node Clock App} (takes : node.Takes call event ready)
      (active : node.lifecycle = .active) (command : event.Manages .setNicknameId)
      {new : UInt8} {rest : List UInt8} (addressed : ready.core.Addressed event (new :: rest))
      (valid : new ≤ Protocol.highestNickname) : Rewrite node call Layout.nickname new
  | moved {event : Event} {ready : Node Clock App} (takes : node.Takes call event ready)
      (active : node.lifecycle = .active) (command : event.Manages .segmentControllerHeartbeat)
      {crc : UInt8} {rest : List UInt8} (data : event.data = crc :: rest)
      (other : crc ≠ ready.segmentCrc) :
      Rewrite node call Layout.nickname Protocol.unassigned
  | collided {event : Event} {ready : Node Clock App} (takes : node.Takes call event ready)
      (active : node.lifecycle = .active) (command : event.Manages .probeAck)
      (own : event.origin = ready.nickname) :
      Rewrite node call Layout.nickname Protocol.unassigned
  | dropped {event : Event} {ready : Node Clock App} (takes : node.Takes call event ready)
      (active : node.lifecycle = .active) (command : event.Manages .dropNickname)
      {arguments : List UInt8} (addressed : ready.core.Addressed event arguments)
      (gone : (DropRequest.ofBytes (arguments.getD 0 0) (arguments.getD 1 0)).keepNickname =
        false)
      (atOnce : (DropRequest.ofBytes (arguments.getD 0 0) (arguments.getD 1 0)).delayed = false) :
      Rewrite node call Layout.nickname Protocol.unassigned
  | droppedLate {found : Node Clock App} (processing : node.processing? call = some found)
      (active : node.lifecycle = .active) (expired : (found.takeExpired .general).1 = true)
      (pending : node.resetPending = true) (gone : node.clearNickname = true) :
      Rewrite node call Layout.nickname Protocol.unassigned
  | guidDropped {event : Event} {ready : Node Clock App} (takes : node.Takes call event ready)
      (active : node.lifecycle = .active) (command : event.Manages .guidDropNickname)
      {index : UInt8} {bytes : List UInt8} (data : event.data = index :: bytes)
      {slot : SessionSlot}
      (completed : (ready.sessions.accept event.origin index bytes ready.guid).1 =
        .complete slot) :
      Rewrite node call Layout.nickname Protocol.unassigned

/-- The byte at an address is the one that the node has, or it has a cause. -/
def Explained (node : Node Clock App) (call : HostCall) (store : Store) (address : Nat) : Prop :=
  store.read address = node.store.read address ∨ node.Rewrite call address (store.read address)

variable {node ready : Node Clock App} {call : HostCall} {event : Event} {address : Nat}

theorem Explained.of_same {store : Store} (same : store = node.store) :
    node.Explained call store address :=
  .inl (congrArg (·.read address) same)

theorem Explained.write {store : Store} (explained : node.Explained call store address)
    {place : Nat} {value : UInt8} (cause : node.Rewrite call place value) :
    node.Explained call (store.write place value) address := by
  unfold Explained
  rcases store.read_write_cases place value address with same | ⟨rfl, written⟩
  · rwa [same]
  · rw [written]
    exact .inr cause

theorem explained_of_activeStep (own : Layout.IsIdentity address)
    (takes : node.Takes call event ready) (active : node.lifecycle = .active) {kind : Management}
    (command : event.Manages kind) {after : NodeCore Clock}
    (step : ActiveStep ready.core event kind after) : node.Explained call after.store address := by
  have kept : node.Explained call ready.core.store address := .of_same takes.elapsed.store
  cases step with
  | accessed access =>
      rw [Explained, access.identity address own]
      exact kept
  | timed data same => exact kept
  | moved data other =>
      exact (kept.write (.reported takes (.inr active) command data)).write
        (.moved takes active command data other)
  | collided own => exact kept.write (.collided takes active command own)
  | renamed addressed valid => exact kept.write (.renamed takes active command addressed valid)
  | @parked arguments request addressed decoded idle =>
      change node.Explained call (ready.core.withdraw request).store address
      unfold withdraw
      split
      · exact kept
      · rename_i gone
        subst decoded
        refine kept.write (.dropped takes active command addressed ?_ ?_)
        · exact Bool.eq_false_iff.mpr gone
        · rw [DropRequest.delayed, idle]
          rfl
  | @dropped arguments request addressed decoded stays atOnce =>
      rw [store_reset]
      unfold withdraw
      split
      · exact kept
      · rename_i gone
        subst decoded
        exact kept.write (.dropped takes active command addressed (Bool.eq_false_iff.mpr gone)
          atOnce)
  | delayed addressed decoded later => exact kept
  | handedOver addressed present own identified => exact kept
  | progressed data accepted => exact kept
  | completed data accepted =>
      rw [store_reset]
      exact kept.write (.guidDropped takes active command data (congrArg Prod.fst accepted))
  | discarded data accepted => exact kept

theorem explained_of_searchStep (takes : node.Takes call event ready)
    (searching : node.lifecycle = .nicknameDiscovery) {kind : Management}
    (command : event.Manages kind) {after : NodeCore Clock}
    (step : SearchStep ready.core event kind after) : node.Explained call after.store address := by
  have kept : node.Explained call ready.core.store address := .of_same takes.elapsed.store
  cases step with
  | assigned data addressed valid =>
      simp only [Discovery.isAddressed, Bool.or_eq_true, beq_iff_eq] at addressed
      change node.Explained call (NodeCore.startHeartbeat _).store address
      rw [store_startHeartbeat]
      exact kept.write (.assigned takes searching command data addressed valid)
  | awaited own outcome => exact kept
  | probed own outcome => exact kept
  | gaveUp own outcome => exact kept
  | silent data => exact kept
  | timed data =>
      split
      · exact kept
      · exact kept.write (.reported takes (.inl searching) command data)

/-- Every byte of the identity stays or has a cause for its change. -/
theorem Turn.explained (own : Layout.IsIdentity address) (parked : node.core.Parked)
    {after : NodeCore Clock} (turn : Turn node call after) :
    node.Explained call after.store address := by
  cases turn with
  | accessed access => exact .inl (access.identity address own)
  | judged engine => exact .of_same rfl
  | ticked elapsed => exact .of_same rfl
  | restarted asked sound => exact .of_same rfl
  | reset asked => exact .of_same (store_reset _)
  | inert processing inert => exact .of_same (elapsed_processing processing).store
  | searched processing starting missing =>
      have waited := elapsed_processing processing
      exact .of_same waited.store
  | activated processing starting named =>
      have waited := elapsed_processing processing
      exact .of_same ((store_startHeartbeat _).trans waited.store)
  | @served found processing running =>
      have waited := elapsed_processing processing
      have kept : node.Explained call found.core.store address := .of_same waited.store
      by_cases due : found.core.ResetDue
      · rw [(elapsed_of_resetDue due).store, store_reset]
        unfold forget
        split
        · rename_i gone
          obtain ⟨active, expired, pending⟩ := late_of_resetDue processing running parked due
          exact kept.write (.droppedLate processing active expired pending
            (waited.clearNickname.symm.trans gone))
        · exact kept
      · rw [(elapsed_of_early due).store]
        exact kept
  | took takes reaction =>
      have waited := takes.elapsed
      cases reaction with
      | ignored => exact .of_same waited.store
      | judged active foreign engine event? => exact .of_same waited.store
      | managed active command step =>
          exact explained_of_activeStep own takes (waited.lifecycle.symm.trans active) command step
      | searched searching command step =>
          exact explained_of_searchStep takes (waited.lifecycle.symm.trans searching) command step

/-- Only the nickname and the check sum of the segment have causes. -/
theorem Rewrite.place {value : UInt8} (cause : node.Rewrite call address value) :
    address = Layout.nickname ∨ address = Layout.segmentCrc := by
  cases cause with
  | reported => exact .inr rfl
  | assigned | renamed | moved | collided | dropped | droppedLate | guidDropped => exact .inl rfl

/-- A cause is an event about names and segments, or the end of a delay. -/
theorem Rewrite.source {value : UInt8} (cause : node.Rewrite call address value) :
    (∃ event ready kind, node.Takes call event ready ∧ event.Manages kind ∧
      kind ∈ Management.naming) ∨
    ∃ found, node.processing? call = some found ∧ found.core.ResetDue := by
  cases cause with
  | reported takes awake command data => exact .inl ⟨_, _, _, takes, command, by decide⟩
  | assigned takes searching command data addressed valid =>
      exact .inl ⟨_, _, _, takes, command, by decide⟩
  | renamed takes active command addressed valid =>
      exact .inl ⟨_, _, _, takes, command, by decide⟩
  | moved takes active command data other => exact .inl ⟨_, _, _, takes, command, by decide⟩
  | collided takes active command own => exact .inl ⟨_, _, _, takes, command, by decide⟩
  | dropped takes active command addressed gone atOnce =>
      exact .inl ⟨_, _, _, takes, command, by decide⟩
  | guidDropped takes active command data completed =>
      exact .inl ⟨_, _, _, takes, command, by decide⟩
  | @droppedLate found processing active expired pending gone =>
      exact .inr ⟨found, processing, resetDue_of_late processing active expired pending⟩

/-- Without a cause every byte of the identity stays. -/
theorem read_serve (own : Layout.IsIdentity address) (parked : node.core.Parked)
    (groundless : ¬node.Rewrite call address ((node.serve call).2.store.read address)) :
    (node.serve call).2.store.read address = node.store.read address :=
  ((node.turn_serve call).explained own parked).resolve_right groundless

theorem guid_serve (parked : node.core.Parked) (call : HostCall) :
    (node.serve call).2.guid = node.guid := by
  have short : Layout.guid + Layout.guidLength ≤ Store.addresses := by decide
  rw [guid, guid, Store.readMany_of_short _ short, Store.readMany_of_short _ short]
  refine List.map_congr_left fun address within => ?_
  have bound : address < 0 + 16 := (List.mem_range'_1.mp within).2
  refine read_serve (.inl ?_) parked fun cause => ?_
  · unfold Layout.nickname
    omega
  · rcases cause.place with nickname | segment
    · unfold Layout.nickname at nickname
      omega
    · unfold Layout.segmentCrc at segment
      omega

theorem parked_serveAll (start : node.core.Parked) (calls : List HostCall) :
    (serveAll calls node).2.core.Parked := by
  rw [← undergoAll_calls]
  exact parked_undergoAll start _

theorem guid_serveAll (start : node.core.Parked) (calls : List HostCall) :
    (serveAll calls node).2.guid = node.guid := by
  induction calls using List.reverseRecOn with
  | nil => rfl
  | append_singleton calls call ih =>
      rw [serveAll_concat, guid_serve (parked_serveAll start calls), ih]

/-- After any calls of the host the identity is the one that the node was built with. A further
call changes the nickname or the check sum of the segment only for one of the causes, of which a
late withdrawal was asked for by a request that the general timer has waited for since. A call that
does not process, or that takes an event of another kind, changes none of these bytes. -/
theorem identity_changes_for_causes {config : Config} {store : Store} {transport : Transport}
    {clock : Clock} {app : App} {node : Node Clock App}
    (built : build config store transport clock app = .ok node) (calls : List HostCall)
    (call : HostCall) :
    let before := (serveAll calls node).2
    let after := (before.serve call).2
    after.guid = node.guid ∧
    (after.segmentCrc ≠ before.segmentCrc →
      before.Rewrite call Layout.segmentCrc after.segmentCrc) ∧
    (after.nickname ≠ before.nickname → before.Rewrite call Layout.nickname after.nickname) ∧
    (before.lifecycle = .active → before.isArmed .general = true → before.resetPending = true →
      ∃ earlier drop later request, calls = earlier ++ drop :: later ∧
        (serveAll earlier node).2.PutsOff drop request ∧
        before.clearNickname = !request.keepNickname ∧
        ∀ middle, middle <+: later →
          (serveAll (earlier ++ drop :: middle) node).2.core.Waiting) ∧
    (before.processing? call = none ∨ (∃ event ready, before.Takes call event ready ∧
        ∀ kind, event.Manages kind → kind ∉ Management.naming) →
      ∀ address, Layout.IsIdentity address →
        after.store.read address = before.store.read address) := by
  intro before after
  have fresh := fresh_build built
  have parked : before.core.Parked := parked_serveAll fresh.parked calls
  refine ⟨?_, fun changed => ?_, fun changed => ?_, fun active armed owed => ?_, ?_⟩
  · exact (guid_serve parked call).trans (guid_serveAll fresh.parked calls)
  · exact ((before.turn_serve call).explained (.inr rfl) parked).resolve_left changed
  · exact ((before.turn_serve call).explained (.inl (Nat.le_refl _)) parked).resolve_left changed
  · exact asked_of_calls fresh.settled owed ⟨armed, .inl active⟩
  · rintro foreign address own
    refine read_serve own parked fun cause => ?_
    rcases cause.source with ⟨event, ready, kind, takes, command, naming⟩ |
      ⟨found, processing, due⟩
    · obtain ⟨found, processing, -⟩ := takes.found
      rcases foreign with idle | ⟨other, waiting, taken, foreign⟩
      · exact absurd (idle.symm.trans processing) (by simp)
      · exact foreign kind (takes.unique taken ▸ command) naming
    · rcases foreign with idle | ⟨other, waiting, taken, -⟩
      · exact absurd (idle.symm.trans processing) (by simp)
      · obtain ⟨same, also, -, early, -⟩ := taken.found
        cases processing.symm.trans also
        exact early due

def assignment : Event :=
  { Event.new 0 6 0 with data := [0xFF, 0x21], dataWithin := by decide }

/-- A node without nickname is given one while it searches. -/
def namingCalls : List HostCall :=
  [.process, .receive assignment]

theorem given_nickname_has_cause :
    ∃ node, build {} (Store.erased 256) .open (SoftTimers.empty 4) SilentApplication.mk =
        .ok node ∧
      (serveAll namingCalls node).2.Rewrite .process Layout.nickname 0x21 := by
  have built : build {} (Store.erased 256) .open (SoftTimers.empty 4) SilentApplication.mk =
      .ok _ := rfl
  obtain ⟨-, -, named, -⟩ := identity_changes_for_causes built namingCalls .process
  refine ⟨_, built, ?_⟩
  exact cast (congrArg (Rewrite _ _ _) (by decide +kernel)) (named (by decide +kernel))

end Node

end Vscp
