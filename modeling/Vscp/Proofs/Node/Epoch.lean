/-
This file proves what a heartbeat of the segment makes of the time and the check sum that a node
keeps.
-/

import Vscp.Proofs.Node.Run

namespace Vscp

/-- The time that a heartbeat of the segment reports in the four bytes behind the check sum. -/
def Event.reportedTime (event : Event) : Nat :=
  Bytes.value ((event.data.drop 1).take 4)

namespace NodeCore

variable {Clock : Type} (core : NodeCore Clock) (crc : UInt8)

/-- The check sum that is stored stays when the node loses its nickname and searches for another. -/
theorem segmentCrc_search [TimerService Clock] (room : Layout.segmentCrc < core.store.size) :
    (((core.writeStore Layout.segmentCrc crc).setNickname
      Protocol.unassigned).startDiscovery).segmentCrc = crc :=
  calc
    _ = (core.store.write Layout.segmentCrc crc).read Layout.segmentCrc :=
      Store.read_write_other _ (by decide) _
    _ = crc := Store.read_write_self room crc

theorem segmentCrc_takeTime (data : List UInt8) (room : Layout.segmentCrc < core.store.size) :
    ((if crc = core.segmentCrc then core
      else core.writeStore Layout.segmentCrc crc).takeTime data).segmentCrc = crc := by
  split
  · rename_i same
    exact same.symm
  · exact Store.read_write_self room crc

end NodeCore

namespace Node

variable {Clock App : Type} [TimerService Clock] [Application App]

section Heartbeats

variable (node : Node Clock App) (crc : UInt8) (rest : List UInt8) (restartsOnChange : Bool)

theorem timeSinceEpoch_segmentHeartbeat :
    (node.segmentHeartbeat (crc :: rest) restartsOnChange).timeSinceEpoch =
      if crc ≠ node.segmentCrc ∧ restartsOnChange = true then node.timeSinceEpoch
      else (Bytes.field? 4 (crc :: rest) 1).getD node.timeSinceEpoch := by
  refine (congrArg NodeCore.timeSinceEpoch (node.core_segmentHeartbeat crc rest _)).trans ?_
  change _ = if crc ≠ node.core.segmentCrc ∧ restartsOnChange = true then _ else _
  split
  · rfl
  · split <;> rfl

theorem segmentCrc_segmentHeartbeat (room : Layout.segmentCrc < node.store.size) :
    (node.segmentHeartbeat (crc :: rest) restartsOnChange).segmentCrc = crc := by
  refine (congrArg NodeCore.segmentCrc (node.core_segmentHeartbeat crc rest _)).trans ?_
  split
  · exact node.core.segmentCrc_search crc room
  · exact node.core.segmentCrc_takeTime crc _ room

end Heartbeats

/-- An active node that hears another check sum than its own has been moved to another segment. -/
def Moved (node : Node Clock App) (event : Event) : Prop :=
  node.lifecycle = .active ∧ event.data.head? ≠ some node.segmentCrc

instance (node : Node Clock App) (event : Event) : Decidable (node.Moved event) :=
  inferInstanceAs (Decidable (_ ∧ _))

section Listening

variable {node ready : Node Clock App} {call : HostCall} {event : Event}

/-- Active and searching nodes serve a heartbeat alike, but only an active one starts over. -/
theorem Takes.serve_heartbeat (takes : node.Takes call event ready)
    (command : event.Manages .segmentControllerHeartbeat)
    (listening : node.lifecycle = .active ∨ node.lifecycle = .nicknameDiscovery) :
    ∃ heard : Node Clock App, heard.core = ready.core ∧
      (node.serve call).2 =
        (heard.segmentHeartbeat event.data (node.lifecycle = .active)).countManagement := by
  have same : ready.lifecycle = node.lifecycle := takes.elapsed.lifecycle
  rcases listening with active | searching
  · obtain ⟨rest, -, served⟩ := takes.serve_active (same.trans active) command
    exact ⟨ready.hear rest, rfl, by simpa [active, activeCommand] using served⟩
  · obtain ⟨rest, -, served⟩ := takes.serve_searching (same.trans searching) command
    exact ⟨ready.hear rest, rfl, by simpa [searching, discoveryCommand] using served⟩

/-- A node that is active or searches keeps the check sum of every heartbeat of the segment. It
keeps the time as well if the heartbeat reports one, unless the node has been moved. -/
theorem segment_heartbeats_set_time (takes : node.Takes call event ready)
    (command : event.Manages .segmentControllerHeartbeat)
    (listening : node.lifecycle = .active ∨ node.lifecycle = .nicknameDiscovery) :
    let after := (node.serve call).2
    (5 ≤ event.data.length → after.timeSinceEpoch =
      if node.Moved event then node.timeSinceEpoch else event.reportedTime) ∧
    (event.data.length < 5 → after.timeSinceEpoch = node.timeSinceEpoch) ∧
    ∀ crc ∈ event.data.head?, Layout.segmentCrc < node.store.size → after.segmentCrc = crc := by
  intro after
  obtain ⟨heard, same, served⟩ := takes.serve_heartbeat command listening
  have waited := takes.elapsed
  have store : heard.store = node.store := (congrArg NodeCore.store same).trans waited.store
  have crc : heard.segmentCrc = node.segmentCrc := congrArg (·.read Layout.segmentCrc) store
  have time : heard.timeSinceEpoch = node.timeSinceEpoch :=
    (congrArg NodeCore.timeSinceEpoch same).trans (congrArg NodeCore.timeSinceEpoch waited.others)
  have kept : after.timeSinceEpoch =
      (heard.segmentHeartbeat event.data (node.lifecycle = .active)).timeSinceEpoch :=
    (congrArg Node.timeSinceEpoch served :)
  cases data : event.data with
  | nil =>
      rw [data] at kept
      exact ⟨by simp, fun _ => kept.trans time, by simp⟩
  | cons first rest =>
      rw [data, timeSinceEpoch_segmentHeartbeat, crc, time] at kept
      have moved : node.Moved event ↔
          first ≠ node.segmentCrc ∧ decide (node.lifecycle = .active) = true := by
        simp [Moved, data, and_comm]
      refine ⟨fun long => ?_, fun short => ?_, ?_⟩
      · have reported : Bytes.field? 4 (first :: rest) 1 = some event.reportedTime := by
          rw [Event.reportedTime, data]
          exact if_pos long
        simp only [kept, reported, moved, Option.getD_some]
      · have missing : Bytes.field? 4 (first :: rest) 1 = none := if_neg (Nat.not_le.mpr short)
        rw [kept, missing]
        exact ite_self _
      · intro crc given room
        obtain rfl : first = crc := Option.some.inj given
        refine (congrArg Node.segmentCrc served).trans ?_
        rw [data]
        exact heard.segmentCrc_segmentHeartbeat first rest _ (store ▸ room)

end Listening

/-- A nickname, and the check sum 0xFF. -/
def settledStore : Store :=
  (Store.erased 64).write Layout.nickname 0x10

def settledNode : Node SoftTimers SilentApplication :=
  (build {} settledStore .open (SoftTimers.empty 4) SilentApplication.mk).toOption.get rfl

def segmentHeartbeatEvent (crc : UInt8) : Event :=
  { Event.new 0 1 0 with data := [crc, 0x12, 0x34, 0x56, 0x78], dataWithin := by simp }

def settledActs (crc : UInt8) : List (HostAct SoftTimers SilentApplication) :=
  [.call .process, .call (.receive (segmentHeartbeatEvent crc))]

/-- A heartbeat with the check sum of the segment tells the node the time. -/
theorem settled_node_takes_time :
    ∃ ready, (undergoAll (settledActs 0xFF) settledNode).Takes .process
        (segmentHeartbeatEvent 0xFF) ready ∧
      ((undergoAll (settledActs 0xFF) settledNode).serve .process).2.timeSinceEpoch =
        0x12345678 := by
  have takes : (undergoAll (settledActs 0xFF) settledNode).Takes .process
      (segmentHeartbeatEvent 0xFF) (undergoAll (settledActs 0xFF) settledNode).serviceTimers :=
    ⟨rfl, .inr (.inl (by decide +kernel)), by decide +kernel⟩
  obtain ⟨long, -, -⟩ :=
    segment_heartbeats_set_time takes ⟨rfl, rfl⟩ (.inl (by decide +kernel))
  refine ⟨_, takes, (long (by decide)).trans ?_⟩
  decide +kernel

/-- A node that has been moved to another segment goes on with the time of the old one. -/
theorem moved_node_keeps_old_time :
    ¬∀ (config : Config) (store : Store) (transport : Transport) (clock : SoftTimers)
      (app : SilentApplication) (node ready : Node SoftTimers SilentApplication)
      (acts : List (HostAct SoftTimers SilentApplication)) (call : HostCall) (event : Event),
      build config store transport clock app = .ok node →
        (undergoAll acts node).Takes call event ready →
        event.Manages .segmentControllerHeartbeat →
        ((undergoAll acts node).lifecycle = .active ∨
          (undergoAll acts node).lifecycle = .nicknameDiscovery) →
        5 ≤ event.data.length →
        ((undergoAll acts node).serve call).2.timeSinceEpoch = event.reportedTime := by
  intro refreshed
  have built : build {} settledStore .open (SoftTimers.empty 4) SilentApplication.mk =
      .ok settledNode := rfl
  have taken := refreshed _ _ _ _ _ _ _ (settledActs 0x21) .process
    (segmentHeartbeatEvent 0x21) built ⟨rfl, .inr (.inl (by decide +kernel)), by decide +kernel⟩
    ⟨rfl, rfl⟩ (.inl (by decide +kernel)) (by decide)
  exact absurd taken (by decide +kernel)

end Node

end Vscp
