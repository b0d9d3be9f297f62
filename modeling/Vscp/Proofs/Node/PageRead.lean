/-
This file proves that the frames in which a node reports a run of registers can be put together to
what reading the registers one by one answers.
-/

import Vscp.Proofs.Node.Sending
import Vscp.Proofs.Node.Settings

namespace Vscp

/-- The frames carry the values in order. Each carries its number, a head that goes with it, and as
many values as fit, the last one at least one. -/
structure Conveys (frames : List Event) (kind : Management) (origin : UInt8) (width : Nat)
    (head : Nat → List UInt8) (values : List UInt8) : Prop where
  count : frames.length = (values.length + width - 1) / width
  numbered : frames.length ≤ 256
  carried : ∃ pieces, Page.Cut width values pieces ∧
    List.Forall₂ (fun frame (place : List UInt8 × Nat) =>
      frame.Says kind origin (UInt8.ofNat place.2 :: head place.2 ++ place.1)) frames pieces.zipIdx

/-- The counters when a command has been received and carried out. -/
def Counters.commanded (counters : Counters) : Counters :=
  { counters with
    rxEvents := increased counters.rxEvents 1
    protocolEvents := increased counters.protocolEvents 1 }

/-- The settings hold an address that fits its registers, so only zeros follow it. -/
theorem Config.mdfBytes_of_check {config : Config} (checked : config.check = .ok ()) :
    let url := config.mdfUrl.toUTF8.data.toList
    config.mdfBytes = url ++ List.replicate (32 - url.length) 0 := by
  have fits : config.mdfUrl.toUTF8.data.toList.length ≤ urlLength := by
    unfold check at checked
    split at checked
    · cases checked
    · rename_i short
      exact Nat.not_lt.mp short
  unfold mdfBytes
  rw [List.take_of_length_le fits]
  rfl

theorem Config.length_mdfBytes (config : Config) : config.mdfBytes.length = 32 := by
  unfold mdfBytes
  rw [List.length_rightpad, List.length_take]
  change max 32 (min 32 _) = 32
  omega

namespace Node

variable {Clock App : Type}

/-- From the one node to the other a command was received, these frames were tried as replies, and
nothing else happened. -/
structure Replies (before after : Node Clock App) (frames : List Event) : Prop
    extends before.Tries after frames where
  counters : after.counters.unsent = before.counters.unsent.commanded

/-- The frames of a run within a page convey it. -/
theorem conveys_sendFrames {node : Node Clock App} (low : node.config.priority.toNat < 8)
    (kind : Management) {width : Nat} (positive : 0 < width) {values : List UInt8}
    (within : values.length ≤ Page.length) (build : UInt8 × List UInt8 → List UInt8)
    (head : Nat → List UInt8) (fits : ∀ index, (head index).length + width < 8)
    (built : ∀ piece index, (piece, index) ∈ (Page.pieces width values).zipIdx →
      build (UInt8.ofNat index, piece) = UInt8.ofNat index :: head index ++ piece) :
    ∃ frames, Conveys frames kind node.nickname width head values ∧
      Sends node (node.sendFrames kind ((Page.frames width values).map build)) frames := by
  have cut := Page.cut_pieces positive values
  have payloads : (Page.frames width values).map build = (Page.pieces width values).zipIdx.map
      fun place => UInt8.ofNat place.2 :: head place.2 ++ place.1 := by
    rw [Page.frames_eq width within, List.map_map]
    exact List.map_congr_left fun place mem => built place.1 place.2 mem
  have short : ∀ payload ∈ (Page.frames width values).map build, payload.length ≤ 8 := by
    rw [payloads]
    intro payload mem
    obtain ⟨place, within, rfl⟩ := List.mem_map.mp mem
    have filled := (cut.filled _ (List.fst_mem_of_mem_zipIdx within)).2
    have room := fits place.2
    rw [List.length_append, List.length_cons]
    omega
  obtain ⟨frames, told, sends⟩ := Sends.sendFrames low kind short
  rw [payloads, List.forall₂_map_right_iff] at told
  have count : frames.length = (Page.pieces width values).length := by
    rw [told.length_eq, List.length_zipIdx]
  refine ⟨frames, ⟨count.trans cut.count, ?_, _, cut, told⟩, sends⟩
  rw [count]
  exact Nat.le_trans (Page.length_pieces_le width values) within

/-- The node when it has counted the event that it handles. -/
def received (node : Node Clock App) : Node Clock App :=
  node.count fun counters =>
    { counters with rxEvents := Counters.increased counters.rxEvents 1 }

/-- What a node sends between the counts of an event and of its command is a reply. -/
theorem Replies.of_sends {before sent : Node Clock App} {frames : List Event}
    (sends : Sends before.received sent frames) :
    Replies before sent.countManagement frames where
  core := sends.core
  app := sends.app
  inbox := sends.inbox
  accepts := sends.accepts
  attempted := sends.attempted
  trace := sends.trace
  counters := by
    have unsent := sends.counters
    change { sent.counters.unsent with
      protocolEvents := Counters.increased sent.counters.unsent.protocolEvents 1 } = _
    rw [unsent]
    rfl

section Reads

variable [Application App]

/-- Nothing that is read depends on the counters. -/
theorem readRegister_received (node : Node Clock App) (page : UInt16) (offset : UInt8) :
    node.received.readRegister page offset =
      ((node.readRegister page offset).1, (node.readRegister page offset).2.received) := by
  have same : node.received.registerMap = node.registerMap := rfl
  unfold readRegister
  rw [same]
  cases node.registerMap.resolve page offset with
  | standard slot =>
      obtain ⟨register, index, access⟩ := slot
      cases register <;> rfl
  | _ => rfl

theorem readEach_received (page : UInt16) (registers : List UInt8) (node : Node Clock App) :
    readEach page registers node.received =
      ((readEach page registers node).1, (readEach page registers node).2.received) := by
  induction registers generalizing node with
  | nil => rfl
  | cons register rest ih =>
      unfold readEach
      rw [readRegister_received]
      dsimp only
      rw [ih]

theorem length_readEach (page : UInt16) (registers : List UInt8) (node : Node Clock App) :
    (readEach page registers node).1.length = registers.length := by
  induction registers generalizing node with
  | nil => rfl
  | cons register rest ih => exact congrArg (· + 1) (ih _)

variable [TimerService Clock]

/-- The host reads the registers of a run that lie on the page, one after the other. -/
def runReads (page : UInt16) (offset : UInt8) (count : Nat) : List HostCall :=
  (List.range (min count (256 - offset.toNat))).map fun index =>
    .readRegister page (UInt8.ofNat (offset.toNat + index))

theorem serveAll_reads (page : UInt16) (registers : List UInt8) (node : Node Clock App) :
    serveAll (registers.map (.readRegister page)) node =
      ((readEach page registers node).1.map .value, (readEach page registers node).2) := by
  induction registers generalizing node with
  | nil => rfl
  | cons register rest ih =>
      rw [List.map_cons, serveAll]
      dsimp only
      rw [ih]
      rfl

/-- A run is read as the host reads it. -/
theorem serveAll_runReads (page : UInt16) (offset : UInt8) (count : Nat)
    (node : Node Clock App) :
    serveAll (runReads page offset count) node =
      ((node.readSpan page offset count).1.map .value, (node.readSpan page offset count).2) := by
  have registers : runReads page offset count =
      ((Page.span offset count).map (·.2)).map (.readRegister page) := by
    rw [Page.span, List.map_map, List.map_map]
    rfl
  rw [registers, serveAll_reads]
  rfl

omit [TimerService Clock] in
theorem length_readSpan (node : Node Clock App) (page : UInt16) (offset : UInt8) (count : Nat) :
    (node.readSpan page offset count).1.length = min count (256 - offset.toNat) := by
  rw [readSpan, length_readEach, List.length_map, Page.span, List.length_map, List.length_range]
  rfl

/-- On the event the node reports a run of registers: it answers what the host would read, in frames
that convey it, and is left as the host would leave it but for what it sent and counted. The numbers
of the registers stay on the page. -/
def ReportsRun (node : Node Clock App) (event : Event) (kind : Management) (width : Nat)
    (head : Nat → List UInt8) (page : UInt16) (offset : UInt8) (count : Nat) : Prop :=
  let reads := serveAll (runReads page offset count) node
  ∃ values frames, values.length = min count (256 - offset.toNat) ∧
    reads.1 = values.map .value ∧ Conveys frames kind node.nickname width head values ∧
    (∀ index < frames.length, offset.toNat + width * index < 256) ∧
    (node.handle event).1 = .management event.typeId ∧
    Replies reads.2 (node.handle event).2 frames

variable {node : Node Clock App} {event : Event}

/-- An active node answers and counts a command that it carries out. -/
theorem handle_of_command (active : node.lifecycle = .active) {kind : Management}
    (command : event.Manages kind) {handled : Node Clock App}
    (acted : node.received.activeCommand kind event = (true, handled)) :
    node.handle event = (.management event.typeId, handled.countManagement) := by
  have managed : node.handle event = node.received.handleManagement event := by
    simp only [handle, active, if_pos command.classId]
    rfl
  simp only [managed, handleManagement, command.ofTypeId?, acted]
  rfl

/-- The frames of the registers of a run report it. -/
theorem reportsRun_of_command (low : node.config.priority.toNat < 8)
    (active : node.lifecycle = .active) {kind answer : Management}
    (command : event.Manages kind) {width : Nat} (positive : 0 < width)
    {build : UInt8 × List UInt8 → List UInt8} {head : Nat → List UInt8} {page : UInt16}
    {offset : UInt8} {count : Nat} (fits : ∀ index, (head index).length + width < 8)
    (built : ∀ piece index, offset.toNat + width * index < 256 →
      build (UInt8.ofNat index, piece) = UInt8.ofNat index :: head index ++ piece)
    (acted : node.received.activeCommand kind event =
      (true, (node.received.readSpan page offset count).2.sendFrames answer
        ((Page.frames width (node.received.readSpan page offset count).1).map build))) :
    node.ReportsRun event answer width head page offset count := by
  have length := node.length_readSpan page offset count
  have access : NodeCore.Accessed node.core (node.readSpan page offset count).2.core :=
    accessed_readEach ..
  have span : node.received.readSpan page offset count =
      ((node.readSpan page offset count).1, (node.readSpan page offset count).2.received) :=
    readEach_received ..
  rw [span] at acted
  unfold ReportsRun
  rw [serveAll_runReads]
  generalize node.readSpan page offset count = read at *
  obtain ⟨values, read⟩ := read
  change values.length = _ at length
  have onPage (index : Nat) (below : index < (values.length + width - 1) / width) :
      offset.toNat + width * index < 256 := by
    have within := (Nat.le_div_iff_mul_le positive).mp (Nat.succ_le_of_lt below)
    rw [Nat.succ_mul, Nat.mul_comm] at within
    have byte := offset.toNat_lt
    omega
  have few : values.length ≤ Page.length := by
    change _ ≤ 256
    omega
  have same : read.config = node.config := access.config
  have nickname : read.received.nickname = node.nickname := access.nickname
  have quiet : read.received.config.priority.toNat < 8 := same ▸ low
  obtain ⟨frames, conveys, sends⟩ :=
    conveys_sendFrames quiet answer positive few build head fits fun piece index place => by
      have below := List.snd_lt_of_mem_zipIdx place
      rw [Page.length_pieces positive] at below
      exact built piece index (onPage index below)
  rw [nickname] at conveys
  have handled := handle_of_command active command acted
  refine ⟨values, frames, length, rfl, conveys, fun index below => ?_, ?_, ?_⟩
  · rw [conveys.count] at below
    exact onPage index below
  · rw [handled]
  · rw [handled]
    exact .of_sends sends

/-- The count of an extended command may be left out, and zero means a whole page. -/
def extendedCount : List UInt8 → Nat
  | [] => 1
  | count :: _ => if count = 0 then 256 else count.toNat

theorem reportsRun_pageRead (low : node.config.priority.toNat < 8)
    (active : node.lifecycle = .active) (command : event.Manages .pageRead)
    {offset count : UInt8} {rest : List UInt8}
    (addressed : node.core.Addressed event (offset :: count :: rest)) :
    node.ReportsRun event .rwPageResponse 7 (fun _ => []) node.pageSelect offset count.toNat := by
  have named : node.received.core.Addressed event (offset :: count :: rest) := addressed
  have acted : node.received.activeCommand .pageRead event =
      (true, node.received.pageRead offset count.toNat) := command_of_addressed named
  exact reportsRun_of_command low active command (by decide) (by simp) (fun _ _ _ => rfl) acted

theorem frameStart_ofNat {offset : UInt8} {index : Nat} (onPage : offset.toNat + 4 * index < 256) :
    frameStart offset (UInt8.ofNat index) = UInt8.ofNat (offset.toNat + 4 * index) := by
  have number : (UInt8.ofNat index).toNat = index :=
    UInt8.toNat_ofNat_of_lt' (Nat.lt_of_le_of_lt (by omega) onPage)
  have start : min (offset.toNat + index * Page.extendedFrameValues) 255 =
      offset.toNat + 4 * index := by
    change min (offset.toNat + index * 4) 255 = _
    omega
  rw [frameStart, number, start]

theorem reportsRun_extendedPageRead (low : node.config.priority.toNat < 8)
    (active : node.lifecycle = .active) (command : event.Manages .extendedPageRead)
    {pageHigh pageLow offset : UInt8} {rest : List UInt8}
    (addressed : node.core.Addressed event (pageHigh :: pageLow :: offset :: rest)) :
    node.ReportsRun event .extendedPageResponse 4
      (fun index => [pageHigh, pageLow, UInt8.ofNat (offset.toNat + 4 * index)])
      (UInt16.ofNat (Bytes.value [pageHigh, pageLow])) offset (extendedCount rest) := by
  have named : node.received.core.Addressed event (pageHigh :: pageLow :: offset :: rest) :=
    addressed
  have page : Bytes.write 2 (UInt16.ofNat (Bytes.value [pageHigh, pageLow])).toNat =
      [pageHigh, pageLow] := by
    have fits : Bytes.value [pageHigh, pageLow] < Bytes.bound 2 :=
      Bytes.value_lt [pageHigh, pageLow]
    rw [show Bytes.bound 2 = 65536 from rfl] at fits
    rw [UInt16.toNat_ofNat_of_lt' fits]
    exact Bytes.write_value [pageHigh, pageLow]
  have acted : node.received.activeCommand .extendedPageRead event =
      (true, node.received.extendedPageRead (UInt16.ofNat (Bytes.value [pageHigh, pageLow])) offset
        (extendedCount rest)) := by
    refine (command_of_addressed named).trans ?_
    unfold addressedCommand
    cases rest with
    | nil => rfl
    | cons count rest => rfl
  refine reportsRun_of_command low active command (by decide) (by simp) ?_ acted
  intro piece index onPage
  dsimp only
  rw [page, frameStart_ofNat onPage]
  rfl

/-- The node names itself by seven frames and reads no register for it. -/
theorem whoIsThere_conveys (checked : node.config.check = .ok ())
    (active : node.lifecycle = .active) (command : event.Manages .whoIsThere)
    (meant : event.data.head? = some node.nickname ∨
      event.data.head? = some Protocol.unassigned) :
    let url := node.config.mdfUrl.toUTF8.data.toList
    ∃ frames, frames.length = 7 ∧
      Conveys frames .whoIsThereResponse node.nickname 7 (fun _ => [])
        (node.guid ++ (url ++ List.replicate (32 - url.length) 0) ++ [0]) ∧
      (node.handle event).1 = .management event.typeId ∧
      Replies node (node.handle event).2 frames := by
  intro url
  have mdf : node.config.mdfBytes = url ++ List.replicate (32 - url.length) 0 :=
    Config.mdfBytes_of_check checked
  have length : (node.guid ++ node.config.mdfBytes ++ [0]).length = 49 := by
    rw [List.length_append, List.length_append, length_guid, node.config.length_mdfBytes]
    rfl
  have acted : node.received.activeCommand .whoIsThere event =
      (true, node.received.whoIsThere) := by
    refine if_pos ?_
    rcases meant with own | anyone
    · rw [own]
      exact Bool.or_eq_true_iff.mpr (.inl (beq_self_eq_true _))
    · rw [anyone]
      exact Bool.or_eq_true_iff.mpr (.inr (beq_self_eq_true _))
  have handled := handle_of_command active command acted
  have low : node.received.config.priority.toNat < 8 := Config.priority_lt checked
  have within : (node.guid ++ node.config.mdfBytes ++ [0]).length ≤ Page.length := by
    rw [length]
    decide
  obtain ⟨frames, conveys, sends⟩ := conveys_sendFrames low .whoIsThereResponse (by decide) within
    (fun place => place.1 :: place.2) (fun _ => []) (fun _ => show 0 + 7 < 8 by decide)
    fun _ _ _ => rfl
  have count : frames.length = 7 := by
    rw [conveys.count, length]
  rw [mdf] at conveys
  refine ⟨frames, count, conveys, ?_, ?_⟩
  · rw [handled]
  · rw [handled]
    exact .of_sends sends

/-- What an active node reports of its registers puts together to what reading them one by one
answers, and nothing else comes of it. A report of the node about itself reads none of them. -/
theorem page_reads_reassemble {node : Node Clock App} (checked : node.config.check = .ok ())
    (active : node.lifecycle = .active) (event : Event) :
    (∀ offset count rest, event.Manages .pageRead →
      node.core.Addressed event (offset :: count :: rest) →
      node.ReportsRun event .rwPageResponse 7 (fun _ => []) node.pageSelect offset
        count.toNat) ∧
    (∀ pageHigh pageLow offset rest, event.Manages .extendedPageRead →
      node.core.Addressed event (pageHigh :: pageLow :: offset :: rest) →
      node.ReportsRun event .extendedPageResponse 4
        (fun index => [pageHigh, pageLow, UInt8.ofNat (offset.toNat + 4 * index)])
        (UInt16.ofNat (Bytes.value [pageHigh, pageLow])) offset (extendedCount rest)) ∧
    (event.Manages .whoIsThere → event.data.head? = some node.nickname ∨
        event.data.head? = some Protocol.unassigned →
      let url := node.config.mdfUrl.toUTF8.data.toList
      ∃ frames, frames.length = 7 ∧
        Conveys frames .whoIsThereResponse node.nickname 7 (fun _ => [])
          (node.guid ++ (url ++ List.replicate (32 - url.length) 0) ++ [0]) ∧
        (node.handle event).1 = .management event.typeId ∧
        Replies node (node.handle event).2 frames) := by
  have low := Config.priority_lt checked
  refine ⟨fun offset count rest command addressed => ?_,
    fun pageHigh pageLow offset rest command addressed => ?_, fun command meant => ?_⟩
  · exact reportsRun_pageRead low active command addressed
  · exact reportsRun_extendedPageRead low active command addressed
  · exact whoIsThere_conveys checked active command meant

end Reads

/-- An active node that has raised an alarm. -/
def alarmedNode : Node SoftTimers RegisterFile :=
  let store := (Store.erased 256).write Layout.nickname 0x10
  let built := build {} store .open (SoftTimers.empty 4) (RegisterFile.empty false)
  (serveAll [.process, .raiseAlarm 8] (built.toOption.get rfl)).2

def managementEvent (typeId : UInt8) (data : List UInt8) (short : data.length ≤ 8) : Event :=
  { Event.new 0 typeId 0 with data, dataWithin := short }

theorem ready_alarmedNode :
    alarmedNode.config.check = .ok () ∧ alarmedNode.lifecycle = .active ∧
      alarmedNode.nickname = 0x10 ∧ alarmedNode.pageSelect = 0 := by
  decide +kernel

theorem addressed_alarmedNode {event : Event} {arguments : List UInt8}
    (data : event.data = 0x10 :: arguments) : alarmedNode.core.Addressed event arguments := by
  have nickname := ready_alarmedNode.2.2.1
  unfold NodeCore.Addressed
  rw [nickname_core, nickname]
  exact ⟨by decide, data⟩

/-- The runs reach the alarm from the registers of the application, and the end of the page. -/
theorem alarmed_node_reports :
    alarmedNode.ReportsRun (managementEvent 24 [0x10, 0x7E, 9] (by decide)) .rwPageResponse 7
      (fun _ => []) 0 0x7E 9 ∧
    alarmedNode.ReportsRun (managementEvent 37 [0x10, 0, 0, 0xFA, 0] (by decide))
      .extendedPageResponse 4 (fun index => [0, 0, UInt8.ofNat (0xFA + 4 * index)]) 0 0xFA 256 ∧
    ∃ frames, frames.length = 7 ∧
      Replies alarmedNode (alarmedNode.handle (managementEvent 31 [0xFF] (by decide))).2
        frames := by
  obtain ⟨checked, active, -, page⟩ := ready_alarmedNode
  obtain ⟨reads, -, -⟩ := page_reads_reassemble checked active
    (managementEvent 24 [0x10, 0x7E, 9] (by decide))
  obtain ⟨-, extended, -⟩ := page_reads_reassemble checked active
    (managementEvent 37 [0x10, 0, 0, 0xFA, 0] (by decide))
  obtain ⟨-, -, whoIs⟩ := page_reads_reassemble checked active
    (managementEvent 31 [0xFF] (by decide))
  refine ⟨?_, ?_, ?_⟩
  · have reported := reads 0x7E 9 [] ⟨rfl, rfl⟩ (addressed_alarmedNode rfl)
    rwa [page] at reported
  · exact extended 0 0 0xFA [0] ⟨rfl, rfl⟩ (addressed_alarmedNode rfl)
  · obtain ⟨frames, count, -, -, replies⟩ := whoIs ⟨rfl, rfl⟩ (.inr rfl)
    exact ⟨frames, count, replies⟩

end Node

end Vscp
