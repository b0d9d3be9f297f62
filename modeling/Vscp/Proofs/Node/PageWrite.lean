/-
This file proves that a node that takes a run of writes in one command does what it does when it
takes them in a command each.
-/

import Vscp.Proofs.Node.PageRead
import Vscp.Proofs.Register.Target

namespace Vscp

/-- A command to write one register of the node with this nickname. -/
structure Event.Writes (event : Event) (nickname : UInt8) (place : UInt8 × UInt8) : Prop
    extends event.Manages .writeRegister where
  data : event.data = [nickname, place.1, place.2]

namespace Node

variable {Clock App : Type}

/-- The nodes differ at most in what they sent and counted. -/
structure Coincides (node other : Node Clock App) : Prop where
  core : other.core = node.core
  app : other.app = node.app
  inbox : other.transport.inbox = node.transport.inbox
  doings : other.doings = node.doings

namespace Coincides

variable {node other after : Node Clock App}

/-- To coincide is an accord. -/
def accord : Accord Clock App where
  Holds := Coincides
  strict := False
  core := Coincides.core
  app := Coincides.app
  adopt update _ _ both := ⟨congrArg update both.core, both.app, both.inbox, both.doings⟩
  replace _ both := ⟨both.core, rfl, both.inbox, both.doings⟩
  emit plain both := by
    refine ⟨both.core, both.app, both.inbox, ?_⟩
    rw [doings_emit _ plain.isSending, doings_emit _ plain.isSending, both.doings]
  write address value both := by
    refine ⟨congrArg (·.writeStore address value) both.core, both.app, both.inbox, ?_⟩
    exact (doings_emit _ rfl).trans ((congrArg (· ++ _) both.doings).trans (doings_emit _ rfl).symm)
  count _ _ both := ⟨both.core, both.app, both.inbox, both.doings⟩
  send classId typeId origin data _ both := by
    refine ⟨?_, ?_, ?_, ?_⟩
    · rw [core_send, core_send, both.core]
    · rw [app_send, app_send, both.app]
    · rw [inbox_send, inbox_send, both.inbox]
    · rw [doings_send, doings_send, both.doings]

/-- One of the nodes may send by itself. -/
theorem sent (both : Coincides node other) {frames : List Event}
    (tries : Tries other after frames) : Coincides node after where
  core := tries.core.trans both.core
  app := tries.app.trans both.app
  inbox := tries.inbox.trans both.inbox
  doings := tries.doings.trans both.doings

end Coincides

section Attempts

variable [Application App]

theorem attempts_peek (node : Node Clock App) (target : RegisterTarget) (page : UInt16)
    (offset : UInt8) : (node.peek target page offset).2.attempts = node.attempts := by
  cases target with
  | application => exact attempts_emit_of_none rfl
  | _ => rfl

theorem attempts_writeRestore (node : Node Clock App) (value : UInt8) :
    (node.writeRestore value).attempts = node.attempts := by
  unfold writeRestore
  dsimp only
  split
  · exact attempts_emit_of_none rfl
  · split
    · exact (attempts_emit_of_none rfl).trans (attempts_emit_of_none rfl)
    · rfl

theorem attempts_writeStandard (node : Node Clock App) (slot : StandardSlot) (value : UInt8) :
    (node.writeStandard slot value).attempts = node.attempts := by
  unfold writeStandard
  split
  · exact attempts_emit_of_none rfl
  · exact attempts_emit_of_none rfl
  · rfl
  · rfl
  · exact node.attempts_writeRestore value
  · rfl

theorem attempts_writeRegister (node : Node Clock App) (page : UInt16) (offset value : UInt8) :
    (node.writeRegister page offset value).2.attempts = node.attempts := by
  unfold writeRegister
  dsimp only
  split
  · rw [attempts_peek]
    split
    · exact node.attempts_writeStandard _ value
    · rfl
  · rw [attempts_peek]
    exact attempts_emit_of_none rfl
  · rw [attempts_peek]
    exact attempts_emit_of_none rfl
  · exact attempts_emit_of_none rfl
  · exact attempts_peek ..

theorem attempts_writeEach (page : UInt16) (writes : List (UInt8 × UInt8))
    (node : Node Clock App) : (writeEach page writes node).2.attempts = node.attempts := by
  induction writes generalizing node with
  | nil => rfl
  | cons write rest ih => exact (ih _).trans (node.attempts_writeRegister page write.1 write.2)

end Attempts

section Writes

variable [Application App]

/-- A write to the upper half is the same on every page. -/
theorem writeRegister_of_high {offset : UInt8} (high : StandardRange.start ≤ offset)
    (node : Node Clock App) (page other : UInt16) (value : UInt8) :
    node.writeRegister other offset value = node.writeRegister page offset value := by
  have foreign := node.registerMap.resolve_ne_application high page
  unfold writeRegister
  rw [node.registerMap.resolve_of_high high page other]
  cases target : node.registerMap.resolve page offset with
  | application => exact absurd target foreign
  | _ => rfl

/-- A write to the lower half selects no page. -/
theorem pageSelect_writeRegister_of_low {offset : UInt8} (low : offset < StandardRange.start)
    (node : Node Clock App) (page : UInt16) (value : UInt8) :
    (node.writeRegister page offset value).2.pageSelect = node.pageSelect := by
  have looked (node : Node Clock App) (target : RegisterTarget) :
      (node.peek target page offset).2.pageSelect = node.pageSelect :=
    congrArg NodeCore.pageSelect (node.core_peek target page offset)
  have lower := node.registerMap.resolve_ne_standard low page
  unfold writeRegister
  cases target : node.registerMap.resolve page offset with
  | standard slot => exact absurd target (lower slot)
  | decisionMatrix index => exact looked ..
  | ruleset index => exact looked ..
  | application => rfl
  | unmapped => exact looked ..

variable [TimerService Clock]

/-- The node handles the events one after the other. -/
def handleEach (events : List Event) (node : Node Clock App) : Node Clock App :=
  events.foldl (fun node event => (node.handle event).2) node

/-- A command to write a register writes it on the selected page and answers with what is read
back. -/
theorem handle_write {node : Node Clock App} (active : node.lifecycle = .active)
    (named : node.nickname ≠ Protocol.unassigned) {command : Event} {place : UInt8 × UInt8}
    (writes : command.Writes node.nickname place) :
    let write := node.received.writeRegister node.pageSelect place.1 place.2
    (node.handle command).2 = (write.2.replyRegister place.1 write.1).countManagement := by
  have addressed : node.received.core.Addressed command [place.1, place.2] := ⟨named, writes.data⟩
  have acted : node.received.activeCommand .writeRegister command =
      (true, (node.received.writeRegister node.pageSelect place.1 place.2).2.replyRegister place.1
        (node.received.writeRegister node.pageSelect place.1 place.2).1) :=
    command_of_addressed addressed
  rw [handle_of_command active writes.toManages acted]

omit [Application App] [TimerService Clock] in
/-- A node that has accessed registers replies under the nickname that it had. -/
theorem reply_of_accessed {before written : Node Clock App}
    (low : before.config.priority.toNat < 8)
    (access : NodeCore.Accessed before.core written.core) (kind : Management) {data : List UInt8}
    (short : data.length ≤ 8) :
    ∃ frame, frame.Says kind before.nickname data ∧
      Sends written (written.reply kind data) [frame] := by
  have config : written.config = before.config := access.config
  have nickname : written.nickname = before.nickname := access.nickname
  rw [← config] at low
  rw [← nickname]
  exact Sends.reply low kind short

/-- A command writes a register as the other node does. The answer is its only frame, and in the
lower half of a page it keeps the page selected. -/
theorem Coincides.handle_write {node other : Node Clock App} (both : Coincides node other)
    (low : other.config.priority.toNat < 8) (active : other.lifecycle = .active)
    (named : other.nickname ≠ Protocol.unassigned) {command : Event} {place : UInt8 × UInt8}
    (writes : command.Writes other.nickname place) {page : UInt16}
    (selected : place.1 < StandardRange.start → other.pageSelect = page) :
    let write := node.writeRegister page place.1 place.2
    let after := (other.handle command).2
    ∃ frame, frame.Says .rwResponse other.nickname [place.1, write.1] ∧
      Coincides write.2 after ∧ after.attempts = other.attempts ++ [frame] ∧
      NodeCore.Accessed other.core after.core ∧
      (place.1 < StandardRange.start → after.pageSelect = other.pageSelect) := by
  intro write after
  have handled : after = _ := Node.handle_write active named writes
  have heard : Coincides node other.received := ⟨both.core, both.app, both.inbox, both.doings⟩
  have agrees := Coincides.accord.writeRegister heard other.pageSelect place.1 place.2
  have same : node.writeRegister other.pageSelect place.1 place.2 = write := by
    by_cases lower : place.1 < StandardRange.start
    · rw [selected lower]
    · exact writeRegister_of_high (UInt8.not_lt.mp lower) node page _ _
  have access : NodeCore.Accessed other.core _ :=
    other.received.accessed_writeRegister other.pageSelect place.1 place.2
  have silent : _ = other.attempts :=
    other.received.attempts_writeRegister other.pageSelect place.1 place.2
  have kept (lower : place.1 < StandardRange.start) : _ = other.pageSelect :=
    pageSelect_writeRegister_of_low lower other.received other.pageSelect place.2
  rw [same] at agrees
  generalize other.received.writeRegister other.pageSelect place.1 place.2 = done at *
  obtain ⟨answer, written⟩ := done
  obtain ⟨rfl, coincides⟩ := agrees
  obtain ⟨frame, told, sends⟩ := reply_of_accessed low access .rwResponse
    (show [place.1, write.1].length ≤ 8 from Nat.le_add_left 2 6)
  have replied := coincides.sent sends.toTries
  have core : after.core = written.core := (congrArg Node.core handled).trans sends.core
  refine ⟨frame, told, ?_, ?_, ?_, fun lower => ?_⟩
  · rw [handled]
    exact ⟨replied.core, replied.app, replied.inbox, replied.doings⟩
  · rw [handled, ← silent]
    exact sends.attempts
  · rw [core]
    exact access
  · exact (congrArg NodeCore.pageSelect core).trans (kept lower)

/-- Commands that write registers upwards do what writing them on the page does that is selected
before the first. -/
theorem Coincides.handleEach_writes {node other : Node Clock App} (both : Coincides node other)
    (low : other.config.priority.toNat < 8) (active : other.lifecycle = .active) {nickname : UInt8}
    (own : other.nickname = nickname) (named : nickname ≠ Protocol.unassigned)
    {commands : List Event} {places : List (UInt8 × UInt8)}
    (writes : List.Forall₂ (fun command place => command.Writes nickname place) commands places)
    (ascending : places.Pairwise fun place later => place.1 < later.1) {page : UInt16}
    (selected : ∀ place ∈ places, place.1 < StandardRange.start → other.pageSelect = page) :
    let written := writeEach page places node
    let after := handleEach commands other
    ∃ frames, Coincides written.2 after ∧ after.attempts = other.attempts ++ frames ∧
      List.Forall₂ (fun frame (reply : UInt8 × UInt8) =>
        frame.Says .rwResponse nickname [reply.1, reply.2]) frames
        ((places.map (·.1)).zip written.1) := by
  induction writes generalizing node other with
  | nil => exact ⟨[], both, (List.append_nil _).symm, .nil⟩
  | @cons command place commands places write _ ih =>
      obtain ⟨above, later⟩ := List.pairwise_cons.mp ascending
      obtain ⟨frame, told, coincides, attempts, access, kept⟩ :=
        both.handle_write low active (own ▸ named) (own ▸ write) (selected place (by simp))
      have config : (other.handle command).2.config = other.config := access.config
      -- a register below the standard ones follows only such registers
      have still : ∀ next ∈ places, next.1 < StandardRange.start →
          (other.handle command).2.pageSelect = page := by
        intro next within lower
        have lowest := UInt8.lt_trans (above next within) lower
        exact (kept lowest).trans (selected place (by simp) lowest)
      obtain ⟨frames, done, more, tellings⟩ := ih coincides (config ▸ low)
        (access.lifecycle.trans active) (access.nickname.trans own) later still
      rw [own] at told
      refine ⟨frame :: frames, done, ?_, .cons told tellings⟩
      refine more.trans ?_
      rw [attempts, List.append_assoc]
      rfl

/-- On the event the node writes a run of registers as on a command for each of them that lies on
the page. In one frame it answers, behind a head, what it reads back for each. -/
def BundlesWrites (node : Node Clock App) (event : Event) (kind : Management) (head : List UInt8)
    (offset : UInt8) (values : List UInt8) : Prop :=
  ∀ commands,
    List.Forall₂ (fun command place => command.Writes node.nickname place) commands
      (Page.places offset values) →
    let bundled := (node.handle event).2
    let separate := handleEach commands node
    (node.handle event).1 = .management event.typeId ∧ Coincides bundled separate ∧
    ∃ answers frame frames, answers.length = (Page.places offset values).length ∧
      bundled.attempts = node.attempts ++ [frame] ∧
      frame.Says kind node.nickname (head ++ answers) ∧
      separate.attempts = node.attempts ++ frames ∧
      List.Forall₂ (fun frame (reply : UInt8 × UInt8) =>
        frame.Says .rwResponse node.nickname [reply.1, reply.2]) frames
        (((Page.places offset values).map (·.1)).zip answers)

variable {node : Node Clock App} {event : Event}

theorem bundlesWrites_of_command (low : node.config.priority.toNat < 8)
    (active : node.lifecycle = .active) (named : node.nickname ≠ Protocol.unassigned)
    {kind answer : Management} (command : event.Manages kind) {head values : List UInt8}
    {offset : UInt8} (fits : head.length + values.length ≤ 8)
    (acted : node.received.activeCommand kind event =
      (true, (node.received.writeSpan node.pageSelect offset values).2.reply answer
        (head ++ (node.received.writeSpan node.pageSelect offset values).1))) :
    node.BundlesWrites event answer head offset values := by
  intro commands writes bundled separate
  have few := node.received.length_writeSpan_le node.pageSelect offset values
  have span : node.received.writeSpan node.pageSelect offset values =
      writeEach node.pageSelect (Page.places offset values) node.received := by
    rw [writeSpan, Page.zip_span]
  have ascending := Page.ascending_places offset values
  generalize Page.places offset values = places at *
  rw [span] at acted few
  have begun : Coincides node.received node := ⟨rfl, rfl, rfl, rfl⟩
  obtain ⟨frames, both, attempts, tellings⟩ := begun.handleEach_writes low active rfl named writes
    ascending fun _ _ _ => rfl
  have length := length_writeEach node.pageSelect places node.received
  have silent : _ = node.attempts := attempts_writeEach node.pageSelect places node.received
  have access : NodeCore.Accessed node.core _ :=
    accessed_writeEach node.pageSelect places node.received
  generalize writeEach node.pageSelect places node.received = done at *
  obtain ⟨answers, written⟩ := done
  have short : (head ++ answers).length ≤ 8 := by
    rw [List.length_append]
    exact Nat.le_trans (Nat.add_le_add_left few _) fits
  obtain ⟨frame, told, sends⟩ := reply_of_accessed low access answer short
  have handled := handle_of_command active command acted
  have left : bundled = (written.reply answer (head ++ answers)).countManagement :=
    congrArg Prod.snd handled
  refine ⟨congrArg Prod.fst handled, ?_, answers, frame, frames, length, ?_, told, attempts,
    tellings⟩
  · rw [left]
    exact ⟨both.core.trans sends.core.symm, both.app.trans sends.app.symm,
      both.inbox.trans sends.inbox.symm, both.doings.trans sends.doings.symm⟩
  · rw [left, ← silent]
    exact sends.attempts

/-- A command that writes a run of registers does what a command for each of them does, whichever
page its registers select on the way, and answers what those answer. So does a command that names
the page itself, if it names the selected one. -/
theorem page_writes_bundle {node : Node Clock App} (checked : node.config.check = .ok ())
    (active : node.lifecycle = .active) (event : Event) {offset : UInt8} {values : List UInt8}
    (given : values ≠ []) :
    (event.Manages .pageWrite → node.core.Addressed event (offset :: values) →
      node.BundlesWrites event .rwPageResponse [0] offset values) ∧
    (∀ pageHigh pageLow, event.Manages .extendedPageWrite →
      node.core.Addressed event (pageHigh :: pageLow :: offset :: values) →
      UInt16.ofNat (Bytes.value [pageHigh, pageLow]) = node.pageSelect →
      node.BundlesWrites event .extendedPageResponse [0, pageHigh, pageLow, offset] offset
        values) := by
  have low := Config.priority_lt checked
  obtain ⟨value, rest, rfl⟩ := List.exists_cons_of_ne_nil given
  refine ⟨fun command addressed => ?_, fun pageHigh pageLow command addressed page => ?_⟩
  · have short := addressed.2 ▸ event.dataWithin
    have named : node.received.core.Addressed event (offset :: value :: rest) := addressed
    exact bundlesWrites_of_command low active addressed.1 command
      (by simp at short ⊢; omega) (command_of_addressed named)
  · have short := addressed.2 ▸ event.dataWithin
    have named : node.received.core.Addressed event
        (pageHigh :: pageLow :: offset :: value :: rest) := addressed
    refine bundlesWrites_of_command low active addressed.1 command
      (by simp at short ⊢; omega) ((command_of_addressed named).trans ?_)
    rw [← page]
    rfl

end Writes

def writeCommand (place : UInt8 × UInt8) : Event :=
  managementEvent 11 [0x10, place.1, place.2] (Nat.le_add_left 3 5)

/-- One run goes on from the registers of the application to the standard ones, the other selects a
page on its way. -/
theorem bundled_writes_go_on :
    let first := handleEach ((Page.places 0x7E [1, 2, 3, 4, 5, 6]).map writeCommand) alarmedNode
    let second := handleEach ((Page.places 0x91 [5, 1, 2, 3]).map writeCommand) alarmedNode
    Coincides (alarmedNode.handle (managementEvent 25 [0x10, 0x7E, 1, 2, 3, 4, 5, 6]
      (by decide))).2 first ∧
    Coincides (alarmedNode.handle (managementEvent 38 [0x10, 0, 0, 0x91, 5, 1, 2, 3]
      (by decide))).2 second ∧
    second.pageSelect = 0x0102 := by
  obtain ⟨checked, active, nickname, page⟩ := ready_alarmedNode
  have writes (places : List (UInt8 × UInt8)) :
      List.Forall₂ (fun command place => command.Writes alarmedNode.nickname place)
        (places.map writeCommand) places := by
    rw [nickname, List.forall₂_map_left_iff]
    exact List.forall₂_same.mpr fun _ _ => ⟨⟨rfl, rfl⟩, rfl⟩
  have plain : alarmedNode.BundlesWrites
      (managementEvent 25 [0x10, 0x7E, 1, 2, 3, 4, 5, 6] (by decide)) .rwPageResponse [0] 0x7E
      [1, 2, 3, 4, 5, 6] :=
    (page_writes_bundle checked active _ (by simp)).1 ⟨rfl, rfl⟩ (addressed_alarmedNode rfl)
  have extended : alarmedNode.BundlesWrites
      (managementEvent 38 [0x10, 0, 0, 0x91, 5, 1, 2, 3] (by decide)) .extendedPageResponse
      [0, 0, 0, 0x91] 0x91 [5, 1, 2, 3] :=
    (page_writes_bundle checked active _ (by simp)).2 0 0 ⟨rfl, rfl⟩ (addressed_alarmedNode rfl)
      page.symm
  refine ⟨?_, ?_, by decide +kernel⟩
  · exact (plain _ (writes _)).2.1
  · exact (extended _ (writes _)).2.1

end Node

end Vscp
