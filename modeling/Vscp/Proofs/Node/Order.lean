/-
This file says how a node is made to write its registers, and proves that nothing but such writes,
commands to drop the nickname and resets matters to the wait for factory defaults.
-/

import Vscp.Proofs.Mask
import Vscp.Proofs.Node.Change
import Vscp.Proofs.Node.Renewal
import Vscp.Proofs.Register.Page

namespace Vscp

theorem DropRequest.restores_iff {flags delay : UInt8} :
    ((ofBytes flags delay).factoryDefaults = true ∧ (ofBytes flags delay).goIdle = false) ↔
      (flags.toNat.testBit 6 = true ∧ flags.toNat.testBit 7 = false) := by
  simp only [ofBytes, Mask.and_single 0x40 6 rfl, Mask.and_single 0x80 7 rfl]

namespace Node

section Orders

variable {Clock App : Type} [Application App]

/-- A command of this kind with these arguments makes the node write the value to the register. -/
inductive Orders (node : Node Clock App) : Management → List UInt8 → UInt8 → UInt8 → Prop where
  | write (register value : UInt8) (rest : List UInt8) :
      node.Orders .writeRegister (register :: value :: rest) register value
  | increment (register : UInt8) (rest : List UInt8) :
      node.Orders .incrementRegister (register :: rest) register
        ((node.readRegister node.pageSelect register).1 + 1)
  | decrement (register : UInt8) (rest : List UInt8) :
      node.Orders .decrementRegister (register :: rest) register
        ((node.readRegister node.pageSelect register).1 - 1)
  | page {offset register value : UInt8} {values : List UInt8}
      (listed : (register, value) ∈ Page.places offset values) :
      node.Orders .pageWrite (offset :: values) register value
  | extendedPage {pageHigh pageLow offset register value : UInt8} {values : List UInt8}
      (listed : (register, value) ∈ Page.places offset values) :
      node.Orders .extendedPageWrite (pageHigh :: pageLow :: offset :: values) register value

theorem readRegister_hear (node : Node Clock App) (rest : List Event) (page : UInt16)
    (offset : UInt8) :
    ((node.hear rest).readRegister page offset).1 = (node.readRegister page offset).1 := by
  change ((node.hear rest).peek (node.registerMap.resolve page offset) page offset).1 =
    (node.peek (node.registerMap.resolve page offset) page offset).1
  cases node.registerMap.resolve page offset <;> rfl

/-- Nodes that read the same are ordered the same. -/
theorem Orders.of_reads {node other : Node Clock App} {kind : Management} {arguments : List UInt8}
    {register value : UInt8} (orders : node.Orders kind arguments register value)
    (reads : ∀ register, (node.readRegister node.pageSelect register).1 =
      (other.readRegister other.pageSelect register).1) :
    other.Orders kind arguments register value := by
  cases orders with
  | write rest => exact .write ..
  | increment rest =>
      rw [reads]
      exact .increment ..
  | decrement rest =>
      rw [reads]
      exact .decrement ..
  | page listed => exact .page listed
  | extendedPage listed => exact .extendedPage listed

/-- What a command orders does not depend on what waits behind it. -/
theorem orders_hear {node : Node Clock App} {kind : Management} {arguments : List UInt8}
    {register value : UInt8} (rest : List Event) :
    (node.hear rest).Orders kind arguments register value ↔
      node.Orders kind arguments register value := by
  have reads (register : UInt8) := node.readRegister_hear rest node.pageSelect register
  constructor
  · intro orders
    exact orders.of_reads reads
  · intro orders
    exact orders.of_reads fun register => (reads register).symm

/-- The event is a command to the node that makes it write the value to the register. -/
def OrderedBy (node : Node Clock App) (event : Event) (register value : UInt8) : Prop :=
  ∃ kind arguments, event.Manages kind ∧ node.core.Addressed event arguments ∧
    node.Orders kind arguments register value

/-- The event is a command to the node to drop its nickname, and of its bits 6 and 7 the first is
set and the second is clear. -/
def DroppedBy (node : Node Clock App) (event : Event) : Prop :=
  ∃ arguments, event.Manages .dropNickname ∧ node.core.Addressed event arguments ∧
    (arguments.getD 0 0).toNat.testBit 6 = true ∧ (arguments.getD 0 0).toNat.testBit 7 = false

variable [TimerService Clock]

/-- A call of the host writes the value to the register, by itself or with a command that it lets
the node take. -/
inductive Writes (node : Node Clock App) (call : HostCall) (register value : UInt8) : Prop where
  | asked (page : UInt16) (asks : call = .writeRegister page register value)
  | commanded {event : Event} {ready : Node Clock App} (takes : node.Takes call event ready)
      (active : ready.lifecycle = .active) (ordered : ready.OrderedBy event register value)

/-- A call of the host lets an active node take a command to drop its nickname for the defaults of
the factory. -/
def DropsToDefaults (node : Node Clock App) (call : HostCall) : Prop :=
  ∃ event ready, node.Takes call event ready ∧ ready.lifecycle = .active ∧ ready.DroppedBy event

end Orders

section Steps

variable {Clock App : Type}

/-- What becomes of the wait and of what is told: nothing, a reset while the node starts over,
factory defaults and such a reset if the node is asked to drop its nickname for them, or what a
write to the register does, if there is one. -/
inductive Renewed (before after : Node Clock App) (writes drops : Prop) : Prop where
  | kept (same : after.renewal = before.renewal)
  | reset (starting : after.lifecycle = .starting)
      (told : after.renewal = before.renewal.reset)
  | dropped (asked : drops) (starting : after.lifecycle = .starting)
      (told : after.renewal = before.renewal.restore.reset)
  | wrote (asked : writes) (resets : after.renewal.resets = before.renewal.resets)

namespace Renewed

variable {before middle after : Node Clock App} {writes drops : Prop}

theorem of_same (renewed : Renewed middle after writes drops)
    (same : middle.renewal = before.renewal) : Renewed before after writes drops := by
  cases renewed with
  | kept kept => exact .kept (kept.trans same)
  | reset starting told => exact .reset starting (same ▸ told)
  | dropped asked starting told => exact .dropped asked starting (same ▸ told)
  | wrote asked resets => exact .wrote asked (same ▸ resets)

theorem followed (renewed : Renewed before middle writes drops)
    (same : after.renewal = middle.renewal) (state : after.lifecycle = middle.lifecycle) :
    Renewed before after writes drops := by
  cases renewed with
  | kept kept => exact .kept (same.trans kept)
  | reset starting told => exact .reset (state.trans starting) (same.trans told)
  | dropped asked starting told => exact .dropped asked (state.trans starting) (same.trans told)
  | wrote asked resets => exact .wrote asked ((congrArg Renewal.resets same).trans resets)

theorem reply (renewed : Renewed before after writes drops) (kind : Management)
    (data : List UInt8) : Renewed before (after.reply kind data) writes drops :=
  renewed.followed (after.renewal_reply kind data) (congrArg NodeCore.lifecycle (core_reply ..))

theorem imp (renewed : Renewed before after writes drops) {writing dropping : Prop}
    (writes : writes → writing) (drops : drops → dropping) :
    Renewed before after writing dropping := by
  cases renewed with
  | kept kept => exact .kept kept
  | reset starting told => exact .reset starting told
  | dropped asked starting told => exact .dropped (drops asked) starting told
  | wrote asked resets => exact .wrote (writes asked) resets

end Renewed

section Places

variable [Application App] {drops : Prop}

theorem renewed_writeRegister (node : Node Clock App) (page : UInt16) (offset value : UInt8) :
    Renewed node (node.writeRegister page offset value).2
      (offset = StandardRange.restoreDefaults) drops := by
  by_cases own : offset = StandardRange.restoreDefaults
  · refine .wrote own ?_
    rw [renewal_writeRegister, if_pos own]
    rfl
  · exact .kept (by rw [renewal_writeRegister, if_neg own])

theorem renewal_writeSpan {offset value : UInt8} {values : List UInt8}
    (listed : (StandardRange.restoreDefaults, value) ∈ Page.places offset values)
    (node : Node Clock App) (page : UInt16) :
    (node.writeSpan page offset values).2.renewal = node.renewal.write value := by
  rw [writeSpan, Page.zip_span]
  exact renewal_writeEach_of_mem (Page.ascending_places offset values) listed node

theorem renewed_writeSpan (node : Node Clock App) (page : UInt16) (offset : UInt8)
    (values : List UInt8) :
    Renewed node (node.writeSpan page offset values).2
      (∃ value, (StandardRange.restoreDefaults, value) ∈ Page.places offset values) drops := by
  by_cases reached : ∃ value, (StandardRange.restoreDefaults, value) ∈ Page.places offset values
  · obtain ⟨value, listed⟩ := reached
    refine .wrote ⟨value, listed⟩ ?_
    rw [renewal_writeSpan listed]
    rfl
  · refine .kept ?_
    rw [writeSpan, Page.zip_span]
    refine renewal_writeEach_of_other (fun place there own => reached ⟨place.2, ?_⟩) node
    rw [← own]
    exact there

theorem renewed_stepRegister (node : Node Clock App) (register : UInt8) (step : UInt8 → UInt8) :
    Renewed node (node.stepRegister register step) (register = StandardRange.restoreDefaults)
      drops := by
  by_cases own : register = StandardRange.restoreDefaults
  · refine .wrote own ?_
    rw [renewal_stepRegister, if_pos own]
    rfl
  · exact .kept (by rw [renewal_stepRegister, if_neg own])

end Places

variable [TimerService Clock] [Application App] {writes drops : Prop}

theorem renewal_reset {node : Node Clock App} (sound : node.lifecycle.fault? = none) :
    node.reset.renewal = node.renewal.reset := by
  have running : ¬node.lifecycle.fault?.isSome = true := by simp [sound]
  have stopped := node.renewal_stopAllTimers
  rw [reset, if_neg running, renewal_log, renewal_enter]
  simp only [renewal, Renewal.mk.injEq, Renewal.reset, restoresTold] at stopped ⊢
  simp [call, emit, List.count_append, stopped]

theorem renewed_reset (node : Node Clock App) : Renewed node node.reset writes drops := by
  cases fault : node.lifecycle.fault? with
  | none =>
      have started : node.reset.lifecycle = .starting :=
        (congrArg NodeCore.lifecycle (core_reset node)).trans (NodeCore.lifecycle_reset fault)
      exact .reset started (renewal_reset fault)
  | some cause =>
      refine .kept ?_
      rw [reset, if_pos (by rw [fault]; rfl)]

theorem renewal_goActive (node : Node Clock App) (nickname : UInt8) :
    (node.goActive nickname).renewal = node.renewal := by
  simp [goActive]

theorem renewal_startDiscovery (node : Node Clock App) :
    node.startDiscovery.renewal = node.renewal := by
  unfold startDiscovery
  rw [renewal_sendProbe, renewal_log, renewal_setLamp]
  exact renewal_stopTimer ..

theorem renewal_enterIdle (node : Node Clock App) : node.enterIdle.renewal = node.renewal := by
  unfold enterIdle
  rw [renewal_log, renewal_call _ (by simp [Effect.Renews])]
  exact renewal_stopAllTimers ..

theorem renewal_segmentHeartbeat (node : Node Clock App) (data : List UInt8)
    (restartsOnChange : Bool) :
    (node.segmentHeartbeat data restartsOnChange).renewal = node.renewal := by
  unfold segmentHeartbeat
  split
  · rfl
  · dsimp only
    split
    · rw [renewal_startDiscovery, renewal_setNickname]
      exact (renewal_writeStore ..).trans (renewal_log ..)
    · rename_i crc rest same
      have kept : (if crc = node.segmentCrc then node else node.setSegmentCrc crc).renewal =
          node.renewal := by
        split
        · rfl
        · exact renewal_writeStore ..
      split <;> exact kept

theorem renewal_enterBootLoader (node : Node Clock App) (arguments : List UInt8) :
    (node.enterBootLoader arguments).renewal = node.renewal := by
  unfold enterBootLoader refuseBootLoader
  split
  · split
    · exact renewal_reply ..
    · split
      · exact renewal_reply ..
      · rw [renewal_enter, renewal_call _ (by simp [Effect.Renews]), renewal_stopAllTimers,
          renewal_log]
  · exact renewal_reply ..

omit [TimerService Clock] in
theorem renewal_restoreFactoryDefaults (node : Node Clock App) :
    (node.call .restoreFactoryDefaults).renewal = node.renewal.restore := by
  simp [renewal, restoresTold, call, emit, List.count_append, Renewal.restore]

omit [TimerService Clock] [Application App] in
theorem renewal_ite_setNickname (node : Node Clock App) (keeps : Prop) [Decidable keeps]
    (nickname : UInt8) :
    (if keeps then node else node.setNickname nickname).renewal = node.renewal := by
  split
  · rfl
  · exact renewal_setNickname ..

/-- Factory defaults go with a reset. -/
theorem renewal_dropNickname_restoring {node : Node Clock App} {request : DropRequest}
    (sound : node.lifecycle.fault? = none) (defaults : request.factoryDefaults = true)
    (stays : request.goIdle = false) :
    (node.dropNickname request).lifecycle = .starting ∧
      (node.dropNickname request).renewal = node.renewal.restore.reset := by
  unfold dropNickname
  extract_lets dropped pending
  have same : dropped.renewal = node.renewal := renewal_ite_setNickname ..
  have state : dropped.lifecycle = node.lifecycle := by
    unfold dropped
    split <;> rfl
  simp only [stays, defaults, Bool.false_eq_true, if_true, if_false]
  have running :
      ((dropped.log .factoryDrop).call .restoreFactoryDefaults).lifecycle.fault? = none :=
    (congrArg Lifecycle.fault? state).trans sound
  constructor
  · exact (congrArg NodeCore.lifecycle (core_reset _)).trans (NodeCore.lifecycle_reset running)
  · rw [renewal_reset running, renewal_restoreFactoryDefaults, renewal_log, same]

theorem renewed_dropNickname {node : Node Clock App} (sound : node.lifecycle.fault? = none)
    (request : DropRequest) :
    Renewed node (node.dropNickname request) writes
      (request.factoryDefaults = true ∧ request.goIdle = false) := by
  by_cases restores : request.factoryDefaults = true ∧ request.goIdle = false
  · obtain ⟨starting, told⟩ := renewal_dropNickname_restoring sound restores.1 restores.2
    exact .dropped restores starting told
  · unfold dropNickname
    extract_lets dropped pending
    have same : dropped.renewal = node.renewal := renewal_ite_setNickname ..
    split
    · exact .kept ((renewal_enterIdle _).trans same)
    · rename_i stays
      split
      · rename_i defaults
        exact absurd ⟨defaults, Bool.eq_false_iff.mpr stays⟩ restores
      · split
        · refine .kept ((renewal_startTimer ..).trans ?_)
          exact (renewal_log ..).trans same
        · exact (renewed_reset _).of_same same

theorem renewed_guidDropFrame {node handled : Node Clock App} {origin : UInt8}
    {data : List UInt8} (acted : node.guidDropFrame origin data = (true, handled)) :
    Renewed node handled writes drops := by
  unfold guidDropFrame at acted
  split at acted
  · cases acted
  · dsimp only at acted
    split at acted
    · cases acted
      exact .kept (renewal_startTimer ..)
    · cases acted
      refine (renewed_reset _).of_same ?_
      rw [renewal_setNickname, renewal_log]
      exact renewal_stopTimer ..
    · cases acted
      exact .kept ((renewal_stopTimer ..).trans (renewal_log ..))
    · cases acted

end Steps

section Commands

variable {Clock App : Type} [TimerService Clock] [Application App] {node handled : Node Clock App}
  {kind : Management} {event : Event}

theorem renewed_addressedCommand (sound : node.lifecycle.fault? = none) {arguments : List UInt8}
    (acted : node.addressedCommand kind arguments = (true, handled)) :
    Renewed node handled (∃ value, node.Orders kind arguments StandardRange.restoreDefaults value)
      (kind = .dropNickname ∧ (arguments.getD 0 0).toNat.testBit 6 = true ∧
        (arguments.getD 0 0).toNat.testBit 7 = false) := by
  unfold addressedCommand replyRegister at acted
  split at acted
  · cases acted
    exact .kept (by simp)
  · split at acted
    · cases acted
      exact .kept (by simp)
    · cases acted
  · cases acted
    refine (renewed_dropNickname sound _).imp id fun asked => ⟨rfl, ?_⟩
    exact DropRequest.restores_iff.mp asked
  · cases acted
    exact .kept ((renewal_reply ..).trans (renewal_readRegister ..))
  · rename_i register value rest
    cases acted
    refine ((renewed_writeRegister ..).reply _ _).imp ?_ False.elim
    rintro rfl
    exact ⟨value, .write ..⟩
  · rename_i register rest
    cases acted
    refine (renewed_stepRegister ..).imp ?_ False.elim
    rintro rfl
    exact ⟨_, .increment ..⟩
  · rename_i register rest
    cases acted
    refine (renewed_stepRegister ..).imp ?_ False.elim
    rintro rfl
    exact ⟨_, .decrement ..⟩
  · cases acted
    exact .kept (renewal_enterBootLoader ..)
  · cases acted
    exact .kept (renewal_pageRead ..)
  · cases acted
    refine ((renewed_writeSpan ..).reply _ _).imp ?_ False.elim
    rintro ⟨value, listed⟩
    exact ⟨value, .page listed⟩
  · cases acted
    exact .kept (renewal_reply ..)
  · cases acted
    exact .kept (renewal_extendedPageRead ..)
  · cases acted
    refine ((renewed_writeSpan ..).reply _ _).imp ?_ False.elim
    rintro ⟨value, listed⟩
    exact ⟨value, .extendedPage listed⟩
  · cases acted

theorem renewed_activeCommand (sound : node.lifecycle.fault? = none)
    (command : event.Manages kind) (acted : node.activeCommand kind event = (true, handled)) :
    Renewed node handled (∃ value, node.OrderedBy event StandardRange.restoreDefaults value)
      (node.DroppedBy event) := by
  unfold activeCommand at acted
  split at acted
  · cases acted
    exact .kept (renewal_segmentHeartbeat ..)
  · split at acted
    · cases acted
      refine .kept ?_
      rw [renewal_startDiscovery, renewal_setNickname, renewal_count, renewal_log]
    · cases acted
  · exact renewed_guidDropFrame acted
  · split at acted
    · cases acted
      exact .kept (renewal_sendFrames ..)
    · cases acted
  · split at acted
    · rename_i addressed
      have named := addressed_of_isAddressed addressed
      refine (renewed_addressedCommand sound acted).imp ?_ ?_
      · rintro ⟨value, orders⟩
        exact ⟨value, _, _, command, named, orders⟩
      · rintro ⟨rfl, bits⟩
        exact ⟨_, command, named, bits⟩
    · cases acted

theorem renewed_handleManagement (sound : node.lifecycle.fault? = none)
    (management : event.classId = Protocol.managementClass) :
    Renewed node (node.handleManagement event).2
      (∃ value, node.OrderedBy event StandardRange.restoreDefaults value)
      (node.DroppedBy event) := by
  rcases node.handleManagement_cases event with
    ⟨-, answer⟩ | ⟨kind, known, ⟨handled, acted, answer⟩ | ⟨-, answer⟩⟩
  · rw [answer]
    exact .kept rfl
  · have command : event.Manages kind :=
      ⟨management, Management.ofTypeId?_eq_some_iff.mp known⟩
    rw [answer]
    exact (renewed_activeCommand sound command acted).followed rfl rfl
  · rw [answer]
    exact .kept rfl

theorem renewal_discoveryCommand (acted : node.discoveryCommand kind event = (true, handled)) :
    handled.renewal = node.renewal := by
  unfold discoveryCommand at acted
  split at acted
  · split at acted
    · cases acted
      unfold acceptNickname
      rw [renewal_goActive, renewal_log, renewal_send, renewal_setNickname, renewal_stopTimer]
    · cases acted
  · split at acted
    · dsimp only at acted
      split at acted
      · cases acted
        exact (renewal_startTimer ..).trans (renewal_log ..)
      · cases acted
        exact renewal_sendProbe ..
      · cases acted
        unfold giveUp
        rw [renewal_enterIdle, renewal_setLamp, renewal_send, renewal_stopTimer]
        exact renewal_log ..
    · cases acted
  · cases acted
    exact renewal_segmentHeartbeat ..
  · cases acted

theorem renewal_handleDiscovery (node : Node Clock App) (event : Event) :
    (node.handleDiscovery event).2.renewal = node.renewal := by
  rcases node.handleDiscovery_cases event with ⟨kind, handled, -, acted, answer⟩ | ⟨-, answer⟩
  · have told : handled.renewal = node.renewal := renewal_discoveryCommand acted
    rw [answer]
    exact told
  · rw [answer]

end Commands

section Calls

variable {Clock App : Type} [TimerService Clock]

/-- The node when the time of the call has passed. -/
def ticked (node : Node Clock App) : HostCall → Node Clock App
  | .tick elapsed | .poll elapsed => node.tick elapsed
  | _ => node

theorem ticked_of_processing {node found : Node Clock App} {call : HostCall}
    (processing : node.processing? call = some found) : node.ticked call = found := by
  cases call <;> cases processing <;> rfl

variable [Application App] {node ready : Node Clock App} {call : HostCall} {event : Event}
  {writes drops : Prop}

theorem renewed_serviceGeneral (node : Node Clock App) :
    Renewed node node.serviceGeneral writes drops := by
  refine Renewed.of_same ?_ (node.renewal_takeExpired .general)
  unfold serviceGeneral onGeneralExpiry
  dsimp only
  split
  · split
    · exact .kept (renewal_sendProbe ..)
    · split
      · refine (renewed_reset _).of_same ?_
        split
        · exact renewal_setNickname ..
        · rfl
      · exact .kept rfl
  · exact .kept rfl

/-- After the general timer the wait and what is told stay as they are. -/
theorem renewal_serviceTimers (node : Node Clock App) :
    node.serviceTimers.renewal = node.serviceGeneral.renewal := by
  simp [serviceTimers, SessionSlot.all]

theorem renewed_serviceTimers (node : Node Clock App) :
    Renewed node node.serviceTimers writes drops := by
  have state : node.serviceTimers.lifecycle = node.serviceGeneral.lifecycle := by
    have general := congrArg NodeCore.lifecycle (core_serviceGeneral node)
    have timers := congrArg NodeCore.lifecycle (core_serviceTimers node)
    exact (timers.trans node.core.elapsed_serviceTimers.lifecycle).trans general.symm
  exact node.renewed_serviceGeneral.followed node.renewal_serviceTimers state

/-- A node that goes on to take an event has not been reset by its timers. -/
theorem Takes.renewal_ready (takes : node.Takes call event ready) :
    ready.renewal = (node.ticked call).renewal := by
  obtain ⟨found, processing, -, -, rfl⟩ := takes.found
  rw [ticked_of_processing processing]
  have served : Renewed found found.serviceTimers False False := found.renewed_serviceTimers
  cases served with
  | kept same => exact same
  | reset starting told =>
      have running := takes.running
      rw [starting] at running
      simp [Lifecycle.Runs] at running
  | dropped asked => exact asked.elim
  | wrote asked => exact asked.elim

theorem Takes.renewed (takes : node.Takes call event ready) :
    Renewed (node.ticked call) (node.serve call).2
      (∃ value, node.Writes call StandardRange.restoreDefaults value)
      (node.DropsToDefaults call) := by
  refine Renewed.of_same ?_ takes.renewal_ready
  obtain ⟨rest, -, served⟩ := takes.serve
  rw [served]
  have heard : (ready.hear rest).renewal = ready.renewal := rfl
  cases state : ready.lifecycle with
  | nicknameDiscovery => exact .kept ((renewal_handleDiscovery ..).trans heard)
  | active =>
      dsimp only
      split
      · rename_i management
        have sound : (ready.hear rest).lifecycle.fault? = none := congrArg Lifecycle.fault? state
        refine ((renewed_handleManagement sound management).of_same heard).imp ?_ ?_
        · rintro ⟨value, kind, arguments, command, addressed, orders⟩
          exact ⟨value, .commanded takes state
            ⟨kind, arguments, command, addressed, (orders_hear rest).mp orders⟩⟩
        · intro dropped
          exact ⟨event, ready, takes, state, dropped⟩
      · exact .kept ((renewal_dispatch ..).trans heard)
  | _ => exact .kept heard

/-- Nothing but a write to the register, a command to drop the nickname for factory defaults and a
reset matters to the wait and to what is told of it. -/
theorem renewed_serve (node : Node Clock App) (call : HostCall) :
    Renewed (node.ticked call) (node.serve call).2
      (∃ value, node.Writes call StandardRange.restoreDefaults value)
      (node.DropsToDefaults call) := by
  have processed {found : Node Clock App} (processing : node.processing? call = some found) :
      Renewed (node.ticked call) (node.serve call).2
        (∃ value, node.Writes call StandardRange.restoreDefaults value)
        (node.DropsToDefaults call) := by
    by_cases running : found.lifecycle.Runs
    · rcases takeEvent_cases processing with quiet | ⟨event, ready, rest, takes, -, -⟩
      · rw [ticked_of_processing processing, serve_of_processing processing,
          process_of_runs running, quiet]
        exact found.renewed_serviceTimers
      · exact takes.renewed
    · rw [ticked_of_processing processing, serve_of_processing processing]
      refine .kept ?_
      unfold process
      split
      · rfl
      · rfl
      · change found.start.renewal = _
        unfold start
        split
        · exact renewal_startDiscovery ..
        · exact renewal_goActive ..
      all_goals
        rename_i state
        simp [state, Lifecycle.Runs] at running
  cases call with
  | tick elapsed => exact .kept rfl
  | process => exact processed rfl
  | poll elapsed => exact processed (show node.processing? (.poll elapsed) = some _ from rfl)
  | readRegister page offset => exact .kept (node.renewal_readRegister page offset)
  | writeRegister page offset value =>
      refine (node.renewed_writeRegister page offset value).imp ?_ False.elim
      rintro rfl
      exact ⟨value, .asked page rfl⟩
  | restart =>
      refine .kept ?_
      change node.restart.renewal = node.renewal
      unfold restart
      split <;> simp
  | reset => exact node.renewed_reset
  | _ => exact .kept rfl

/-- A command that orders a write to the register is carried out. -/
theorem renewal_of_orders {kind : Management} {arguments : List UInt8} {value : UInt8}
    (orders : node.Orders kind arguments StandardRange.restoreDefaults value) :
    ∃ handled, node.addressedCommand kind arguments = (true, handled) ∧
      handled.renewal = node.renewal.write value := by
  have filled {offset : UInt8} {values : List UInt8}
      (listed : (StandardRange.restoreDefaults, value) ∈ Page.places offset values) :
      ∃ first rest, values = first :: rest := by
    apply List.exists_cons_of_ne_nil
    rintro rfl
    simp [Page.places] at listed
  cases orders with
  | write value rest =>
      exact ⟨_, rfl, (renewal_reply ..).trans
        ((node.renewal_writeRegister node.pageSelect _ value).trans (if_pos rfl))⟩
  | increment rest => exact ⟨_, rfl, (renewal_stepRegister ..).trans (if_pos rfl)⟩
  | decrement rest => exact ⟨_, rfl, (renewal_stepRegister ..).trans (if_pos rfl)⟩
  | page listed =>
      obtain ⟨first, rest, rfl⟩ := filled listed
      exact ⟨_, rfl, (renewal_reply ..).trans (renewal_writeSpan listed node _)⟩
  | extendedPage listed =>
      obtain ⟨first, rest, rfl⟩ := filled listed
      exact ⟨_, rfl, (renewal_reply ..).trans (renewal_writeSpan listed node _)⟩

/-- A call that writes the register does to the wait what the value says. -/
theorem renewal_of_writes {value : UInt8}
    (writes : node.Writes call StandardRange.restoreDefaults value) :
    (node.serve call).2.renewal = (node.ticked call).renewal.write value := by
  cases writes with
  | asked page asks =>
      subst asks
      exact (node.renewal_writeRegister page _ value).trans (if_pos rfl)
  | @commanded event ready takes active ordered =>
      obtain ⟨kind, arguments, command, addressed, orders⟩ := ordered
      obtain ⟨rest, -, served⟩ := takes.serve_active active command
      have heard : (ready.hear rest).core.Addressed event arguments := addressed
      obtain ⟨handled, acted, told⟩ := renewal_of_orders ((orders_hear rest).mpr orders)
      have carried : (ready.hear rest).activeCommand kind event = (true, handled) := by
        rw [← acted, ← command_of_addressed heard]
        cases orders <;> rfl
      rw [served, carried, ← takes.renewal_ready]
      exact told

theorem renewal_of_drops (drops : node.DropsToDefaults call) :
    (node.serve call).2.renewal = (node.ticked call).renewal.restore.reset := by
  obtain ⟨event, ready, takes, active, arguments, command, addressed, bits⟩ := drops
  obtain ⟨rest, -, served⟩ := takes.serve_active active command
  have heard : (ready.hear rest).core.Addressed event arguments := addressed
  have carried : (ready.hear rest).activeCommand .dropNickname event = _ :=
    command_of_addressed heard
  have sound : (ready.hear rest).lifecycle.fault? = none := congrArg Lifecycle.fault? active
  obtain ⟨defaults, stays⟩ := DropRequest.restores_iff.mpr bits
  have told := (renewal_dropNickname_restoring sound defaults stays).2
  rw [served, carried, ← takes.renewal_ready]
  exact told

end Calls

end Node

end Vscp
