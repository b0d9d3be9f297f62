/-
This file carries out the management events that a node receives.
-/

import Vscp.Node.Register

namespace Vscp

/-- Why a request for the boot loader is refused. -/
inductive BootRefusal where
  | algorithm
  | guid
  | malformed
  deriving DecidableEq, Repr

def BootRefusal.code : BootRefusal → UInt8
  | algorithm => 1
  | guid => 2
  | malformed => 3

/-- What becomes of a node that gives up its nickname. -/
structure DropRequest where
  keepNickname : Bool
  factoryDefaults : Bool
  goIdle : Bool
  delay : Nat
  deriving DecidableEq, Repr

/-- Bits 5 to 7 of the control byte; the delay counts in seconds. -/
def DropRequest.ofBytes (flags delay : UInt8) : DropRequest where
  keepNickname := flags &&& 0x20 != 0
  factoryDefaults := flags &&& 0x40 != 0
  goIdle := flags &&& 0x80 != 0
  delay := delay.toNat

/-- A delayed reset keeps the nickname until it happens. -/
def DropRequest.delayed (request : DropRequest) : Bool :=
  !request.goIdle && !request.factoryDefaults && 0 < request.delay

namespace Node

variable {Clock App : Type} [TimerService Clock] [Application App]

/-- A restart by protocol: timers stop and every command in progress is forgotten. -/
def reset (node : Node Clock App) : Node Clock App :=
  if node.lifecycle.fault?.isSome then node
  else
    let stopped := node.stopAllTimers
    let cleared := { stopped with
      sessions := .empty
      resetPending := false
      clearNickname := false
      restoreArmedAt := none }
    ((cleared.call .reset).enter .starting).log .reset

def startHeartbeat (node : Node Clock App) : Node Clock App :=
  if node.config.heartbeatPeriod = 0 then node
  else node.startTimer .heartbeat node.config.heartbeatPeriod

/-- The node announces its nickname. -/
def goActive (node : Node Clock App) (nickname : UInt8) : Node Clock App :=
  let announced :=
    node.send Protocol.managementClass Management.newNodeOnline.typeId nickname [nickname]
  (((announced.setLamp .on).startHeartbeat).enter .active).log (.active nickname)

/-- The node asks whether the candidate is taken. -/
def sendProbe (node : Node Clock App) : Node Clock App :=
  let candidate := node.discovery.candidate
  let asked := (node.log (.probing candidate)).send Protocol.managementClass
    Management.newNodeOnline.typeId Protocol.unassigned [candidate]
  asked.startTimer .general
    (if node.discovery.awaitingAssignment then node.config.assignmentTimeout
      else node.config.probeTimeout)

def startDiscovery (node : Node Clock App) : Node Clock App :=
  let silenced := node.stopTimer .heartbeat
  let searching := { silenced with discovery := .new }.count fun counters =>
    { counters with discoveryRestarts := Counters.increased counters.discoveryRestarts 1 }
  ((searching.enter .nicknameDiscovery).setLamp .blink).log .discoveryStarted |>.sendProbe

def enterIdle (node : Node Clock App) : Node Clock App :=
  let stopped := { node.stopAllTimers with sessions := .empty, resetPending := false }
  ((stopped.enter .idle).call .idle).log .idle

/-- The segment controller reports its check sum and the time. An active node that meets another
check sum than the stored one has been moved and searches for a new nickname. -/
def segmentHeartbeat (node : Node Clock App) (data : List UInt8) (restartsOnChange : Bool) :
    Node Clock App :=
  match data with
  | [] => node
  | crc :: _ =>
      let stored := node.segmentCrc
      if crc ≠ stored ∧ restartsOnChange then
        (((node.log (.segmentChanged stored crc)).setSegmentCrc crc).setNickname
          Protocol.unassigned).startDiscovery
      else
        let kept := if crc = stored then node else node.setSegmentCrc crc
        match Bytes.field? 4 data 1 with
        | some time => { kept with timeSinceEpoch := time }
        | none => kept

def dropNickname (node : Node Clock App) (request : DropRequest) : Node Clock App :=
  let dropped :=
    if request.keepNickname || request.delayed then node else node.setNickname Protocol.unassigned
  if request.goIdle then dropped.enterIdle
  else if request.factoryDefaults then
    ((dropped.log .factoryDrop).call .restoreFactoryDefaults).reset
  else if 0 < request.delay then
    let pending := { dropped.log (.resetDelayed request.delay) with
      resetPending := true
      clearNickname := !request.keepNickname }
    pending.startTimer .general (request.delay * 1000)
  else dropped.reset

def refuseBootLoader (node : Node Clock App) (refusal : BootRefusal) : Node Clock App :=
  node.reply .nackBootLoader [refusal.code]

/-- The boot loader takes over when the algorithm is that of the node and six bytes end its
identity. -/
def enterBootLoader (node : Node Clock App) (arguments : List UInt8) : Node Clock App :=
  match arguments with
  | [algorithm, first, second, third, fourth, fifth, sixth] =>
      if algorithm = Config.noBootLoader ∨ algorithm ≠ node.config.bootLoaderAlgorithm then
        node.refuseBootLoader .algorithm
      else if node.guid.drop 10 ≠ [first, second, third, fourth, fifth, sixth] then
        node.refuseBootLoader .guid
      else
        (((node.log (.bootLoader algorithm)).stopAllTimers).call
          (.bootLoader algorithm)).enter .bootLoaderHandoff
  | _ => node.refuseBootLoader .malformed

/-- A frame of another node that withdraws the nickname of the node with a certain identity. The
answer of a handler tells whether the frame was meant for the node. -/
def guidDropFrame (node : Node Clock App) (origin : UInt8) (data : List UInt8) :
    Bool × Node Clock App :=
  match data with
  | [] => (false, node)
  | index :: bytes =>
      let (outcome, sessions) := node.sessions.accept origin index bytes node.guid
      let accepted := { node with sessions }
      match outcome with
      | .progress slot => (true, accepted.startTimer slot.timer node.config.multiFrameTimeout)
      | .complete slot =>
          (true, (((accepted.stopTimer slot.timer).log (.guidDrop origin)).setNickname
            Protocol.unassigned).reset)
      | .dropped (some slot) =>
          (true, (accepted.log (.sessionDiscarded slot.index)).stopTimer slot.timer)
      | .dropped none => (false, accepted)

def sendFrames (node : Node Clock App) (kind : Management)
    (frames : List (List UInt8)) : Node Clock App :=
  frames.foldl (fun node frame => node.reply kind frame) node

def pageRead (node : Node Clock App) (offset : UInt8) (count : Nat) : Node Clock App :=
  let (values, node) := node.readSpan node.pageSelect offset count
  node.sendFrames .rwPageResponse
    ((Page.frames Page.frameValues values).map fun (index, piece) => index :: piece)

/-- The number of the first register in a frame of an extended page command. -/
def frameStart (offset index : UInt8) : UInt8 :=
  UInt8.ofNat (min (offset.toNat + index.toNat * Page.extendedFrameValues) 255)

def extendedPageRead (node : Node Clock App) (page : UInt16) (offset : UInt8) (count : Nat) :
    Node Clock App :=
  let (values, node) := node.readSpan page offset count
  node.sendFrames .extendedPageResponse
    ((Page.frames Page.extendedFrameValues values).map fun (index, piece) =>
      index :: Bytes.write 2 page.toNat ++ frameStart offset index :: piece)

/-- Seven frames hold the identity, the address of the module description file and a zero. -/
def whoIsThere (node : Node Clock App) : Node Clock App :=
  node.sendFrames .whoIsThereResponse
    ((Page.frames Page.frameValues (node.guid ++ node.config.mdfBytes ++ [0])).map
      fun (index, piece) => index :: piece)

def matrixInformation (config : Config) : List UInt8 :=
  let page := Bytes.write 2 config.matrixPage.toNat
  config.matrixRows :: 0 :: page ++ page ++ [UInt8.ofNat Layout.rowLength]

/-- The node answers with the register and its value. -/
def replyRegister (node : Node Clock App) (register value : UInt8) : Node Clock App :=
  node.reply .rwResponse [register, value]

def stepRegister (node : Node Clock App) (register : UInt8) (step : UInt8 → UInt8) :
    Node Clock App :=
  let page := node.pageSelect
  let target := node.registerMap.resolve page register
  let (value, node) := node.peek target page register
  let (answer, node) := node.writeRegister page register (step value)
  node.replyRegister register answer

/-- The commands that name the node by its nickname, which the arguments follow. -/
def addressedCommand (node : Node Clock App) (kind : Management) (arguments : List UInt8) :
    Bool × Node Clock App :=
  match kind, arguments with
  | .newNodeOnline, _ => (true, (node.log (.defending node.nickname)).reply .probeAck [])
  | .setNicknameId, new :: _ =>
      if new ≤ Protocol.highestNickname then
        (true, ((node.setNickname new).log (.nicknameChanged node.nickname new)).reply
          .nicknameIdAccepted [])
      else (false, node)
  | .dropNickname, arguments =>
      (true, node.dropNickname (.ofBytes (arguments.getD 0 0) (arguments.getD 1 0)))
  | .readRegister, register :: _ =>
      let (value, node) := node.readRegister node.pageSelect register
      (true, node.replyRegister register value)
  | .writeRegister, register :: value :: _ =>
      let (answer, node) := node.writeRegister node.pageSelect register value
      (true, node.replyRegister register answer)
  | .incrementRegister, register :: _ => (true, node.stepRegister register (· + 1))
  | .decrementRegister, register :: _ => (true, node.stepRegister register (· - 1))
  | .enterBootLoader, arguments => (true, node.enterBootLoader arguments)
  | .pageRead, offset :: count :: _ => (true, node.pageRead offset count.toNat)
  | .pageWrite, offset :: value :: rest =>
      let (answers, node) := node.writeSpan node.pageSelect offset (value :: rest)
      (true, node.reply .rwPageResponse (0 :: answers))
  | .getDmInfo, _ => (true, node.reply .dmInfoResponse (matrixInformation node.config))
  | .extendedPageRead, high :: low :: offset :: rest =>
      let count :=
        match rest with
        | [] => 1
        | count :: _ => if count = 0 then Page.length else count.toNat
      (true, node.extendedPageRead (UInt16.ofNat (Bytes.value [high, low])) offset count)
  | .extendedPageWrite, high :: low :: offset :: value :: rest =>
      let (answers, node) :=
        node.writeSpan (UInt16.ofNat (Bytes.value [high, low])) offset (value :: rest)
      (true, node.reply .extendedPageResponse (0 :: high :: low :: offset :: answers))
  | _, _ => (false, node)

/-- The event names the node; a node without nickname is named by no event. -/
def isAddressed (node : Node Clock App) (event : Event) : Bool :=
  node.nickname != Protocol.unassigned && event.data.head? == some node.nickname

/-- What an active node does on a management event, and whether it was meant for the node. -/
def activeCommand (node : Node Clock App) (kind : Management) (event : Event) :
    Bool × Node Clock App :=
  match kind with
  | .segmentControllerHeartbeat => (true, node.segmentHeartbeat event.data true)
  | .probeAck =>
      if event.origin = node.nickname then
        let counted := (node.log (.collision node.nickname)).count fun counters =>
          { counters with
            nicknameCollisions := Counters.increased counters.nicknameCollisions 1 }
        (true, (counted.setNickname Protocol.unassigned).startDiscovery)
      else (false, node)
  | .guidDropNickname => node.guidDropFrame event.origin event.data
  | .whoIsThere =>
      if event.data.head?.any fun target => target == node.nickname || target == Protocol.unassigned
      then (true, node.whoIsThere)
      else (false, node)
  | kind =>
      if node.isAddressed event then node.addressedCommand kind event.data.tail else (false, node)

/-- Every candidate is taken. -/
def giveUp (node : Node Clock App) : Node Clock App :=
  let stopped := (node.log .noFreeNickname).stopTimer .general
  ((stopped.send Protocol.managementClass Management.newNodeOnline.typeId Protocol.unassigned
    [Protocol.unassigned]).setLamp .off).enterIdle

def acceptNickname (node : Node Clock App) (nickname : UInt8) : Node Clock App :=
  let assigned := (node.stopTimer .general).setNickname nickname
  ((assigned.send Protocol.managementClass Management.nicknameIdAccepted.typeId nickname []).log
    (.nicknameAssigned nickname)).goActive nickname

/-- What a node that searches for a nickname does on a management event, and whether it was meant
for the node. -/
def discoveryCommand (node : Node Clock App) (kind : Management) (event : Event) :
    Bool × Node Clock App :=
  match kind, event.data with
  | .setNicknameId, old :: new :: _ =>
      if node.discovery.isAddressed old && new ≤ Protocol.highestNickname then
        (true, node.acceptNickname new)
      else (false, node)
  | .probeAck, _ =>
      if event.origin = node.discovery.candidate then
        let (outcome, discovery) := node.discovery.acknowledge
        let acknowledged := { node with discovery }
        match outcome with
        | .masterPresent =>
            (true, (acknowledged.log .masterPresent).startTimer .general
              node.config.assignmentTimeout)
        | .taken => (true, acknowledged.sendProbe)
        | .exhausted => (true, acknowledged.giveUp)
      else (false, node)
  | .segmentControllerHeartbeat, data => (true, node.segmentHeartbeat data false)
  | _, _ => (false, node)

def countManagement (node : Node Clock App) : Node Clock App :=
  node.count fun counters =>
    { counters with protocolEvents := Counters.increased counters.protocolEvents 1 }

/-- An active node counts every management event of a known type. -/
def handleManagement (node : Node Clock App) (event : Event) : Outcome × Node Clock App :=
  match Management.ofTypeId? event.typeId with
  | none => (.ignored, node)
  | some kind =>
      let (handled, node) := node.activeCommand kind event
      (if handled then .management event.typeId else .ignored, node.countManagement)

/-- A searching node counts the management events that it acts on. -/
def handleDiscovery (node : Node Clock App) (event : Event) : Outcome × Node Clock App :=
  if event.classId = Protocol.managementClass then
    let (handled, node) :=
      match Management.ofTypeId? event.typeId with
      | some kind => node.discoveryCommand kind event
      | none => (false, node)
    if handled then (.management event.typeId, node.countManagement) else (.ignored, node)
  else (.ignored, node)

end Node

end Vscp
