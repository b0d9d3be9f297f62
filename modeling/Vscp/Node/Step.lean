/-
This file builds a node and defines the calls by which its host drives it.
-/

import Vscp.Node.Command

namespace Vscp.Node

variable {Clock App : Type} [TimerService Clock] [Application App]

/-- A node is built from usable settings. Without four timers it starts in the error state. -/
def build (config : Config) (store : Store) (transport : Transport) (clock : Clock) (app : App) :
    Except ConfigError (Node Clock App) :=
  config.check.map fun _ =>
    let (answers, clock) := TimerBank.createMany 4 clock
    let node : Node Clock App :=
      { config, store, transport, clock, app
        bank := TimerBank.ofAnswers? answers
        lifecycle := .starting
        discovery := .new
        sessions := .empty
        timeSinceEpoch := 0
        uptime := 0
        pageSelect := 0
        alarm := 0
        restoreArmedAt := none
        resetPending := false
        clearNickname := false
        engine := .new
        lastMatrixEvent := none
        counters := {}
        trace := answers.map .timerCreated }
    if node.bank.isSome then node
    else ((node.log .timersExhausted).enter (.error .timerExhausted)).call (.error .timerExhausted)

def receive (node : Node Clock App) (event : Event) : Node Clock App :=
  { node with
    transport := { node.transport with inbox := node.transport.inbox ++ [event] } }

/-- The longest uptime, in milliseconds, that is told apart. -/
def longestUptime : Nat := 0xFFFFFFFFFFFFFFFF

def tick (node : Node Clock App) (elapsed : Nat) : Node Clock App :=
  { node with
    clock := TimerService.advance node.clock elapsed
    uptime := min (node.uptime + elapsed) longestUptime }

/-- The host leaves an idle state or a boot loader; an error stays. -/
def restart (node : Node Clock App) : Node Clock App :=
  if node.lifecycle.fault?.isSome then node
  else (node.log .restartRequested).enter .starting

def raiseAlarm (node : Node Clock App) (bits : UInt8) : Node Clock App :=
  { node with alarm := node.alarm ||| bits }

def clearCounters (node : Node Clock App) : Node Clock App :=
  { node with counters := {} }

def clearRuleFault (node : Node Clock App) : Node Clock App :=
  { node with engine := .new }

/-- The effects so far, and the node without them. -/
def takeTrace (node : Node Clock App) : List Effect × Node Clock App :=
  (node.trace, { node with trace := [] })

def start (node : Node Clock App) : Node Clock App :=
  if node.nickname = Protocol.unassigned then node.startDiscovery else node.goActive node.nickname

/-- An unanswered probe, or the end of the delay before a reset. -/
def onGeneralExpiry (node : Node Clock App) : Node Clock App :=
  if node.lifecycle = .nicknameDiscovery then
    { node with discovery := node.discovery.timeout }.sendProbe
  else if node.resetPending then
    (if node.clearNickname then node.setNickname Protocol.unassigned else node).reset
  else node

def serviceGeneral (node : Node Clock App) : Node Clock App :=
  let (expired, node) := node.takeExpired .general
  if expired then node.onGeneralExpiry else node

/-- A session whose timer has expired is discarded. -/
def serviceSession (node : Node Clock App) (slot : SessionSlot) : Node Clock App :=
  let (expired, node) := node.takeExpired slot.timer
  if expired then
    let (discarded, sessions) := node.sessions.expire slot
    let closed := { node with sessions }
    if discarded then closed.log (.sessionExpired slot.index) else closed
  else node

def sendHeartbeat (node : Node Clock App) : Node Clock App :=
  (node.send Protocol.informationClass Protocol.nodeHeartbeatType node.nickname
    [0, node.config.zone, node.config.subZone]).startHeartbeat

def serviceHeartbeat (node : Node Clock App) : Node Clock App :=
  let (expired, node) := node.takeExpired .heartbeat
  if expired ∧ node.lifecycle = .active ∧ node.nickname ≠ Protocol.unassigned then
    node.sendHeartbeat
  else node

def serviceTimers (node : Node Clock App) : Node Clock App :=
  (SessionSlot.all.foldl serviceSession node.serviceGeneral).serviceHeartbeat

/-- The rows of the matrix with their extension rows. -/
def matrix (node : Node Clock App) : List (MatrixRow × ExtensionRow) :=
  (List.range node.config.matrixRows.toNat).map fun index =>
    (MatrixRow.ofBytes (node.store.readMany (Layout.row index) Layout.rowLength),
      ExtensionRow.ofBytes
        (node.store.readMany (node.layout.extensionRow index) Layout.extensionRowLength))

def ruleset (node : Node Clock App) : List UInt8 :=
  node.store.readMany node.layout.rulesetBase node.config.rulesetCapacity.toNat

def fireRow (event : Event) (node : Node Clock App) (firing : Firing) : Node Clock App :=
  (node.log (.rowFires firing)).call (.execute firing.action firing.param event)

/-- Every row that the event meets fires. -/
def runMatrix (node : Node Clock App) (event : Event) : Nat × Node Clock App :=
  let matrix := node.matrix
  let (fired, told) := Firing.evaluate (fireRow event) (matrix.map (·.1)) (matrix.map (·.2)) event
    ⟨node.config.zone, node.config.subZone⟩ node
  (fired, told.count fun counters =>
    { counters with matrixActions := Counters.increased counters.matrixActions fired })

def reportFault (node : Node Clock App) (fault : RuleFault) : Node Clock App :=
  (node.log (.ruleFault fault)).count (·.recordRuleFault fault)

/-- The first rule that the event meets fires. -/
def runRules (node : Node Clock App) (event : Event) : Option RuleHit × Node Clock App :=
  if node.config.rulesEnabled then
    let (evaluation, engine) := node.engine.evaluate node.ruleset event
    let reported := evaluation.faults.foldl reportFault { node with engine }
    match evaluation.hit with
    | none => (none, reported)
    | some hit =>
        let counted := (reported.log (.ruleFires hit)).count fun counters =>
          { counters with ruleActions := Counters.increased counters.ruleActions 1 }
        (some hit, counted.call (.execute hit.action hit.param event))
  else (none, node)

/-- An application event goes through both matrices and then to the application. -/
def dispatch (node : Node Clock App) (event : Event) : Outcome × Node Clock App :=
  let (fired, node) := node.runMatrix event
  let (hit, node) := node.runRules event
  let remembered :=
    if 0 < fired ∨ hit.isSome then { node with lastMatrixEvent := some event } else node
  (.application fired hit, remembered.call (.provide event))

/-- One received event. -/
def handle (node : Node Clock App) (event : Event) : Outcome × Node Clock App :=
  let counted := node.count fun counters =>
    { counters with rxEvents := Counters.increased counters.rxEvents 1 }
  match node.lifecycle with
  | .nicknameDiscovery => counted.handleDiscovery event
  | .active =>
      if event.classId = Protocol.managementClass then counted.handleManagement event
      else counted.dispatch event
  | _ => (.ignored, counted)

/-- The first event of the inbox, if the state still takes events. -/
def takeEvent (node : Node Clock App) : Outcome × Node Clock App :=
  if node.lifecycle.isInert ∨ node.lifecycle = .starting then (.noEvent, node)
  else
    match node.transport.inbox with
    | [] => (.noEvent, node)
    | event :: rest =>
        { node with transport := { node.transport with inbox := rest } }.handle event

/-- Expired timers first, then at most one event. -/
def process (node : Node Clock App) : Outcome × Node Clock App :=
  match node.lifecycle with
  | .error _ | .bootLoaderHandoff => (.inert, node)
  | .starting => (.started, node.start)
  | .nicknameDiscovery | .active | .idle => node.serviceTimers.takeEvent

def poll (node : Node Clock App) (elapsed : Nat) : Outcome × Node Clock App :=
  (node.tick elapsed).process

end Vscp.Node
