/-
This file says what is noted of a node during a call of its host, and how the call counts.
-/

import Vscp.Proofs.Account.Command
import Vscp.Proofs.Node.Dispatch

namespace Vscp

/-- What a row does when it fires. -/
def Firing.effects (event : Event) (firing : Firing) : List Effect :=
  [.logged (.rowFires firing), .called (firing.call event)]

def Firing.notes (event : Event) (firing : Firing) : List Note :=
  [.fired firing, .executed firing.action firing.param event]

def RuleHit.notes (event : Event) (hit : RuleHit) : List Note :=
  [.hit hit, .executed hit.action hit.param event]

/-- The rows that fire are counted together as they are one by one. -/
theorem Counters.Capped.record_firings {counters : Counters} (capped : counters.Capped)
    (event : Event) (firings : List Firing) :
    (firings.flatMap (·.effects event)).foldl Counters.record counters = { counters with
      matrixActions := increased counters.matrixActions firings.length } := by
  induction firings generalizing counters with
  | nil =>
      have still : increased counters.matrixActions 0 = counters.matrixActions :=
        Nat.min_eq_left capped
      rw [List.length_nil, still]
      rfl
  | cons firing rest ih =>
      have counted : { counters with
          matrixActions := increased counters.matrixActions 1 : Counters }.Capped :=
        Nat.min_le_right ..
      have together : increased (increased counters.matrixActions 1) rest.length =
          increased counters.matrixActions (rest.length + 1) := by
        unfold increased
        omega
      have onward := ih counted
      rw [together] at onward
      exact onward

namespace Node

section Events

variable {Clock App : Type} (node : Node Clock App) (event : Event)

/-- The faults that the rules report on the event, if the node has rules. -/
def faults : List RuleFault :=
  if node.config.rulesEnabled then (node.engine.evaluate node.ruleset event).1.faults else []

/-- What is noted of an active node on an application event. -/
def judgement : List Note :=
  (node.firings event).flatMap (·.notes event) ++
    ((node.faults event).map .faulted ++ (node.hit? event).toList.flatMap (·.notes event))

/-- What rows and rules do not leave is not in a judgement. -/
theorem filterMap_judgement {Kind : Type} {seen : Note → Option Kind}
    (fired : ∀ firing, seen (.fired firing) = none)
    (executed : ∀ action param event, seen (.executed action param event) = none)
    (hit : ∀ hit, seen (.hit hit) = none) (faulted : ∀ fault, seen (.faulted fault) = none) :
    (node.judgement event).filterMap seen = [] := by
  refine List.filterMap_eq_nil_iff.mpr fun note noted => ?_
  simp only [judgement, Firing.notes, RuleHit.notes, List.mem_append, List.mem_flatMap,
    List.mem_map, List.mem_cons, List.not_mem_nil, or_false] at noted
  rcases noted with ⟨firing, -, rfl | rfl⟩ | ⟨fault, -, rfl⟩ | ⟨rule, -, rfl | rfl⟩
  · exact fired firing
  · exact executed ..
  · exact faulted fault
  · exact hit rule
  · exact executed ..

/-- The event shows an active node that another node has its nickname. -/
def Collides : Prop :=
  node.lifecycle = .active ∧ event.Manages .probeAck ∧ event.origin = node.nickname

variable [Application App]

theorem trace_fireRows (firings : List Firing) :
    (firings.foldl (fireRow event) node).trace =
        node.trace ++ firings.flatMap (·.effects event) ∧
      (firings.foldl (fireRow event) node).counters = node.counters := by
  induction firings generalizing node with
  | nil => exact ⟨(List.append_nil _).symm, rfl⟩
  | cons firing rest ih =>
      obtain ⟨grown, same⟩ := ih (node.fireRow event firing)
      refine ⟨grown.trans ?_, same⟩
      simp [fireRow, Firing.effects, Firing.call, Node.log, Node.call, Node.emit]

theorem faults_runMatrix : (node.runMatrix event).2.faults event = node.faults event := by
  have same := node.core_runMatrix event
  generalize (node.runMatrix event).2 = ran at same ⊢
  have engine : ran.engine = node.engine := congrArg NodeCore.engine same
  have config : ran.config = node.config := congrArg NodeCore.config same
  have store : ran.store = node.store := congrArg NodeCore.store same
  unfold faults ruleset layout
  rw [engine, config, store]

namespace Accounts

theorem runMatrix :
    Accounts node (node.runMatrix event).2 ((node.firings event).flatMap (·.notes event)) where
  config := congrArg NodeCore.config (core_runMatrix ..)
  shown _ := by
    rw [node.runMatrix_eq (rfl : _ = node.firings event)]
    obtain ⟨grown, same⟩ := node.trace_fireRows event (node.firings event)
    refine ⟨_, grown, ?_, fun capped => ?_⟩
    · rw [List.filterMap_flatMap]
      rfl
    · rw [Counters.Capped.record_firings capped event]
      change { ((node.firings event).foldl (fireRow event) node).counters with
        matrixActions := Counters.increased
          ((node.firings event).foldl (fireRow event) node).counters.matrixActions
          (node.firings event).length } = _
      rw [same]

omit [Application App] in
theorem reportFaults (faults : List RuleFault) :
    Accounts node (faults.foldl reportFault node) (faults.map .faulted) := by
  induction faults generalizing node with
  | nil => exact refl node
  | cons fault rest ih =>
      have reported : Accounts node (node.reportFault fault) [.faulted fault] :=
        .of_effects [.logged (.ruleFault fault)] rfl rfl rfl
      exact reported.trans (ih _)

theorem runRules :
    Accounts node (node.runRules event).2
      ((node.faults event).map .faulted ++ (node.hit? event).toList.flatMap (·.notes event)) := by
  unfold Node.runRules faults hit?
  split
  · generalize node.engine.evaluate node.ruleset event = evaluated
    obtain ⟨⟨hit, faults⟩, engine⟩ := evaluated
    have judged : Accounts node { node with engine } [] := .of_same rfl rfl rfl
    have reported := judged.trans (reportFaults { node with engine } faults)
    cases hit with
    | none => exact reported.trans (refl _)
    | some hit =>
        have counted (other : Node Clock App) : Accounts other
            ((other.log (.ruleFires hit)).count fun counters =>
              { counters with ruleActions := Counters.increased counters.ruleActions 1 })
            [.hit hit] :=
          .of_effects [.logged (.ruleFires hit)] rfl rfl rfl
        exact reported.trans ((counted _).trans (call _ (hit.call event)))
  · exact refl node

theorem dispatch : Accounts node (node.dispatch event).2 (node.judgement event) := by
  have rules := runRules (node.runMatrix event).2 event
  rw [faults_runMatrix, hit?_runMatrix] at rules
  have judged := (runMatrix node event).trans rules
  unfold Node.dispatch
  dsimp only
  refine Accounts.trans_quiet ?_ (call _ (.provide event))
  split
  · exact judged.trans_quiet (.of_same rfl rfl rfl)
  · exact judged

end Accounts

end Events

section Responses

variable {Clock App : Type} {node ready : Node Clock App} {event : Event}

/-- What a node notes of an event that it takes, and the state in which that leaves it. -/
inductive Response (node : Node Clock App) (event : Event) : Lifecycle → List Note → Prop where
  | settled {next : Lifecycle}
      (managed : node.lifecycle = .active → event.classId = Protocol.managementClass)
      (apart : ¬node.Collides event)
      (stays : next = node.lifecycle ∨
        node.lifecycle = .active ∧ next ≠ .nicknameDiscovery) : Response node event next []
  | collided (collides : node.Collides event) :
      Response node event .nicknameDiscovery (.collided :: Note.search)
  | moved (active : node.lifecycle = .active) (managed : event.classId = Protocol.managementClass)
      (apart : ¬node.Collides event) : Response node event .nicknameDiscovery Note.search
  | judged (active : node.lifecycle = .active)
      (foreign : event.classId ≠ Protocol.managementClass) :
      Response node event .active (node.judgement event)
  | pursued {next : Lifecycle} {notes : List Note} (searching : node.lifecycle = .nicknameDiscovery)
      (pursuit : Accounts.Pursuit next notes) : Response node event next notes

theorem Collides.kind (collides : node.Collides event) {kind : Management}
    (command : event.Manages kind) : kind = .probeAck :=
  Option.some.inj (command.ofTypeId?.symm.trans collides.2.1.ofTypeId?)

variable [TimerService Clock] [Application App]

/-- A management event moves an active node, or is carried out or left alone without a note. -/
theorem response_of_command (active : ready.lifecycle = .active) {kind : Management}
    (command : event.Manages kind) (rest : List Event) {handled : Node Clock App}
    (acted : (ready.hear rest).activeCommand kind event = (true, handled)) :
    ∃ notes, Response ready event handled.lifecycle notes ∧
      Accounts (ready.hear rest) handled notes := by
  have heard : (ready.hear rest).core.lifecycle = .active := active
  by_cases own : kind = .probeAck ∧ event.origin = ready.nickname
  · obtain ⟨rfl, own⟩ := own
    have met : event.origin = (ready.hear rest).nickname := own
    obtain ⟨accounts, searching⟩ := Accounts.activeCommand_collided met acted
    rw [searching]
    exact ⟨_, .collided ⟨active, command, own⟩, accounts⟩
  · have apart : ¬ready.Collides event := fun collides =>
      own ⟨collides.kind command, collides.2.2⟩
    by_cases moves : kind = .segmentControllerHeartbeat ∧ ∃ crc rest,
        event.data = crc :: rest ∧ crc ≠ ready.segmentCrc
    · obtain ⟨rfl, crc, others, data, other⟩ := moves
      have met : crc ≠ (ready.hear rest).segmentCrc := other
      obtain ⟨accounts, searching⟩ := Accounts.activeCommand_moved data met acted
      rw [searching]
      exact ⟨_, .moved active command.classId apart, accounts⟩
    · have stays : handled.lifecycle ≠ .nicknameDiscovery := fun searching => by
        have step := activeStep_activeCommand acted
        rcases (NodeCore.causes_of_activeStep heard step searching).2 with moved | collided
        · exact moves moved
        · exact own collided
      refine ⟨[], .settled (fun _ => command.classId) apart (.inr ⟨active, stays⟩), ?_⟩
      apply Accounts.activeCommand_quiet acted
      · exact fun answer origin => own ⟨answer, origin⟩
      · exact fun report crc others data => not_not.mp fun other =>
          moves ⟨report, crc, others, data, other⟩

/-- Of an event that is taken exactly its response is noted. -/
theorem handle_accounts (ready : Node Clock App) (event : Event) (rest : List Event) :
    ∃ handled notes, Response ready event handled.lifecycle notes ∧
      Accounts (ready.hear rest) handled notes ∧
      (((ready.queue rest).handle event).2 = handled ∨
        ((ready.queue rest).handle event).2 = handled.countManagement) := by
  have left (managed : ready.lifecycle = .active → event.classId = Protocol.managementClass)
      (apart : ¬ready.Collides event) :
      Response ready event (ready.hear rest).lifecycle [] ∧
        Accounts (ready.hear rest) (ready.hear rest) [] :=
    ⟨.settled managed apart (.inl rfl), .refl _⟩
  rw [handle_queue]
  split
  · rename_i searching
    have still : (ready.hear rest).lifecycle = .nicknameDiscovery := searching
    have ignored : Response ready event (ready.hear rest).lifecycle [] := by
      rw [still]
      exact .pursued searching .quiet
    rcases (ready.hear rest).handleDiscovery_cases event with
      ⟨kind, handled, -, acted, answer⟩ | ⟨-, answer⟩
    · obtain ⟨notes, pursuit, accounts⟩ := Accounts.discoveryCommand still acted
      rw [answer]
      exact ⟨handled, notes, .pursued searching pursuit, accounts, .inr rfl⟩
    · rw [answer]
      exact ⟨_, [], ignored, .refl _, .inl rfl⟩
  · rename_i active
    split
    · rename_i management
      rcases (ready.hear rest).handleManagement_cases event with
        ⟨unknown, answer⟩ | ⟨kind, known, answered⟩
      · have apart : ¬ready.Collides event := fun collides =>
          absurd (unknown.symm.trans collides.2.1.ofTypeId?) (by simp)
        obtain ⟨settled, accounts⟩ := left (fun _ => management) apart
        rw [answer]
        exact ⟨_, [], settled, accounts, .inl rfl⟩
      · have command : event.Manages kind :=
          ⟨management, Management.ofTypeId?_eq_some_iff.mp known⟩
        rcases answered with ⟨handled, acted, answer⟩ | ⟨unmoved, answer⟩
        · obtain ⟨notes, response, accounts⟩ := response_of_command active command rest acted
          rw [answer]
          exact ⟨handled, notes, response, accounts, .inr rfl⟩
        · have apart : ¬ready.Collides event := fun collides => by
            have acted : (ready.hear rest).activeCommand .probeAck event = (true, _) :=
              if_pos collides.2.2
            rw [collides.kind command, acted] at unmoved
            cases unmoved
          obtain ⟨settled, accounts⟩ := left (fun _ => management) apart
          rw [answer]
          exact ⟨_, [], settled, accounts, .inr rfl⟩
    · rename_i foreign
      have dispatched := Accounts.dispatch (ready.hear rest) event
      obtain ⟨engine, event?, core⟩ := (ready.hear rest).core_dispatch event
      have still : ((ready.hear rest).dispatch event).2.lifecycle = .active :=
        (congrArg NodeCore.lifecycle core).trans active
      refine ⟨_, _, ?_, dispatched, .inl rfl⟩
      rw [still]
      exact .judged active foreign
  · rename_i others
    obtain ⟨settled, accounts⟩ := left (fun active => absurd active (by assumption))
      fun collides => absurd collides.1 (by assumption)
    exact ⟨_, [], settled, accounts, .inl rfl⟩

end Responses

section Expiry

variable {Clock App : Type} [TimerService Clock] (node : Node Clock App)

def heartbeat : Note :=
  .beat node.nickname [0, node.config.zone, node.config.subZone]

/-- The heartbeat of an active node has run out, and no reset comes before it. -/
def BeatDue : Prop :=
  node.lifecycle = .active ∧ ¬node.core.ResetDue ∧ node.core.expired .heartbeat = true ∧
    node.nickname ≠ Protocol.unassigned

instance : Decidable node.BeatDue :=
  inferInstanceAs (Decidable (_ ∧ _ ∧ _ ∧ _))

/-- What is noted of a running node that serves its timers: the next probe of a search, or the
heartbeat of an active node. -/
def overdue : List Note :=
  if node.lifecycle = .nicknameDiscovery ∧ node.core.expired .general = true then
    [.online Protocol.unassigned [node.discovery.timeout.candidate]]
  else if node.BeatDue then [node.heartbeat]
  else []

namespace Accounts

theorem serviceSession (slot : SessionSlot) : Accounts node (node.serviceSession slot) [] := by
  have seen := takeExpired node slot.timer
  unfold Node.serviceSession
  generalize node.takeExpired slot.timer = taken at seen
  obtain ⟨expired, after⟩ := taken
  dsimp only
  split
  · have closed (sessions : GuidDropSessions) : Accounts node { after with sessions } [] :=
      seen.trans (.of_same rfl rfl rfl)
    split
    · exact (closed _).trans (log _ _ fun _ => rfl)
    · exact closed _
  · exact seen

theorem serviceHeartbeat : Accounts node node.serviceHeartbeat
    (if node.core.expired .heartbeat = true ∧ node.lifecycle = .active ∧
        node.nickname ≠ Protocol.unassigned then [node.heartbeat] else []) := by
  obtain ⟨after, taken, core⟩ := node.takeExpired_eq .heartbeat
  have lifecycle : after.lifecycle = node.lifecycle := congrArg NodeCore.lifecycle core
  have nickname : after.nickname = node.nickname := congrArg NodeCore.nickname core
  have config : after.config = node.config := congrArg NodeCore.config core
  have seen := takeExpired node .heartbeat
  unfold Node.serviceHeartbeat
  rw [taken] at seen ⊢
  dsimp only
  rw [lifecycle, nickname]
  split
  · have beat := send after Protocol.informationClass Protocol.nodeHeartbeatType after.nickname
      (show [0, after.config.zone, after.config.subZone].length ≤ 8 by simp)
    have beating := (seen.trans beat).trans_quiet (startHeartbeat _)
    rw [nickname, config] at beating
    unfold sendHeartbeat
    rw [nickname, config]
    exact beating
  · exact seen

variable [Application App]

theorem serviceGeneral : Accounts node node.serviceGeneral
    (if node.lifecycle = .nicknameDiscovery ∧ node.core.expired .general = true then
      [.online Protocol.unassigned [node.discovery.timeout.candidate]] else []) := by
  obtain ⟨after, taken, core⟩ := node.takeExpired_eq .general
  have lifecycle : after.lifecycle = node.lifecycle := congrArg NodeCore.lifecycle core
  have discovery : after.discovery = node.discovery := congrArg NodeCore.discovery core
  have seen := takeExpired node .general
  unfold Node.serviceGeneral
  rw [taken] at seen ⊢
  dsimp only
  by_cases due : node.core.expired .general = true
  · rw [if_pos due, onGeneralExpiry]
    by_cases searching : after.lifecycle = .nicknameDiscovery
    · rw [if_pos searching, if_pos ⟨lifecycle.symm.trans searching, due⟩, ← discovery]
      have tracked : Accounts after { after with discovery := after.discovery.timeout } [] :=
        .of_same rfl rfl rfl
      exact (seen.trans tracked).trans (sendProbe _)
    · have settled : ¬(node.lifecycle = .nicknameDiscovery ∧ node.core.expired .general = true) :=
        fun probing => searching (lifecycle.trans probing.1)
      rw [if_neg searching, if_neg settled]
      split
      · have forgotten : Accounts after
            (if after.clearNickname then after.setNickname Protocol.unassigned else after) [] := by
          split
          · exact setNickname after _
          · exact refl after
        exact (seen.trans forgotten).trans (reset _)
      · exact seen
  · rw [if_neg due, if_neg fun probing => due probing.2]
    exact seen

end Accounts

end Expiry

variable {Clock App : Type} [TimerService Clock] [Application App]

/-- Of the timers that expired exactly what is overdue is noted. -/
theorem Accounts.serviceTimers (node : Node Clock App) :
    Accounts node node.serviceTimers node.overdue := by
  have general := Accounts.serviceGeneral node
  have sessions := (general.trans_quiet (serviceSession _ .first)).trans_quiet
    (serviceSession _ .second)
  have core : ((node.serviceGeneral.serviceSession .first).serviceSession .second).core =
      (node.core.serviceGeneral.serviceSession .first).serviceSession .second := by
    rw [← core_serviceGeneral, ← core_serviceSession, ← core_serviceSession]
  have served : node.serviceTimers =
      ((node.serviceGeneral.serviceSession .first).serviceSession .second).serviceHeartbeat := rfl
  rw [served]
  generalize (node.serviceGeneral.serviceSession .first).serviceSession .second = later
    at core sessions
  suffices noted : node.overdue =
      (if node.lifecycle = .nicknameDiscovery ∧ node.core.expired .general = true then
        [.online Protocol.unassigned [node.discovery.timeout.candidate]] else []) ++
      (if later.core.expired .heartbeat = true ∧ later.lifecycle = .active ∧
        later.nickname ≠ Protocol.unassigned then [later.heartbeat] else []) by
    rw [noted]
    exact sessions.trans (serviceHeartbeat later)
  unfold overdue BeatDue
  by_cases due : node.core.ResetDue
  · have asleep : later.lifecycle ≠ .active := fun active => by
      have onward := later.core.elapsed_serviceHeartbeat.lifecycle.trans active
      rw [core] at onward
      exact lifecycle_of_resetDue due (.inr (.inl onward))
    have settled : node.lifecycle ≠ .nicknameDiscovery := due.1
    simp [settled, due, asleep]
  · have waited : NodeCore.Elapsed node.core later.core := core ▸
      ((NodeCore.elapsed_serviceGeneral due).trans (NodeCore.elapsed_serviceSession _ _)).trans
        (NodeCore.elapsed_serviceSession _ _)
    have lifecycle : later.lifecycle = node.lifecycle := waited.lifecycle
    have nickname : later.nickname = node.nickname := waited.nickname
    have config : later.config = node.config := waited.config
    by_cases active : node.lifecycle = .active
    · have expired : later.core.expired .heartbeat = node.core.expired .heartbeat :=
        core ▸ NodeCore.expired_heartbeat_of_early due active
      simp [heartbeat, active, due, lifecycle, nickname, config, expired]
    · simp [active, lifecycle]

end Node

end Vscp
