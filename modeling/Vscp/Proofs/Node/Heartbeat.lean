/-
This file proves that an active node sends a heartbeat exactly when its period has passed since it
last sent one or announced its nickname.
-/

import Vscp.Proofs.Node.Deadline
import Vscp.Proofs.Node.Diagnosis
import Vscp.Proofs.Split

namespace Vscp

namespace NodeCore

variable {core after : NodeCore SoftTimers} {event : Event} {kind : Management}

/-- A heartbeat that is started has the whole period left. -/
theorem Wired.left?_startHeartbeat (wired : core.Wired) (banked : core.bank.isSome = true)
    (periodic : core.config.heartbeatPeriod ≠ 0) :
    core.startHeartbeat.left? .heartbeat = some core.config.heartbeatPeriod := by
  obtain ⟨bank, there⟩ := Option.isSome_iff_exists.mp banked
  rw [startHeartbeat, if_neg periodic, wired.left?_start, if_pos rfl, there]
  rfl

theorem ActiveStep.left?_heartbeat (wired : core.Wired) (active : core.lifecycle = .active)
    (step : ActiveStep core event kind after) (still : after.lifecycle = .active) :
    after.left? .heartbeat = core.left? .heartbeat := by
  have sound : core.lifecycle.fault? = none := by rw [active]; rfl
  cases step with
  | accessed access => exact congrArg (·.left? .heartbeat) access.others
  | timed data same => rfl
  | moved data other => cases still
  | collided own => cases still
  | renamed addressed valid => rfl
  | parked addressed decoded idle => cases still
  | dropped addressed decoded stays atOnce =>
      rw [lifecycle_reset (by rwa [lifecycle_withdraw])] at still
      cases still
  | delayed addressed decoded later =>
      rename_i arguments request
      have owing : Wired { core with
          resetPending := true, clearNickname := !request.keepNickname } := wired.of_wiring rfl
      rw [owing.left?_start, if_neg (by decide)]
      rfl
  | handedOver addressed present own identified => cases still
  | progressed data accepted =>
      rename_i index bytes slot sessions
      have tracked : Wired { core with sessions } := wired.of_wiring rfl
      rw [tracked.left?_start, if_neg slot.timer_ne_heartbeat.symm]
      rfl
  | completed data accepted =>
      rename_i index bytes slot sessions
      have running : (({ core with sessions }.stop slot.timer).setNickname
          Protocol.unassigned).lifecycle.fault? = none := sound
      rw [lifecycle_reset running] at still
      cases still
  | discarded data accepted =>
      rename_i index bytes slot sessions
      have tracked : Wired { core with sessions } := wired.of_wiring rfl
      rw [tracked.left?_stop, if_neg slot.timer_ne_heartbeat.symm]
      rfl

/-- A searching node that becomes active starts its heartbeat. -/
theorem SearchStep.left?_heartbeat (wired : core.Wired) (banked : core.bank.isSome = true)
    (periodic : core.config.heartbeatPeriod ≠ 0) (searching : core.lifecycle = .nicknameDiscovery)
    (step : SearchStep core event kind after) (active : after.lifecycle = .active) :
    after.left? .heartbeat = some core.config.heartbeatPeriod := by
  have apart : core.lifecycle ≠ .active := by simp [searching]
  cases step with
  | assigned data addressed valid =>
      rename_i old new rest
      have settled : ((core.stop .general).setNickname new).Wired :=
        wired.of_wiring (wiring_stop ..)
      refine settled.left?_startHeartbeat ?_ periodic
      change (core.bank.map _).isSome = true
      rwa [Option.isSome_map]
  | awaited own outcome => exact absurd active apart
  | probed own outcome => exact absurd active apart
  | gaveUp own outcome => cases active
  | silent data => exact absurd active apart
  | timed data =>
      refine absurd ?_ apart
      split at active <;> exact active

theorem left?_serviceSession (core : NodeCore SoftTimers) (slot : SessionSlot) :
    (core.serviceSession slot).left? .heartbeat = core.left? .heartbeat := by
  unfold serviceSession
  split
  · exact core.left?_seeExpiry slot.timer .heartbeat
  · rfl

theorem banked_of_wiring (same : after.wiring = core.wiring) :
    after.bank.isSome = core.bank.isSome := by
  have alike : (after.bank.map (·.timers)).isSome = (core.bank.map (·.timers)).isSome :=
    congrArg (·.1.isSome) same
  rwa [Option.isSome_map, Option.isSome_map] at alike

/-- Unless a reset is due, a heartbeat that has run out begins anew, and another goes on. -/
theorem left?_serviceTimers (wired : core.Wired) (banked : core.bank.isSome = true)
    (periodic : core.config.heartbeatPeriod ≠ 0) (early : ¬core.ResetDue)
    (active : core.lifecycle = .active) (named : core.nickname ≠ Protocol.unassigned) :
    core.serviceTimers.left? .heartbeat =
      if core.expired .heartbeat then some core.config.heartbeatPeriod
      else core.left? .heartbeat := by
  have expired := expired_heartbeat_of_early early active
  have kept : ((core.serviceGeneral.serviceSession .first).serviceSession .second).left?
      .heartbeat = core.left? .heartbeat := by
    rw [left?_serviceSession, left?_serviceSession, serviceGeneral_of_early early active]
    exact core.left?_seeExpiry .general .heartbeat
  have waited : Elapsed core ((core.serviceGeneral.serviceSession .first).serviceSession .second) :=
    ((elapsed_serviceGeneral early).trans (elapsed_serviceSession _ _)).trans
      (elapsed_serviceSession _ _)
  have steps : Steps core ((core.serviceGeneral.serviceSession .first).serviceSession .second) :=
    ((steps_serviceGeneral (.inr (.inl active))).trans (steps_serviceSession _ _)).trans
      (steps_serviceSession _ _)
  have wiring := steps.keeps (fun step same => step.wiring.trans same) rfl
  rw [serviceTimers, serviceHeartbeat, expired]
  generalize (core.serviceGeneral.serviceSession .first).serviceSession .second = later
    at kept waited wiring ⊢
  cases core.expired .heartbeat with
  | false => exact kept
  | true =>
      have awake : later.lifecycle = .active ∧ later.nickname ≠ Protocol.unassigned :=
        ⟨waited.lifecycle.trans active, waited.nickname ▸ named⟩
      have same : (later.seeExpiry .heartbeat).wiring = core.wiring :=
        (later.wiring_seeExpiry .heartbeat).trans wiring
      have config : (later.seeExpiry .heartbeat).config = core.config := waited.config
      have begun := (wired.of_wiring same).left?_startHeartbeat
        ((banked_of_wiring same).trans banked) (config ▸ periodic)
      rw [config] at begun
      rw [if_pos rfl, if_pos awake, if_pos rfl]
      exact begun

/-- A node that becomes active starts its heartbeat. -/
theorem Wired.left?_goActive (wired : core.Wired) (banked : core.bank.isSome = true)
    (periodic : core.config.heartbeatPeriod ≠ 0) :
    core.goActive.left? .heartbeat = some core.config.heartbeatPeriod :=
  wired.left?_startHeartbeat banked periodic

/-- No event makes a difference to the heartbeat of a node that stays active. -/
theorem Reaction.left?_heartbeat (wired : core.Wired) (active : core.lifecycle = .active)
    (reaction : Reaction core event after) (still : after.lifecycle = .active) :
    after.left? .heartbeat = core.left? .heartbeat := by
  cases reaction with
  | ignored => rfl
  | judged active foreign engine event? => rfl
  | managed active command step => exact step.left?_heartbeat wired active still
  | searched searching command step => cases searching.symm.trans active

end NodeCore

/-- The origin and payload of a heartbeat. -/
def Effect.heartbeat? : Effect → Option (UInt8 × List UInt8)
  | .frame event _ =>
      if event.classId = Protocol.informationClass ∧ event.typeId = Protocol.nodeHeartbeatType then
        some (event.origin, event.data)
      else none
  | _ => none

def Note.beat? : Note → Option (UInt8 × List UInt8)
  | .beat origin data => some (origin, data)
  | _ => none

theorem Effect.heartbeat?_eq (effect : Effect) :
    effect.heartbeat? = effect.note?.bind Note.beat? := by
  cases effect with
  | frame event accepted =>
      change (if _ then _ else _) = (Note.ofFrame? ..).bind Note.beat?
      unfold Note.ofFrame?
      by_cases managed : event.classId = Protocol.managementClass ∧
          event.typeId = Management.newNodeOnline.typeId
      · have other : event.classId ≠ Protocol.informationClass := by
          rw [managed.1]
          decide
        rw [if_pos managed, if_neg fun beat => other beat.1]
        rfl
      · rw [if_neg managed]
        split <;> rfl
  | called call => cases call <;> rfl
  | logged notice => cases notice <;> rfl
  | _ => rfl

namespace Node

open NodeCore

section Reports

variable {Clock App : Type} [TimerService Clock] {node : Node Clock App} {event : Event}
  {call : HostCall} {next : Lifecycle} {notes : List Note}

/-- The heartbeats of a node that serves its timers, one or none. -/
def beats (node : Node Clock App) : List (UInt8 × List UInt8) :=
  if node.BeatDue then [(node.nickname, [0, node.config.zone, node.config.subZone])] else []

theorem beats_ne_nil_iff : node.beats ≠ [] ↔ node.BeatDue := by
  unfold beats
  split <;> simp [*]

theorem beat?_overdue (node : Node Clock App) :
    node.overdue.filterMap Note.beat? = node.beats := by
  unfold overdue beats
  split
  · rename_i probing
    have asleep : ¬node.BeatDue := fun due => by cases probing.1.symm.trans due.1
    rw [if_neg asleep]
    rfl
  · split <;> rfl

omit [TimerService Clock] in
theorem Response.heartbeats (response : Response node event next notes) :
    notes.filterMap Note.beat? = [] := by
  cases response with
  | settled managed apart stays => rfl
  | collided collides => rfl
  | moved active managed apart => rfl
  | judged active foreign =>
      exact filterMap_judgement node event (fun _ => rfl) (fun _ _ _ => rfl) (fun _ => rfl)
        fun _ => rfl
  | pursued searching pursuit => cases pursuit <;> rfl

omit [TimerService Clock] in
/-- An event announces no nickname to a node that stays active. -/
theorem Response.quiet (response : Response node event next notes)
    (active : node.lifecycle = .active) (still : next = .active) :
    notes.filterMap Note.online? = [] := by
  cases response with
  | settled managed apart stays => rfl
  | collided collides => cases still
  | moved active managed apart => cases still
  | judged active foreign =>
      exact filterMap_judgement node event (fun _ => rfl) (fun _ _ _ => rfl) (fun _ => rfl)
        fun _ => rfl
  | pursued searching pursuit => cases searching.symm.trans active

variable [Application App]

/-- Only timers that have run out make a node send a heartbeat. -/
theorem Report.heartbeats (report : Report node call next notes) :
    notes.filterMap Note.beat? = (node.processing? call).toList.flatMap beats := by
  have asleep {found : Node Clock App} (processing : node.processing? call = some found)
      (rests : node.lifecycle ≠ .active) :
      [] = (node.processing? call).toList.flatMap beats := by
    have early : ¬found.BeatDue := fun due =>
      rests ((elapsed_processing processing).lifecycle.symm.trans due.1)
    have none : found.beats = [] := if_neg early
    simp [processing, none]
  cases report with
  | aside quiet stays =>
      rw [quiet]
      rfl
  | inert processing inert =>
      refine asleep processing fun active => ?_
      rw [active] at inert
      cases inert
  | searched processing starting missing => exact asleep processing (by simp [starting])
  | activated processing starting named => exact asleep processing (by simp [starting])
  | served processing running idle stays => simp [processing, beat?_overdue]
  | took processing takes response => simp [processing, beat?_overdue, response.heartbeats]

/-- A node that stays active announces no nickname. -/
theorem Report.quiet (report : Report node call next notes) (active : node.lifecycle = .active)
    (still : next = .active) : notes.filterMap Note.online? = [] := by
  have awake {found : Node Clock App} (processing : node.processing? call = some found) :
      found.lifecycle ≠ .nicknameDiscovery := fun searching => by
    have same : found.lifecycle = node.lifecycle := (elapsed_processing processing).lifecycle
    cases searching.symm.trans (same.trans active)
  cases report with
  | aside quiet stays => rfl
  | inert processing inert => rfl
  | searched processing starting missing => cases still
  | activated processing starting named => cases starting.symm.trans active
  | served processing running idle stays => exact online_overdue (awake processing)
  | took processing takes response =>
      have before := takes.elapsed.lifecycle.trans active
      rw [List.filterMap_append, online_overdue (awake processing), response.quiet before still]
      rfl

/-- A node that becomes active announces its nickname. -/
theorem Report.announces (report : Report node call next notes)
    (rests : node.lifecycle ≠ .active) (active : next = .active) :
    ∃ announced ∈ notes.filterMap Note.online?, announced.1 ≠ Protocol.unassigned := by
  have stopped (stays : next = node.lifecycle ∨ next = .starting) : False := by
    rcases stays with still | starting
    · exact rests (still.symm.trans active)
    · cases starting.symm.trans active
  cases report with
  | aside quiet stays => exact (stopped stays).elim
  | inert processing inert => exact absurd active rests
  | searched processing starting missing => cases active
  | activated processing starting named =>
      exact ⟨(node.nickname, [node.nickname]), List.mem_cons_self, named⟩
  | served processing running idle stays => exact (stopped stays).elim
  | took processing takes response =>
      rename_i found ready event more
      have before : ready.lifecycle = node.lifecycle := takes.elapsed.lifecycle
      cases response with
      | settled managed apart stays =>
          rcases stays with still | ⟨awake, -⟩
          · exact absurd (before.symm.trans (still.symm.trans active)) rests
          · exact absurd (before.symm.trans awake) rests
      | collided collides => cases active
      | moved awake managed apart => cases active
      | judged awake foreign => exact absurd (before.symm.trans awake) rests
      | pursued searching pursuit =>
          cases pursuit with
          | quiet => cases active
          | probed candidate => cases active
          | gaveUp => cases active
          | assigned nickname valid =>
              refine ⟨(nickname, [nickname]), ?_, ?_⟩
              · rw [List.filterMap_append]
                exact List.mem_append_right _ List.mem_cons_self
              · rintro rfl
                exact absurd valid (by decide)

/-- The heartbeats that the node tries to send during a call. -/
def heartbeatsOf (node : Node Clock App) (call : HostCall) : List (UInt8 × List UInt8) :=
  (node.effectsOf call).filterMap Effect.heartbeat?

/-- The node announces its nickname during the call. -/
def Announces (node : Node Clock App) (call : HostCall) : Prop :=
  ∃ announced ∈ (node.effectsOf call).filterMap Effect.online?,
    announced.1 ≠ Protocol.unassigned

/-- From the call on the period of the heartbeat counts anew. -/
def Marks (node : Node Clock App) (call : HostCall) : Prop :=
  node.Announces call ∨ node.heartbeatsOf call ≠ []

theorem heartbeatsOf_eq (low : node.config.priority.toNat < 8) (call : HostCall) :
    node.heartbeatsOf call = (node.processing? call).toList.flatMap beats :=
  (filterMap_effectsOf Effect.heartbeat?_eq node call).trans (noted_serve low call).1.heartbeats

theorem heartbeatsOf_of_quiet (low : node.config.priority.toNat < 8)
    (quiet : node.processing? call = none) : node.heartbeatsOf call = [] := by
  rw [heartbeatsOf_eq low, quiet]
  rfl

theorem heartbeatsOf_of_processing (low : node.config.priority.toNat < 8)
    {found : Node Clock App} (processing : node.processing? call = some found) :
    node.heartbeatsOf call = found.beats := by
  rw [heartbeatsOf_eq low, processing]
  exact List.append_nil _

theorem not_announces (low : node.config.priority.toNat < 8) (active : node.lifecycle = .active)
    (still : (node.serve call).2.lifecycle = .active) : ¬node.Announces call := by
  rintro ⟨announced, within, -⟩
  rw [filterMap_effectsOf Effect.online?_eq, (noted_serve low call).1.quiet active still] at within
  cases within

theorem announces_of_activated (low : node.config.priority.toNat < 8)
    (rests : node.lifecycle ≠ .active) (active : (node.serve call).2.lifecycle = .active) :
    node.Announces call := by
  unfold Announces
  rw [filterMap_effectsOf Effect.online?_eq]
  exact (noted_serve low call).1.announces rests active

end Reports

section Pace

variable {App : Type} [Application App] {config : Config} {node found : Node SoftTimers App}
  {call : HostCall}

/-- What every node keeps that was built with room for its nickname. -/
structure Paced (config : Config) (node : Node SoftTimers App) : Prop where
  governed : Governed config node.core
  wired : node.core.Wired
  configured : node.config = config
  low : config.priority.toNat < 8

namespace Paced

omit [Application App] in
/-- Whatever happens to the node, its timers match its state until it fails. -/
theorem invariant (paced : Paced config node) {core : NodeCore SoftTimers}
    (steps : Steps node.core core) (sound : core.lifecycle.fault? = none) :
    core.Wired ∧ TimerInvariant config core := by
  refine ⟨paced.wired.steps steps, (paced.governed.steps steps).resolve_left fun failed => ?_⟩
  rw [sound] at failed
  cases failed

omit [Application App] in
theorem of_active (paced : Paced config node) (active : node.lifecycle = .active) :
    node.nickname ≠ Protocol.unassigned ∧
      (node.core.isArmed .heartbeat = true ↔ config.heartbeatPeriod ≠ 0) := by
  have sound : node.core.lifecycle.fault? = none := congrArg Lifecycle.fault? active
  have invariant := (paced.invariant (.refl _) sound).2
  obtain ⟨named, beating, -⟩ := invariant.of_active active
  exact ⟨named, invariant.configured ▸ beating⟩

theorem serveAll (paced : Paced config node) (calls : List HostCall) :
    Paced config (Node.serveAll calls node).2 where
  governed := paced.governed.steps (steps_serveAll calls node)
  wired := paced.wired.steps (steps_serveAll calls node)
  configured := by
    rw [← undergoAll_calls]
    exact (node.config_undergoAll _).trans paced.configured
  low := paced.low

end Paced

omit [Application App] in
theorem isArmed_processing (processing : node.processing? call = some found) (slot : TimerSlot) :
    found.core.isArmed slot = node.core.isArmed slot := by
  cases call <;> cases processing <;> rfl

omit [Application App] in
theorem left?_processing (processing : node.processing? call = some found) (slot : TimerSlot) :
    found.core.left? slot = (node.core.left? slot).map (· - call.elapsed) := by
  cases call <;> cases processing
  · simp [HostCall.elapsed]
  · exact node.left?_tick _ slot

/-- Calls that do not process let the heartbeat of an active node go on. -/
theorem left?_serve_of_quiet (quiet : node.processing? call = none)
    (active : node.lifecycle = .active) (still : (node.serve call).2.lifecycle = .active) :
    (node.serve call).2.core.left? .heartbeat =
      (node.core.left? .heartbeat).map (· - call.elapsed) := by
  have timeless : node.core.left? .heartbeat = (node.core.left? .heartbeat).map (· - 0) := by simp
  have sound : node.core.lifecycle.fault? = none := congrArg Lifecycle.fault? active
  cases call with
  | tick elapsed => exact node.left?_tick elapsed .heartbeat
  | process => cases quiet
  | poll elapsed => cases quiet
  | receive event => exact timeless
  | readRegister page offset =>
      exact (congrArg (·.left? .heartbeat)
        (node.accessed_readRegister page offset).others).trans timeless
  | writeRegister page offset value =>
      exact (congrArg (·.left? .heartbeat)
        (node.accessed_writeRegister page offset value).others).trans timeless
  | raiseAlarm bits => exact timeless
  | restart =>
      have running : ¬node.lifecycle.fault?.isSome = true := by simp [active, Lifecycle.fault?]
      have restarted : node.restart.lifecycle = .starting := by
        rw [restart, if_neg running]
        rfl
      cases restarted.symm.trans still
  | reset =>
      have starting : node.reset.lifecycle = .starting :=
        (congrArg NodeCore.lifecycle node.core_reset).trans (lifecycle_reset sound)
      cases starting.symm.trans still
  | clearCounters => exact timeless
  | clearRuleFault => exact timeless

/-- A node that does not start over has served its timers without a reset. -/
theorem not_resetDue (processing : node.processing? call = some found)
    (active : node.lifecycle = .active) (stays : (node.serve call).2.lifecycle ≠ .starting) :
    ¬found.core.ResetDue := by
  intro due
  have same : found.lifecycle = node.lifecycle := (elapsed_processing processing).lifecycle
  have running : found.lifecycle.Runs := .inr (.inl (same.trans active))
  have starting : found.serviceTimers.lifecycle = .starting :=
    (congrArg NodeCore.lifecycle found.core_serviceTimers).trans
      (lifecycle_serviceTimers running.sound due)
  refine stays ?_
  rw [serve_of_processing processing, process_of_runs running, takeEvent, if_pos (.inr starting)]
  exact starting

/-- An event that an active node takes after its timers leaves the heartbeat to them. -/
theorem left?_serve_of_processing (wired : node.core.Wired)
    (processing : node.processing? call = some found) (active : node.lifecycle = .active)
    (still : (node.serve call).2.lifecycle = .active) :
    (node.serve call).2.core.left? .heartbeat = found.core.serviceTimers.left? .heartbeat := by
  have same : found.lifecycle = node.lifecycle := (elapsed_processing processing).lifecycle
  have running : found.lifecycle.Runs := .inr (.inl (same.trans active))
  rw [serve_of_processing processing, process_of_runs running] at still ⊢
  rw [← core_serviceTimers]
  rcases takeEvent_cases processing with quiet | ⟨event, ready, rest, takes, -, handled⟩
  · rw [quiet]
  · obtain ⟨again, likewise, -, -, reached⟩ := takes.found
    cases processing.symm.trans likewise
    rw [handled] at still ⊢
    rw [reached]
    have awake : ready.core.lifecycle = .active := takes.elapsed.lifecycle.trans active
    have reaction := reaction_handle (ready.queue rest) event
    exact Reaction.left?_heartbeat (takes.wired wired) awake reaction still

namespace Paced

/-- Only an active node with a period sends a heartbeat. -/
theorem heartbeats_cases (paced : Paced config node) (call : HostCall) :
    node.heartbeatsOf call = [] ∨
      call.processes = true ∧ node.lifecycle = .active ∧ config.heartbeatPeriod ≠ 0 ∧
        node.heartbeatsOf call = [(node.nickname, [0, config.zone, config.subZone])] := by
  have low : node.config.priority.toNat < 8 := paced.configured ▸ paced.low
  cases processing : node.processing? call with
  | none => exact .inl (heartbeatsOf_of_quiet low processing)
  | some found =>
      have elapsed := elapsed_processing processing
      rw [heartbeatsOf_of_processing low processing, beats]
      split
      · rename_i due
        obtain ⟨awake, early, expired, named⟩ := due
        have active : node.lifecycle = .active := elapsed.lifecycle.symm.trans awake
        have armed : node.core.isArmed .heartbeat = true :=
          (isArmed_processing processing .heartbeat).symm.trans (isArmed_of_expired expired)
        have nickname : found.nickname = node.nickname := elapsed.nickname
        have configured : found.config = config := elapsed.config.trans paced.configured
        refine .inr ⟨?_, active, (paced.of_active active).2.mp armed, ?_⟩
        · rw [← node.processing?_isSome, processing]
          rfl
        · rw [nickname, configured]
      · exact .inl rfl

omit [Application App] in
/-- Unless a reset is due, an active node sends a heartbeat when it has run out, and only then. -/
theorem beatDue_iff (paced : Paced config node) (processing : node.processing? call = some found)
    (active : node.lifecycle = .active) (early : ¬found.core.ResetDue) :
    found.BeatDue ↔ found.core.expired .heartbeat = true := by
  have elapsed := elapsed_processing processing
  have nickname : found.nickname = node.nickname := elapsed.nickname
  have awake : found.lifecycle = .active := elapsed.lifecycle.trans active
  refine ⟨fun due => due.2.2.1, fun expired => ⟨awake, early, expired, ?_⟩⟩
  rw [nickname]
  exact (paced.of_active active).1

/-- A heartbeat that goes on is sent once its time is over. -/
theorem heartbeats_iff (paced : Paced config node) (periodic : config.heartbeatPeriod ≠ 0)
    (processing : node.processing? call = some found) (active : node.lifecycle = .active)
    (early : ¬found.core.ResetDue) {left : Nat} (running : node.core.left? .heartbeat = some left) :
    node.heartbeatsOf call ≠ [] ↔ left ≤ call.elapsed := by
  have low : node.config.priority.toNat < 8 := paced.configured ▸ paced.low
  have armed : node.core.isArmed .heartbeat = true := (paced.of_active active).2.mpr periodic
  rw [heartbeatsOf_of_processing low processing, beats_ne_nil_iff,
    paced.beatDue_iff processing active early, NodeCore.expired_eq,
    isArmed_processing processing, armed, left?_processing processing, running]
  simp only [Bool.true_and, Option.map_some, Option.any_some, Bool.not_eq_true',
    decide_eq_false_iff_not, Nat.sub_pos_iff_lt, Nat.not_lt]

/-- From call to call the heartbeat of a node that stays active goes on, and begins anew with every
heartbeat that is sent. -/
theorem left?_serve (paced : Paced config node) (periodic : config.heartbeatPeriod ≠ 0)
    (active : node.lifecycle = .active) (still : (node.serve call).2.lifecycle = .active) :
    (node.serve call).2.core.left? .heartbeat =
      if node.heartbeatsOf call ≠ [] then some config.heartbeatPeriod
      else (node.core.left? .heartbeat).map (· - call.elapsed) := by
  have low : node.config.priority.toNat < 8 := paced.configured ▸ paced.low
  cases processing : node.processing? call with
  | none =>
      rw [left?_serve_of_quiet processing active still, heartbeatsOf_of_quiet low processing]
      rfl
  | some found =>
      have awake : found.core.lifecycle = .active :=
        (elapsed_processing processing).lifecycle.trans active
      have early := not_resetDue processing active (by simp [still])
      obtain ⟨wired, invariant⟩ :=
        paced.invariant (steps_processing processing) (congrArg Lifecycle.fault? awake)
      have configured := invariant.configured
      have served := left?_serviceTimers wired invariant.banked (configured ▸ periodic) early awake
        (invariant.of_active awake).1
      rw [left?_serve_of_processing paced.wired processing active still, served, configured,
        left?_processing processing, heartbeatsOf_of_processing low processing]
      simp only [beats_ne_nil_iff, paced.beatDue_iff processing active early]

/-- A node that becomes active has the whole period before it. -/
theorem left?_activated (paced : Paced config node) (periodic : config.heartbeatPeriod ≠ 0)
    (rests : node.lifecycle ≠ .active) (active : (node.serve call).2.lifecycle = .active) :
    (node.serve call).2.core.left? .heartbeat = some config.heartbeatPeriod := by
  have turn := node.turn_serve call
  have active : (node.serve call).2.core.lifecycle = .active := active
  generalize (node.serve call).2.core = after at turn active ⊢
  -- only a node that starts with a nickname or is assigned one becomes active
  cases turn with
  | accessed access =>
      rw [access.others] at active
      exact absurd active rests
  | judged engine => exact absurd active rests
  | ticked elapsed => exact absurd active rests
  | restarted asked sound => cases active
  | reset asked =>
      unfold NodeCore.reset at active
      split at active
      · exact absurd active rests
      · cases active
  | inert processing inert =>
      rw [show Node.lifecycle _ = .active from active] at inert
      cases inert
  | searched processing starting missing => cases active
  | activated processing starting named =>
      rename_i found
      have sound : found.core.lifecycle.fault? = none := congrArg Lifecycle.fault? starting
      obtain ⟨wired, invariant⟩ := paced.invariant (steps_processing processing) sound
      rw [wired.left?_goActive invariant.banked (invariant.configured ▸ periodic),
        invariant.configured]
  | served processing running =>
      rename_i found
      have same : found.lifecycle = node.lifecycle := (elapsed_processing processing).lifecycle
      have served : found.serviceTimers.lifecycle = .active :=
        (congrArg NodeCore.lifecycle found.core_serviceTimers).trans active
      rcases lifecycle_serviceTimers_cases running with still | starting
      · exact absurd (same.symm.trans (still.symm.trans served)) rests
      · cases starting.symm.trans served
  | took takes reaction =>
      have same := takes.elapsed.lifecycle
      cases reaction with
      | ignored => exact absurd (same.symm.trans active) rests
      | judged awake foreign engine event? => exact absurd (same.symm.trans awake) rests
      | managed awake command step => exact absurd (same.symm.trans awake) rests
      | searched searching command step =>
          obtain ⟨wired, invariant⟩ :=
            paced.invariant takes.steps (congrArg Lifecycle.fault? searching)
          rw [step.left?_heartbeat wired invariant.banked (invariant.configured ▸ periodic)
            searching active, invariant.configured]

/-- A call from which the period counts leaves an active node the whole period. -/
theorem left?_of_marks (paced : Paced config node) (periodic : config.heartbeatPeriod ≠ 0)
    (marks : node.Marks call) (active : (node.serve call).2.lifecycle = .active) :
    (node.serve call).2.core.left? .heartbeat = some config.heartbeatPeriod := by
  have low : node.config.priority.toNat < 8 := paced.configured ▸ paced.low
  by_cases before : node.lifecycle = .active
  · have beaten := marks.resolve_left (not_announces low before active)
    rw [paced.left?_serve periodic before active, if_pos beaten]
  · exact paced.left?_activated periodic before active

/-- Between such calls an active node has been active before. -/
theorem active_of_unmarked (paced : Paced config node) (unmarked : ¬node.Marks call)
    (active : (node.serve call).2.lifecycle = .active) : node.lifecycle = .active := by
  have low : node.config.priority.toNat < 8 := paced.configured ▸ paced.low
  by_contra rests
  exact unmarked (.inl (announces_of_activated low rests active))

theorem left?_of_unmarked (paced : Paced config node) (periodic : config.heartbeatPeriod ≠ 0)
    (unmarked : ¬node.Marks call) (active : (node.serve call).2.lifecycle = .active) :
    (node.serve call).2.core.left? .heartbeat =
      (node.core.left? .heartbeat).map (· - call.elapsed) := by
  have before := paced.active_of_unmarked unmarked active
  rw [paced.left?_serve periodic before active, if_neg fun beaten => unmarked (.inr beaten)]

end Paced

end Pace

section Runs

variable {App : Type} [Application App] {config : Config} {node : Node SoftTimers App}
  {earlier later : List HostCall} {mark : HostCall}

/-- The period counts from this call, and from none of the later ones. -/
structure LastMark (node : Node SoftTimers App) (earlier : List HostCall) (mark : HostCall)
    (later : List HostCall) : Prop where
  marks : (serveAll earlier node).2.Marks mark
  last : ∀ middle next rest, later = middle ++ next :: rest →
    ¬(serveAll (earlier ++ mark :: middle) node).2.Marks next

theorem LastMark.of_append {more : List HostCall}
    (since : LastMark node earlier mark (later ++ more)) : LastMark node earlier mark later where
  marks := since.marks
  last middle next rest split := since.last middle next (rest ++ more) (by simp [split])

theorem LastMark.concat {call : HostCall} (since : LastMark node earlier mark later)
    (unmarked : ¬(serveAll (earlier ++ mark :: later) node).2.Marks call) :
    LastMark node earlier mark (later ++ [call]) where
  marks := since.marks
  last middle next rest split := by
    rcases concat_eq_split_iff.mp split with ⟨rfl, rfl, -⟩ | ⟨rest, within, -⟩
    · exact unmarked
    · exact since.last middle next rest within

namespace Paced

/-- Since the last mark the heartbeat of an active node has run for the time that has passed. -/
theorem left?_serveAll (paced : Paced config node) (periodic : config.heartbeatPeriod ≠ 0)
    (since : LastMark node earlier mark later)
    (active : (Node.serveAll (earlier ++ mark :: later) node).2.lifecycle = .active) :
    (Node.serveAll (earlier ++ mark :: later) node).2.core.left? .heartbeat =
      some (config.heartbeatPeriod - HostCall.total later) := by
  -- by induction on the calls since the mark, which leaves the whole period
  induction later using List.reverseRecOn with
  | nil =>
      rw [serveAll_concat] at active ⊢
      exact (paced.serveAll earlier).left?_of_marks periodic since.marks active
  | append_singleton later call ih =>
      have unmarked := since.last later call [] rfl
      have before := paced.serveAll (earlier ++ mark :: later)
      rw [← List.cons_append, ← List.append_assoc, serveAll_concat] at active ⊢
      have running := ih since.of_append (before.active_of_unmarked unmarked active)
      rw [before.left?_of_unmarked periodic unmarked active, running, HostCall.total_concat,
        Option.map_some, Nat.sub_sub]

/-- An active node has begun to count the period. -/
theorem lastMark_of_active (paced : Paced config node) (new : node.lifecycle ≠ .active)
    {calls : List HostCall} (active : (Node.serveAll calls node).2.lifecycle = .active) :
    ∃ earlier mark later, calls = earlier ++ mark :: later ∧ LastMark node earlier mark later := by
  induction calls using List.reverseRecOn with
  | nil => exact absurd active new
  | append_singleton calls call ih =>
      by_cases marks : (Node.serveAll calls node).2.Marks call
      · exact ⟨calls, call, [], rfl, marks, fun middle next rest split => by simp at split⟩
      · rw [serveAll_concat] at active
        obtain ⟨earlier, mark, later, rfl, since⟩ :=
          ih ((paced.serveAll calls).active_of_unmarked marks active)
        exact ⟨earlier, mark, later ++ [call], by simp, since.concat marks⟩

end Paced

theorem paced_build {store : Store} {transport : Transport} {clock : SoftTimers} {app : App}
    (built : build config store transport clock app = .ok node)
    (room : Layout.nickname < store.size) : Paced config node where
  governed := governed_of_room built room
  wired := wired_build built
  configured := config_reached built []
  low := Config.priority_lt (fresh_build built).checked

/-- However a host drives a node, a call makes it try one heartbeat at most, under the nickname that
it has then. No heartbeat comes without a period. With one, the period counts from the last call in
which an active node announced its nickname or sent a heartbeat, and as long as the node does not
start over, a call that processes makes it send the next one exactly if the period has passed. -/
theorem heartbeats_follow_period {store : Store} {transport : Transport} {clock : SoftTimers}
    {app : App} (built : build config store transport clock app = .ok node)
    (room : Layout.nickname < store.size) :
    (∀ calls call, let reached := (serveAll calls node).2
      reached.heartbeatsOf call = [] ∨
        call.processes = true ∧ reached.lifecycle = .active ∧ config.heartbeatPeriod ≠ 0 ∧
          reached.heartbeatsOf call =
            [(reached.nickname, [0, config.zone, config.subZone])]) ∧
    (∀ calls, (serveAll calls node).2.lifecycle = .active →
      ∃ earlier mark later, calls = earlier ++ mark :: later ∧
        LastMark node earlier mark later) ∧
    ∀ earlier mark later call, LastMark node earlier mark later →
      let reached := (serveAll (earlier ++ mark :: later) node).2
      reached.lifecycle = .active → config.heartbeatPeriod ≠ 0 → call.processes = true →
        (reached.serve call).2.lifecycle ≠ .starting →
        (reached.heartbeatsOf call ≠ [] ↔
          config.heartbeatPeriod ≤ HostCall.total later + call.elapsed) := by
  have paced := paced_build built room
  have new : node.lifecycle ≠ .active := (fresh_build built).lifecycle_ne (by simp) rfl
  refine ⟨fun calls call => (paced.serveAll calls).heartbeats_cases call,
    fun calls => paced.lastMark_of_active new, ?_⟩
  intro earlier mark later call since reached active periodic processes stays
  have before : Paced config reached := paced.serveAll _
  obtain ⟨found, processing⟩ := Option.isSome_iff_exists.mp
    ((reached.processing?_isSome call).trans processes)
  have early := not_resetDue processing active stays
  rw [before.heartbeats_iff periodic processing active early
    (paced.left?_serveAll periodic since active)]
  exact Nat.sub_le_iff_le_add'

/-- A node that beats every second. -/
def beatingNode : Node SoftTimers SilentApplication :=
  (build { heartbeatPeriod := 1000, zone := 1, subZone := 2 }
    ((Store.erased 256).write Layout.nickname 0x10) .open (SoftTimers.empty 4)
    SilentApplication.mk).toOption.get rfl

/-- The node announces its nickname, and less than a second passes. -/
theorem beatingNode_lastMark :
    LastMark beatingNode [] .process [.tick 400, .poll 500] where
  marks := by
    unfold Marks Announces
    decide +kernel
  last middle next rest split := by
    rcases middle with _ | ⟨_, _ | ⟨_, middle⟩⟩
    · cases split
      unfold Marks Announces
      decide +kernel
    · cases split
      unfold Marks Announces
      decide +kernel
    · simp at split

/-- The node beats when the second is over, and no sooner. -/
theorem beating_node_keeps_time :
    let reached := (serveAll [.process, .tick 400, .poll 500] beatingNode).2
    reached.heartbeatsOf (.poll 99) = [] ∧
      reached.heartbeatsOf (.poll 100) = [(0x10, [0, 1, 2])] := by
  have room : Layout.nickname < ((Store.erased 256).write Layout.nickname 0x10).size := by
    decide +kernel
  have built : build { heartbeatPeriod := 1000, zone := 1, subZone := 2 }
      ((Store.erased 256).write Layout.nickname 0x10) .open (SoftTimers.empty 4)
      SilentApplication.mk = .ok beatingNode := rfl
  obtain ⟨single, -, paces⟩ := heartbeats_follow_period built room
  have early := paces [] .process [.tick 400, .poll 500] (.poll 99) beatingNode_lastMark
    (by decide +kernel) (by decide) rfl (by decide +kernel)
  have late := paces [] .process [.tick 400, .poll 500] (.poll 100) beatingNode_lastMark
    (by decide +kernel) (by decide) rfl (by decide +kernel)
  refine ⟨not_not.mp fun beats => absurd (early.mp beats) (by decide), ?_⟩
  rcases single [.process, .tick 400, .poll 500] (.poll 100) with none | ⟨-, -, -, beats⟩
  · exact absurd none (late.mpr (by decide))
  · exact beats.trans (by decide +kernel)

/-- A node whose store ends before the nickname. -/
def unstoredNode : Node SoftTimers SilentApplication :=
  (build { heartbeatPeriod := 1000 } (Store.erased 16) .open (SoftTimers.empty 4)
    SilentApplication.mk).toOption.get rfl

/-- Nodes without a nickname are given one. -/
def givingEvent : Event :=
  { Event.new 0 6 0 with data := [0xFF, 5], dataWithin := by decide }

/-- Where the nickname is lost, the node announces it and stays active, but no heartbeat comes when
the period is over. -/
theorem unstored_nickname_never_beats :
    build { heartbeatPeriod := 1000 } (Store.erased 16) .open (SoftTimers.empty 4)
        SilentApplication.mk = .ok unstoredNode ∧
      LastMark unstoredNode [.process, .receive givingEvent] .process [] ∧
      let reached := (serveAll [.process, .receive givingEvent, .process] unstoredNode).2
      reached.lifecycle = .active ∧ reached.nickname = Protocol.unassigned ∧
        (reached.serve (.poll 1000)).2.lifecycle = .active ∧
        1000 ≤ HostCall.total [] + (HostCall.poll 1000).elapsed ∧
        reached.heartbeatsOf (.poll 1000) = [] := by
  have marked : LastMark unstoredNode [.process, .receive givingEvent] .process [] := by
    refine ⟨?_, fun middle next rest split => ?_⟩
    · unfold Marks Announces
      decide +kernel
    · simp at split
  exact ⟨rfl, marked, by decide +kernel, by decide +kernel, by decide +kernel, by decide,
    by decide +kernel⟩

end Runs

end Node

end Vscp
