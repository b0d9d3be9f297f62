/-
This file proves that a node gives up its search for a nickname only when every other nickname of
the segment has answered since its last probe that nobody answered.
-/

import Vscp.Proofs.Node.Change
import Vscp.Proofs.Node.Search
import Vscp.Proofs.Split

namespace Vscp

namespace NodeCore

variable {Clock : Type} [TimerService Clock]

/-- Serving its timers does to a search what the general timer does to it. -/
theorem discovery_serviceTimers {core : NodeCore Clock}
    (searching : core.lifecycle = .nicknameDiscovery) :
    core.serviceTimers.discovery =
      if core.expired .general then core.discovery.timeout else core.discovery := by
  have general : core.serviceGeneral.discovery =
      if core.expired .general then core.discovery.timeout else core.discovery := by
    unfold serviceGeneral
    split
    · have still : (core.seeExpiry .general).lifecycle = .nicknameDiscovery := searching
      rw [onGeneralExpiry, if_pos still]
      rfl
    · rfl
  have session (other : NodeCore Clock) (slot : SessionSlot) :
      (other.serviceSession slot).discovery = other.discovery := by
    unfold serviceSession
    split <;> rfl
  have heartbeat (other : NodeCore Clock) :
      other.serviceHeartbeat.discovery = other.discovery := by
    unfold serviceHeartbeat startHeartbeat
    split
    · split
      · split <;> rfl
      · rfl
    · rfl
  rw [serviceTimers, heartbeat, session, session, general]

/-- An active node that searches after an event has met another check sum or another node with its
nickname. -/
theorem causes_of_activeStep {core after : NodeCore Clock} {event : Event} {kind : Management}
    (active : core.lifecycle = .active) (step : ActiveStep core event kind after)
    (searching : after.lifecycle = .nicknameDiscovery) :
    (∃ other : NodeCore Clock, after = other.startDiscovery) ∧
      ((kind = .segmentControllerHeartbeat ∧ ∃ crc rest, event.data = crc :: rest ∧
        crc ≠ core.segmentCrc) ∨ (kind = .probeAck ∧ event.origin = core.nickname)) := by
  have apart : core.lifecycle ≠ .nicknameDiscovery := by simp [active]
  have sound : core.lifecycle.fault? = none := by rw [active]; rfl
  cases step with
  | accessed access => exact absurd (access.lifecycle.symm.trans searching) apart
  | timed data same => exact absurd searching apart
  | moved data other => exact ⟨⟨_, rfl⟩, .inl ⟨rfl, _, _, data, other⟩⟩
  | collided own => exact ⟨⟨_, rfl⟩, .inr ⟨rfl, own⟩⟩
  | renamed addressed valid => exact absurd searching apart
  | parked addressed decoded idle => cases searching
  | dropped addressed decoded stays atOnce =>
      rw [lifecycle_reset (by rwa [lifecycle_withdraw])] at searching
      cases searching
  | delayed addressed decoded later => exact absurd searching apart
  | handedOver addressed present own identified => cases searching
  | progressed data accepted => exact absurd searching apart
  | completed data accepted =>
      rename_i index bytes slot sessions
      have running : (({ core with sessions }.stop slot.timer).setNickname
          Protocol.unassigned).lifecycle.fault? = none := sound
      rw [lifecycle_reset running] at searching
      cases searching
  | discarded data accepted => exact absurd searching apart

end NodeCore

namespace Node

open NodeCore

variable {Clock App : Type} [TimerService Clock]

/-- At this call the time of a probe is over. -/
def ProbeExpires (node : Node Clock App) (call : HostCall) : Prop :=
  node.lifecycle = .nicknameDiscovery ∧
    ∃ found, node.processing? call = some found ∧ (found.takeExpired .general).1 = true

/-- The search as a call finds it after the timers. -/
inductive Finds (node : Node Clock App) (call : HostCall) : Discovery → Prop where
  | unanswered (late : node.ProbeExpires call) : Finds node call node.discovery.timeout
  | open (early : ¬node.ProbeExpires call) : Finds node call node.discovery

theorem finds_serviceTimers {node found : Node Clock App} {call : HostCall}
    (searching : node.lifecycle = .nicknameDiscovery)
    (processing : node.processing? call = some found) :
    node.Finds call found.core.serviceTimers.discovery := by
  have waited := elapsed_processing processing
  have same : found.discovery = node.discovery := by
    cases call <;> cases processing <;> rfl
  have decided : node.ProbeExpires call ↔ found.core.expired .general = true := by
    rw [← expired_takeExpired]
    constructor
    · rintro ⟨-, other, processed, expired⟩
      cases processing.symm.trans processed
      exact expired
    · exact fun expired => ⟨searching, found, processing, expired⟩
  rw [discovery_serviceTimers (waited.lifecycle.trans searching)]
  change node.Finds call (if _ then found.discovery.timeout else found.discovery)
  rw [same]
  split
  · rename_i expired
    exact .unanswered (decided.mpr expired)
  · rename_i running
    exact .open (mt decided.mp running)

variable [Application App]

theorem Takes.finds {node ready : Node Clock App} {call : HostCall} {event : Event}
    (takes : node.Takes call event ready) (searching : node.lifecycle = .nicknameDiscovery) :
    node.Finds call ready.discovery := by
  obtain ⟨found, processing, -, -, rfl⟩ := takes.found
  have finds := finds_serviceTimers searching processing
  rwa [← core_serviceTimers] at finds

/-- The call takes an acknowledgement of a probe from the node with this nickname. -/
def Hears (node : Node Clock App) (call : HostCall) (origin : UInt8) : Prop :=
  ∃ event ready, node.Takes call event ready ∧ event.Manages .probeAck ∧ event.origin = origin

/-- What a call makes of a search. -/
inductive Pursues (node : Node Clock App) (call : HostCall) : Discovery → Prop where
  | begun (fresh : node.lifecycle ≠ .nicknameDiscovery) : Pursues node call .new
  | awaited (searching : node.lifecycle = .nicknameDiscovery) {discovery : Discovery}
      (finds : node.Finds call discovery) : Pursues node call discovery
  | heard (searching : node.lifecycle = .nicknameDiscovery) {discovery next : Discovery}
      {outcome : AckOutcome} (finds : node.Finds call discovery)
      (hears : node.Hears call discovery.candidate)
      (judged : discovery.acknowledge = (outcome, next)) (unended : outcome ≠ .exhausted) :
      Pursues node call next

variable {node : Node Clock App} {call : HostCall}

/-- A node that begins to search begins with the master. -/
theorem Turn.pursues_begun {after : NodeCore Clock} (turn : Turn node call after)
    (apart : node.lifecycle ≠ .nicknameDiscovery)
    (searching : after.lifecycle = .nicknameDiscovery) : after.discovery = .new := by
  cases turn with
  | accessed access => exact absurd (access.lifecycle.symm.trans searching) apart
  | judged engine => exact absurd searching apart
  | ticked elapsed => exact absurd searching apart
  | restarted asked sound => cases searching
  | reset asked =>
      unfold NodeCore.reset at searching
      split at searching
      · exact absurd searching apart
      · cases searching
  | inert processing inert =>
      exact absurd ((elapsed_processing processing).lifecycle.symm.trans searching) apart
  | searched processing starting missing => rfl
  | activated processing starting named => cases searching
  | @served found processing running =>
      have waited := (elapsed_processing processing).lifecycle
      by_cases due : found.core.ResetDue
      · exact absurd (.inl searching) (lifecycle_of_resetDue due)
      · exact absurd (waited.symm.trans ((elapsed_of_early due).lifecycle.symm.trans searching))
          apart
  | took takes reaction =>
      have waited := takes.elapsed.lifecycle
      cases reaction with
      | ignored => exact absurd (waited.symm.trans searching) apart
      | judged active foreign engine event? => exact absurd (waited.symm.trans searching) apart
      | managed active command step =>
          obtain ⟨⟨other, rfl⟩, -⟩ := causes_of_activeStep active step searching
          rfl
      | searched still command step => exact absurd (waited.symm.trans still) apart

/-- A call that does not process leaves a search alone. -/
theorem Turn.discovery_of_quiet {after : NodeCore Clock} (turn : Turn node call after)
    (quiet : node.processing? call = none) : after.discovery = node.discovery := by
  cases turn with
  | accessed access =>
      rw [access.others]
      rfl
  | judged engine => rfl
  | ticked elapsed => rfl
  | restarted asked sound => rfl
  | reset asked =>
      unfold NodeCore.reset
      split <;> rfl
  | inert processing inert => cases quiet.symm.trans processing
  | searched processing starting missing => cases quiet.symm.trans processing
  | activated processing starting named => cases quiet.symm.trans processing
  | served processing running => cases quiet.symm.trans processing
  | took takes reaction =>
      obtain ⟨found, processing, -⟩ := takes.found
      cases quiet.symm.trans processing

/-- What a searching node that goes on searching makes of an event. -/
theorem Takes.pursues {event : Event} {ready : Node Clock App} {after : NodeCore Clock}
    (takes : node.Takes call event ready) (searching : node.lifecycle = .nicknameDiscovery)
    (reaction : Reaction ready.core event after)
    (still : after.lifecycle = .nicknameDiscovery) : node.Pursues call after.discovery := by
  have finds := takes.finds searching
  cases reaction with
  | ignored => exact .awaited searching finds
  | judged active foreign engine event? => exact .awaited searching finds
  | managed active command step =>
      have waited : ready.core.lifecycle = .nicknameDiscovery :=
        takes.elapsed.lifecycle.trans searching
      cases active.symm.trans waited
  | searched waited command step =>
      cases step with
      | assigned data addressed valid => cases still
      | awaited own outcome =>
          have hears : node.Hears call ready.discovery.candidate :=
            ⟨event, ready, takes, command, own⟩
          exact .heard searching finds hears outcome (by decide)
      | probed own outcome =>
          have hears : node.Hears call ready.discovery.candidate :=
            ⟨event, ready, takes, command, own⟩
          exact .heard searching finds hears outcome (by decide)
      | gaveUp own outcome => cases still
      | silent data => exact .awaited searching finds
      | timed data =>
          refine .awaited searching ?_
          split <;> exact finds

/-- What a call that leaves the node searching makes of the search. -/
theorem pursues_serve (node : Node Clock App) (call : HostCall)
    (still : (node.serve call).2.lifecycle = .nicknameDiscovery) :
    node.Pursues call (node.serve call).2.discovery := by
  by_cases searching : node.lifecycle = .nicknameDiscovery
  · cases processing : node.processing? call with
    | none =>
        have same : (node.serve call).2.discovery = node.discovery :=
          (node.turn_serve call).discovery_of_quiet processing
        have early : ¬node.ProbeExpires call := by
          rintro ⟨-, found, processed, -⟩
          cases processing.symm.trans processed
        rw [same]
        exact .awaited searching (.open early)
    | some found =>
        have waiting : found.lifecycle = .nicknameDiscovery :=
          (elapsed_processing processing).lifecycle.trans searching
        rw [serve_of_processing processing, process_of_runs (.inl waiting)] at still ⊢
        rcases takeEvent_cases processing with quiet | ⟨event, ready, rest, takes, -, handled⟩
        · have same : found.serviceTimers.discovery = found.core.serviceTimers.discovery :=
            congrArg NodeCore.discovery found.core_serviceTimers
          rw [quiet, same]
          exact .awaited searching (finds_serviceTimers searching processing)
        · have reaction := reaction_handle
            { ready with transport := { ready.transport with inbox := rest } } event
          rw [handled] at still ⊢
          exact takes.pursues searching reaction still
  · have begun : (node.serve call).2.discovery = .new :=
      (node.turn_serve call).pursues_begun searching still
    rw [begun]
    exact .begun searching

/-- One of the acts is a call that meets the condition in the state that it comes to. -/
def Occurs (condition : Node Clock App → HostCall → Prop) (acts : List (HostAct Clock App))
    (node : Node Clock App) : Prop :=
  ∃ earlier call later, acts = earlier ++ .call call :: later ∧
    condition (undergoAll earlier node) call

theorem Occurs.last {condition : Node Clock App → HostCall → Prop}
    {acts : List (HostAct Clock App)} {node : Node Clock App} {call : HostCall}
    (met : condition (undergoAll acts node) call) :
    Occurs condition (acts ++ [.call call]) node :=
  ⟨acts, call, [], rfl, met⟩

theorem Occurs.concat {condition : Node Clock App → HostCall → Prop}
    {acts : List (HostAct Clock App)} {node : Node Clock App} (occurs : Occurs condition acts node)
    (act : HostAct Clock App) : Occurs condition (acts ++ [act]) node := by
  obtain ⟨earlier, call, later, rfl, met⟩ := occurs
  exact ⟨earlier, call, later ++ [act], by simp, met⟩

theorem Occurs.of_concat {condition : Node Clock App → HostCall → Prop}
    {acts : List (HostAct Clock App)} {node : Node Clock App} {act : HostAct Clock App}
    (occurs : Occurs condition (acts ++ [act]) node) :
    Occurs condition acts node ∨ ∃ call, act = .call call ∧
      condition (undergoAll acts node) call := by
  obtain ⟨earlier, call, later, split, met⟩ := occurs
  rcases concat_eq_split_iff.mp split with ⟨rfl, same, -⟩ | ⟨later, rfl, -⟩
  · exact .inr ⟨call, same, met⟩
  · exact .inl ⟨earlier, call, later, rfl, met⟩

/-- Since the last time that a probe of the node went unanswered, each of these nicknames was heard
from. -/
def HeardSince (acts : List (HostAct Clock App)) (node : Node Clock App)
    (heard : UInt8 → Prop) : Prop :=
  ∃ earlier first later, acts = earlier ++ .call first :: later ∧
    let unanswered := undergoAll earlier node
    unanswered.ProbeExpires first ∧
    ¬Occurs ProbeExpires later (unanswered.serve first).2 ∧
    ∀ nickname, heard nickname →
      Occurs (fun node call => node.Hears call nickname) (.call first :: later) unanswered

theorem HeardSince.begin {acts : List (HostAct Clock App)} {node : Node Clock App}
    {call : HostCall} (late : (undergoAll acts node).ProbeExpires call) {heard : UInt8 → Prop}
    (hears : ∀ nickname, heard nickname → (undergoAll acts node).Hears call nickname) :
    HeardSince (acts ++ [.call call]) node heard := by
  refine ⟨acts, call, [], rfl, late, ?_, fun nickname answered => ?_⟩
  · rintro ⟨earlier, call, later, split, -⟩
    simp at split
  · exact ⟨[], call, [], rfl, hears nickname answered⟩

theorem HeardSince.concat {acts : List (HostAct Clock App)} {node : Node Clock App}
    {known heard : UInt8 → Prop} (since : HeardSince acts node known) {act : HostAct Clock App}
    (early : ∀ call, act = .call call → ¬(undergoAll acts node).ProbeExpires call)
    (hears : ∀ nickname, heard nickname → known nickname ∨
      ∃ call, act = .call call ∧ (undergoAll acts node).Hears call nickname) :
    HeardSince (acts ++ [act]) node heard := by
  obtain ⟨earlier, first, later, rfl, late, quiet, answered⟩ := since
  have reached : undergoAll (earlier ++ .call first :: later) node =
      undergoAll (.call first :: later) (undergoAll earlier node) := by
    rw [undergoAll, List.foldl_append]
    rfl
  rw [reached] at early hears
  refine ⟨earlier, first, later ++ [act], by simp, late, fun again => ?_, fun nickname asked => ?_⟩
  · rcases again.of_concat with before | ⟨call, same, expires⟩
    · exact quiet before
    · exact early call same expires
  · rw [← List.cons_append]
    rcases hears nickname asked with before | ⟨call, rfl, heardNow⟩
    · exact (answered nickname before).concat act
    · exact .last heardNow

/-- The search of a node that searches after these acts went through these probes, and what it
counts was heard since the last one that nobody answered. -/
structure Follows (acts : List (HostAct Clock App)) (node : Node Clock App)
    (probes : List ProbeAct) : Prop where
  opened : Search.Open probes
  unended : (Search.after probes).outcome? ≠ some .exhausted
  tracked : (Search.after probes).discovery = (undergoAll acts node).discovery
  heard : .timeout ∈ probes → HeardSince acts node (· ∈ (Search.after probes).answers)

section Following

variable {acts : List (HostAct Clock App)} {node : Node Clock App} {probes : List ProbeAct}

/-- As a call finds the search after the timers, it went through probes of its own, and whatever is
heard then or was counted before has been heard since the last one that nobody answered. -/
theorem Follows.finds (follows : Follows acts node probes) {call : HostCall}
    {discovery : Discovery} (finds : (undergoAll acts node).Finds call discovery) :
    ∃ probes, Search.Open probes ∧ (Search.after probes).outcome? ≠ some .exhausted ∧
      (Search.after probes).discovery = discovery ∧
      ∀ heard : UInt8 → Prop, .timeout ∈ probes →
        (∀ nickname, heard nickname → nickname ∈ (Search.after probes).answers ∨
          (undergoAll acts node).Hears call nickname) →
        HeardSince (acts ++ [.call call]) node heard := by
  cases finds with
  | unanswered late =>
      refine ⟨probes ++ [.timeout], Search.open_concat_iff.mpr ⟨follows.opened, follows.unended⟩,
        ?_⟩
      rw [Search.after_concat, ← follows.tracked]
      refine ⟨show none ≠ _ by decide, rfl, fun heard _ hears => .begin late ?_⟩
      exact fun nickname asked => (hears nickname asked).resolve_left List.not_mem_nil
  | «open» early =>
      refine ⟨probes, follows.opened, follows.unended, follows.tracked, fun heard later hears => ?_⟩
      refine (follows.heard later).concat ?_ fun nickname asked => ?_
      · rintro _ ⟨⟩
        exact early
      · exact (hears nickname asked).imp_right fun heardNow => ⟨call, rfl, heardNow⟩

/-- The search goes on to be followed. -/
theorem follows_call {call : HostCall}
    (follows : (undergoAll acts node).lifecycle = .nicknameDiscovery →
      ∃ probes, Follows acts node probes)
    (pursues : (undergoAll acts node).Pursues call
      (undergoAll (acts ++ [.call call]) node).discovery) :
    ∃ probes, Follows (acts ++ [.call call]) node probes := by
  generalize after : (undergoAll (acts ++ [.call call]) node).discovery = next at pursues
  cases pursues with
  | begun fresh =>
      refine ⟨[], Search.open_nil, show none ≠ _ by decide, after.symm, fun late => ?_⟩
      exact absurd late List.not_mem_nil
  | awaited searching finds =>
      obtain ⟨probes, follows⟩ := follows searching
      obtain ⟨probes, opened, unended, tracked, since⟩ := follows.finds finds
      exact ⟨probes, opened, unended, tracked.trans after.symm,
        fun late => since _ late fun nickname counted => .inl counted⟩
  | heard searching finds hears judged unended =>
      obtain ⟨probes, follows⟩ := follows searching
      obtain ⟨probes, opened, open?, rfl, since⟩ := follows.finds finds
      refine ⟨probes ++ [.acknowledge], Search.open_concat_iff.mpr ⟨opened, open?⟩, ?_, ?_,
        fun late => since _ (by simpa using late) fun nickname counted => ?_⟩
      · rw [Search.after_concat, Search.outcome_acknowledge, judged]
        exact fun same => unended (Option.some.inj same)
      · rw [Search.after_concat, Search.discovery_acknowledge, judged]
        exact after.symm
      · rw [Search.after_concat] at counted
        refine (Search.mem_answers_acknowledge counted).imp_right fun last => ?_
        rw [last]
        exact hears

/-- A node that was built without a search goes through probes whenever it searches. -/
theorem follows_undergoAll (settled : node.lifecycle ≠ .nicknameDiscovery)
    (acts : List (HostAct Clock App))
    (searching : (undergoAll acts node).lifecycle = .nicknameDiscovery) :
    ∃ probes, Follows acts node probes := by
  induction acts using List.reverseRecOn with
  | nil => exact absurd searching settled
  | append_singleton acts act ih =>
      cases act with
      | surround store transport clock app =>
          rw [undergoAll_concat] at searching
          obtain ⟨probes, follows⟩ := ih searching
          have same : (undergoAll (acts ++ [.surround store transport clock app]) node).discovery =
              (undergoAll acts node).discovery := by
            rw [undergoAll_concat]
            rfl
          refine ⟨probes, follows.opened, follows.unended, follows.tracked.trans same.symm,
            fun late => (follows.heard late).concat ?_ fun nickname counted => .inl counted⟩
          rintro call ⟨⟩
      | call call =>
          refine follows_call ih ?_
          rw [undergoAll_concat] at searching ⊢
          exact pursues_serve _ call searching

end Following

/-- A search counts the acknowledgements since its last timeout and ends exactly when each candidate
but the master has acknowledged once. So whatever its host does to it, a node that searches becomes
idle only by a call before which, since the last time that its probe went unanswered, it has taken
an acknowledgement from each of these nicknames, with the one that the call takes. -/
theorem search_hears_everyone {config : Config} {store : Store} {transport : Transport}
    {clock : Clock} {app : App} {node : Node Clock App}
    (built : build config store transport clock app = .ok node) :
    (∀ probes, Search.Open probes → (Search.after probes).Tallies probes) ∧
    ∀ acts act, (undergoAll acts node).lifecycle = .nicknameDiscovery →
      (undergoAll (acts ++ [act]) node).lifecycle = .idle →
      HeardSince (acts ++ [act]) node fun nickname =>
        1 ≤ nickname ∧ nickname ≤ Protocol.highestNickname := by
  refine ⟨fun probes opened => Search.tallies_after opened, fun acts act searching idle => ?_⟩
  have fresh := fresh_build built
  obtain ⟨probes, follows⟩ :=
    follows_undergoAll (fresh.lifecycle_ne (by decide) rfl) acts searching
  rw [undergoAll_concat] at idle
  cases act with
  | surround store transport clock app => cases searching.symm.trans idle
  | call call =>
      have turn := (undergoAll acts node).turn_serve call
      rcases turn.change (parked_undergoAll fresh.parked acts) with still | change
      · cases idle.symm.trans (still.trans searching)
      · rw [show ((undergoAll acts node).serve call).2.core.lifecycle = .idle from idle] at change
        cases change with
        | gaveUp takes _ command own other all =>
            obtain ⟨probes, opened, open?, tracked, since⟩ :=
              follows.finds (takes.finds searching)
            have ended : (Search.after (probes ++ [.acknowledge])).outcome? = some .exhausted := by
              rw [Search.after_concat, Search.outcome_acknowledge, tracked]
              exact congrArg some (Discovery.acknowledge_exhausted_iff.mpr ⟨other, all⟩)
            have late : ProbeAct.timeout ∈ probes := by
              refine not_not.mp fun early => other ?_
              rw [← tracked]
              exact (Search.tallies_after opened).master.mpr early
            refine since _ late fun nickname valid => ?_
            obtain ⟨-, everyone⟩ :=
              (Search.tallies_after (Search.open_concat_iff.mpr ⟨opened, open?⟩)).heard ended
            have answered := (everyone nickname).mpr valid
            rw [Search.after_concat] at answered
            refine (Search.mem_answers_acknowledge answered).imp_right fun last => ?_
            exact ⟨_, _, takes, command, own.trans (last.trans (congrArg _ tracked)).symm⟩
        | parked takes active => cases searching.symm.trans active

/-- On this segment each nickname answers its probe. -/
def crowdedTransport : Transport :=
  { Transport.open with
    inbox := (List.range 254).map fun index => Event.new 0 3 (UInt8.ofNat (index + 1)) }

/-- Only the master lets the time of its probe pass. -/
def crowdedActs : List (HostAct SoftTimers SilentApplication) :=
  [.call .process, .call (.poll 500)] ++ List.replicate 252 (.call .process)

def crowdedNode : Node SoftTimers SilentApplication :=
  (build {} (Store.erased 256) crowdedTransport (SoftTimers.empty 4)
    SilentApplication.mk).toOption.get rfl

theorem crowded_segment_hears_everyone :
    (undergoAll crowdedActs crowdedNode).lifecycle = .nicknameDiscovery ∧
      (undergoAll (crowdedActs ++ [.call .process]) crowdedNode).lifecycle = .idle ∧
      HeardSince (crowdedActs ++ [.call .process]) crowdedNode fun nickname =>
        1 ≤ nickname ∧ nickname ≤ Protocol.highestNickname := by
  have built : build {} (Store.erased 256) crowdedTransport (SoftTimers.empty 4)
      SilentApplication.mk = .ok crowdedNode := rfl
  have searching : (undergoAll crowdedActs crowdedNode).lifecycle = .nicknameDiscovery := by
    decide +kernel
  have idle : (undergoAll (crowdedActs ++ [.call .process]) crowdedNode).lifecycle = .idle := by
    decide +kernel
  obtain ⟨-, hears⟩ := search_hears_everyone built
  exact ⟨searching, idle, hears crowdedActs (.call .process) searching idle⟩

end Node

end Vscp
