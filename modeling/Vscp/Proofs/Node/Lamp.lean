/-
This file proves how the lamp of a node goes with its state: lit while the node is active, blinking
while it searches for a nickname, and dark or still lit when it is idle, as it came to be idle.
-/

import Vscp.Proofs.Account.Call
import Vscp.Proofs.Node.Assignment

namespace Vscp

/-- The lamp that a state goes with, if it goes with one. -/
def Lifecycle.lamp? : Lifecycle → Option Lamp
  | nicknameDiscovery => some .blink
  | active => some .on
  | _ => none

def Note.lamp? : Note → Option Lamp
  | .lamp shown => some shown
  | _ => none

theorem Effect.lamp?_eq (effect : Effect) : effect.lamp? = effect.note?.bind Note.lamp? := by
  cases effect with
  | frame event accepted =>
      change none = (Note.ofFrame? ..).bind Note.lamp?
      unfold Note.ofFrame?
      split
      · rfl
      · split <;> rfl
  | called call => cases call <;> rfl
  | logged notice => cases notice <;> rfl
  | _ => rfl

/-- How a step sets the lamp that takes a node from the one state to the other. -/
inductive LampStep (before next : Lifecycle) : List Lamp → Prop where
  | kept (still : next = before) : LampStep before next []
  | left (unlit : next.lamp? = none)
      (awake : before = .nicknameDiscovery → next = .starting) : LampStep before next []
  | showed {lamp : Lamp} (shows : next.lamp? = some lamp) : LampStep before next [lamp]
  | gaveUp (searching : before = .nicknameDiscovery) (idle : next = .idle) :
      LampStep before next [.off]

namespace Node

section Steps

variable {Clock App : Type} {node : Node Clock App} {event : Event} {call : HostCall}
  {next : Lifecycle} {notes : List Note}

theorem lamp?_overdue [TimerService Clock] (node : Node Clock App) :
    node.overdue.filterMap Note.lamp? = [] := by
  unfold overdue
  split
  · rfl
  · split <;> rfl

theorem Accounts.Pursuit.lamp (pursuit : Accounts.Pursuit next notes) :
    LampStep .nicknameDiscovery next (notes.filterMap Note.lamp?) := by
  cases pursuit with
  | quiet => exact .kept rfl
  | probed candidate => exact .kept rfl
  | gaveUp => exact .gaveUp rfl rfl
  | assigned nickname valid => exact .showed rfl

theorem Response.lamp (response : Response node event next notes) :
    LampStep node.lifecycle next (notes.filterMap Note.lamp?) := by
  cases response with
  | settled managed apart stays =>
      rcases stays with still | ⟨active, other⟩
      · exact .kept still
      · by_cases still : next = .active
        · exact .kept (still.trans active.symm)
        · refine .left ?_ fun searching => absurd (active.symm.trans searching) (by decide)
          cases next <;> first | rfl | contradiction
  | collided collides => exact .showed rfl
  | moved active managed apart => exact .showed rfl
  | judged active foreign =>
      rw [filterMap_judgement node event (fun _ => rfl) (fun _ _ _ => rfl) (fun _ => rfl)
        fun _ => rfl]
      exact .kept active.symm
  | pursued searching pursuit =>
      rw [searching]
      exact pursuit.lamp

variable [TimerService Clock] [Application App]

theorem Report.lamp (report : Report node call next notes) :
    LampStep node.lifecycle next (notes.filterMap Note.lamp?) := by
  have stopped (stays : next = node.lifecycle ∨ next = .starting) :
      LampStep node.lifecycle next [] := by
    rcases stays with still | starting
    · exact .kept still
    · exact .left (by rw [starting]; rfl) fun _ => starting
  cases report with
  | aside quiet stays => exact stopped stays
  | inert processing inert => exact .kept rfl
  | searched processing starting missing => exact .showed rfl
  | activated processing starting named => exact .showed rfl
  | served processing running idle stays =>
      rw [lamp?_overdue]
      exact stopped stays
  | took processing takes response =>
      have lifecycle : _ = node.lifecycle := takes.elapsed.lifecycle
      rw [List.filterMap_append, lamp?_overdue, List.nil_append]
      exact lifecycle ▸ response.lamp

end Steps

variable {Clock App : Type} [TimerService Clock] [Application App] {node : Node Clock App}

/-- A call sets the lamp as its step does, and otherwise leaves it. -/
theorem lampStep_serve (low : node.config.priority.toNat < 8) (call : HostCall) :
    ∃ lamps, LampStep node.lifecycle (node.serve call).2.lifecycle lamps ∧
      (node.serve call).2.lamp? = lamps.getLast?.or node.lamp? := by
  obtain ⟨report, grown⟩ := noted_serve low call
  refine ⟨_, report.lamp, ?_⟩
  unfold lamp?
  rw [grown, List.filterMap_append, List.getLast?_append, filterMap_effectsOf Effect.lamp?_eq]

/-- A node whose lamp goes with its state keeps it so. -/
theorem lit_serve (low : node.config.priority.toNat < 8)
    (lit : ∀ lamp, node.lifecycle.lamp? = some lamp → node.lamp? = some lamp) (call : HostCall)
    {lamp : Lamp} (shows : (node.serve call).2.lifecycle.lamp? = some lamp) :
    (node.serve call).2.lamp? = some lamp := by
  obtain ⟨lamps, step, after⟩ := lampStep_serve low call
  rw [after]
  cases step with
  | kept still => exact lit lamp (still ▸ shows)
  | left unlit awake => cases unlit.symm.trans shows
  | showed shown => exact shown.symm.trans shows
  | gaveUp searching idle =>
      rw [idle] at shows
      cases shows

/-- A node that comes to be idle puts the lamp out when its search ends, and leaves it lit when it
is told to be idle while it is active. -/
theorem Change.lamp (low : node.config.priority.toNat < 8)
    (lit : ∀ lamp, node.lifecycle.lamp? = some lamp → node.lamp? = some lamp) {call : HostCall}
    (change : node.Change call .idle) :
    (node.lifecycle = .nicknameDiscovery ∧ (node.serve call).2.lamp? = some .off) ∨
      (node.lifecycle = .active ∧ (node.serve call).2.lamp? = some .on) := by
  obtain ⟨lamps, step, after⟩ := lampStep_serve low call
  rw [after]
  rw [change.lifecycle] at step
  have before : node.lifecycle = .nicknameDiscovery ∨ node.lifecycle = .active := by
    cases change with
    | gaveUp takes searching => exact .inl searching
    | parked takes active => exact .inr active
  cases step with
  | kept still =>
      rcases before with searching | active
      · cases still.trans searching
      · cases still.trans active
  | left unlit awake =>
      rcases before with searching | active
      · cases awake searching
      · exact .inr ⟨active, lit .on (by rw [active]; rfl)⟩
  | showed shows => cases shows
  | gaveUp searching idle => exact .inl ⟨searching, rfl⟩

/-- The last of these acts that made the node idle found it so, and it has been idle since. -/
def IdleSince (acts : List (HostAct Clock App)) (node before : Node Clock App) : Prop :=
  ∃ earlier call later, acts = earlier ++ .call call :: later ∧
    before = undergoAll earlier node ∧ before.Change call .idle ∧
    ∀ middle, middle <+: later →
      (undergoAll (earlier ++ .call call :: middle) node).lifecycle = .idle

theorem IdleSince.concat {acts : List (HostAct Clock App)} {before : Node Clock App}
    (since : IdleSince acts node before) {act : HostAct Clock App}
    (still : (undergoAll (acts ++ [act]) node).lifecycle = .idle) :
    IdleSince (acts ++ [act]) node before := by
  obtain ⟨earlier, call, later, rfl, found, change, idle⟩ := since
  refine ⟨earlier, call, later ++ [act], by simp, found, change, fun middle within => ?_⟩
  rcases List.prefix_concat_iff.mp within with rfl | within
  · simpa using still
  · exact idle middle within

/-- The lamp goes with the state, and when the node is idle with the state before that. -/
structure LampAgrees (acts : List (HostAct Clock App)) (node : Node Clock App) : Prop where
  lit : ∀ lamp, (undergoAll acts node).lifecycle.lamp? = some lamp →
    (undergoAll acts node).lamp? = some lamp
  idle : (undergoAll acts node).lifecycle = .idle → ∃ before, IdleSince acts node before ∧
    ((before.lifecycle = .nicknameDiscovery ∧ (undergoAll acts node).lamp? = some .off) ∨
      (before.lifecycle = .active ∧ (undergoAll acts node).lamp? = some .on))

theorem LampAgrees.call {acts : List (HostAct Clock App)} (agrees : LampAgrees acts node)
    (low : (undergoAll acts node).config.priority.toNat < 8)
    (parked : (undergoAll acts node).core.Parked) (call : HostCall) :
    LampAgrees (acts ++ [.call call]) node := by
  have last : undergoAll (acts ++ [.call call]) node = ((undergoAll acts node).serve call).2 :=
    undergoAll_concat ..
  refine ⟨?_, fun idle => ?_⟩
  · rw [last]
    exact fun lamp => lit_serve low agrees.lit call
  · have now := idle
    rw [last] at now ⊢
    rcases ((undergoAll acts node).turn_serve call).change parked with still | change
    · have before : (undergoAll acts node).lifecycle = .idle := still.symm.trans now
      obtain ⟨found, since, came⟩ := agrees.idle before
      obtain ⟨lamps, step, after⟩ := lampStep_serve low call
      rw [now, before] at step
      -- an idle node that stays idle does not touch the lamp
      have untouched : lamps = [] := by
        cases step with
        | kept | left => rfl
        | showed shows => cases shows
        | gaveUp searching => cases searching
      refine ⟨found, since.concat idle, ?_⟩
      rw [after, untouched]
      exact came
    · have change : (undergoAll acts node).Change call .idle := cast (congrArg (Change _ _) now) change
      refine ⟨undergoAll acts node, ⟨acts, call, [], rfl, rfl, change, fun middle within => ?_⟩,
        change.lamp low agrees.lit⟩
      rwa [List.prefix_nil.mp within]

theorem lampAgrees_undergoAll {config : Config} {store : Store} {transport : Transport}
    {clock : Clock} {app : App} (built : build config store transport clock app = .ok node)
    (acts : List (HostAct Clock App)) : LampAgrees acts node := by
  have fresh := fresh_build built
  have low := Config.priority_lt fresh.checked
  induction acts using List.reverseRecOn with
  | nil =>
      refine ⟨fun lamp shows => ?_, fun idle => ?_⟩
      · change node.lifecycle.lamp? = some lamp at shows
        rcases fresh.lifecycle with ⟨starting, -⟩ | failed
        · rw [starting] at shows
          cases shows
        · rw [failed] at shows
          cases shows
      · exact absurd idle (fresh.lifecycle_ne (by decide) rfl)
  | append_singleton acts act ih =>
      cases act with
      | call call =>
          have settings : (undergoAll acts node).config = config := config_reached built acts
          exact ih.call (settings ▸ low) (parked_undergoAll fresh.parked acts) call
      | surround store transport clock app =>
          have last := undergoAll_concat acts (.surround store transport clock app) node
          refine ⟨?_, fun idle => ?_⟩
          · rw [last]
            exact ih.lit
          · have before : (undergoAll acts node).lifecycle = .idle := by
              rw [last] at idle
              exact idle
            obtain ⟨found, since, came⟩ := ih.idle before
            refine ⟨found, since.concat idle, ?_⟩
            rw [last]
            exact came

/-- After any acts of its host the lamp of an active node is on and that of a searching node blinks.
A node that is idle has been so since a search ended without a nickname, and then its lamp is off,
or since an active node was told to be idle, and then its lamp is still on. -/
theorem lamp_follows_lifecycle {config : Config} {store : Store} {transport : Transport}
    {clock : Clock} {app : App} (built : build config store transport clock app = .ok node)
    (acts : List (HostAct Clock App)) :
    let reached := undergoAll acts node
    (reached.lifecycle = .active → reached.lamp? = some .on) ∧
    (reached.lifecycle = .nicknameDiscovery → reached.lamp? = some .blink) ∧
    (reached.lifecycle = .idle → ∃ earlier call later, acts = earlier ++ .call call :: later ∧
      let before := undergoAll earlier node
      before.Change call .idle ∧
      (∀ middle, middle <+: later →
        (undergoAll (earlier ++ .call call :: middle) node).lifecycle = .idle) ∧
      ((before.lifecycle = .nicknameDiscovery ∧ reached.lamp? = some .off) ∨
        (before.lifecycle = .active ∧ reached.lamp? = some .on))) := by
  intro reached
  have agrees := lampAgrees_undergoAll built acts
  refine ⟨fun active => ?_, fun searching => ?_, fun idle => ?_⟩
  · exact agrees.lit .on (congrArg Lifecycle.lamp? active)
  · exact agrees.lit .blink (congrArg Lifecycle.lamp? searching)
  · obtain ⟨_, ⟨earlier, call, later, split, rfl, change, since⟩, came⟩ := agrees.idle idle
    exact ⟨earlier, call, later, split, change, since, came⟩

/-- An active node is told to drop its nickname and be idle. -/
def parkingActs : List (HostAct SoftTimers SilentApplication) :=
  [.call .process,
    .call (.receive { Event.new 0 8 0 with data := [0x10, 0x80], dataWithin := by decide }),
    .call .process]

theorem parked_node_was_active :
    ∃ node, build {} ((Store.erased 256).write Layout.nickname 0x10) .open (SoftTimers.empty 4)
        SilentApplication.mk = .ok node ∧
      ∃ earlier call later, parkingActs = earlier ++ .call call :: later ∧
        (undergoAll earlier node).Change call .idle ∧
        (undergoAll earlier node).lifecycle = .active := by
  have built : build {} ((Store.erased 256).write Layout.nickname 0x10) .open (SoftTimers.empty 4)
      SilentApplication.mk = .ok _ := rfl
  obtain ⟨-, -, idle⟩ := lamp_follows_lifecycle built parkingActs
  obtain ⟨earlier, call, later, split, change, -, came⟩ := idle (by decide +kernel)
  refine ⟨_, built, earlier, call, later, split, change, ?_⟩
  rcases came with ⟨-, dark⟩ | ⟨active, -⟩
  · exact absurd dark (by decide +kernel)
  · exact active

/-- The nickname is gone, and the lamp still shows it. -/
theorem parked_lamp_stays_on :
    ∃ node, build {} ((Store.erased 256).write Layout.nickname 0x10) .open (SoftTimers.empty 4)
        SilentApplication.mk = .ok node ∧
      (undergoAll parkingActs node).lifecycle = .idle ∧
      (undergoAll parkingActs node).nickname = Protocol.unassigned ∧
      (undergoAll parkingActs node).lamp? = some .on := by
  refine ⟨_, rfl, ?_, ?_, ?_⟩ <;> decide +kernel

end Node

end Vscp
