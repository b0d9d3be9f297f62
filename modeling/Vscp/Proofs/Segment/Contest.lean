/-
This file proves that two active nodes with one nickname are about to find out.
-/

import Vscp.Proofs.Segment.Exchange

namespace Vscp

theorem NodeCore.Governed.parked {Clock : Type} {config : Config} {core : NodeCore Clock}
    (governed : Governed config core) : core.Parked := by
  rcases governed with failed | invariant
  · exact .of_awake (Lifecycle.ne_of_failed failed rfl) (Lifecycle.ne_of_failed failed rfl)
  · exact fun stopped => invariant.unarmed stopped .general

namespace Pair

open NodeCore

variable {Clock App : Side → Type} [∀ side, TimerService (Clock side)]
  [∀ side, Application (App side)]

/-- Both nodes are active under one nickname. -/
def Shares (pair : Pair Clock App) (nickname : UInt8) : Prop :=
  ∀ side, (pair side).lifecycle = .active ∧ (pair side).nickname = nickname

/-- An event that contests the nickname waits for one of the nodes. -/
def Contests (pair : Pair Clock App) (nickname : UInt8) : Prop :=
  ∃ side, ∃ event ∈ (pair side).transport.inbox, event.Contests nickname

/-- The nodes are in order, and nothing is lost between them. -/
structure Watched (config : Side → Config) (pair : Pair Clock App) : Prop where
  governed : ∀ side, Governed (config side) (pair side).core
  accepts : ∀ side attempt, (pair side).transport.accepts attempt = true
  contested : ∀ nickname, pair.Shares nickname → pair.Contests nickname

variable {config : Side → Config} {pair : Pair Clock App} {side : Side} {call : HostCall}

omit [∀ side, TimerService (Clock side)] [∀ side, Application (App side)] in
theorem Watched.audible (watched : pair.Watched config)
    (checked : (config side).check = .ok ())
    (sound : ¬(pair side).lifecycle.fault?.isSome = true) : (pair side).Audible where
  priority := by
    have configured := ((watched.governed side).resolve_left sound).configured
    change (pair side).core.config.priority.toNat < 8
    rw [configured]
    exact Config.priority_lt checked
  accepts := watched.accepts side

/-- A call that leaves both nodes active under one nickname leaves an event that contests it. -/
theorem Watched.contested_call (watched : pair.Watched config)
    (checked : (config side).check = .ok ()) (unnamed : ¬(pair side).Readdresses call)
    {nickname : UInt8} (shares : (pair.move (.call side call)).Shares nickname) :
    (pair.move (.call side call)).Contests nickname := by
  obtain ⟨still, own⟩ := shares side
  obtain ⟨active, same⟩ := shares side.other
  rw [move_call_self] at still own
  rw [move_call_other] at active same
  change ((pair side).serve call).2.lifecycle = .active at still
  change ((pair side).serve call).2.nickname = nickname at own
  change (pair side.other).lifecycle = .active at active
  change (pair side.other).nickname = nickname at same
  have steps := (pair side).steps_serve call
  have sound : ¬(pair side).lifecycle.fault?.isSome = true := fun failed =>
    Lifecycle.ne_of_failed failed rfl ((steps.failed failed).symm.trans still)
  have named : ((pair side).serve call).2.nickname ≠ Protocol.unassigned := by
    have governed := (watched.governed side).steps steps
    have alive : ¬((pair side).serve call).2.core.lifecycle.fault?.isSome = true := fun failed =>
      Lifecycle.ne_of_failed failed rfl still
    exact ((governed.resolve_left alive).of_active still).1
  rcases (watched.audible checked sound).contends (watched.governed side).parked unnamed still
    named with ⟨before, kept, missed⟩ | ⟨event, sent, contests⟩
  · have shared : pair.Shares nickname := by
      intro place
      rcases side.eq_or_other place with rfl | rfl
      · exact ⟨before, kept.trans own⟩
      · exact ⟨active, same⟩
    obtain ⟨place, event, waiting, contests⟩ := watched.contested nickname shared
    refine ⟨place, event, ?_, contests⟩
    rcases side.eq_or_other place with rfl | rfl
    · rw [move_call_self]
      exact missed event waiting (by rwa [kept, own])
    · rw [move_call_other]
      exact List.mem_append_left _ waiting
  · refine ⟨side.other, event, ?_, own ▸ contests⟩
    rw [move_call_other]
    exact List.mem_append_right _ sent

theorem Watched.serve (watched : pair.Watched config) (checked : (config side).check = .ok ())
    (unnamed : ¬(pair side).Readdresses call) :
    (pair.move (.call side call)).Watched config where
  governed place := by
    rcases side.eq_or_other place with rfl | rfl
    · rw [move_call_self]
      exact (watched.governed place).steps ((pair place).steps_serve call)
    · rw [move_call_other]
      exact watched.governed side.other
  accepts place attempt := by
    rcases side.eq_or_other place with rfl | rfl
    · rw [move_call_self]
      exact (congrFun ((pair place).accepts_serve call) attempt).trans
        (watched.accepts place attempt)
    · rw [move_call_other]
      exact watched.accepts side.other attempt
  contested _ shares := watched.contested_call checked unnamed shares

/-- An event of a third node hides none of those that wait. -/
theorem Watched.intrude (watched : pair.Watched config) (side : Side) (place : Nat)
    (event : Event) : (pair.move (.intrude side place event)).Watched config := by
  have core (seat : Side) :
      (pair.move (.intrude side place event) seat).core = (pair seat).core := by
    rcases side.eq_or_other seat with rfl | rfl
    · rw [move_intrude_self]
      rfl
    · rw [move_intrude_other]
  refine ⟨fun seat => ?_, fun seat attempt => ?_, fun nickname shares => ?_⟩
  · rw [core]
    exact watched.governed seat
  · rcases side.eq_or_other seat with rfl | rfl
    · rw [move_intrude_self]
      exact watched.accepts seat attempt
    · rw [move_intrude_other]
      exact watched.accepts side.other attempt
  · have shared : pair.Shares nickname := fun seat =>
      ⟨(congrArg NodeCore.lifecycle (core seat)).symm.trans (shares seat).1,
        (congrArg NodeCore.nickname (core seat)).symm.trans (shares seat).2⟩
    obtain ⟨seat, contest, waiting, contests⟩ := watched.contested nickname shared
    refine ⟨seat, contest, ?_, contests⟩
    rcases side.eq_or_other seat with rfl | rfl
    · rw [move_intrude_self]
      exact Node.mem_intrude waiting place event
    · rw [move_intrude_other]
      exact waiting

theorem Watched.run (watched : pair.Watched config)
    (checked : ∀ side, (config side).check = .ok ()) {moves : List Move}
    (unnamed : ∀ earlier side call later, moves = earlier ++ .call side call :: later →
      ¬(pair.run earlier side).Readdresses call) : (pair.run moves).Watched config := by
  induction moves using List.reverseRecOn with
  | nil => exact watched
  | append_singleton moves last ih =>
      have reached := ih fun earlier side call later split =>
        unnamed earlier side call (later ++ [last]) (by simp [split])
      rw [run_concat]
      cases last with
      | call side call => exact reached.serve (checked side) (unnamed moves side call [] rfl)
      | intrude side place event => exact reached.intrude side place event

/-- Two new nodes are not active. -/
theorem watched_build {store : Side → Store} {transport : Side → Transport}
    {clock : ∀ side, Clock side} {app : ∀ side, App side}
    (built : ∀ side, Node.build (config side) (store side) (transport side) (clock side)
      (app side) = .ok (pair side))
    (room : ∀ side, (config side).layout.stop ≤ (store side).size)
    (accepts : ∀ side attempt, (transport side).accepts attempt = true) :
    pair.Watched config where
  governed side := Node.governed_build (built side) (room side)
  accepts side attempt := by
    rw [(Node.fresh_build (built side)).transport]
    exact accepts side attempt
  contested nickname shares :=
    absurd (shares .left).1 ((Node.fresh_build (built .left)).lifecycle_ne (by decide) rfl)

/-- Two nodes of one segment, which loses and refuses no frame, get any calls of their hosts and
any events of other nodes, but none of them takes an event that sets the nickname of an active
node. Whenever both are active under one nickname, an event that announces or defends the nickname
waits for one of them. When no event waits, their nicknames differ or one of them is not active. -/
theorem duplicate_nicknames_contested {store : Side → Store} {transport : Side → Transport}
    {clock : ∀ side, Clock side} {app : ∀ side, App side}
    (built : ∀ side, Node.build (config side) (store side) (transport side) (clock side)
      (app side) = .ok (pair side))
    (room : ∀ side, (config side).layout.stop ≤ (store side).size)
    (accepts : ∀ side attempt, (transport side).accepts attempt = true) (moves : List Move)
    (unnamed : ∀ earlier side call later, moves = earlier ++ .call side call :: later →
      ¬(pair.run earlier side).Readdresses call) :
    let reached := pair.run moves
    (∀ nickname,
      (∀ side, (reached side).lifecycle = .active ∧ (reached side).nickname = nickname) →
        ∃ side, ∃ event ∈ (reached side).transport.inbox, event.Contests nickname) ∧
    ((∀ side, (reached side).transport.inbox = []) →
      (reached .left).nickname ≠ (reached .right).nickname ∨
        ∃ side, (reached side).lifecycle ≠ .active) := by
  intro reached
  have checked (side : Side) := (Node.fresh_build (built side)).checked
  have watched : reached.Watched config := (watched_build built room accepts).run checked unnamed
  refine ⟨watched.contested, fun drained => ?_⟩
  by_contra quiet
  push Not at quiet
  obtain ⟨same, active⟩ := quiet
  obtain ⟨side, event, waiting, -⟩ := watched.contested (reached .left).nickname fun side => by
    refine ⟨active side, ?_⟩
    cases side with
    | left => rfl
    | right => exact same.symm
  rw [drained side] at waiting
  cases waiting

/-- Both nodes have stored the same nickname when they start. -/
def sharingStore : Store :=
  (Store.erased 256).write Layout.nickname 0x10

def sharingPair : Pair (fun _ => SoftTimers) (fun _ => SilentApplication) := fun _ =>
  (Node.build {} sharingStore .open (SoftTimers.empty 4) SilentApplication.mk).toOption.get rfl

def sharingMoves : List Move :=
  [.call .left .process, .call .right .process]

theorem shared_nickname_contested :
    (sharingPair.run sharingMoves).Shares 0x10 ∧ (sharingPair.run sharingMoves).Contests 0x10 := by
  have built (side : Side) :
      Node.build {} sharingStore .open (SoftTimers.empty 4) SilentApplication.mk =
        .ok (sharingPair side) := rfl
  have room (side : Side) : ({} : Config).layout.stop ≤ sharingStore.size := by
    rw [sharingStore, Store.size_write, Store.size, Store.erased, Array.size_replicate]
    decide
  -- every call of the run finds its node before it is active
  have unnamed (earlier : List Move) (side : Side) (call : HostCall) (later : List Move)
      (split : sharingMoves = earlier ++ .call side call :: later) :
      ¬(sharingPair.run earlier side).Readdresses call := by
    rintro ⟨event, ready, arguments, takes, active, -⟩
    rcases earlier with _ | ⟨first, _ | ⟨second, rest⟩⟩
    · cases split
      exact absurd active (by decide +kernel)
    · cases split
      exact absurd active (by decide +kernel)
    · simp [sharingMoves] at split
  have shares : (sharingPair.run sharingMoves).Shares 0x10 := by
    intro side
    cases side <;> decide +kernel
  obtain ⟨contested, -⟩ :=
    duplicate_nicknames_contested built room (fun _ _ => rfl) sharingMoves unnamed
  exact ⟨shares, contested 0x10 shares⟩

end Pair

end Vscp
