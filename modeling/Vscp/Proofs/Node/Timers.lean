/-
This file says which timers go with each state of a node, and proves what single acts do to them.
-/

import Vscp.Proofs.Node.Transition

namespace Vscp

namespace NodeCore

variable {Clock : Type}

/-- What no step of a node takes away: settings, room for the nickname and timers, of which the
heartbeat runs only with a period. -/
structure Equipped (config : Config) (core : NodeCore Clock) : Prop where
  configured : core.config = config
  room : Layout.nickname < core.store.size
  banked : core.bank.isSome = true
  beats : core.isArmed .heartbeat = true → config.heartbeatPeriod ≠ 0

/-- The timers that each state goes with. A node that starts over keeps its timers, so that only a
pending reset may run beside a nickname. -/
def TimersMatch (core : NodeCore Clock) : Lifecycle → Prop
  | .starting => core.nickname ≠ Protocol.unassigned → core.isArmed .general = true →
      core.resetPending = true
  | .nicknameDiscovery => core.nickname = Protocol.unassigned ∧ core.isArmed .general = true ∧
      core.isArmed .heartbeat = false
  | .active => core.nickname ≠ Protocol.unassigned ∧
      (core.isArmed .heartbeat = true ↔ core.config.heartbeatPeriod ≠ 0) ∧
      (core.isArmed .general = true → core.resetPending = true)
  | .idle | .bootLoaderHandoff => ∀ slot, core.isArmed slot = false
  | .error _ => False

structure TimerInvariant (config : Config) (core : NodeCore Clock) : Prop
    extends Equipped config core where
  timers : core.TimersMatch core.lifecycle

theorem TimerInvariant.sound {config : Config} {core : NodeCore Clock}
    (invariant : TimerInvariant config core) : core.lifecycle.fault? = none := by
  have timers := invariant.timers
  cases lifecycle : core.lifecycle with
  | error fault =>
      rw [lifecycle] at timers
      exact timers.elim
  | starting => rfl
  | nicknameDiscovery => rfl
  | active => rfl
  | idle => rfl
  | bootLoaderHandoff => rfl

namespace Equipped

variable {config : Config} {core : NodeCore Clock}

theorem of_same {after : NodeCore Clock} (equipped : Equipped config core)
    (configured : after.config = core.config) (store : after.store = core.store)
    (bank : after.bank = core.bank) : Equipped config after where
  configured := configured.trans equipped.configured
  room := store ▸ equipped.room
  banked := bank ▸ equipped.banked
  beats := by
    unfold isArmed
    rw [bank]
    exact equipped.beats

theorem enter (equipped : Equipped config core) (lifecycle : Lifecycle) :
    Equipped config (core.enter lifecycle) :=
  equipped.of_same rfl rfl rfl

theorem writeStore (equipped : Equipped config core) (address : Nat) (value : UInt8) :
    Equipped config (core.writeStore address value) where
  configured := equipped.configured
  room := by
    change Layout.nickname < (core.store.write address value).size
    rw [Store.size_write]
    exact equipped.room
  banked := equipped.banked
  beats := equipped.beats

theorem setNickname (equipped : Equipped config core) (nickname : UInt8) :
    Equipped config (core.setNickname nickname) :=
  equipped.writeStore Layout.nickname nickname

theorem withdraw (equipped : Equipped config core) (request : DropRequest) :
    Equipped config (core.withdraw request) := by
  unfold NodeCore.withdraw
  split
  · exact equipped
  · exact equipped.setNickname _

theorem nickname_setNickname (equipped : Equipped config core) (nickname : UInt8) :
    (core.setNickname nickname).nickname = nickname :=
  Store.read_write_self equipped.room nickname

variable [TimerService Clock]

theorem start (equipped : Equipped config core) {slot : TimerSlot} (other : slot ≠ .heartbeat)
    (timeout : Nat) : Equipped config (core.start slot timeout) where
  configured := equipped.configured
  room := equipped.room
  banked := by simpa [NodeCore.start] using equipped.banked
  beats := by simpa [Ne.symm other] using equipped.beats

theorem stop (equipped : Equipped config core) (slot : TimerSlot) :
    Equipped config (core.stop slot) where
  configured := equipped.configured
  room := equipped.room
  banked := by simpa [NodeCore.stop] using equipped.banked
  beats := by
    rw [isArmed_stop]
    split
    · simp
    · exact equipped.beats

theorem stopAll (equipped : Equipped config core) : Equipped config core.stopAll :=
  (((equipped.stop _).stop _).stop _).stop _

theorem seeExpiry (equipped : Equipped config core) (slot : TimerSlot) :
    Equipped config (core.seeExpiry slot) where
  configured := equipped.configured
  room := equipped.room
  banked := by simpa [NodeCore.seeExpiry] using equipped.banked
  beats := by
    intro armed
    rw [isArmed_seeExpiry] at armed
    split at armed
    · rename_i same
      simp only [Bool.and_eq_true] at armed
      exact equipped.beats (same ▸ armed.1)
    · exact equipped.beats armed

theorem startHeartbeat (equipped : Equipped config core) :
    Equipped config core.startHeartbeat := by
  unfold NodeCore.startHeartbeat
  split
  · exact equipped
  · rename_i period
    have banked := equipped.banked
    exact ⟨equipped.configured, equipped.room, by simpa [NodeCore.start] using banked,
      fun _ => equipped.configured ▸ period⟩

end Equipped

section Marks

variable [TimerService Clock] {config : Config} {core : NodeCore Clock}

/-- The heartbeat is started exactly when there is a period. -/
theorem isArmed_startHeartbeat (equipped : Equipped config core) :
    core.startHeartbeat.isArmed .heartbeat = true ↔ core.config.heartbeatPeriod ≠ 0 := by
  have beats := equipped.beats
  rw [← equipped.configured] at beats
  unfold startHeartbeat
  split
  · rename_i silent
    constructor
    · exact beats
    · intro period
      exact absurd silent period
  · rename_i period
    simp [period, equipped.banked]

end Marks

namespace Equipped

variable [TimerService Clock] {config : Config} {core : NodeCore Clock}

theorem goActive (equipped : Equipped config core) (named : core.nickname ≠ Protocol.unassigned)
    (pending : core.isArmed .general = true → core.resetPending = true) :
    TimerInvariant config core.goActive where
  toEquipped := equipped.startHeartbeat.enter _
  timers := by
    change core.startHeartbeat.nickname ≠ Protocol.unassigned ∧
      (core.startHeartbeat.isArmed .heartbeat = true ↔
        core.startHeartbeat.config.heartbeatPeriod ≠ 0) ∧
      (core.startHeartbeat.isArmed .general = true → core.startHeartbeat.resetPending = true)
    have general : core.startHeartbeat.isArmed .general = core.isArmed .general :=
      isArmed_startHeartbeat_other (by decide)
    rw [nickname_startHeartbeat, config_startHeartbeat, resetPending_startHeartbeat, general]
    exact ⟨named, isArmed_startHeartbeat equipped, pending⟩

/-- A probe arms the general timer and no other. -/
theorem probe (equipped : Equipped config core) (searching : core.lifecycle = .nicknameDiscovery)
    (missing : core.nickname = Protocol.unassigned)
    (silent : core.isArmed .heartbeat = false) (timeout : Nat) :
    TimerInvariant config (core.start .general timeout) where
  toEquipped := equipped.start (by decide) timeout
  timers := by
    have banked := equipped.banked
    change TimersMatch _ core.lifecycle
    rw [searching]
    exact ⟨missing, by simp [banked], by simp [silent]⟩

theorem startDiscovery (equipped : Equipped config core)
    (missing : core.nickname = Protocol.unassigned) :
    TimerInvariant config core.startDiscovery := by
  have silenced := equipped.stop .heartbeat
  have searching : Equipped config
      ({ core.stop .heartbeat with discovery := .new }.enter .nicknameDiscovery) :=
    silenced.of_same rfl rfl rfl
  have silent : (core.stop .heartbeat).isArmed .heartbeat = false := by simp
  exact searching.probe rfl missing silent _

theorem enterIdle (equipped : Equipped config core) : TimerInvariant config core.enterIdle where
  toEquipped := equipped.stopAll.of_same rfl rfl rfl
  timers := core.isArmed_stopAll

theorem reset (equipped : Equipped config core) (sound : core.lifecycle.fault? = none) :
    TimerInvariant config core.reset := by
  have stopped := equipped.stopAll
  have unarmed := core.isArmed_stopAll .general
  have running : ¬core.lifecycle.fault?.isSome = true := by simp [sound]
  rw [NodeCore.reset, if_neg running]
  refine ⟨stopped.of_same rfl rfl rfl, ?_⟩
  intro _ armed
  exact absurd (unarmed.symm.trans armed) (by decide)

theorem handOver (equipped : Equipped config core) :
    TimerInvariant config (core.stopAll.enter .bootLoaderHandoff) :=
  ⟨equipped.stopAll.enter _, core.isArmed_stopAll⟩

end Equipped

/-- What the timers of a state depend on; beside an active nickname the timers of the sessions may
do as they like. -/
structure SameTimers (before after : NodeCore Clock) : Prop where
  config : after.config = before.config
  lifecycle : after.lifecycle = before.lifecycle
  nickname : after.nickname = before.nickname
  size : after.store.size = before.store.size
  banked : after.bank.isSome = before.bank.isSome
  pending : after.resetPending = before.resetPending
  general : after.isArmed .general = before.isArmed .general
  heartbeat : after.isArmed .heartbeat = before.isArmed .heartbeat
  others : before.lifecycle = .active ∨
    ∀ slot, after.isArmed slot = true → before.isArmed slot = true

/-- Where no timer was armed none is armed afterwards. -/
theorem SameTimers.unarmed {before after : NodeCore Clock} (same : SameTimers before after)
    (settled : before.lifecycle ≠ .active) (timers : ∀ slot, before.isArmed slot = false)
    (slot : TimerSlot) : after.isArmed slot = false := by
  rcases same.others with active | others
  · exact absurd active settled
  · cases armed : after.isArmed slot with
    | false => rfl
    | true => exact absurd (others slot armed) (by simp [timers slot])

theorem TimerInvariant.of_sameTimers {config : Config} {before after : NodeCore Clock}
    (invariant : TimerInvariant config before) (same : SameTimers before after) :
    TimerInvariant config after := by
  have timers := invariant.timers
  refine ⟨⟨same.config.trans invariant.configured, same.size ▸ invariant.room,
    same.banked.trans invariant.banked, fun armed => ?_⟩, ?_⟩
  · exact invariant.beats (same.heartbeat ▸ armed)
  · rw [same.lifecycle]
    cases lifecycle : before.lifecycle with
    | starting =>
        rw [lifecycle] at timers
        rw [TimersMatch, same.nickname, same.general, same.pending]
        exact timers
    | nicknameDiscovery =>
        rw [lifecycle] at timers
        rw [TimersMatch, same.nickname, same.general, same.heartbeat]
        exact timers
    | active =>
        rw [lifecycle] at timers
        rw [TimersMatch, same.nickname, same.config, same.general, same.heartbeat, same.pending]
        exact timers
    | idle =>
        rw [lifecycle] at timers
        exact same.unarmed (by simp [lifecycle]) timers
    | bootLoaderHandoff =>
        rw [lifecycle] at timers
        exact same.unarmed (by simp [lifecycle]) timers
    | error fault =>
        rw [lifecycle] at timers
        exact timers.elim

theorem SameTimers.of_accessed {before after : NodeCore Clock} (access : Accessed before after) :
    SameTimers before after := by
  have armed (slot : TimerSlot) : after.isArmed slot = before.isArmed slot := by
    rw [access.others]
    rfl
  refine ⟨?_, ?_, access.nickname, access.size, ?_, ?_, armed _, armed _, .inr fun slot => ?_⟩
  · rw [access.others]
  · rw [access.others]
  · rw [access.others]
  · rw [access.others]
  · rw [armed]
    exact id

theorem SameTimers.of_same {before after : NodeCore Clock} (config : after.config = before.config)
    (lifecycle : after.lifecycle = before.lifecycle) (store : after.store = before.store)
    (bank : after.bank = before.bank) (pending : after.resetPending = before.resetPending) :
    SameTimers before after := by
  have armed (slot : TimerSlot) : after.isArmed slot = before.isArmed slot := by
    rw [isArmed, isArmed, bank]
  have nickname : after.nickname = before.nickname :=
    congrArg (fun store => store.read Layout.nickname) store
  exact ⟨config, lifecycle, nickname, by rw [store], by rw [bank], pending, armed _, armed _,
    .inr fun slot there => (armed slot).symm.trans there⟩

theorem SameTimers.takeTime (core : NodeCore Clock) (data : List UInt8) :
    SameTimers core (core.takeTime data) :=
  .of_same rfl rfl rfl rfl rfl

theorem SameTimers.writeStore (core : NodeCore Clock) {address : Nat}
    (other : Layout.nickname ≠ address) (value : UInt8) :
    SameTimers core (core.writeStore address value) :=
  ⟨rfl, rfl, Store.read_write_other core.store other value, Store.size_write .., rfl, rfl, rfl,
    rfl, .inr fun _ armed => armed⟩

/-- The timer of a session is neither general nor the heartbeat, so that a change of it and of
the sessions goes with every state but one that has no timer armed. -/
theorem SameTimers.of_session {before after : NodeCore Clock} (slot : SessionSlot)
    (rest : { after with clock := before.clock, bank := before.bank,
                         sessions := before.sessions } = before)
    (banked : after.bank.isSome = before.bank.isSome)
    (kept : ∀ other, other ≠ slot.timer → after.isArmed other = before.isArmed other)
    (own : before.lifecycle = .active ∨
      (after.isArmed slot.timer = true → before.isArmed slot.timer = true)) :
    SameTimers before after where
  config := (congrArg NodeCore.config rest :)
  lifecycle := (congrArg NodeCore.lifecycle rest :)
  nickname := (congrArg NodeCore.nickname rest :)
  size := (congrArg (·.store.size) rest :)
  banked := banked
  pending := (congrArg NodeCore.resetPending rest :)
  general := kept .general (by cases slot <;> decide)
  heartbeat := kept .heartbeat (by cases slot <;> decide)
  others := by
    rcases own with active | own
    · exact .inl active
    · right
      intro other armed
      by_cases same : other = slot.timer
      · exact same ▸ own (same ▸ armed)
      · exact (kept other same).symm.trans armed

section Sessions

variable [TimerService Clock]

theorem SameTimers.startSession {core : NodeCore Clock} (active : core.lifecycle = .active)
    (sessions : GuidDropSessions) (slot : SessionSlot) (timeout : Nat) :
    SameTimers core ({ core with sessions }.start slot.timer timeout) := by
  refine .of_session slot rfl (by simp [start]) (fun other apart => ?_) (.inl active)
  rw [isArmed_start, if_neg apart]
  rfl

theorem SameTimers.stopSession (core : NodeCore Clock) (sessions : GuidDropSessions)
    (slot : SessionSlot) : SameTimers core ({ core with sessions }.stop slot.timer) := by
  refine .of_session slot rfl (by simp [stop]) (fun other apart => ?_) (.inr fun armed => ?_)
  · rw [isArmed_stop, if_neg apart]
    rfl
  · rw [isArmed_stop, if_pos rfl] at armed
    cases armed

theorem SameTimers.seeSessionExpiry (core : NodeCore Clock) (sessions : GuidDropSessions)
    (slot : SessionSlot) : SameTimers core { core.seeExpiry slot.timer with sessions } := by
  have seen (other : TimerSlot) : { core.seeExpiry slot.timer with sessions }.isArmed other =
      (core.seeExpiry slot.timer).isArmed other := rfl
  refine .of_session slot rfl (by simp [seeExpiry]) (fun other apart => ?_) (.inr fun armed => ?_)
  · rw [seen, isArmed_seeExpiry, if_neg apart]
  · rw [seen, isArmed_seeExpiry, if_pos rfl, Bool.and_eq_true] at armed
    exact armed.1

end Sessions

namespace TimerInvariant

variable {config : Config} {core after : NodeCore Clock}

theorem of_active (invariant : TimerInvariant config core) (active : core.lifecycle = .active) :
    core.nickname ≠ Protocol.unassigned ∧
      (core.isArmed .heartbeat = true ↔ core.config.heartbeatPeriod ≠ 0) ∧
      (core.isArmed .general = true → core.resetPending = true) := by
  have timers := invariant.timers
  rwa [active] at timers

theorem of_searching (invariant : TimerInvariant config core)
    (searching : core.lifecycle = .nicknameDiscovery) :
    core.nickname = Protocol.unassigned ∧ core.isArmed .general = true ∧
      core.isArmed .heartbeat = false := by
  have timers := invariant.timers
  rwa [searching] at timers

theorem active (equipped : Equipped config core) (active : core.lifecycle = .active)
    (named : core.nickname ≠ Protocol.unassigned)
    (beating : core.isArmed .heartbeat = true ↔ core.config.heartbeatPeriod ≠ 0)
    (pending : core.isArmed .general = true → core.resetPending = true) :
    TimerInvariant config core := by
  refine ⟨equipped, ?_⟩
  rw [active]
  exact ⟨named, beating, pending⟩

/-- Beside a nickname the general timer is only armed for a reset. -/
theorem pending_of_armed (invariant : TimerInvariant config core)
    (named : core.nickname ≠ Protocol.unassigned) (armed : core.isArmed .general = true) :
    core.resetPending = true := by
  have timers := invariant.timers
  cases lifecycle : core.lifecycle with
  | starting =>
      rw [lifecycle] at timers
      exact timers named armed
  | nicknameDiscovery =>
      rw [lifecycle] at timers
      exact absurd timers.1 named
  | active =>
      rw [lifecycle] at timers
      exact timers.2.2 armed
  | idle =>
      rw [lifecycle] at timers
      exact absurd armed (by simp [timers .general])
  | bootLoaderHandoff =>
      rw [lifecycle] at timers
      exact absurd armed (by simp [timers .general])
  | error fault =>
      rw [lifecycle] at timers
      exact timers.elim

theorem unarmed (invariant : TimerInvariant config core)
    (parked : core.lifecycle = .idle ∨ core.lifecycle = .bootLoaderHandoff) (slot : TimerSlot) :
    core.isArmed slot = false := by
  have timers := invariant.timers
  rcases parked with idle | handed
  · rw [idle] at timers
    exact timers slot
  · rw [handed] at timers
    exact timers slot

end TimerInvariant

end NodeCore

end Vscp
