/-
This file proves that the registers of a node behave like memory.
-/

import Vscp.Proofs.Node.Settings
import Vscp.Proofs.Register.Target

namespace Vscp.Node

variable {Clock App : Type}

/-- What a target shows. An application answers for its own registers. -/
def shown (node : Node Clock App) : RegisterTarget → UInt8
  | .standard slot => node.peekStandard slot
  | .decisionMatrix index => node.store.read (Layout.matrixBase + index)
  | .ruleset index => node.store.read (node.layout.rulesetBase + index)
  | .application | .unmapped => 0

section Places

variable {node : Node Clock App} {target other : RegisterTarget} {address : Nat}

theorem shown_of_address (kept : target.address? node.layout = some address) :
    node.shown target = node.store.read address := by
  cases target with
  | standard slot =>
      obtain ⟨register, index, access⟩ := slot
      cases register <;> cases kept <;> rfl
  | decisionMatrix index =>
      cases kept
      rfl
  | ruleset index =>
      cases kept
      rfl
  | application => cases kept
  | unmapped => cases kept

/-- What is not kept in the store does not change with it. -/
theorem shown_writeStore_of_free (free : target.address? node.layout = none) (address : Nat)
    (value : UInt8) : (node.writeStore address value).shown target = node.shown target := by
  cases target with
  | standard slot =>
      obtain ⟨register, index, access⟩ := slot
      cases register <;> first | rfl | cases free
  | decisionMatrix index => cases free
  | ruleset index => cases free
  | application => rfl
  | unmapped => rfl

end Places

/-- After a write its target shows the value, and every other target shows what it showed. -/
structure Stores (before after : Node Clock App) (target : RegisterTarget) (value : UInt8) :
    Prop where
  written : after.shown target = value
  others {other : RegisterTarget} : other.Within before.layout → other ≠ target →
    after.shown other = before.shown other

theorem stores_writeStore {node : Node Clock App} {target : RegisterTarget}
    (within : target.Within node.layout) {address : Nat}
    (kept : target.address? node.layout = some address) (room : node.layout.stop ≤ node.store.size)
    (value : UInt8) : Stores node (node.writeStore address value) target value where
  written := by
    have backed := Nat.lt_of_lt_of_le (RegisterTarget.address_lt_stop within kept) room
    have still : target.address? (node.writeStore address value).layout = some address := kept
    rw [shown_of_address still]
    exact Store.read_write_self backed value
  others := by
    intro other also different
    -- a target with an address has another one, a target without does not read the store
    cases place : other.address? node.layout with
    | none => exact shown_writeStore_of_free place address value
    | some elsewhere =>
        have apart : elsewhere ≠ address := by
          rintro rfl
          exact different (RegisterTarget.eq_of_address also within place kept)
        have still : other.address? (node.writeStore address value).layout = some elsewhere := place
        rw [shown_of_address place, shown_of_address still]
        exact Store.read_write_other node.store apart value

section PageSelect

variable {node : Node Clock App} {slot : StandardSlot}

/-- Two bytes make a page. -/
theorem toNat_ofBytes {high low : Nat} (first : high < 256) (second : low < 256) :
    (UInt16.ofNat (high * 256 + low)).toNat = high * 256 + low := by
  rw [UInt16.toNat_ofNat']
  omega

/-- A byte of the page select is a register of its own. -/
theorem stores_select (mapped : slot.IsMapped)
    (single : ∀ range ∈ StandardRange.all, range.register = slot.register →
      range.last.toNat - range.first.toNat < 1) {page : UInt16} {value : UInt8}
    (written : { node with pageSelect := page }.peekStandard slot = value)
    (kept : ∀ other : StandardSlot, other.register ≠ slot.register →
      { node with pageSelect := page }.peekStandard other = node.peekStandard other) :
    Stores node { node with pageSelect := page } (.standard slot) value where
  written := written
  others := by
    intro other also different
    cases other with
    | standard other =>
        have mappedToo : other.IsMapped := also
        apply kept
        intro same
        have first := mapped.index_lt single
        have second := mappedToo.index_lt (same ▸ single)
        exact different (congrArg _ (mappedToo.ext mapped same (by omega)))
    | _ => rfl

variable [Application App]

theorem stores_writeStandard (mapped : slot.IsMapped)
    (memory : (RegisterTarget.standard slot).IsMemory) (room : node.layout.stop ≤ node.store.size)
    (value : UInt8) : Stores node (node.writeStandard slot value) (.standard slot) value := by
  have within : (RegisterTarget.standard slot).Within node.layout := mapped
  obtain ⟨register, index, access⟩ := slot
  rcases memory with control | user | msb | lsb
  · cases control
    exact stores_writeStore within rfl room value
  · cases user
    exact stores_writeStore within rfl room value
  · cases msb
    have selected := toNat_ofBytes value.toNat_lt
      (show node.pageSelect.toNat % 256 < 256 from Nat.mod_lt _ (by decide))
    apply stores_select mapped (by dsimp only; decide)
    · have high : (value.toNat * 256 + node.pageSelect.toNat % 256) / 256 = value.toNat := by omega
      change UInt8.ofNat ((UInt16.ofNat _).toNat / 256) = value
      rw [selected, high]
      exact UInt8.ofNat_toNat
    · intro other different
      obtain ⟨register, index, access⟩ := other
      cases register with
      | pageSelectMsb => exact absurd rfl different
      | pageSelectLsb =>
          change UInt8.ofNat (UInt16.ofNat _).toNat = UInt8.ofNat _
          rw [selected]
          apply UInt8.toNat_inj.mp
          rw [UInt8.toNat_ofNat', UInt8.toNat_ofNat']
          omega
      | _ => rfl
  · cases lsb
    have bound := node.pageSelect.toNat_lt
    have low := value.toNat_lt
    have selected := toNat_ofBytes (show node.pageSelect.toNat / 256 < 256 by omega) low
    apply stores_select mapped (by dsimp only; decide)
    · change UInt8.ofNat (UInt16.ofNat _).toNat = value
      apply UInt8.toNat_inj.mp
      rw [selected, UInt8.toNat_ofNat']
      omega
    · intro other different
      obtain ⟨register, index, access⟩ := other
      cases register with
      | pageSelectLsb => exact absurd rfl different
      | pageSelectMsb =>
          have high : (node.pageSelect.toNat / 256 * 256 + value.toNat) / 256 =
              node.pageSelect.toNat / 256 := by omega
          change UInt8.ofNat ((UInt16.ofNat _).toNat / 256) = UInt8.ofNat (_ / 256)
          rw [selected, high]
      | _ => rfl

end PageSelect

section Registers

variable {node : Node Clock App} {target : RegisterTarget}

theorem within_resolve (node : Node Clock App) (page : UInt16) (offset : UInt8) :
    (node.registerMap.resolve page offset).Within node.layout :=
  RegisterMap.within_resolve rfl rfl page offset

theorem access_of_memory {slot : StandardSlot} (mapped : slot.IsMapped)
    (memory : (RegisterTarget.standard slot).IsMemory) : slot.access.writable = true := by
  obtain ⟨range, listed, named, access, -⟩ := mapped.range
  have writable : ∀ range ∈ StandardRange.all,
      range.register = .nodeControl ∨ range.register = .userId ∨
        range.register = .pageSelectMsb ∨ range.register = .pageSelectLsb →
      range.access.writable = true := by
    decide
  rw [← access]
  apply writable range listed
  rw [named]
  exact memory

variable [Application App]

theorem peek_of_ne (node : Node Clock App) (other : target ≠ .application) (page : UInt16)
    (offset : UInt8) : node.peek target page offset = (node.shown target, node) := by
  cases target with
  | application => exact absurd rfl other
  | _ => rfl

/-- A register that is not of the application reads what its target shows. -/
theorem readRegister_shown {page : UInt16} {offset : UInt8}
    (own : node.registerMap.resolve page offset ≠ .application) :
    (node.readRegister page offset).1 = node.shown (node.registerMap.resolve page offset) := by
  unfold readRegister
  dsimp only
  rw [node.peek_of_ne own]

/-- A write to a target that keeps what is written answers the value and stores it. -/
theorem stores_writeRegister (room : node.layout.stop ≤ node.store.size) {page : UInt16}
    {offset : UInt8} (memory : (node.registerMap.resolve page offset).IsMemory) (value : UInt8) :
    (node.writeRegister page offset value).1 = value ∧
      Stores node (node.writeRegister page offset value).2
        (node.registerMap.resolve page offset) value := by
  have within := node.within_resolve page offset
  unfold writeRegister
  dsimp only
  generalize node.registerMap.resolve page offset = target at memory within
  cases target with
  | standard slot =>
      have stores := stores_writeStandard within memory room value
      dsimp only
      rw [if_pos (access_of_memory within memory)]
      exact ⟨stores.written, stores⟩
  | decisionMatrix index =>
      have stores := stores_writeStore within rfl room value
      exact ⟨stores.written, stores⟩
  | ruleset index =>
      have stores := stores_writeStore within rfl room value
      exact ⟨stores.written, stores⟩
  | application => exact memory.elim
  | unmapped => exact memory.elim

/-- A write where nothing takes it answers what is there and does nothing. -/
theorem writeRegister_of_readOnly {page : UInt16} {offset : UInt8}
    (readOnly : node.registerMap.resolve page offset = .unmapped ∨
      ∃ slot, node.registerMap.resolve page offset = .standard slot ∧ slot.access = .readOnly)
    (value : UInt8) :
    node.writeRegister page offset value = ((node.readRegister page offset).1, node) := by
  unfold writeRegister readRegister
  rcases readOnly with unmapped | ⟨slot, standard, readOnly⟩
  · rw [unmapped]
    rfl
  · have fixed : ¬slot.access.writable = true := by
      rw [readOnly]
      decide
    rw [standard]
    dsimp only
    rw [if_neg fixed]
    rfl

theorem alarm_peek (node : Node Clock App) (target : RegisterTarget) (page : UInt16)
    (offset : UInt8) : (node.peek target page offset).2.alarm = node.alarm :=
  congrArg NodeCore.alarm (node.core_peek target page offset)

theorem alarm_writeStandard (node : Node Clock App) (slot : StandardSlot) (value : UInt8) :
    (node.writeStandard slot value).alarm = node.alarm := by
  unfold writeStandard writeRestore
  dsimp only
  split
  · rfl
  · rfl
  · rfl
  · rfl
  · split
    · rfl
    · split <;> rfl
  · rfl

theorem alarm_writeRegister (node : Node Clock App) (page : UInt16) (offset value : UInt8) :
    (node.writeRegister page offset value).2.alarm = node.alarm := by
  unfold writeRegister
  dsimp only
  split
  · rw [alarm_peek]
    split
    · exact node.alarm_writeStandard _ value
    · rfl
  · exact alarm_peek ..
  · exact alarm_peek ..
  · rfl
  · exact alarm_peek ..

/-- Reading the alarm register takes the alarm and does nothing else. -/
theorem readRegister_alarm {page : UInt16} {offset : UInt8} {slot : StandardSlot}
    (standard : node.registerMap.resolve page offset = .standard slot)
    (alarm : slot.register = .alarmStatus) :
    node.readRegister page offset = (node.alarm, { node with alarm := 0 }) := by
  obtain ⟨register, index, access⟩ := slot
  cases alarm
  unfold readRegister
  rw [standard]
  rfl

/-- Reading clears the alarm at its own register only. -/
theorem alarm_readRegister {page : UInt16} {offset : UInt8}
    (other : ∀ slot, node.registerMap.resolve page offset = .standard slot →
      slot.register ≠ .alarmStatus) :
    (node.readRegister page offset).2.alarm = node.alarm := by
  unfold readRegister afterRead
  dsimp only
  split
  · rename_i index access alarm
    exact absurd rfl (other _ alarm)
  · exact alarm_peek ..

/-- A write to a register of the application changes what no other target shows. -/
theorem shown_writeRegister_of_application {page : UInt16} {offset : UInt8}
    (foreign : node.registerMap.resolve page offset = .application) (value : UInt8)
    (target : RegisterTarget) :
    (node.writeRegister page offset value).2.shown target = node.shown target := by
  unfold writeRegister
  rw [foreign]
  rfl

theorem registerMap_writeRegister (node : Node Clock App) (page : UInt16) (offset value : UInt8) :
    (node.writeRegister page offset value).2.registerMap = node.registerMap := by
  have config : (node.writeRegister page offset value).2.config = node.config := by
    have access := (node.accessed_writeRegister page offset value).others
    exact congrArg NodeCore.config access
  unfold registerMap
  rw [config]

end Registers

section Runs

variable [TimerService Clock] [Application App] {config : Config} {store : Store}
  {transport : Transport} {clock : Clock} {app : App} {node : Node Clock App}

/-- After any acts of its host, over a store with room for all areas, the registers of a node are
memory. A write to a target that keeps its value answers the value, which every address of the
target reads from then on, and every other target of the node reads as before. A write to a target
that takes none answers what is there and changes nothing. The registers that restore factory
defaults read zero, a register of the application changes no other, every page shows the standard
registers, and reading the alarm register clears the alarm, which nothing else does. -/
theorem registers_are_memory (built : build config store transport clock app = .ok node)
    (acts : List (HostAct Clock App))
    (room : config.layout.stop ≤ (undergoAll acts node).store.size) (page : UInt16)
    (offset value : UInt8) :
    let reached := undergoAll acts node
    let target := reached.registerMap.resolve page offset
    let written := (reached.writeRegister page offset value).2
    (target.IsMemory → (reached.writeRegister page offset value).1 = value ∧
      ∀ page offset, written.registerMap.resolve page offset ≠ .application →
        (written.readRegister page offset).1 =
          if written.registerMap.resolve page offset = target then value
          else (reached.readRegister page offset).1) ∧
    (target = .unmapped ∨ (∃ slot, target = .standard slot ∧ slot.access = .readOnly) →
      reached.writeRegister page offset value = ((reached.readRegister page offset).1, reached)) ∧
    (∀ slot, target = .standard slot → slot.register = .restoreDefaults →
      (reached.readRegister page offset).1 = 0) ∧
    (target = .application →
      ∀ page offset, written.registerMap.resolve page offset ≠ .application →
        (written.readRegister page offset).1 = (reached.readRegister page offset).1) ∧
    (∀ slot, target = .standard slot →
      ∀ page, reached.registerMap.resolve page offset = target) ∧
    written.alarm = reached.alarm ∧
    ((∀ slot, target = .standard slot → slot.register ≠ .alarmStatus) →
      (reached.readRegister page offset).2.alarm = reached.alarm) ∧
    (∀ slot, target = .standard slot → slot.register = .alarmStatus →
      reached.readRegister page offset = (reached.alarm, { reached with alarm := 0 })) := by
  intro reached target written
  have settings : reached.config = config := config_reached built acts
  have backed : reached.layout.stop ≤ reached.store.size := by
    rw [layout, settings]
    exact room
  have map : written.registerMap = reached.registerMap :=
    reached.registerMap_writeRegister page offset value
  have shows {page : UInt16} {offset : UInt8}
      (own : written.registerMap.resolve page offset ≠ .application) :
      (written.readRegister page offset).1 =
          written.shown (written.registerMap.resolve page offset) ∧
        (reached.readRegister page offset).1 =
          reached.shown (written.registerMap.resolve page offset) := by
    refine ⟨readRegister_shown own, ?_⟩
    rw [map] at own ⊢
    exact readRegister_shown own
  refine ⟨fun memory => ?_, fun fixed => ?_, fun slot standard restores => ?_, fun foreign => ?_,
    fun slot standard page => ?_, ?_, fun other => ?_,
    fun slot standard alarm => readRegister_alarm standard alarm⟩
  · obtain ⟨answer, stores⟩ := stores_writeRegister backed memory value
    refine ⟨answer, fun page offset own => ?_⟩
    obtain ⟨after, before⟩ := shows own
    rw [after, before]
    split
    · rename_i same
      rw [same]
      exact stores.written
    · rename_i different
      rw [map] at different ⊢
      exact stores.others (reached.within_resolve page offset) different
  · exact writeRegister_of_readOnly fixed value
  · have own : target ≠ .application := by
      rw [standard]
      exact RegisterTarget.noConfusion
    rw [readRegister_shown own]
    change reached.shown target = 0
    rw [standard]
    change reached.peekStandard slot = 0
    rw [peekStandard, restores]
  · intro page offset own
    obtain ⟨after, before⟩ := shows own
    rw [after, before]
    exact shown_writeRegister_of_application foreign value _
  · exact (RegisterMap.resolve_of_standard standard page).trans standard.symm
  · exact reached.alarm_writeRegister page offset value
  · exact alarm_readRegister other

end Runs

/-- A node with a ruleset that searches for a nickname. -/
def ruledNode : Node SoftTimers SilentApplication :=
  (build { rulesEnabled := true } (Store.erased 256) .open (SoftTimers.empty 4)
    SilentApplication.mk).toOption.get rfl

theorem ruleset_byte_kept :
    let reached := undergoAll [.call .process] ruledNode
    let written := (reached.writeRegister 2 5 0x42).2
    (written.readRegister 2 5).1 = 0x42 ∧
      (written.readRegister 1 5).1 = (reached.readRegister 1 5).1 := by
  have room : ({ rulesEnabled := true } : Config).layout.stop ≤
      (undergoAll [.call .process] ruledNode).store.size := by
    decide +kernel
  have built : build { rulesEnabled := true } (Store.erased 256) .open (SoftTimers.empty 4)
      SilentApplication.mk = .ok ruledNode := rfl
  have byte : (undergoAll [.call .process] ruledNode).registerMap.resolve 2 5 = .ruleset 5 := by
    decide +kernel
  obtain ⟨kept, -⟩ := registers_are_memory built [.call .process] room 2 5 0x42
  rw [byte] at kept
  obtain ⟨-, reads⟩ := kept True.intro
  refine ⟨(reads 2 5 (by decide +kernel)).trans (if_pos (by decide +kernel)), ?_⟩
  exact (reads 1 5 (by decide +kernel)).trans (if_neg (by decide +kernel))

end Vscp.Node
