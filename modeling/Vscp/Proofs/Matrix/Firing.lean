/-
This file says bit by bit what the rows of a decision matrix ask of an event, and proves that the
rows whose wishes it meets fire, in their order and each once.
-/

import Vscp.Proofs.Mask
import Vscp.Proofs.Node.Dispatch

namespace Vscp

/-- A zone that an event carries suits a wanted one when it is there and they are equal or either
stands for every zone. -/
def Zone.Suits (received : Option UInt8) (wanted : UInt8) : Prop :=
  ∃ zone, received = some zone ∧ (zone = wanted ∨ zone = 255 ∨ wanted = 255)

theorem Zone.meets_iff {received : Option UInt8} {wanted : UInt8} :
    Zone.meets received wanted = true ↔ Zone.Suits received wanted := by
  simp [Zone.meets, Zone.Suits, Zone.wildcard, Option.any_eq_true, or_assoc]

namespace MatrixRow

/-- What the bits of a row ask of an event. -/
structure Asks (row : MatrixRow) (event : Event) (node : Zone) : Prop where
  enabled : row.flags.toNat.testBit 7 = true
  hardCoded : row.flags.toNat.testBit 5 = true → event.hardCoded = true
  origin : row.flags.toNat.testBit 6 = true → event.origin = row.origin
  classLow : ∀ bit < 8, row.classMask.toNat.testBit bit = true →
    event.classId.toNat.testBit bit = row.classFilter.toNat.testBit bit
  classHigh : row.flags.toNat.testBit 1 = true →
    event.classId.toNat.testBit 8 = row.flags.toNat.testBit 0
  type : ∀ bit < 8, row.typeMask.toNat.testBit bit = true →
    event.typeId.toNat.testBit bit = row.typeFilter.toNat.testBit bit
  zone : row.flags.toNat.testBit 4 = true → Zone.Suits event.data[1]? node.zone
  subZone : row.flags.toNat.testBit 3 = true → Zone.Suits event.data[2]? node.subZone

/-- The nine bits of the class are compared as the bytes and the flags of the row say. -/
theorem class_agrees_iff (row : MatrixRow) (event : Event) :
    event.classId &&& row.fullClassMask = row.fullClassFilter &&& row.fullClassMask ↔
      (∀ bit < 8, row.classMask.toNat.testBit bit = true →
        event.classId.toNat.testBit bit = row.classFilter.toNat.testBit bit) ∧
      (row.flags.toNat.testBit 1 = true →
        event.classId.toNat.testBit 8 = row.flags.toNat.testBit 0) := by
  rw [← UInt16.toNat_inj, UInt16.toNat_and, UInt16.toNat_and, Mask.and_eq_and_iff]
  simp only [fullClassMask, fullClassFilter, Mask.testBit_ninth,
    Mask.and_single 0x02 1 rfl, Mask.and_single 0x01 0 rfl]
  constructor
  · intro agrees
    refine ⟨fun bit low set => ?_, fun set => by simpa using agrees 8 (by simpa using set)⟩
    have below : bit ≠ 8 := by omega
    simpa [below] using agrees bit (by simpa [below] using set)
  · rintro ⟨low, high⟩ bit set
    by_cases ninth : bit = 8
    · subst ninth
      simpa using high (by simpa using set)
    · rw [if_neg ninth] at set ⊢
      exact low bit (Mask.lt_of_testBit row.classMask.toNat_lt set) set

theorem admits_iff (row : MatrixRow) (event : Event) (node : Zone) :
    row.admits event node = true ↔ row.Asks event node := by
  simp only [admits, Bool.and_eq_true, Mask.asked_eq_true_iff, beq_iff_eq, class_agrees_iff,
    Mask.byte_and_eq_and_iff, Zone.meets_iff, enabled, checksOrigin, wantsHardCoded, checksZone,
    checksSubZone, Mask.and_single 0x80 7 rfl,
    Mask.and_single 0x40 6 rfl, Mask.and_single 0x20 5 rfl,
    Mask.and_single 0x10 4 rfl, Mask.and_single 0x08 3 rfl]
  constructor
  · rintro ⟨⟨⟨⟨⟨⟨enabled, hardCoded⟩, origin⟩, classLow, classHigh⟩, type⟩, zone⟩, subZone⟩
    exact ⟨enabled, hardCoded, origin, classLow, classHigh, type, zone, subZone⟩
  · intro asks
    exact ⟨⟨⟨⟨⟨⟨asks.enabled, asks.hardCoded⟩, asks.origin⟩, asks.classLow, asks.classHigh⟩,
      asks.type⟩, asks.zone⟩, asks.subZone⟩

end MatrixRow

namespace ExtensionRow

/-- What the selected checks of an extension row ask of an event. -/
structure Asks (extension : ExtensionRow) (event : Event) : Prop where
  zone : extension.options.toNat.testBit 0 = true → Zone.Suits event.data[1]? extension.zone
  subZone : extension.options.toNat.testBit 1 = true → Zone.Suits event.data[2]? extension.subZone
  data0 : extension.options.toNat.testBit 2 = true → event.data[0]? = some extension.data0
  data3 : extension.options.toNat.testBit 3 = true → event.data[3]? = some extension.data3
  data4 : extension.options.toNat.testBit 4 = true → event.data[4]? = some extension.data4
  data5 : extension.options.toNat.testBit 5 = true → event.data[5]? = some extension.data5

theorem admits_iff (extension : ExtensionRow) (event : Event) :
    extension.admits event = true ↔ extension.Asks event := by
  simp only [admits, selects, Bool.and_eq_true, Mask.asked_eq_true_iff, beq_iff_eq, Zone.meets_iff,
    Mask.and_single 0x01 0 rfl, Mask.and_single 0x02 1 rfl,
    Mask.and_single 0x04 2 rfl, Mask.and_single 0x08 3 rfl,
    Mask.and_single 0x10 4 rfl, Mask.and_single 0x20 5 rfl]
  constructor
  · rintro ⟨⟨⟨⟨⟨zone, subZone⟩, data0⟩, data3⟩, data4⟩, data5⟩
    exact ⟨zone, subZone, data0, data3, data4, data5⟩
  · intro asks
    exact ⟨⟨⟨⟨⟨asks.zone, asks.subZone⟩, asks.data0⟩, asks.data3⟩, asks.data4⟩, asks.data5⟩

end ExtensionRow

namespace MatrixRow

/-- The action and the parameter are those of the row itself, or with the action 255 those of its
extension row, if there is one and the event is as it asks. -/
def Gives (row : MatrixRow) (extension? : Option ExtensionRow) (event : Event)
    (action param : UInt8) : Prop :=
  row.action ≠ 255 ∧ action = row.action ∧ param = row.param ∨
    row.action = 255 ∧ ∃ extension, extension? = some extension ∧ extension.Asks event ∧
      action = extension.action ∧ param = extension.param

variable {row : MatrixRow} {extension? : Option ExtensionRow} {event : Event} {node : Zone}

theorem selected?_eq_some_iff {action param : UInt8} :
    row.selected? extension? event = some (action, param) ↔
      row.Gives extension? event action param := by
  unfold selected? Gives extended
  split
  · rename_i extended
    simp [extended, Option.filter_eq_some_iff, ExtensionRow.admits_iff, and_assoc,
      eq_comm (a := action), eq_comm (a := param)]
  · rename_i own
    simp [own, eq_comm (a := action), eq_comm (a := param)]

theorem firing?_eq_some_iff {index : Nat} {firing : Firing} :
    row.firing? extension? event node index = some firing ↔
      firing.row = index ∧ row.Asks event node ∧
        row.Gives extension? event firing.action firing.param ∧ firing.action ≠ 0 := by
  unfold firing? noOperation
  rw [Option.ite_none_right_eq_some, admits_iff]
  constructor
  · rintro ⟨asks, given⟩
    obtain ⟨⟨action, param⟩, kept, rfl⟩ := Option.map_eq_some_iff.mp given
    obtain ⟨selected, acting⟩ := Option.filter_eq_some_iff.mp kept
    exact ⟨rfl, asks, selected?_eq_some_iff.mp selected, by simpa using acting⟩
  · rintro ⟨rfl, asks, gives, acting⟩
    have selected := selected?_eq_some_iff.mpr gives
    simp [asks, selected, Option.filter, acting]

end MatrixRow

namespace Firing

/-- The row of the firing takes part, asks for such an event and gives an action that does
something. -/
structure Due (rows : List MatrixRow) (extensions : List ExtensionRow) (event : Event) (node : Zone)
    (firing : Firing) : Prop where
  counted : firing.row < min rows.length 256
  asks : rows[firing.row].Asks event node
  gives : rows[firing.row].Gives extensions[firing.row]? event firing.action firing.param
  acting : firing.action ≠ 0

section Evaluation

variable (rows : List MatrixRow) (extensions : List ExtensionRow) (event : Event) (node : Zone)

theorem mem_all_iff (firing : Firing) :
    firing ∈ all rows extensions event node ↔ Due rows extensions event node firing := by
  simp only [all, List.mem_filterMap, Prod.exists, List.mk_mem_zipIdx_iff_getElem?,
    MatrixRow.firing?_eq_some_iff]
  constructor
  · rintro ⟨row, index, found, rfl, asks, gives, acting⟩
    obtain ⟨counted, rfl⟩ := List.getElem?_eq_some_iff.mp found
    rw [List.length_take, min_comm] at counted
    rw [List.getElem_take] at asks gives
    exact ⟨counted, asks, gives, acting⟩
  · rintro ⟨counted, asks, gives, acting⟩
    refine ⟨rows[firing.row], firing.row, ?_, rfl, asks, gives, acting⟩
    rw [List.getElem?_take_of_lt (by omega), List.getElem?_eq_getElem]

/-- Each row fires at most once, since it fires with its own index. -/
theorem all_ascending :
    ((all rows extensions event node).map (·.row)).Pairwise (· < ·) := by
  rw [List.pairwise_map]
  have numbered : (rows.take 256).zipIdx.Pairwise (fun left right => left.2 < right.2) := by
    rw [← List.pairwise_map (f := Prod.snd), List.zipIdx_map_snd]
    exact List.pairwise_lt_range'
  refine numbered.filterMap _ ?_
  intro left right earlier fired byLeft other byRight
  rw [(MatrixRow.firing?_eq_some_iff.mp byLeft).1, (MatrixRow.firing?_eq_some_iff.mp byRight).1]
  exact earlier

/-- The rows that are due fire, in their order and each once. Whatever the caller makes of them, it
is told exactly these firings in this order and gets their number, and so does a node. -/
theorem matrix_fires_specified_rows {Clock App : Type} [Application App] :
    (∀ firing, firing ∈ all rows extensions event node ↔ Due rows extensions event node firing) ∧
      ((all rows extensions event node).map (·.row)).Pairwise (· < ·) ∧
      (∀ {State : Type} (fire : State → Firing → State) (state : State),
        evaluate fire rows extensions event node state =
          ((all rows extensions event node).length,
            (all rows extensions event node).foldl fire state)) ∧
      ∀ host : Node Clock App, (host.runMatrix event).1 = (host.firings event).length ∧
        Node.Notifies host (host.runMatrix event).2 ((host.firings event).map (·.call event)) := by
  refine ⟨mem_all_iff rows extensions event node, all_ascending rows extensions event node,
    fun fire state => evaluate_eq fire extensions event node rows state, ?_⟩
  intro host
  exact host.runMatrix_notifies event

end Evaluation

end Firing

end Vscp
