/-
This file proves that no mixture of reads takes a cursor out of its window, wherever the window was
asked to start and end, and that a read takes all of its bytes or none. In memory the reads touch
no byte outside and answer the same.
-/

import Vscp.Proofs.Rule.Record
import Vscp.Rule.Cursor

namespace Vscp

/-- Bytes by their positions; there is no result when one of the positions lies outside. -/
def Bytes.at? (bytes : List UInt8) (position : Nat) : (width : Nat) → Option (List UInt8)
  | 0 => some []
  | width + 1 =>
      bytes[position]?.bind fun byte => (Bytes.at? bytes (position + 1) width).map (byte :: ·)

theorem Bytes.at?_of_within {bytes : List UInt8} {position width : Nat}
    (within : position + width ≤ bytes.length) :
    Bytes.at? bytes position width = some ((bytes.drop position).take width) := by
  induction width generalizing position with
  | zero => rfl
  | succ width ih =>
      have room : position < bytes.length := by omega
      have next : position + 1 + width ≤ bytes.length := by omega
      have later := ih next
      rw [at?, later, List.getElem?_eq_getElem room, List.drop_eq_getElem_cons room]
      rfl

/-- A read that is asked of a cursor, with the fault to give when it fails. -/
inductive CursorRead where
  | byte (kind : FaultKind)
  | number (width : Nat) (kind : FaultKind)
  deriving DecidableEq, Repr

namespace CursorRead

/-- How many bytes are asked for. -/
def width : CursorRead → Nat
  | byte _ => 1
  | number width _ => width

def kind : CursorRead → FaultKind
  | byte kind | number _ kind => kind

end CursorRead

namespace CursorRecord

/-- A read from memory; both kinds answer a number. -/
def perform? (record : CursorRecord) : CursorRead → Option (Except FaultKind Nat × CursorRecord)
  | .byte kind => (record.readByte? kind).map fun (answer, next) => (answer.map UInt8.toNat, next)
  | .number width kind =>
      (record.readNumber? width kind).map fun (answer, next) => (answer.map UInt32.toNat, next)

/-- The record after reads that follow each other, if none of them leaves the bytes. -/
def after? (record : CursorRecord) (reads : List CursorRead) : Option CursorRecord :=
  reads.foldlM (fun record read => (record.perform? read).map (·.2)) record

variable {record : CursorRecord} {read : CursorRead}

theorem perform?_of_room (narrow : read.width ≤ 4)
    (room : record.offset + read.width ≤ record.stop)
    (within : record.stop ≤ record.bytes.length) :
    record.perform? read =
      some (.ok (Bytes.value ((record.bytes.drop record.offset).take read.width)),
        record.advance read.width) := by
  cases read with
  | byte kind =>
      have inside : record.offset < record.bytes.length := Nat.lt_of_lt_of_le room within
      have first : (record.bytes.drop record.offset).take 1 = [record.bytes[record.offset]] := by
        rw [List.drop_eq_getElem_cons inside]
        rfl
      have number : Bytes.value [record.bytes[record.offset]] =
          record.bytes[record.offset].toNat := by simp [Bytes.value]
      rw [perform?, readByte?_of_room room (List.getElem?_eq_getElem inside), CursorRead.width,
        first, number]
      rfl
  | number width kind =>
      have short : ((record.bytes.drop record.offset).take width).length ≤ 4 :=
        Nat.le_trans (List.length_take_le ..) narrow
      have answer : record.readNumber? width kind = _ := readNumber?_of_room narrow room within
      rw [perform?, answer, CursorRead.width, ← Bytes.toNat_word short]
      rfl

theorem perform?_of_refused (ordered : record.offset ≤ record.stop)
    (refused : read.width ≤ 4 → record.stop < record.offset + read.width) :
    record.perform? read = some (.error read.kind, record) := by
  cases read with
  | byte kind =>
      have ended : record.stop < record.offset + 1 := refused (show 1 ≤ 4 by decide)
      rw [perform?, readByte?_of_ended (Nat.le_of_lt_succ ended)]
      rfl
  | number width kind =>
      have answer : record.readNumber? width kind = _ := readNumber?_of_refused ordered refused
      rw [perform?, answer]
      rfl

end CursorRecord

namespace RuleCursor

/-- The answer of a read and the cursor to go on with, which is the old one after a fault. -/
def settle (cursor : RuleCursor) :
    Except FaultKind (Nat × RuleCursor) → Except FaultKind Nat × RuleCursor
  | .ok (number, next) => (.ok number, next)
  | .error kind => (.error kind, cursor)

def perform (cursor : RuleCursor) : CursorRead → Except FaultKind Nat × RuleCursor
  | .byte kind =>
      cursor.settle ((cursor.readByte kind).map fun (byte, next) => (byte.toNat, next))
  | .number width kind => cursor.settle (cursor.readNumber width kind)

/-- The cursor after reads that follow each other. -/
def after (cursor : RuleCursor) (reads : List CursorRead) : RuleCursor :=
  reads.foldl (fun cursor read => (cursor.perform read).2) cursor

section Windows

variable {bytes : List UInt8} {position stop : Nat}

theorem window_of_within (ordered : position ≤ stop) (within : stop ≤ bytes.length) :
    window bytes position stop = ⟨position, (bytes.take stop).drop position⟩ := by
  simp only [window, Nat.min_eq_left within, Nat.min_eq_left ordered]

theorem offset_window (ordered : position ≤ stop) (within : stop ≤ bytes.length) :
    (window bytes position stop).offset = position := by
  rw [window_of_within ordered within]

theorem remaining_window (ordered : position ≤ stop) (within : stop ≤ bytes.length) :
    (window bytes position stop).remaining = stop - position := by
  rw [window_of_within ordered within, remaining, List.length_drop, List.length_take,
    Nat.min_eq_left within]

theorem stop_window (ordered : position ≤ stop) (within : stop ≤ bytes.length) :
    (window bytes position stop).stop = stop := by
  rw [RuleCursor.stop, offset_window ordered within, remaining_window ordered within]
  omega

theorem atEnd_window (ordered : position ≤ stop) (within : stop ≤ bytes.length) :
    (window bytes position stop).atEnd = true ↔ position = stop := by
  have left := remaining_window ordered within
  rw [atEnd, List.isEmpty_iff_length_eq_zero]
  change remaining _ = 0 ↔ _
  omega

/-- A window that is asked for past the bytes is the one that their end cuts off. -/
theorem window_eq_clamped (bytes : List UInt8) (offset stop : Nat) :
    window bytes offset stop =
      window bytes (min offset (min stop bytes.length)) (min stop bytes.length) := by
  have inside : min (min stop bytes.length) bytes.length = min stop bytes.length :=
    Nat.min_eq_left (Nat.min_le_right ..)
  have ordered : min (min offset (min stop bytes.length)) (min stop bytes.length) =
      min offset (min stop bytes.length) := Nat.min_eq_left (Nat.min_le_right ..)
  simp only [window, inside, ordered]

theorem skip_window {count : Nat} (room : position + count ≤ stop)
    (within : stop ≤ bytes.length) :
    (window bytes position stop).skip count = window bytes (position + count) stop := by
  rw [window_of_within (by omega) within, window_of_within room within, skip, List.drop_drop]

theorem readByte_window (room : position < stop) (within : stop ≤ bytes.length)
    (kind : FaultKind) :
    ∃ byte, bytes[position]? = some byte ∧
      (window bytes position stop).readByte kind =
        .ok (byte, window bytes (position + 1) stop) := by
  have inside : position < bytes.length := Nat.lt_of_lt_of_le room within
  refine ⟨bytes[position], List.getElem?_eq_getElem inside, ?_⟩
  have first : position < (bytes.take stop).length := by
    rw [List.length_take]
    omega
  rw [← skip_window room within, window_of_within (Nat.le_of_lt room) within, readByte,
    List.drop_eq_getElem_cons first, List.getElem_take]

theorem readByte_window_end (within : stop ≤ bytes.length) (kind : FaultKind) :
    (window bytes stop stop).readByte kind = .error kind := by
  have empty : (bytes.take stop).drop stop = [] := by
    rw [List.drop_eq_nil_iff, List.length_take]
    omega
  rw [window_of_within (Nat.le_refl stop) within, readByte, empty]

theorem readNumber_window {width : Nat} (narrow : width ≤ 4) (room : position + width ≤ stop)
    (within : stop ≤ bytes.length) (kind : FaultKind) :
    ∃ taken, Bytes.at? bytes position width = some taken ∧
      (window bytes position stop).readNumber width kind =
        .ok (Bytes.value taken, window bytes (position + width) stop) := by
  have ordered : position ≤ stop := by omega
  have left := remaining_window ordered within
  refine ⟨_, Bytes.at?_of_within (by omega), ?_⟩
  have same : (window bytes position stop).rest.take width =
      (bytes.drop position).take width := by
    rw [window_of_within ordered within, List.drop_take, List.take_take]
    congr 1
    omega
  rw [readNumber, if_pos ⟨narrow, by omega⟩, same, skip_window room within]

theorem readNumber_window_end {width : Nat} (ordered : position ≤ stop)
    (refused : width ≤ 4 → stop < position + width) (within : stop ≤ bytes.length)
    (kind : FaultKind) : (window bytes position stop).readNumber width kind = .error kind := by
  have left := remaining_window ordered within
  rw [readNumber, if_neg]
  omega

end Windows

/-- A byte is a number of one byte. -/
theorem map_readByte (cursor : RuleCursor) (kind : FaultKind) :
    ((cursor.readByte kind).map fun (byte, next) => (byte.toNat, next)) =
      cursor.readNumber 1 kind := by
  obtain ⟨offset, rest⟩ := cursor
  cases rest with
  | nil => rfl
  | cons byte rest => simp [readByte, readNumber, remaining, Bytes.value, Except.map]

theorem perform_eq (cursor : RuleCursor) (read : CursorRead) :
    cursor.perform read = cursor.settle (cursor.readNumber read.width read.kind) := by
  cases read with
  | byte kind => exact congrArg cursor.settle (cursor.map_readByte kind)
  | number width kind => rfl

section Reads

variable {bytes : List UInt8} {position stop : Nat} {read : CursorRead}

/-- A read for which there is room answers the bytes at the position and leaves the window behind
them, and so does the record. -/
theorem perform_window (narrow : read.width ≤ 4) (room : position + read.width ≤ stop)
    (within : stop ≤ bytes.length) :
    ∃ number, number < Bytes.bound read.width ∧
      Bytes.at? bytes position read.width = some (Bytes.write read.width number) ∧
      (window bytes position stop).perform read =
        (.ok number, window bytes (position + read.width) stop) ∧
      CursorRecord.perform? ⟨bytes, position, stop⟩ read =
        some (.ok number, ⟨bytes, position + read.width, stop⟩) := by
  obtain ⟨taken, place, answer⟩ := readNumber_window narrow room within read.kind
  have whole := Bytes.at?_of_within (Nat.le_trans room within)
  have length : taken.length = read.width := by
    rw [Option.some.inj (place.symm.trans whole), List.length_take, List.length_drop]
    omega
  refine ⟨Bytes.value taken, length ▸ Bytes.value_lt taken, ?_, ?_, ?_⟩
  · rw [place, ← length, Bytes.write_value]
  · rw [perform_eq, answer]
    rfl
  · rw [Option.some.inj (place.symm.trans whole)]
    exact CursorRecord.perform?_of_room narrow room within

theorem perform_window_end (ordered : position ≤ stop)
    (refused : read.width ≤ 4 → stop < position + read.width) (within : stop ≤ bytes.length) :
    (window bytes position stop).perform read =
        (.error read.kind, window bytes position stop) ∧
      CursorRecord.perform? ⟨bytes, position, stop⟩ read =
        some (.error read.kind, ⟨bytes, position, stop⟩) := by
  refine ⟨?_, CursorRecord.perform?_of_refused ordered refused⟩
  rw [perform_eq, readNumber_window_end ordered refused within]
  rfl

/-- One read keeps the end of the window, and the record answers what the window does. -/
theorem next_perform_window (read : CursorRead) (ordered : position ≤ stop)
    (within : stop ≤ bytes.length) :
    ∃ reached, position ≤ reached ∧ reached ≤ stop ∧
      ((window bytes position stop).perform read).2 = window bytes reached stop ∧
      CursorRecord.perform? ⟨bytes, position, stop⟩ read =
        some (((window bytes position stop).perform read).1, ⟨bytes, reached, stop⟩) := by
  by_cases fits : read.width ≤ 4 ∧ position + read.width ≤ stop
  · obtain ⟨number, -, -, performed, likewise⟩ := perform_window fits.1 fits.2 within
    rw [performed]
    exact ⟨position + read.width, Nat.le_add_right .., fits.2, rfl, likewise⟩
  · have refused : read.width ≤ 4 → stop < position + read.width := fun narrow =>
      Nat.not_le.mp fun room => fits ⟨narrow, room⟩
    obtain ⟨performed, likewise⟩ := perform_window_end ordered refused within
    rw [performed]
    exact ⟨position, Nat.le_refl _, ordered, rfl, likewise⟩

/-- Reads that follow each other keep the end of the window, and the record goes along. -/
theorem after_window (reads : List CursorRead) (ordered : position ≤ stop)
    (within : stop ≤ bytes.length) :
    ∃ reached, position ≤ reached ∧ reached ≤ stop ∧
      (window bytes position stop).after reads = window bytes reached stop ∧
      CursorRecord.after? ⟨bytes, position, stop⟩ reads = some ⟨bytes, reached, stop⟩ := by
  induction reads generalizing position with
  | nil => exact ⟨position, Nat.le_refl _, ordered, rfl, rfl⟩
  | cons read rest ih =>
      obtain ⟨next, forward, inside, performed, likewise⟩ :=
        next_perform_window read ordered within
      obtain ⟨reached, later, last, run, walked⟩ := ih inside
      refine ⟨reached, Nat.le_trans forward later, last, ?_, ?_⟩
      · rw [← run, ← performed]
        rfl
      · rw [← walked, CursorRecord.after?, List.foldlM_cons, likewise]
        rfl

end Reads

/-- A window may be asked to start or end past the bytes. After any reads its cursor lies between
its start and its end, which lies within the bytes and never moves. A read of at most four bytes,
all of which are left, answers the bytes at the position, the most significant first, and moves
behind them. Any other read gives its own fault and leaves the cursor. In memory, where the bytes
are kept with the two positions, no read takes a byte from outside, and the answers and positions
are those of the cursor. -/
theorem reads_stay_in_window (bytes : List UInt8) (offset stop : Nat) (reads : List CursorRead) :
    let fresh := window bytes offset stop
    let cursor := fresh.after reads
    fresh.offset = min offset fresh.stop ∧ fresh.stop = min stop bytes.length ∧
    fresh.offset ≤ cursor.offset ∧ cursor.offset ≤ cursor.stop ∧ cursor.stop ≤ bytes.length ∧
    cursor.stop = fresh.stop ∧ cursor.remaining = cursor.stop - cursor.offset ∧
    (cursor.atEnd = true ↔ cursor.offset = cursor.stop) ∧
    (∀ read : CursorRead,
      if read.width ≤ 4 ∧ read.width ≤ cursor.remaining then
        ∃ number next, cursor.perform read = (.ok number, next) ∧
          number < Bytes.bound read.width ∧
          Bytes.at? bytes cursor.offset read.width = some (Bytes.write read.width number) ∧
          next.offset = cursor.offset + read.width ∧ next.stop = cursor.stop
      else cursor.perform read = (.error read.kind, cursor)) ∧
    ∃ record, (CursorRecord.new bytes offset stop).after? reads = some record ∧
      record = ⟨bytes, cursor.offset, cursor.stop⟩ ∧
      record.remaining? = some cursor.remaining ∧ record.atEnd = cursor.atEnd ∧
      ∀ read : CursorRead, record.perform? read =
        some ((cursor.perform read).1, ⟨bytes, (cursor.perform read).2.offset, cursor.stop⟩) := by
  have within : min stop bytes.length ≤ bytes.length := Nat.min_le_right ..
  have ordered : min offset (min stop bytes.length) ≤ min stop bytes.length :=
    Nat.min_le_right ..
  obtain ⟨reached, forward, inside, run, walked⟩ := after_window reads ordered within
  intro fresh cursor
  -- the fresh cursor and the one after the reads are both windows in order and within the bytes
  have start : fresh = window bytes (min offset (min stop bytes.length))
      (min stop bytes.length) := window_eq_clamped bytes offset stop
  have current : cursor = window bytes reached (min stop bytes.length) := by
    rw [← run, ← start]
  have offset_start := offset_window ordered within
  have stop_start := stop_window ordered within
  have offset_current := offset_window inside within
  have stop_current := stop_window inside within
  have left := remaining_window inside within
  have ended := atEnd_window inside within
  rw [← start] at offset_start stop_start
  rw [← current] at offset_current stop_current left ended
  rw [offset_start, stop_start, offset_current, stop_current, left]
  refine ⟨rfl, rfl, forward, inside, within, rfl, rfl, ended, fun read => ?_,
    ⟨bytes, reached, _⟩, walked, rfl, CursorRecord.remaining?_of_ordered inside, ?_, fun read => ?_⟩
  · split
    · rename_i fits
      have room : reached + read.width ≤ min stop bytes.length := by omega
      obtain ⟨number, small, place, performed, -⟩ := perform_window fits.1 room within
      exact ⟨number, _, current ▸ performed, small, place, offset_window room within,
        stop_window room within⟩
    · rename_i refused
      exact current ▸ (perform_window_end inside (fun narrow => by omega) within).1
  · rw [Bool.eq_iff_iff, ended]
    exact beq_iff_eq
  · obtain ⟨next, -, last, performed, likewise⟩ := next_perform_window read inside within
    rw [current, performed, offset_window last within]
    exact likewise

example :
    let cursor := (window [0xAA, 0x12, 0x34, 0x56] 1 9).after
      [.number 4 .truncatedCondition, .byte .truncatedCondition]
    cursor.perform (.number 2 .truncatedCondition) = (.ok 0x3456, ⟨4, []⟩) :=
  rfl

end RuleCursor

end Vscp
