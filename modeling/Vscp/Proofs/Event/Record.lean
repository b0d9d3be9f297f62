/-
This file lays an event out in memory, with eight bytes for its payload and the bits of its wire
identifier, and proves that the layout does what the event does.
-/

import Vscp.Event
import Vscp.Proofs.Except

namespace Vscp

/-- An event in memory: eight bytes of payload, of which the first `length` count. -/
structure EventRecord where
  classId : UInt16
  typeId : UInt8
  origin : UInt8
  hardCoded : Bool
  priority : UInt8
  buffer : Vector UInt8 8
  length : UInt8
  deriving DecidableEq

/-- Bytes are copied over the front of a buffer. -/
def EventRecord.copy (data : List UInt8) (buffer : Vector UInt8 8) : Vector UInt8 8 :=
  Vector.ofFn fun index => data[index]?.getD buffer[index]

namespace EventRecord

def new (classId : UInt16) (typeId origin : UInt8) : EventRecord where
  classId := classId &&& 0x1FF
  typeId := typeId
  origin := origin
  hardCoded := false
  priority := 3
  buffer := Vector.replicate 8 0
  length := 0

/-- The buffer is cleared before the payload is copied into it. -/
def withData (record : EventRecord) (data : List UInt8) : Except EventError EventRecord :=
  if 8 < data.length then .error (.payloadTooLong data.length)
  else
    .ok { record with
      buffer := copy data (Vector.replicate 8 0)
      length := UInt8.ofNat data.length }

def withPriority (record : EventRecord) (priority : UInt8) : Except EventError EventRecord :=
  if 7 < priority then .error (.invalidPriority priority) else .ok { record with priority }

def withHardCoded (record : EventRecord) (hardCoded : Bool) : EventRecord :=
  { record with hardCoded }

def data (record : EventRecord) : List UInt8 :=
  record.buffer.toList.take record.length.toNat

def wireId (record : EventRecord) : UInt32 :=
  record.priority.toUInt32 <<< 26 ||| record.hardCoded.toNat.toUInt32 <<< 25 |||
    record.classId.toUInt32 <<< 16 ||| record.typeId.toUInt32 <<< 8 ||| record.origin.toUInt32

def ofWire (identifier : UInt32) (payload : List UInt8) : Except EventError EventRecord :=
  if 0x1FFFFFFF < identifier then .error (.identifierOutOfRange identifier)
  else
    withData
      { classId := (identifier >>> 16).toUInt16 &&& 0x1FF
        typeId := (identifier >>> 8).toUInt8
        origin := identifier.toUInt8
        hardCoded := identifier >>> 25 &&& 1 == 1
        priority := (identifier >>> 26 &&& 7).toUInt8
        buffer := Vector.replicate 8 0
        length := 0 }
      payload

theorem copy_nil (buffer : Vector UInt8 8) : copy [] buffer = buffer := by
  simp [copy]

/-- Fields that do not overlap are added. -/
theorem or_shifted_fields (priority : Nat) {flag classId typeId origin : Nat} (bit : flag < 2)
    (nine : classId < 512) (type : typeId < 256) (last : origin < 256) :
    priority <<< 26 ||| flag <<< 25 ||| classId <<< 16 ||| typeId <<< 8 ||| origin =
      priority * 0x4000000 + flag * 0x2000000 + classId * 0x10000 + typeId * 0x100 + origin := by
  have low : typeId <<< 8 + origin < 2 ^ 16 := by
    rw [Nat.shiftLeft_eq]
    omega
  have middle : classId <<< 16 + (typeId <<< 8 + origin) < 2 ^ 25 := by
    rw [Nat.shiftLeft_eq]
    omega
  have high : flag <<< 25 + (classId <<< 16 + (typeId <<< 8 + origin)) < 2 ^ 26 := by
    rw [Nat.shiftLeft_eq]
    omega
  rw [Nat.or_assoc, Nat.or_assoc, Nat.or_assoc, ← Nat.shiftLeft_add_eq_or_of_lt last typeId,
    ← Nat.shiftLeft_add_eq_or_of_lt low classId, ← Nat.shiftLeft_add_eq_or_of_lt middle flag,
    ← Nat.shiftLeft_add_eq_or_of_lt high priority]
  simp only [Nat.shiftLeft_eq]
  omega

/-- Nine bits are kept. -/
theorem and_classMask (number : UInt16) : number &&& 0x1FF = UInt16.ofNat (number.toNat % 512) := by
  apply UInt16.toNat_inj.mp
  rw [UInt16.toNat_and, UInt16.toNat_ofNat']
  have kept : number.toNat &&& (2 ^ 9 - 1) = number.toNat % 2 ^ 9 :=
    Nat.and_two_pow_sub_one_eq_mod _ 9
  refine Eq.trans kept ?_
  omega

/-- The fields that are cut out of an identifier are its digits. -/
theorem cut_fields (identifier : UInt32) :
    (identifier >>> 16).toUInt16 &&& 0x1FF =
        UInt16.ofNat (identifier.toNat / 0x10000 % 512) ∧
      (identifier >>> 8).toUInt8 = UInt8.ofNat (identifier.toNat / 0x100) ∧
      identifier.toUInt8 = UInt8.ofNat identifier.toNat ∧
      (identifier >>> 25 &&& 1 == 1) = (identifier.toNat / 0x2000000 % 2 == 1) ∧
      (identifier >>> 26 &&& 7).toUInt8 = UInt8.ofNat (identifier.toNat / 0x4000000 % 8) := by
  refine ⟨?_, ?_, rfl, ?_, ?_⟩
  · rw [and_classMask]
    congr 1
    simp [Nat.shiftRight_eq_div_pow]
  · apply UInt8.toNat_inj.mp
    simp [Nat.shiftRight_eq_div_pow]
  · rw [Bool.eq_iff_iff]
    simp [← UInt32.toNat_inj, Nat.shiftRight_eq_div_pow]
  · have low : (identifier >>> 26 &&& 7).toNat = identifier.toNat / 0x4000000 % 8 := by
      rw [UInt32.toNat_and, UInt32.toNat_shiftRight]
      exact (Nat.and_two_pow_sub_one_eq_mod _ 3).trans (by rw [Nat.shiftRight_eq_div_pow]; rfl)
    apply UInt8.toNat_inj.mp
    rw [UInt32.toNat_toUInt8, low, UInt8.toNat_ofNat']

end EventRecord

namespace Event

/-- The layout of an event: no byte stands behind its payload but zeros. -/
def record (event : Event) : EventRecord where
  classId := event.classId
  typeId := event.typeId
  origin := event.origin
  hardCoded := event.hardCoded
  priority := event.priority
  buffer := EventRecord.copy event.data (Vector.replicate 8 0)
  length := UInt8.ofNat event.data.length

theorem length_record (event : Event) : event.record.length.toNat = event.data.length := by
  have within := event.dataWithin
  apply UInt8.toNat_ofNat_of_lt'
  change event.data.length < 256
  omega

/-- The payload is what counts in the buffer. -/
theorem data_record (event : Event) : event.record.data = event.data := by
  have within := event.dataWithin
  rw [EventRecord.data, length_record]
  apply List.ext_getElem
  · simp [within]
  · intro index left right
    simp [record, EventRecord.copy, right]

theorem fields_lt (event : Event) :
    event.priority.toNat < 8 ∧ event.hardCoded.toNat < 2 ∧ event.classId.toNat < 512 ∧
      event.typeId.toNat < 256 ∧ event.origin.toNat < 256 :=
  ⟨event.priorityWithin, event.hardCoded.toNat_lt, event.classWithin, event.typeId.toNat_lt,
    event.origin.toNat_lt⟩

theorem toNat_wireId (event : Event) : event.wireId.toNat =
    event.priority.toNat * 0x4000000 + event.hardCoded.toNat * 0x2000000 +
      event.classId.toNat * 0x10000 + event.typeId.toNat * 0x100 + event.origin.toNat := by
  have bounds := event.fields_lt
  apply UInt32.toNat_ofNat_of_lt'
  change _ < 4294967296
  omega

theorem wireId_record (event : Event) : event.record.wireId = event.wireId := by
  obtain ⟨three, bit, nine, type, last⟩ := event.fields_lt
  have sum := EventRecord.or_shifted_fields event.priority.toNat bit nine type last
  obtain ⟨priority, flag, classId, typeId⟩ : event.priority.toNat <<< 26 < 2 ^ 32 ∧
      event.hardCoded.toNat <<< 25 < 2 ^ 32 ∧ event.classId.toNat <<< 16 < 2 ^ 32 ∧
      event.typeId.toNat <<< 8 < 2 ^ 32 := by
    simp only [Nat.shiftLeft_eq]
    omega
  have bool : event.hardCoded.toNat % 2 ^ 32 = event.hardCoded.toNat :=
    Nat.mod_eq_of_lt (by omega)
  apply UInt32.toNat_inj.mp
  rw [toNat_wireId, ← sum]
  simp only [EventRecord.wireId, record, UInt32.toNat_or, UInt32.toNat_shiftLeft,
    UInt8.toNat_toUInt32, UInt16.toNat_toUInt32, UInt32.toNat_ofNat', Nat.toUInt32_eq,
    UInt32.reduceToNat, Nat.reduceMod, bool, Nat.mod_eq_of_lt priority, Nat.mod_eq_of_lt flag,
    Nat.mod_eq_of_lt classId, Nat.mod_eq_of_lt typeId]

theorem record_new (classId : UInt16) (typeId origin : UInt8) :
    (Event.new classId typeId origin).record = EventRecord.new classId typeId origin := by
  rw [EventRecord.new, EventRecord.and_classMask, record]
  simp [Event.new, EventRecord.copy_nil]

theorem withHardCoded_record (event : Event) (hardCoded : Bool) :
    event.record.withHardCoded hardCoded = (event.withHardCoded hardCoded).record := rfl

theorem withPriority_record (event : Event) (priority : UInt8) :
    event.record.withPriority priority = (event.withPriority priority).map record := by
  unfold EventRecord.withPriority withPriority
  by_cases within : priority.toNat < 8
  · have low : ¬7 < priority := by
      rw [UInt8.lt_iff_toNat_lt]
      exact Nat.not_lt.mpr (Nat.le_of_lt_succ within)
    rw [if_neg low, dif_pos within]
    rfl
  · have high : 7 < priority := by
      rw [UInt8.lt_iff_toNat_lt]
      exact Nat.not_le.mp fun low => within (Nat.lt_succ_of_le low)
    rw [if_pos high, dif_neg within]
    rfl

theorem withData_record (event : Event) (data : List UInt8) :
    event.record.withData data = (event.withData data).map record := by
  unfold EventRecord.withData withData
  by_cases within : data.length ≤ 8
  · rw [if_neg (Nat.not_lt.mpr within), dif_pos within]
    rfl
  · rw [if_pos (Nat.not_le.mp within), dif_neg within]
    rfl

theorem ofWire_record (identifier : UInt32) (payload : List UInt8) :
    EventRecord.ofWire identifier payload = (ofWire identifier payload).map record := by
  unfold EventRecord.ofWire ofWire
  dsimp only
  by_cases within : identifier.toNat < 0x20000000
  · have narrow : ¬0x1FFFFFFF < identifier := by
      rw [UInt32.lt_iff_toNat_lt]
      exact Nat.not_lt.mpr (Nat.le_of_lt_succ within)
    rw [if_neg narrow, if_pos within, ← withData_record]
    congr 1
    obtain ⟨classId, typeId, origin, hardCoded, priority⟩ := EventRecord.cut_fields identifier
    rw [record, EventRecord.copy_nil, classId, typeId, origin, hardCoded, priority]
    rfl
  · have wide : 0x1FFFFFFF < identifier := by
      rw [UInt32.lt_iff_toNat_lt]
      exact Nat.not_le.mp fun low => within (Nat.lt_succ_of_le low)
    rw [if_pos wide, if_neg within]
    rfl

/-- Records of events are the same if what they show is the same. -/
theorem record_eq_iff {first second : Event} : first.record = second.record ↔
    first.classId = second.classId ∧ first.typeId = second.typeId ∧
      first.origin = second.origin ∧ first.hardCoded = second.hardCoded ∧
      first.priority = second.priority ∧ first.data = second.data := by
  constructor
  · intro same
    have payload : first.data = second.data := by
      rw [← data_record, same, data_record]
    exact ⟨congrArg (·.classId) same, congrArg (·.typeId) same, congrArg (·.origin) same,
      congrArg (·.hardCoded) same, congrArg (·.priority) same, payload⟩
  · rintro ⟨classId, typeId, origin, hardCoded, priority, data⟩
    rw [record, record, classId, typeId, origin, hardCoded, priority, data]

end Event

namespace EventRecord

/-- The records that the operations make. -/
inductive Built : EventRecord → Prop where
  | new (classId : UInt16) (typeId origin : UInt8) : Built (new classId typeId origin)
  | withData {record later : EventRecord} (data : List UInt8) (built : Built record)
      (done : record.withData data = .ok later) : Built later
  | withPriority {record later : EventRecord} (priority : UInt8) (built : Built record)
      (done : record.withPriority priority = .ok later) : Built later
  | withHardCoded {record : EventRecord} (hardCoded : Bool) (built : Built record) :
      Built (record.withHardCoded hardCoded)
  | ofWire {record : EventRecord} (identifier : UInt32) (payload : List UInt8)
      (done : ofWire identifier payload = .ok record) : Built record

theorem Built.exists_event {record : EventRecord} (built : Built record) :
    ∃ event : Event, event.record = record := by
  induction built with
  | new classId typeId origin => exact ⟨_, Event.record_new classId typeId origin⟩
  | withData data _ done ih =>
      obtain ⟨event, rfl⟩ := ih
      rw [Event.withData_record] at done
      obtain ⟨later, -, same⟩ := map_eq_ok_iff.mp done
      exact ⟨later, same⟩
  | withPriority priority _ done ih =>
      obtain ⟨event, rfl⟩ := ih
      rw [Event.withPriority_record] at done
      obtain ⟨later, -, same⟩ := map_eq_ok_iff.mp done
      exact ⟨later, same⟩
  | withHardCoded hardCoded _ ih =>
      obtain ⟨event, rfl⟩ := ih
      exact ⟨_, (event.withHardCoded_record hardCoded).symm⟩
  | ofWire identifier payload done =>
      rw [Event.ofWire_record] at done
      obtain ⟨event, -, same⟩ := map_eq_ok_iff.mp done
      exact ⟨event, same⟩

end EventRecord

end Vscp
