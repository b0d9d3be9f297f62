/-
This file proves that events and their wire identifiers with payload determine each other.
-/

import Vscp.Proofs.Event.Record

namespace Vscp

/-- What is made has an identifier of 29 bits from which it is read again; every such identifier
with at most eight bytes of payload is read, and nothing else is. -/
structure WireCodec {Kind : Type} (Made : Kind → Prop) (wireId : Kind → UInt32)
    (data : Kind → List UInt8)
    (ofWire : UInt32 → List UInt8 → Except EventError Kind) : Prop where
  narrow : ∀ thing, Made thing → (wireId thing).toNat ≤ 0x1FFFFFFF
  rebuilt : ∀ thing, Made thing → ofWire (wireId thing) (data thing) = .ok thing
  read : ∀ identifier payload, identifier.toNat ≤ 0x1FFFFFFF → payload.length ≤ 8 →
    ∃ thing, Made thing ∧ ofWire identifier payload = .ok thing ∧ wireId thing = identifier ∧
      data thing = payload
  wide : ∀ identifier payload, 0x1FFFFFFF < identifier.toNat →
    ofWire identifier payload = .error (.identifierOutOfRange identifier)
  long : ∀ identifier payload, identifier.toNat ≤ 0x1FFFFFFF → 8 < payload.length →
    ofWire identifier payload = .error (.payloadTooLong payload.length)

attribute [ext] Event

namespace Event

theorem wireId_lt (event : Event) : event.wireId.toNat < 0x20000000 := by
  have bounds := event.fields_lt
  rw [toNat_wireId]
  omega

/-- Each field is a digit of the identifier. -/
theorem digits_wireId (event : Event) :
    UInt16.ofNat (event.wireId.toNat / 0x10000 % 512) = event.classId ∧
      UInt8.ofNat (event.wireId.toNat / 0x100) = event.typeId ∧
      UInt8.ofNat event.wireId.toNat = event.origin ∧
      (event.wireId.toNat / 0x2000000 % 2 == 1) = event.hardCoded ∧
      UInt8.ofNat (event.wireId.toNat / 0x4000000 % 8) = event.priority := by
  have bounds := event.fields_lt
  rw [toNat_wireId]
  refine ⟨?_, ?_, ?_, ?_, ?_⟩
  · apply UInt16.toNat_inj.mp
    rw [UInt16.toNat_ofNat']
    omega
  · apply UInt8.toNat_inj.mp
    rw [UInt8.toNat_ofNat']
    omega
  · apply UInt8.toNat_inj.mp
    rw [UInt8.toNat_ofNat']
    omega
  · rw [Bool.eq_iff_iff, beq_iff_eq]
    cases event.hardCoded with
    | false => simp; omega
    | true => simp; omega
  · apply UInt8.toNat_inj.mp
    rw [UInt8.toNat_ofNat']
    omega

theorem ofWire_wireId (event : Event) : ofWire event.wireId event.data = .ok event := by
  obtain ⟨classId, typeId, origin, hardCoded, priority⟩ := event.digits_wireId
  unfold ofWire withData
  rw [if_pos event.wireId_lt, dif_pos event.dataWithin]
  exact congrArg Except.ok (Event.ext classId typeId origin hardCoded priority rfl)

theorem exists_ofWire {identifier : UInt32} {payload : List UInt8}
    (narrow : identifier.toNat < 0x20000000) (within : payload.length ≤ 8) :
    ∃ event, ofWire identifier payload = .ok event ∧ event.wireId = identifier ∧
      event.data = payload := by
  unfold ofWire withData
  simp only [if_pos narrow, dif_pos within]
  refine ⟨_, rfl, UInt32.toNat_inj.mp ((toNat_wireId _).trans ?_), rfl⟩
  dsimp only
  rw [UInt8.toNat_ofNat', UInt8.toNat_ofNat', UInt8.toNat_ofNat', UInt16.toNat_ofNat']
  rcases Nat.mod_two_eq_zero_or_one (identifier.toNat / 0x2000000) with clear | set
  · rw [clear]
    simp only [Nat.reduceBEq, Bool.toNat_false]
    omega
  · rw [set]
    simp only [BEq.rfl, Bool.toNat_true]
    omega

/-- Events and what the wire carries determine each other. -/
theorem wireCodec : WireCodec (fun _ => True) wireId data ofWire where
  narrow event _ := Nat.le_of_lt_succ event.wireId_lt
  rebuilt event _ := event.ofWire_wireId
  read identifier payload narrow within := by
    obtain ⟨event, rest⟩ := exists_ofWire (Nat.lt_succ_of_le narrow) within
    exact ⟨event, trivial, rest⟩
  wide identifier payload wide := if_neg (Nat.not_lt.mpr wide)
  long identifier payload narrow long := by
    unfold ofWire withData
    rw [if_pos (Nat.lt_succ_of_le narrow), dif_neg (Nat.not_le.mpr long)]

end Event

namespace EventRecord

/-- So do records, because they follow their events. -/
theorem wireCodec : WireCodec Built wireId data ofWire where
  narrow record built := by
    obtain ⟨event, rfl⟩ := built.exists_event
    rw [Event.wireId_record]
    exact Event.wireCodec.narrow event trivial
  rebuilt record built := by
    obtain ⟨event, rfl⟩ := built.exists_event
    rw [Event.wireId_record, Event.data_record, Event.ofWire_record, Event.ofWire_wireId]
    rfl
  read identifier payload narrow within := by
    obtain ⟨event, -, read, same, kept⟩ :=
      Event.wireCodec.read identifier payload narrow within
    have done : ofWire identifier payload = .ok event.record := by
      rw [Event.ofWire_record, read]
      rfl
    exact ⟨event.record, .ofWire _ _ done, done, event.wireId_record.trans same,
      event.data_record.trans kept⟩
  wide identifier payload wide := by
    rw [Event.ofWire_record, Event.wireCodec.wide identifier payload wide]
    rfl
  long identifier payload narrow long := by
    rw [Event.ofWire_record, Event.wireCodec.long identifier payload narrow long]
    rfl

/-- Events of the bus and what the wire carries determine each other, and so do the records that
hold events in memory. Two records that the operations make are the same exactly if they show the
same, whatever payloads were in their buffers before. The records are those of the events, and what
is done to a record is done to its event. -/
theorem wire_identifiers_determine_events :
    WireCodec (fun _ => True) Event.wireId Event.data Event.ofWire ∧
    WireCodec Built wireId data ofWire ∧
    (∀ first second, Built first → Built second →
      (first = second ↔ first.classId = second.classId ∧ first.typeId = second.typeId ∧
        first.origin = second.origin ∧ first.hardCoded = second.hardCoded ∧
        first.priority = second.priority ∧ first.data = second.data)) ∧
    (∀ record, Built record ↔ ∃ event : Event, event.record = record) ∧
    (∀ classId typeId origin,
      new classId typeId origin = (Event.new classId typeId origin).record) ∧
    (∀ identifier payload,
      ofWire identifier payload = (Event.ofWire identifier payload).map Event.record) ∧
    ∀ event : Event,
      event.record.wireId = event.wireId ∧ event.record.data = event.data ∧
      (∀ data, event.record.withData data = (event.withData data).map Event.record) ∧
      (∀ priority,
        event.record.withPriority priority = (event.withPriority priority).map Event.record) ∧
      ∀ hardCoded,
        event.record.withHardCoded hardCoded = (event.withHardCoded hardCoded).record := by
  refine ⟨Event.wireCodec, wireCodec, ?_, fun record => ⟨Built.exists_event, ?_⟩,
    fun classId typeId origin => (Event.record_new classId typeId origin).symm,
    Event.ofWire_record, fun event => ⟨event.wireId_record, event.data_record,
      event.withData_record, event.withPriority_record, event.withHardCoded_record⟩⟩
  · intro first second left right
    obtain ⟨first, rfl⟩ := left.exists_event
    obtain ⟨second, rfl⟩ := right.exists_event
    rw [Event.record_eq_iff, Event.data_record, Event.data_record]
    rfl
  · rintro ⟨event, rfl⟩
    refine .ofWire event.wireId event.data ?_
    rw [Event.ofWire_record, event.ofWire_wireId]
    rfl

/-- A payload that was replaced by a shorter one leaves nothing behind. -/
theorem replaced_payload_forgotten :
    ∃ long short fresh,
      (new 20 3 1).withData [9, 9, 9, 9] = .ok long ∧ long.withData [1] = .ok short ∧
      (new 20 3 1).withData [1] = .ok fresh ∧ short = fresh ∧
      ofWire short.wireId [1] = .ok fresh := by
  obtain ⟨-, codec, same, -⟩ := wire_identifiers_determine_events
  have fresh : Built (new 20 3 1) := .new 20 3 1
  refine ⟨_, _, _, rfl, rfl, rfl, ?_, ?_⟩
  · have long := Built.withData [9, 9, 9, 9] fresh rfl
    exact (same _ _ (.withData [1] long rfl) (.withData [1] fresh rfl)).mpr
      ⟨rfl, rfl, rfl, rfl, rfl, rfl⟩
  · exact codec.rebuilt _ (.withData [1] fresh rfl)

end EventRecord

end Vscp
