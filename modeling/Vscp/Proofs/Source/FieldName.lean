/-
This file proves that a word names a field exactly if it is the name of the field in any case, where
zeros and one plus sign may stand in front of an offset.
-/

import Mathlib.Data.List.Induction
import Vscp.Proofs.Rule.Condition
import Vscp.Proofs.Source.Literal
import Vscp.Proofs.Text.Numeral

namespace Vscp

namespace Numeral

/-- A decimal numeral with zeros in front of it, and with or without a plus sign before these. -/
def padded (plus : Bool) (zeros value : Nat) : List Char :=
  (if plus then ['+'] else []) ++ (List.replicate zeros '0' ++ write 10 value)

theorem digitValue?_decimal {character : Char} {digit : Nat}
    (read : digitValue? 10 character = some digit) :
    digit < 10 ∧ character = Nat.digitChar digit := by
  have codes : ∀ digit < 10, (Nat.digitChar digit).toNat = 48 + digit := by decide
  obtain ⟨value, small⟩ := Option.filter_eq_some_iff.mp read
  rw [decide_eq_true_iff] at small
  refine ⟨small, Char.toNat_inj.mp ?_⟩
  rw [codes digit small]
  split at value
  · cases value
    omega
  · split at value
    · cases value
      omega
    · split at value
      · cases value
        omega
      · cases value

theorem eq_map_digitChar {characters : List Char} {digits : List Nat}
    (read : characters.map (digitValue? 10) = digits.map some) :
    (∀ digit ∈ digits, digit < 10) ∧ characters = digits.map Nat.digitChar := by
  induction characters generalizing digits with
  | nil =>
      obtain rfl : digits = [] := by simpa using read.symm
      exact ⟨nofun, rfl⟩
  | cons character rest ih =>
      obtain ⟨digit, later, rfl, first, others⟩ := List.map_eq_cons_iff.mp read.symm
      obtain ⟨small, same⟩ := digitValue?_decimal first.symm
      obtain ⟨each, spelled⟩ := ih others.symm
      exact ⟨List.forall_mem_cons.mpr ⟨small, each⟩, by rw [List.map_cons, ← same, ← spelled]⟩

theorem digits_of_lt {radix value : Nat} (small : value < radix) :
    digits radix value = [value] := by
  rw [digits, if_pos (.inl small)]

theorem digits_concat {value digit : Nat} (positive : 0 < value) (small : digit < 10) :
    digits 10 (digit + 10 * value) = digits 10 value ++ [digit] := by
  have quotient : (digit + 10 * value) / 10 = value := by omega
  have remainder : (digit + 10 * value) % 10 = digit := by omega
  rw [digits, if_neg (by omega), quotient, remainder]

/-- Only zeros can stand in front of the digits that are written for a value. -/
theorem exists_zeros {given : List Nat} (present : given ≠ [])
    (small : ∀ digit ∈ given, digit < 10) :
    ∃ zeros, given = List.replicate zeros 0 ++ digits 10 (Nat.ofDigits 10 given.reverse) := by
  -- The last digit is split off, as in the digits that are written.
  induction given using List.reverseRecOn with
  | nil => exact absurd rfl present
  | append_singleton front last ih =>
      have within : last < 10 := small last (by simp)
      rw [List.reverse_concat, Nat.ofDigits_cons]
      by_cases empty : front = []
      · subst empty
        exact ⟨0, by simp [digits_of_lt within]⟩
      · obtain ⟨zeros, shape⟩ := ih empty fun digit member =>
          small digit (List.mem_append_left _ member)
        rcases Nat.eq_zero_or_pos (Nat.ofDigits 10 front.reverse) with nothing | positive
        · rw [nothing, digits_of_lt (by decide), ← List.replicate_succ'] at shape
          rw [nothing, Nat.mul_zero, Nat.add_zero last, digits_of_lt within]
          exact ⟨zeros + 1, by rw [← shape]⟩
        · exact ⟨zeros, by rw [digits_concat positive within, ← List.append_assoc, ← shape]⟩

theorem denotes_decimal_iff {characters : List Char} {value : Nat} :
    Denotes 10 characters value ↔
      ∃ zeros, characters = List.replicate zeros '0' ++ write 10 value := by
  constructor
  · rintro ⟨present, given, read, rfl⟩
    obtain ⟨small, rfl⟩ := eq_map_digitChar read
    obtain ⟨zeros, shape⟩ := exists_zeros (mt List.map_eq_nil_iff.mpr present) small
    have spelled := congrArg (List.map Nat.digitChar) shape
    rw [List.map_append, List.map_replicate] at spelled
    exact ⟨zeros, spelled⟩
  · rintro ⟨zeros, rfl⟩
    refine ⟨by simp [write_ne_nil], ?_⟩
    have read : extend? 10 0 (List.replicate zeros '0' ++ write 10 value) = some value := by
      rw [extend?_zeros (by decide)]
      exact extend?_digits (by decide) Nat.digitChar
        (fun _ within => digitValue?_digitChar (by decide) within) value
    simpa using extend?_eq_some_iff.mp read

theorem signedDenotes_decimal_iff {characters : List Char} {value : Nat} :
    SignedDenotes 10 characters value ↔ ∃ plus zeros, characters = padded plus zeros value := by
  constructor
  · rintro (digits | digits) <;> obtain ⟨zeros, rfl⟩ := denotes_decimal_iff.mp digits
    · exact ⟨false, zeros, rfl⟩
    · exact ⟨true, zeros, rfl⟩
  · rintro ⟨plus, zeros, rfl⟩
    have digits : Denotes 10 (List.replicate zeros '0' ++ write 10 value) value :=
      denotes_decimal_iff.mpr ⟨zeros, rfl⟩
    cases plus with
    | false => exact .bare digits
    | true => exact .plus digits

end Numeral

namespace Field

theorem find?_plain {field : Field} (listed : field ∈ plain) :
    plain.find? (·.name.toList == field.name.toList) = some field := by
  have each : ∀ field ∈ plain,
      plain.find? (·.name.toList == field.name.toList) = some field := by decide
  exact each field listed

theorem offset_lt {kind : Nat → Field} {mark : List Char} (marked : (mark, kind) ∈ payloadMarks)
    {offset : Nat} (within : (kind offset).id?.isSome = true) : offset < 256 := by
  rw [mem_payloadMarks_iff] at marked
  rcases marked with ⟨-, rfl⟩ | ⟨-, rfl⟩ | ⟨-, rfl⟩ <;>
  · simp only [id?, Option.isSome_ite] at within
    omega

theorem ofPayloadName?_of_marked {kind : Nat → Field} {mark digits : List Char}
    (marked : (mark, kind) ∈ payloadMarks) {offset : Nat}
    (read : Numeral.readBelow? 10 256 digits = some offset) :
    ofPayloadName? (mark ++ digits) = some (kind offset) := by
  rw [mem_payloadMarks_iff] at marked
  rcases marked with ⟨rfl, rfl⟩ | ⟨rfl, rfl⟩ | ⟨rfl, rfl⟩ <;>
  · change Option.map _ (Numeral.readBelow? 10 256 digits) = _
    rw [read]
    rfl

/-- A field is found for the words that spell it, if it lies within a payload. -/
theorem ofName?_eq_some_iff {text : String} {field : Field} :
    ofName? text = some field ↔ field.Spelled text ∧ field.id?.isSome = true := by
  constructor
  · intro read
    refine ⟨spelled_of_ofName? read, ?_⟩
    rcases Option.or_eq_some_iff.mp read with found | ⟨-, found⟩
    · have each : ∀ field ∈ plain, field.id?.isSome = true := by decide
      exact each field (List.mem_of_find?_eq_some found)
    · exact (Option.filter_eq_some_iff.mp found).2
  · rintro ⟨spelled, within⟩
    unfold ofName?
    dsimp only
    cases spelled with
    | plain listed named => rw [named, find?_plain listed, Option.some_or]
    | @payload mark digits kind offset marked named denotes =>
        have other : plain.find? (·.name.toList == Source.lower text) = none := by
          rw [List.find?_eq_none]
          intro field listed
          rw [named, beq_iff_eq]
          exact not_payload_of_plain listed marked denotes
        have read := Numeral.readBelow?_eq_some_iff.mpr ⟨denotes, offset_lt marked within⟩
        rw [other, Option.none_or, named, ofPayloadName?_of_marked marked read]
        simp [Option.filter, within]

/-- The name of the field with a padded offset, if the field has one. -/
def padded (plus : Bool) (zeros : Nat) : Field → List Char
  | byte offset => "data".toList ++ Numeral.padded plus zeros offset
  | word offset => "u16@".toList ++ Numeral.padded plus zeros offset
  | long offset => "u32@".toList ++ Numeral.padded plus zeros offset
  | field => field.name.toList

/-- A name is padded with nothing. -/
theorem padded_nothing (field : Field) : field.padded false 0 = field.name.toList := by
  have payload (mark : String) (offset : Nat) :
      mark.toList ++ Numeral.padded false 0 offset =
        (mark ++ Numeral.decimal offset).toList := by
    rw [String.toList_append, Numeral.decimal, String.toList_ofList]
    rfl
  cases field with
  | byte offset => exact payload "data" offset
  | word offset => exact payload "u16@" offset
  | long offset => exact payload "u32@" offset
  | _ => rfl

theorem spelled_iff_padded {text : String} {field : Field} :
    field.Spelled text ↔ ∃ plus zeros, Source.lower text = field.padded plus zeros := by
  constructor
  · intro spelled
    cases spelled with
    | plain listed named =>
        simp only [plain, List.mem_cons, List.not_mem_nil, or_false] at listed
        rcases listed with rfl | rfl | rfl | rfl | rfl <;> exact ⟨false, 0, named⟩
    | payload marked named denotes =>
        obtain ⟨plus, zeros, rfl⟩ := Numeral.signedDenotes_decimal_iff.mp denotes
        rw [mem_payloadMarks_iff] at marked
        rcases marked with ⟨rfl, rfl⟩ | ⟨rfl, rfl⟩ | ⟨rfl, rfl⟩ <;> exact ⟨plus, zeros, named⟩
  · rintro ⟨plus, zeros, named⟩
    have denotes (offset : Nat) :
        Numeral.SignedDenotes 10 (Numeral.padded plus zeros offset) offset :=
      Numeral.signedDenotes_decimal_iff.mpr ⟨plus, zeros, rfl⟩
    cases field with
    | byte offset => exact .payload (by simp [payloadMarks]) named (denotes offset)
    | word offset => exact .payload (by simp [payloadMarks]) named (denotes offset)
    | long offset => exact .payload (by simp [payloadMarks]) named (denotes offset)
    | _ => exact .plain (by decide) named

/-- The names of all fields that lie within a payload or outside of it. -/
def names : List String :=
  ["class", "type", "oaddr", "hardcoded", "datanum", "data0", "data1", "data2", "data3", "data4",
    "data5", "data6", "data7", "u16@0", "u16@1", "u16@2", "u16@3", "u16@4", "u16@5", "u16@6",
    "u32@0", "u32@1", "u32@2", "u32@3", "u32@4"]

theorem mem_names_iff {word : String} :
    word ∈ names ↔ ∃ field : Field, field.id?.isSome = true ∧ field.name = word := by
  constructor
  · intro listed
    have each : ∀ word ∈ names, ∃ field ∈ all, field.id?.isSome = true ∧ field.name = word := by
      decide +kernel
    obtain ⟨field, -, found⟩ := each word listed
    exact ⟨field, found⟩
  · rintro ⟨field, within, rfl⟩
    have each : ∀ field ∈ all, field.name ∈ names := by decide +kernel
    obtain ⟨id, named⟩ := Option.isSome_iff_exists.mp within
    exact each field (mem_all_of_id? named)

/-- A word names a field of an event exactly if it is the name of the field, in any case, and
nothing but a padded offset makes another word of it. -/
theorem padded_names_read (text : String) :
    (∀ field, ofName? text = some field ↔
      field.id?.isSome = true ∧ ∃ plus zeros, Source.lower text = field.padded plus zeros) ∧
    (∀ field : Field, field.padded false 0 = field.name.toList) ∧
    (text ∈ names ↔ ∃ field : Field, field.id?.isSome = true ∧ field.name = text) := by
  refine ⟨fun field => ?_, padded_nothing, mem_names_iff⟩
  rw [ofName?_eq_some_iff, spelled_iff_padded, and_comm]

/-- A plus sign or a zero in front of the offset gives a field another name. -/
theorem padded_offsets_name_field :
    (ofName? "data+1" = some (byte 1) ∧ Source.lower "data+1" ≠ (byte 1).name.toList) ∧
      ofName? "data01" = some (byte 1) ∧ Source.lower "data01" ≠ (byte 1).name.toList := by
  decide +kernel

end Field

end Vscp
