/-
This file says which words are numbers and which are fields, and proves that the readers of words
find exactly these numbers and only these fields.
-/

import Mathlib.Data.Nat.Digits.Defs
import Vscp.Source.Literal

namespace Vscp

namespace Numeral

/-- Digits of a radix, the most significant first, and their value. -/
def Denotes (radix : Nat) (characters : List Char) (value : Nat) : Prop :=
  characters ≠ [] ∧ ∃ digits : List Nat, characters.map (digitValue? radix) = digits.map some ∧
    Nat.ofDigits radix digits.reverse = value

/-- Digits with or without a plus sign in front. -/
inductive SignedDenotes (radix : Nat) : List Char → Nat → Prop where
  | bare {characters : List Char} {value : Nat} (digits : Denotes radix characters value) :
      SignedDenotes radix characters value
  | plus {characters : List Char} {value : Nat} (digits : Denotes radix characters value) :
      SignedDenotes radix ('+' :: characters) value

/-- A value already read moves up by as many places as there are digits. -/
theorem extend?_eq_some_iff {radix total value : Nat} {characters : List Char} :
    extend? radix total characters = some value ↔
      ∃ digits : List Nat, characters.map (digitValue? radix) = digits.map some ∧
        radix ^ digits.length * total + Nat.ofDigits radix digits.reverse = value := by
  induction characters generalizing total with
  | nil => simp [extend?]
  | cons character rest ih =>
      rw [extend?, Option.bind_eq_some_iff]
      simp only [ih]
      constructor
      · rintro ⟨digit, first, digits, others, rfl⟩
        refine ⟨digit :: digits, by simp [first, others], ?_⟩
        rw [List.length_cons, Nat.ofDigits_reverse_cons]
        ring
      · rintro ⟨digits, read, rfl⟩
        obtain ⟨digit, later, rfl, first, others⟩ := List.map_eq_cons_iff.mp read.symm
        refine ⟨digit, first.symm, later, others.symm, ?_⟩
        rw [List.length_cons, Nat.ofDigits_reverse_cons]
        ring

theorem read?_eq_some_iff {radix value : Nat} {characters : List Char} :
    read? radix characters = some value ↔ Denotes radix characters value := by
  cases characters with
  | nil => simp [read?, Denotes]
  | cons first rest => simp [read?, Denotes, extend?_eq_some_iff]

theorem Denotes.exists_digit {radix value : Nat} {characters : List Char}
    (denotes : Denotes radix characters value) {character : Char}
    (member : character ∈ characters) : ∃ digit, digitValue? radix character = some digit := by
  obtain ⟨-, digits, read, -⟩ := denotes
  have listed : digitValue? radix character ∈ digits.map some :=
    read ▸ List.mem_map_of_mem member
  obtain ⟨digit, -, same⟩ := List.mem_map.mp listed
  exact ⟨digit, same.symm⟩

/-- A plus sign is no digit, so it is always read as the sign. -/
theorem readSigned?_eq_some_iff {radix value : Nat} {characters : List Char} :
    readSigned? radix characters = some value ↔ SignedDenotes radix characters value := by
  unfold readSigned?
  split
  · rename_i rest
    rw [read?_eq_some_iff]
    constructor
    · exact .plus
    · intro denotes
      cases denotes with
      | bare digits =>
          obtain ⟨digit, read⟩ := digits.exists_digit List.mem_cons_self
          cases read
      | plus digits => exact digits
  · rename_i unsigned
    rw [read?_eq_some_iff]
    constructor
    · exact .bare
    · intro denotes
      cases denotes with
      | bare digits => exact digits
      | plus digits => exact absurd rfl (unsigned _)

theorem SignedDenotes.unique {radix first second : Nat} {characters : List Char}
    (left : SignedDenotes radix characters first) (right : SignedDenotes radix characters second) :
    first = second := by
  rw [← readSigned?_eq_some_iff] at left right
  rw [left] at right
  exact Option.some.inj right

theorem readBelow?_eq_some_iff {radix bound value : Nat} {characters : List Char} :
    readBelow? radix bound characters = some value ↔
      SignedDenotes radix characters value ∧ value < bound := by
  rw [readBelow?, Option.filter_eq_some_iff, readSigned?_eq_some_iff, decide_eq_true_iff]

end Numeral

namespace Source

/-- What stands in front of the digits of a number, and the radix that it selects. -/
def marks : List (List Char × Nat) :=
  [([], 10), (['0', 'x'], 16), (['0', 'X'], 16), (['0', 'b'], 2), (['0', 'B'], 2)]

/-- A number of 32 bits is a mark with digits of its radix. -/
def IsLiteral (word : List Char) (value : Nat) : Prop :=
  value < literalBound ∧ ∃ mark radix digits, (mark, radix) ∈ marks ∧ word = mark ++ digits ∧
    Numeral.SignedDenotes radix digits value

/-- The letter of a mark is no decimal digit. -/
theorem not_decimal_of_marked {letter : Char} {rest : List Char} {value : Nat}
    (other : Numeral.digitValue? 10 letter = none) :
    ¬Numeral.SignedDenotes 10 ('0' :: letter :: rest) value := by
  rintro ⟨digits⟩
  obtain ⟨digit, read⟩ := digits.exists_digit (List.mem_cons_of_mem _ List.mem_cons_self)
  rw [other] at read
  cases read

theorem literal?_eq_some_iff {word : List Char} {value : Nat} :
    literal? word = some value ↔ IsLiteral word value := by
  constructor
  · intro read
    unfold literal? at read
    split at read <;> obtain ⟨denotes, small⟩ := Numeral.readBelow?_eq_some_iff.mp read
    · exact ⟨small, ['0', 'x'], 16, _, by decide, rfl, denotes⟩
    · exact ⟨small, ['0', 'X'], 16, _, by decide, rfl, denotes⟩
    · exact ⟨small, ['0', 'b'], 2, _, by decide, rfl, denotes⟩
    · exact ⟨small, ['0', 'B'], 2, _, by decide, rfl, denotes⟩
    · exact ⟨small, [], 10, _, by decide, rfl, denotes⟩
  · rintro ⟨small, mark, radix, digits, listed, rfl, denotes⟩
    have read := Numeral.readBelow?_eq_some_iff.mpr ⟨denotes, small⟩
    simp only [marks, List.mem_cons, Prod.mk.injEq, List.not_mem_nil, or_false] at listed
    rcases listed with ⟨rfl, rfl⟩ | ⟨rfl, rfl⟩ | ⟨rfl, rfl⟩ | ⟨rfl, rfl⟩ | ⟨rfl, rfl⟩
    · rw [List.nil_append]
      unfold literal?
      split
      · exact absurd denotes (not_decimal_of_marked (by decide))
      · exact absurd denotes (not_decimal_of_marked (by decide))
      · exact absurd denotes (not_decimal_of_marked (by decide))
      · exact absurd denotes (not_decimal_of_marked (by decide))
      · exact read
    all_goals exact read

end Source

namespace Field

/-- What stands in front of the offset of a payload field. -/
def payloadMarks : List (List Char × (Nat → Field)) :=
  [(['d', 'a', 't', 'a'], byte), (['u', '1', '6', '@'], word), (['u', '3', '2', '@'], long)]

theorem mem_payloadMarks_iff {mark : List Char} {kind : Nat → Field} :
    (mark, kind) ∈ payloadMarks ↔ mark = ['d', 'a', 't', 'a'] ∧ kind = byte ∨
      mark = ['u', '1', '6', '@'] ∧ kind = word ∨ mark = ['u', '3', '2', '@'] ∧ kind = long := by
  simp [payloadMarks]

/-- A field outside the payload has its name; one of the payload has a mark and its offset in
decimal. Letters may be of either case. -/
inductive Spelled (text : String) : Field → Prop where
  | plain {field : Field} (listed : field ∈ plain)
      (named : Source.lower text = field.name.toList) : Spelled text field
  | payload {mark digits : List Char} {kind : Nat → Field} {offset : Nat}
      (listed : (mark, kind) ∈ payloadMarks) (named : Source.lower text = mark ++ digits)
      (denotes : Numeral.SignedDenotes 10 digits offset) : Spelled text (kind offset)

theorem of_ofPayloadName? {name : List Char} {field : Field}
    (read : ofPayloadName? name = some field) :
    ∃ mark digits kind offset, (mark, kind) ∈ payloadMarks ∧ name = mark ++ digits ∧
      Numeral.SignedDenotes 10 digits offset ∧ field = kind offset := by
  unfold ofPayloadName? at read
  split at read
  · obtain ⟨offset, number, rfl⟩ := Option.map_eq_some_iff.mp read
    exact ⟨['u', '1', '6', '@'], _, word, offset, by simp [payloadMarks], rfl,
      (Numeral.readBelow?_eq_some_iff.mp number).1, rfl⟩
  · obtain ⟨offset, number, rfl⟩ := Option.map_eq_some_iff.mp read
    exact ⟨['u', '3', '2', '@'], _, long, offset, by simp [payloadMarks], rfl,
      (Numeral.readBelow?_eq_some_iff.mp number).1, rfl⟩
  · obtain ⟨offset, number, rfl⟩ := Option.map_eq_some_iff.mp read
    exact ⟨['d', 'a', 't', 'a'], _, byte, offset, by simp [payloadMarks], rfl,
      (Numeral.readBelow?_eq_some_iff.mp number).1, rfl⟩
  · cases read

/-- The field found for a word is the one that the word spells. -/
theorem spelled_of_ofName? {text : String} {field : Field} (read : ofName? text = some field) :
    field.Spelled text := by
  unfold ofName? at read
  rcases Option.or_eq_some_iff.mp read with found | ⟨-, found⟩
  · have named : (field.name.toList == Source.lower text) = true := by
      simpa using List.find?_some found
    exact .plain (List.mem_of_find?_eq_some found) (eq_of_beq named).symm
  · obtain ⟨payload, -⟩ := Option.filter_eq_some_iff.mp found
    obtain ⟨mark, digits, kind, offset, listed, named, denotes, rfl⟩ := of_ofPayloadName? payload
    exact .payload listed named denotes

theorem name_injective_of_plain {first second : Field} (left : first ∈ plain)
    (right : second ∈ plain) (same : first.name.toList = second.name.toList) : first = second := by
  have each : ∀ first ∈ plain, ∀ second ∈ plain,
      first.name.toList = second.name.toList → first = second := by decide
  exact each first left second right same

/-- No offset follows the mark of a payload field in the name of another field. -/
theorem not_payload_of_plain {field : Field} (listed : field ∈ plain) {mark digits : List Char}
    {kind : Nat → Field} (marked : (mark, kind) ∈ payloadMarks) {offset : Nat}
    (denotes : Numeral.SignedDenotes 10 digits offset) : field.name.toList ≠ mark ++ digits := by
  have number : ¬Numeral.SignedDenotes 10 ['n', 'u', 'm'] offset := by
    rintro ⟨letters⟩
    obtain ⟨digit, read⟩ := letters.exists_digit List.mem_cons_self
    cases read
  intro same
  rw [mem_payloadMarks_iff] at marked
  simp only [plain, List.mem_cons, List.not_mem_nil, or_false] at listed
  rcases marked with ⟨rfl, -⟩ | ⟨rfl, -⟩ | ⟨rfl, -⟩ <;>
    rcases listed with rfl | rfl | rfl | rfl | rfl <;> try cases same
  exact number denotes

theorem length_payloadMarks {mark : List Char} {kind : Nat → Field}
    (marked : (mark, kind) ∈ payloadMarks) : mark.length = 4 := by
  rw [mem_payloadMarks_iff] at marked
  rcases marked with ⟨rfl, -⟩ | ⟨rfl, -⟩ | ⟨rfl, -⟩ <;> rfl

theorem payloadMarks_unique {mark : List Char} {first second : Nat → Field}
    (left : (mark, first) ∈ payloadMarks) (right : (mark, second) ∈ payloadMarks) :
    first = second := by
  rw [mem_payloadMarks_iff] at left right
  rcases left with ⟨rfl, rfl⟩ | ⟨rfl, rfl⟩ | ⟨rfl, rfl⟩ <;>
    rcases right with ⟨same, rfl⟩ | ⟨same, rfl⟩ | ⟨same, rfl⟩ <;>
    first | rfl | cases same

/-- A word spells one field at most. -/
theorem Spelled.unique {text : String} {first second : Field} (left : first.Spelled text)
    (right : second.Spelled text) : first = second := by
  cases left with
  | plain listed named =>
      cases right with
      | plain again same => exact name_injective_of_plain listed again (named.symm.trans same)
      | payload marked same denotes =>
          exact absurd (named.symm.trans same) (not_payload_of_plain listed marked denotes)
  | payload marked named denotes =>
      cases right with
      | plain listed same =>
          exact absurd (same.symm.trans named) (not_payload_of_plain listed marked denotes)
      | payload again same others =>
          rw [named] at same
          have wide := (length_payloadMarks marked).trans (length_payloadMarks again).symm
          obtain ⟨rfl, rfl⟩ := List.append_inj same wide
          rw [payloadMarks_unique marked again, denotes.unique others]

end Field

end Vscp
