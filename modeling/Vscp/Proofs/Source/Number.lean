/-
This file proves that the numbers of a rule source are the documented ones, but for a plus sign in
front of the digits, and that no source with another operand is assembled.
-/

import Vscp.Proofs.Source.Transcription

namespace Vscp.Source

/-- A number of 32 bits: a mark, a sign and digits of the radix of the mark. -/
def IsNumber (sign word : List Char) (value : Nat) : Prop :=
  value < literalBound ∧ ∃ mark radix digits, (mark, radix) ∈ marks ∧
    word = mark ++ (sign ++ digits) ∧ Numeral.Denotes radix digits value

/-- A sign is a plus sign, if there is one. -/
theorem isLiteral_iff_isNumber {word : List Char} {value : Nat} :
    IsLiteral word value ↔ IsNumber [] word value ∨ IsNumber ['+'] word value := by
  constructor
  · rintro ⟨small, mark, radix, digits, listed, rfl, denotes⟩
    cases denotes with
    | bare denotes => exact .inl ⟨small, mark, radix, digits, listed, rfl, denotes⟩
    | plus denotes => exact .inr ⟨small, mark, radix, _, listed, rfl, denotes⟩
  · rintro (⟨small, mark, radix, digits, listed, rfl, denotes⟩ |
      ⟨small, mark, radix, digits, listed, rfl, denotes⟩)
    · exact ⟨small, mark, radix, digits, listed, rfl, .bare denotes⟩
    · exact ⟨small, mark, radix, '+' :: digits, listed, rfl, .plus denotes⟩

/-- Neither marks nor digits hold a plus sign. -/
theorem IsNumber.unsigned {word : List Char} {value : Nat} (number : IsNumber [] word value) :
    '+' ∉ word := by
  obtain ⟨-, mark, radix, digits, listed, rfl, denotes⟩ := number
  intro member
  rcases List.mem_append.mp member with marked | digit
  · have each : ∀ entry ∈ marks, '+' ∉ entry.1 := by decide
    exact each _ listed marked
  · obtain ⟨digit, read⟩ := denotes.exists_digit digit
    cases read

/-- Where the operands of a statement stand among its words: the value of a constant, the action
and the parameter of a rule, and the third word of each condition. -/
def OperandPlace (keyword : String) (place : Nat) : Prop :=
  sameWord keyword "const" = true ∧ place = 3 ∨
    sameWord keyword "rule" = true ∧ (place = 1 ∨ place % 4 = 2)

def SourceLine.HasOperand (line : SourceLine) (word : String) : Prop :=
  ∃ keyword place, line.words[0]? = some keyword ∧ OperandPlace keyword place ∧
    line.words[place]? = some word

theorem Term.ChainSpelled.exists_operand {words : List String} {terms : List Term}
    (spelled : ChainSpelled words terms) {place : Nat} {word : String}
    (third : place % 4 = 2) (stands : words[place]? = some word) :
    ∃ operand : Operand, operand.Spelled word := by
  induction spelled generalizing place with
  | last spelled =>
      match place, third with
      | 2, _ =>
          cases stands
          exact ⟨_, spelled.operand⟩
      | place + 3, _ => simp at stands
  | joined spelled _ _ _ ih =>
      match place, third with
      | 2, _ =>
          cases stands
          exact ⟨_, spelled.operand⟩
      | place + 4, third => exact ih (by omega) stands

theorem RuleStatement.Spelled.exists_operand {keyword : String} {words : List String}
    {statement : RuleStatement} (spelled : statement.Spelled (keyword :: words)) {place : Nat}
    {word : String} (allotted : place = 1 ∨ place % 4 = 2)
    (stands : (keyword :: words)[place]? = some word) :
    ∃ operand : Operand, operand.Spelled word := by
  cases spelled with
  | mk _ act parameter _ chain =>
      match place, allotted with
      | 1, _ =>
          cases stands
          exact ⟨_, act⟩
      | 2, _ =>
          cases stands
          exact ⟨_, parameter⟩
      | place + 4, third => exact chain.exists_operand (by omega) stands

/-- The words in the places of operands spell operands. -/
theorem Statement.Spelled.exists_operand {line : SourceLine} {statement : Statement}
    (spelled : statement.Spelled line.words) {word : String} (operand : line.HasOperand word) :
    ∃ operand : Operand, operand.Spelled word := by
  obtain ⟨keyword, place, first, allotted, stands⟩ := operand
  generalize line.words = words at spelled first stands
  cases spelled with
  | blank => cases first
  | constant opens _ value =>
      cases first
      rcases allotted with ⟨-, rfl⟩ | ⟨rule, -⟩
      · cases stands
        exact ⟨_, value⟩
      · rw [sameWord_const_rule opens] at rule
        cases rule
  | rule rule =>
      cases words with
      | nil => cases first
      | cons head rest =>
          cases first
          rcases allotted with ⟨const, -⟩ | ⟨-, allotted⟩
          · exact (rule.not_constant const).elim
          · exact rule.exists_operand allotted stands

/-- What is read from a word as a number, and the word as an operand. A word without a digit in
front is no number there, so a plus sign must follow a mark. -/
structure NumberReading (word : String) : Prop where
  read : ∀ value, literal? word.toList = some value ↔
    IsNumber [] word.toList value ∨ IsNumber ['+'] word.toList value
  refused : isName word.toList = false → (∀ value, ¬IsNumber [] word.toList value) →
    (∀ value, IsNumber ['+'] word.toList value → word.toList.head? = some '+') →
    ∀ source capacity, (∃ line ∈ sourceLines source, line.HasOperand word) →
      ∃ errors, assemble source capacity = .error errors

/-- The numbers of a rule source are decimal, or hexadecimal or binary after their marks, and have
32 bits. Of other words only those are read that have a plus sign in front of the digits. -/
theorem numbers_read_in_radix (word : String) : NumberReading word where
  read value := literal?_eq_some_iff.trans isLiteral_iff_isNumber
  refused other unsigned signed source capacity := by
    rintro ⟨line, member, operand⟩
    cases assembled : assemble source capacity with
    | error errors => exact ⟨errors, rfl⟩
    | ok assembly =>
        obtain ⟨statements, table, entries, parts⟩ := exists_parts_of_assemble assembled
        obtain ⟨statement, -, spelled⟩ := parts.understood.exists_statement member
        obtain ⟨operand, word⟩ := spelled.exists_operand operand
        cases word with
        | name named =>
            rw [other] at named
            cases named
        | literal digit number =>
            rcases isLiteral_iff_isNumber.mp number with number | number
            · exact absurd number (unsigned _)
            · rw [signed _ number] at digit
              cases digit

/-- The plus sign is read after a mark and in front of a word. -/
theorem signed_number_assembles :
    (literal? "0x+5".toList = some 5 ∧ ∀ value, ¬IsNumber [] "0x+5".toList value) ∧
      (literal? "+5".toList = some 5 ∧ ∀ value, ¬IsNumber [] "+5".toList value) ∧
      ∃ assembly, assemble "rule 0x+5 0 when class == 20" 64 = .ok assembly := by
  refine ⟨⟨by decide, fun value number => ?_⟩, ⟨by decide, fun value number => ?_⟩, ?_⟩
  · exact number.unsigned (by decide)
  · exact number.unsigned (by decide)
  · have assembled : (assemble "rule 0x+5 0 when class == 20" 64).isOk = true := by
      decide +kernel
    cases result : assemble "rule 0x+5 0 when class == 20" 64 with
    | ok assembly => exact ⟨assembly, rfl⟩
    | error errors =>
        rw [result] at assembled
        cases assembled

end Vscp.Source
