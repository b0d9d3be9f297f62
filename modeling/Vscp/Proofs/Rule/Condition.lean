/-
This file proves that the bytes of a condition and the condition determine each other.
-/

import Vscp.Proofs.Rule.Cursor
import Vscp.Rule.Decode
import Vscp.Rule.Encode

namespace Vscp

theorem ofCode?_operationByte (connective : Connective) (comparison : Comparison) :
    Connective.ofCode? (operationByte connective comparison / 16) = some connective ∧
      Comparison.ofCode? (operationByte connective comparison % 16) = some comparison := by
  cases connective <;> cases comparison <;> decide

theorem Connective.code_of_ofCode? {code : UInt8} {connective : Connective}
    (found : Connective.ofCode? code = some connective) : connective.code = code := by
  simpa using List.find?_some found

theorem Comparison.code_of_ofCode? {code : UInt8} {comparison : Comparison}
    (found : Comparison.ofCode? code = some comparison) : comparison.code = code := by
  simpa using List.find?_some found

/-- The two halves of an operation byte give it back. -/
theorem operationByte_of_ofCode? {operation : UInt8} {connective : Connective}
    {comparison : Comparison} (high : Connective.ofCode? (operation / 16) = some connective)
    (low : Comparison.ofCode? (operation % 16) = some comparison) :
    operationByte connective comparison = operation := by
  rw [operationByte, Connective.code_of_ofCode? high, Comparison.code_of_ofCode? low]
  apply UInt8.toNat_inj.mp
  have small := operation.toNat_lt
  simp only [UInt8.toNat_add, UInt8.toNat_mul, UInt8.toNat_div, UInt8.toNat_mod]
  change (operation.toNat / 16 * 16 % 256 + operation.toNat % 16) % 256 = operation.toNat
  omega

namespace Field

theorem width_le (field : Field) : field.width ≤ 4 := by
  cases field <;> simp [width]

theorem le_maximum_iff (field : Field) (operand : Nat) :
    operand ≤ field.maximum ↔ operand < Bytes.bound field.width := by
  have positive := Bytes.bound_positive field.width
  unfold maximum
  omega

/-- Every field with an identity is listed. -/
theorem mem_all_of_id? {field : Field} {id : UInt8} (named : field.id? = some id) :
    field ∈ all := by
  have payload {count offset : Nat} {code : UInt8}
      (within : (if offset < count then some code else none) = some id) : offset < count := by
    split at within
    · assumption
    · cases within
  cases field with
  | byte offset => simp [all, payload named]
  | word offset => simp [all, payload named]
  | long offset => simp [all, payload named]
  | _ => decide

theorem id?_of_ofId? {field : Field} {id : UInt8} (found : ofId? id = some field) :
    field.id? = some id := by
  simpa using List.find?_some found

/-- No two fields share an identity. -/
theorem ofId?_of_id? {field : Field} {id : UInt8} (named : field.id? = some id) :
    ofId? id = some field := by
  have distinct : ∀ field ∈ all, field.id?.bind ofId? = some field := by decide
  have found := distinct field (mem_all_of_id? named)
  rwa [named] at found

end Field

namespace Condition

/-- A condition is written when its field has an identity and its operand fits. -/
theorem encode_eq_ok_iff {condition : Condition} {rule : Nat} {connective : Connective}
    {bytes : List UInt8} :
    condition.encode rule connective = .ok bytes ↔
      ∃ id, condition.field.id? = some id ∧
        condition.operand < Bytes.bound condition.field.width ∧
        bytes = operationByte connective condition.comparison :: id ::
          Bytes.write condition.field.width condition.operand := by
  unfold encode
  cases condition.field.id? with
  | none => simp
  | some id =>
      simp only [Field.le_maximum_iff, Option.some.injEq, exists_eq_left']
      by_cases fits : condition.operand < Bytes.bound condition.field.width
      · simp [fits, eq_comm]
      · simp [fits]

/-- Reading a condition undoes writing it, and nothing else can be read. -/
theorem decode_eq_ok_iff {cursor next : RuleCursor} {condition : Condition} (rule : Nat) :
    decode cursor = .ok (condition, next) ↔
      ∃ bytes, condition.encode rule condition.connective = .ok bytes ∧
        cursor.rest = bytes ++ next.rest ∧ next.offset = cursor.offset + bytes.length := by
  constructor
  · intro decoded
    unfold decode at decoded
    split at decoded
    · cases decoded
    · rename_i operation afterOperation operationRead
      split at decoded
      · cases decoded
      · cases decoded
      · rename_i connective comparison high low
        split at decoded
        · cases decoded
        · rename_i id afterField fieldRead
          split at decoded
          · cases decoded
          · rename_i field named
            split at decoded
            · cases decoded
            · rename_i operand afterOperand operandRead
              cases decoded
              obtain ⟨firstByte, firstOffset⟩ := RuleCursor.readByte_eq_ok_iff.mp operationRead
              obtain ⟨secondByte, secondOffset⟩ := RuleCursor.readByte_eq_ok_iff.mp fieldRead
              obtain ⟨-, fits, number, offset⟩ := RuleCursor.readNumber_eq_ok_iff.mp operandRead
              refine ⟨_, encode_eq_ok_iff.mpr ⟨id, Field.id?_of_ofId? named, fits, rfl⟩, ?_, ?_⟩
              · rw [operationByte_of_ofCode? high low, firstByte, secondByte, number]
                rfl
              · simp only [List.length_cons, Bytes.length_write]
                omega
  · rintro ⟨bytes, encoded, rest, offset⟩
    obtain ⟨id, named, fits, rfl⟩ := encode_eq_ok_iff.mp encoded
    obtain ⟨high, low⟩ := ofCode?_operationByte condition.connective condition.comparison
    have operationRead : cursor.readByte .truncatedCondition =
        .ok (operationByte condition.connective condition.comparison, cursor.skip 1) :=
      RuleCursor.readByte_eq_ok_iff.mpr ⟨by simp [RuleCursor.skip, rest], rfl⟩
    have fieldRead : (cursor.skip 1).readByte .truncatedCondition = .ok (id, cursor.skip 2) :=
      RuleCursor.readByte_eq_ok_iff.mpr ⟨by simp [RuleCursor.skip, rest], rfl⟩
    have operandRead : (cursor.skip 2).readNumber condition.field.width .truncatedCondition =
        .ok (condition.operand, next) := by
      refine RuleCursor.readNumber_eq_ok_iff.mpr ⟨Field.width_le _, fits, ?_, ?_⟩
      · simp [RuleCursor.skip, rest]
      · simp only [List.length_cons, Bytes.length_write] at offset
        change next.offset = cursor.offset + 2 + condition.field.width
        omega
    simp only [decode, operationRead, high, low, fieldRead, Field.ofId?_of_id? named, operandRead]

end Condition

end Vscp
