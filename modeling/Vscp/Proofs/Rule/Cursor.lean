/-
This file says exactly when a read from a rule cursor succeeds and what it leaves.
-/

import Vscp.Proofs.Bytes
import Vscp.Rule.Cursor

namespace Vscp.RuleCursor

/-- A byte is read exactly when one is left. -/
theorem readByte_eq_ok_iff {cursor next : RuleCursor} {kind : FaultKind} {byte : UInt8} :
    cursor.readByte kind = .ok (byte, next) ↔
      cursor.rest = byte :: next.rest ∧ next.offset = cursor.offset + 1 := by
  obtain ⟨offset, rest⟩ := cursor
  obtain ⟨nextOffset, nextRest⟩ := next
  cases rest with
  | nil => simp [readByte]
  | cons first rest =>
      simp only [readByte, skip, List.drop_one, List.tail_cons, Except.ok.injEq, Prod.mk.injEq,
        RuleCursor.mk.injEq, List.cons.injEq]
      constructor
      · rintro ⟨rfl, rfl, rfl⟩
        exact ⟨⟨rfl, rfl⟩, rfl⟩
      · rintro ⟨⟨rfl, rfl⟩, rfl⟩
        exact ⟨rfl, rfl, rfl⟩

/-- A number is read exactly when all its bytes, four at most, are left. -/
theorem readNumber_eq_ok_iff {cursor next : RuleCursor} {width number : Nat} {kind : FaultKind} :
    cursor.readNumber width kind = .ok (number, next) ↔
      width ≤ 4 ∧ number < Bytes.bound width ∧
        cursor.rest = Bytes.write width number ++ next.rest ∧
        next.offset = cursor.offset + width := by
  obtain ⟨offset, rest⟩ := cursor
  obtain ⟨nextOffset, nextRest⟩ := next
  by_cases within : width ≤ 4 ∧ width ≤ (⟨offset, rest⟩ : RuleCursor).remaining
  · have room : width ≤ rest.length := within.2
    have length : (rest.take width).length = width := by simp [room]
    rw [readNumber, if_pos within]
    simp only [skip, Except.ok.injEq, Prod.mk.injEq, RuleCursor.mk.injEq]
    constructor
    · rintro ⟨rfl, rfl, rfl⟩
      have small := Bytes.value_lt (rest.take width)
      have same := Bytes.write_value (rest.take width)
      rw [length] at small same
      rw [same, List.take_append_drop]
      exact ⟨within.1, small, rfl, rfl⟩
    · rintro ⟨-, small, rfl, rfl⟩
      have front : (Bytes.write width number ++ nextRest).take width =
          Bytes.write width number := List.take_left' (Bytes.length_write width number)
      have back : (Bytes.write width number ++ nextRest).drop width = nextRest :=
        List.drop_left' (Bytes.length_write width number)
      rw [front, back, Bytes.value_write_of_lt small]
      exact ⟨rfl, rfl, rfl⟩
  · rw [readNumber, if_neg within]
    constructor
    · intro read
      cases read
    · rintro ⟨narrow, -, rfl, -⟩
      refine absurd ⟨narrow, ?_⟩ within
      simp [remaining]

end Vscp.RuleCursor
