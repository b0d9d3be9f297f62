/-
This file gives the chain of conditions that a cursor holds and proves that evaluating, checking
and listing a chain read this one chain.
-/

import Vscp.Proofs.Except
import Vscp.Proofs.Rule.Condition
import Vscp.Rule.Evaluate
import Vscp.Rule.Listing

namespace Vscp

namespace Chain

/-- The chain at the cursor; its last condition takes the last byte of the window. -/
def decode (cursor : RuleCursor) : Except Flaw (List Condition) :=
  match _decoded : Condition.decode cursor with
  | .error flaw => .error flaw
  | .ok (condition, next) =>
      if condition.connective = .last then
        if next.atEnd then .ok [condition] else .error ⟨.trailingBytes, next.offset⟩
      else (decode next).map (condition :: ·)
termination_by cursor.remaining
decreasing_by exact Condition.remaining_of_decode (by assumption)

/-- A chain ends at its first condition that is not joined to another. -/
def source : List Condition → String
  | [] => ""
  | condition :: rest =>
      " " ++ condition.source ++
        if condition.connective = .last then ""
        else " " ++ condition.connective.keyword ++ source rest

theorem decode_of_error {cursor : RuleCursor} {flaw : Flaw}
    (failed : Condition.decode cursor = .error flaw) : decode cursor = .error flaw := by
  rw [decode]
  split
  · rename_i again
    rw [failed] at again
    cases again
    rfl
  · rename_i decoded
    rw [failed] at decoded
    cases decoded

theorem decode_of_ok {cursor next : RuleCursor} {condition : Condition}
    (decoded : Condition.decode cursor = .ok (condition, next)) :
    decode cursor =
      if condition.connective = .last then
        if next.atEnd then .ok [condition] else .error ⟨.trailingBytes, next.offset⟩
      else (decode next).map (condition :: ·) := by
  rw [decode]
  split
  · rename_i failed
    rw [decoded] at failed
    cases failed
  · rename_i again
    rw [decoded] at again
    cases again
    rfl

/-- The interpreter folds the connectives of the chain at the cursor. -/
theorem evaluate_eq_decode (event : Event) (result : Bool) (pending : Connective)
    (cursor : RuleCursor) :
    evaluate event result pending cursor =
      (decode cursor).map (holdsAfter event result pending) := by
  fun_induction evaluate event result pending cursor with
  | case1 result pending cursor flaw failed =>
      rw [decode_of_error failed]
      rfl
  | case2 result pending cursor condition next decoded value last done =>
      rw [decode_of_ok decoded, if_pos last, if_pos done]
      rfl
  | case3 result pending cursor condition next decoded last more =>
      rw [decode_of_ok decoded, if_pos last, if_neg more]
      rfl
  | case4 result pending cursor condition next decoded value joined ih =>
      rw [decode_of_ok decoded, if_neg joined, ih]
      cases decode next <;> rfl

/-- The check fails exactly where the chain at the cursor does. -/
theorem check_eq_decode (cursor : RuleCursor) :
    check cursor = (decode cursor).map fun _ => () := by
  fun_induction check cursor with
  | case1 cursor flaw failed =>
      rw [decode_of_error failed]
      rfl
  | case2 cursor condition next decoded last done =>
      rw [decode_of_ok decoded, if_pos last, if_pos done]
      rfl
  | case3 cursor condition next decoded last more =>
      rw [decode_of_ok decoded, if_pos last, if_neg more]
      rfl
  | case4 cursor condition next decoded joined ih =>
      rw [decode_of_ok decoded, if_neg joined, ih]
      cases decode next <;> rfl

/-- The listing appends the source of the chain at the cursor. -/
theorem render_eq_decode (text : String) (cursor : RuleCursor) :
    render text cursor = (decode cursor).map fun conditions => text ++ source conditions := by
  fun_induction render text cursor with
  | case1 text cursor flaw failed =>
      rw [decode_of_error failed]
      rfl
  | case2 text cursor condition next decoded written last done =>
      rw [decode_of_ok decoded, if_pos last, if_pos done]
      simp [Except.map, source, last, written, String.append_assoc]
  | case3 text cursor condition next decoded last more =>
      rw [decode_of_ok decoded, if_pos last, if_neg more]
      rfl
  | case4 text cursor condition next decoded written joined ih =>
      rw [decode_of_ok decoded, if_neg joined, ih]
      cases decode next with
      | error flaw => rfl
      | ok conditions => simp [Except.map, source, joined, written, String.append_assoc]

/-- Before its end a chain is written condition by condition, none of them marked as the last. -/
theorem encodeFrom_cons_cons_eq_ok_iff {rule position : Nat} {condition following : Condition}
    {later : List Condition} {bytes : List UInt8} :
    encodeFrom rule position (condition :: following :: later) = .ok bytes ↔
      condition.connective ≠ .last ∧ ∃ front back,
        condition.encode rule condition.connective = .ok front ∧
        encodeFrom rule (position + 1) (following :: later) = .ok back ∧ front ++ back = bytes := by
  rw [encodeFrom]
  · by_cases last : condition.connective = .last
    · simp [last]
    · simp [last, bind_eq_ok_iff, map_eq_ok_iff]
  · simp

/-- The bytes of a chain are read back with its last condition marked as the last. -/
theorem decode_encodeFrom {conditions : List Condition} {rule position offset : Nat}
    {bytes : List UInt8} (present : conditions ≠ [])
    (encoded : encodeFrom rule position conditions = .ok bytes) :
    decode ⟨offset, bytes⟩ = .ok (withLast .last conditions) := by
  induction conditions generalizing position offset bytes with
  | nil => exact absurd rfl present
  | cons condition rest ih =>
      cases rest with
      | nil =>
          have decoded : Condition.decode ⟨offset, bytes⟩ =
              .ok ({ condition with connective := .last }, ⟨offset + bytes.length, []⟩) :=
            (Condition.decode_eq_ok_iff rule).mpr ⟨bytes, encoded, by simp, rfl⟩
          rw [decode_of_ok decoded]
          rfl
      | cons following later =>
          obtain ⟨joined, front, back, first, others, rfl⟩ :=
            encodeFrom_cons_cons_eq_ok_iff.mp encoded
          have decoded : Condition.decode ⟨offset, front ++ back⟩ =
              .ok (condition, ⟨offset + front.length, back⟩) :=
            (Condition.decode_eq_ok_iff rule).mpr ⟨front, first, rfl, rfl⟩
          rw [decode_of_ok decoded, if_neg joined, ih (by simp) others]
          rfl

/-- A chain that was read is written with the bytes it was read from. -/
theorem encodeFrom_decode {cursor : RuleCursor} {conditions : List Condition}
    (decoded : decode cursor = .ok conditions) (rule position : Nat) :
    conditions ≠ [] ∧ encodeFrom rule position conditions = .ok cursor.rest := by
  fun_induction decode cursor generalizing conditions position with
  | case1 cursor flaw failed => cases decoded
  | case2 cursor condition next read last done =>
      cases decoded
      obtain ⟨bytes, encoded, rest, -⟩ := (Condition.decode_eq_ok_iff rule).mp read
      have empty : next.rest = [] := List.isEmpty_iff.mp done
      rw [last] at encoded
      rw [rest, empty, List.append_nil]
      exact ⟨by simp, encoded⟩
  | case3 cursor condition next read last more => cases decoded
  | case4 cursor condition next read joined ih =>
      obtain ⟨later, others, rfl⟩ := map_eq_ok_iff.mp decoded
      obtain ⟨present, back⟩ := ih others (position + 1)
      obtain ⟨front, first, rest, -⟩ := (Condition.decode_eq_ok_iff rule).mp read
      obtain ⟨following, later, rfl⟩ := List.exists_cons_of_ne_nil present
      refine ⟨by simp, ?_⟩
      exact encodeFrom_cons_cons_eq_ok_iff.mpr ⟨joined, front, _, first, back, rest.symm⟩

/-- The mark on the last condition of a chain is never joined to a value. -/
theorem holdsAfter_withLast (event : Event) (conditions : List Condition) (mark : Connective)
    (result : Bool) (connective : Connective) :
    holdsAfter event result connective (withLast mark conditions) =
      holdsAfter event result connective conditions := by
  induction conditions generalizing result connective with
  | nil => rfl
  | cons condition rest ih =>
      cases rest with
      | nil => rfl
      | cons following later => simp only [withLast, holdsAfter, ih]

theorem holds_withLast (event : Event) (conditions : List Condition) (mark : Connective) :
    holds event (withLast mark conditions) = holds event conditions := by
  cases conditions with
  | nil => rfl
  | cons condition rest =>
      cases rest with
      | nil => rfl
      | cons following later => simp only [withLast, holds, holdsAfter_withLast]

/-- Nothing precedes the first condition, so the interpreter starts with its value. -/
theorem holdsAfter_last (event : Event) (conditions : List Condition) :
    holdsAfter event false .last conditions = holds event conditions := by
  cases conditions <;> rfl

end Chain

end Vscp
