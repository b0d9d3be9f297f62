/-
This file says where an element of a list stands when the list gets a new end.
-/

import Mathlib.Data.List.Basic

namespace Vscp

/-- A place in a list with a new end is the end or a place in the list. -/
theorem concat_eq_split_iff {Element : Type} {elements earlier later : List Element}
    {last element : Element} :
    elements ++ [last] = earlier ++ element :: later ↔
      (elements = earlier ∧ last = element ∧ later = []) ∨
        ∃ rest, elements = earlier ++ element :: rest ∧ later = rest ++ [last] := by
  constructor
  · intro split
    rcases List.eq_nil_or_concat' later with rfl | ⟨rest, final, rfl⟩
    · obtain ⟨same, ends⟩ := List.append_inj' split rfl
      exact .inl ⟨same, List.singleton_inj.mp ends, rfl⟩
    · rw [← List.cons_append, ← List.append_assoc] at split
      obtain ⟨same, ends⟩ := List.append_inj' split rfl
      exact .inr ⟨rest, same, by rw [ends]⟩
  · rintro (⟨rfl, rfl, rfl⟩ | ⟨rest, rfl, rfl⟩)
    · rfl
    · simp

end Vscp
