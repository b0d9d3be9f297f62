/-
This file proves that texts joined by line feeds are the lines of the joined text.
-/

import Vscp.Text.Line

namespace Vscp.Text

/-- A text that fills one line: it is not empty and nothing in it ends a line. -/
structure IsLine (text : List Char) : Prop where
  present : text ≠ []
  unbroken : '\n' ∉ text
  bare : '\r' ∉ text

/-- A text without line feeds goes to the current line. -/
theorem linesAfter_append {front : List Char} (unbroken : '\n' ∉ front)
    (reversed rest : List Char) :
    linesAfter reversed (front ++ rest) = linesAfter (front.reverse ++ reversed) rest := by
  induction front generalizing reversed with
  | nil => rfl
  | cons first front ih =>
      have kept : first ≠ '\n' := fun same => unbroken (by simp [same])
      have others : '\n' ∉ front := fun member => unbroken (List.mem_cons_of_mem _ member)
      rw [List.cons_append, linesAfter, ih others]
      · simp
      · exact kept

/-- Only a carriage return would go with the ending of a line. -/
theorem endedLine_reverse {line : List Char} (bare : '\r' ∉ line) :
    endedLine line.reverse = line := by
  unfold endedLine
  split
  · rename_i reversed same
    have member : '\r' ∈ line.reverse := by simp [same]
    exact absurd (List.mem_reverse.mp member) bare
  · exact List.reverse_reverse line

theorem linesAfter_intercalate {texts : List (List Char)}
    (lines : ∀ text ∈ texts, IsLine text) :
    linesAfter [] (['\n'].intercalate texts) = texts := by
  induction texts with
  | nil => rfl
  | cons text rest ih =>
      obtain ⟨present, unbroken, bare⟩ := lines text List.mem_cons_self
      cases rest with
      | nil =>
          have whole := linesAfter_append unbroken [] []
          simp only [List.append_nil] at whole
          have some : text.reverse.isEmpty = false := by simpa using present
          rw [List.intercalate_singleton, whole, linesAfter, some]
          simp
      | cons second later =>
          have others := ih fun other member => lines other (List.mem_cons_of_mem _ member)
          rw [List.intercalate_cons_cons, List.append_assoc, linesAfter_append unbroken,
            List.append_nil, List.singleton_append, linesAfter, others, endedLine_reverse bare]

end Vscp.Text
