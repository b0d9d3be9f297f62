/-
This file proves that the words of a text are its runs of characters between blanks.
-/

import Vscp.Proofs.Source.Grammar

namespace Vscp.Source

/-- Words laid out in a text: blanks may stand before a word and at the end, and between two words
there is a blank. -/
inductive LaidOut : List Char → List String → Prop where
  | done {gap : List Char} (blank : ∀ character ∈ gap, Text.isBlank character = true) :
      LaidOut gap []
  | word {gap word rest : List Char} {words : List String}
      (blank : ∀ character ∈ gap, Text.isBlank character = true) (present : word ≠ [])
      (solid : ∀ character ∈ word, Text.isBlank character = false)
      (apart : rest.head?.all Text.isBlank = true) (others : LaidOut rest words) :
      LaidOut (gap ++ (word ++ rest)) (String.ofList word :: words)

theorem wordsOf_cons_blank {character : Char} (blank : Text.isBlank character = true)
    (text : List Char) : wordsOf (character :: text) = wordsOf text := by
  simp [wordsOf, List.splitOnP_cons_eq_if_modifyHead, blank]

theorem wordsOf_gap {gap : List Char}
    (blank : ∀ character ∈ gap, Text.isBlank character = true) (text : List Char) :
    wordsOf (gap ++ text) = wordsOf text := by
  induction gap with
  | nil => rfl
  | cons character gap ih =>
      obtain ⟨first, others⟩ := List.forall_mem_cons.mp blank
      rw [List.cons_append, wordsOf_cons_blank first, ih others]

/-- A run of characters that a blank or the end of the text follows is a word. -/
theorem wordsOf_run {word rest : List Char} (present : word ≠ [])
    (solid : ∀ character ∈ word, Text.isBlank character = false)
    (apart : rest.head?.all Text.isBlank = true) :
    wordsOf (word ++ rest) = String.ofList word :: wordsOf rest := by
  have kept : word.isEmpty = false := by simpa using present
  cases rest with
  | nil =>
      rw [List.append_nil, wordsOf, List.splitOnP_eq_singleton solid]
      simp [wordsOf, kept]
  | cons blank rest =>
      rw [List.head?_cons, Option.all_some] at apart
      rw [wordsOf_cons_blank apart, wordsOf,
        List.splitOnP_append_cons_of_forall_mem solid blank apart]
      simp [wordsOf, kept]

theorem LaidOut.wordsOf_eq {text : List Char} {words : List String} (laid : LaidOut text words) :
    wordsOf text = words := by
  induction laid with
  | @done gap blank =>
      have words := wordsOf_gap blank []
      rwa [List.append_nil] at words
  | word blank present solid apart _ ih =>
      rw [wordsOf_gap blank, wordsOf_run present solid apart, ih]

/-- No blank stands before the word. -/
theorem LaidOut.run {word rest : List Char} {words : List String} (present : word ≠ [])
    (solid : ∀ character ∈ word, Text.isBlank character = false)
    (apart : rest.head?.all Text.isBlank = true) (others : LaidOut rest words) :
    LaidOut (word ++ rest) (String.ofList word :: words) :=
  @LaidOut.word [] word rest words nofun present solid apart others

/-- A character in front of a text is a blank, goes to the first word or is a word. -/
theorem LaidOut.exists_cons {text : List Char} {words : List String} (laid : LaidOut text words)
    (character : Char) : ∃ others, LaidOut (character :: text) others := by
  cases kind : Text.isBlank character with
  | true =>
      cases laid with
      | done blank => exact ⟨_, .done (List.forall_mem_cons.mpr ⟨kind, blank⟩)⟩
      | word blank present solid apart others =>
          exact ⟨_, .word (List.forall_mem_cons.mpr ⟨kind, blank⟩) present solid apart others⟩
  | false =>
      have alone : ∀ other ∈ [character], Text.isBlank other = false := by simpa using kind
      by_cases apart : text.head?.all Text.isBlank = true
      · exact ⟨_, LaidOut.run (List.cons_ne_nil character []) alone apart laid⟩
      · cases laid with
        | done blank =>
            cases text with
            | nil => exact absurd rfl apart
            | cons first rest => exact absurd (blank first List.mem_cons_self) apart
        | @word gap word rest words blank present solid follows others =>
            cases gap with
            | nil =>
                exact ⟨_, LaidOut.run (List.cons_ne_nil character word)
                  (List.forall_mem_cons.mpr ⟨kind, solid⟩) follows others⟩
            | cons first gap => exact absurd (blank first List.mem_cons_self) apart

theorem exists_laidOut (text : List Char) : ∃ words, LaidOut text words := by
  induction text with
  | nil => exact ⟨[], .done nofun⟩
  | cons character text ih =>
      obtain ⟨words, laid⟩ := ih
      exact laid.exists_cons character

/-- A text has one layout, and its words are those which blanks keep apart. -/
theorem laidOut_iff {text : List Char} {words : List String} :
    LaidOut text words ↔ wordsOf text = words := by
  refine ⟨LaidOut.wordsOf_eq, ?_⟩
  rintro rfl
  obtain ⟨words, laid⟩ := exists_laidOut text
  rwa [laid.wordsOf_eq]

/-- Nothing after the first semicolon is read. -/
theorem beforeComment_append {text comment : List Char} (bare : ';' ∉ text)
    (ends : comment.head?.all (· == ';') = true) : beforeComment (text ++ comment) = text := by
  have plain : ∀ character ∈ text, (character != ';') = true := by
    intro character member
    exact bne_iff_ne.mpr fun same => bare (same ▸ member)
  rw [beforeComment, List.takeWhile_append_of_pos plain]
  cases comment with
  | nil => simp
  | cons first comment =>
      rw [List.head?_cons, Option.all_some, beq_iff_eq] at ends
      subst ends
      simp

end Vscp.Source
