/-
This file proves that words kept apart by single blanks are the words of their line.
-/

import Mathlib.Data.List.TakeWhile
import Vscp.Source.Token

namespace Vscp.Source

/-- A character of a word: it neither ends a word nor starts a comment. -/
def isPlain (character : Char) : Bool :=
  !Text.isBlank character && character != ';'

/-- A word has characters and all of them are plain. -/
def IsWord (word : List Char) : Prop :=
  word ≠ [] ∧ ∀ character ∈ word, isPlain character = true

instance (word : List Char) : Decidable (IsWord word) :=
  decidable_of_iff (word ≠ [] ∧ word.all isPlain = true) (by rw [List.all_eq_true, IsWord])

/-- A character of a word or the blank between two words. -/
def isInline (character : Char) : Bool :=
  character == ' ' || isPlain character

/-- Words, each after a blank. -/
def spaced (words : List (List Char)) : List Char :=
  words.flatMap (' ' :: ·)

@[simp] theorem spaced_nil : spaced [] = [] := rfl

@[simp] theorem spaced_cons (word : List Char) (words : List (List Char)) :
    spaced (word :: words) = ' ' :: (word ++ spaced words) := rfl

@[simp] theorem spaced_append (front back : List (List Char)) :
    spaced (front ++ back) = spaced front ++ spaced back :=
  List.flatMap_append

theorem isInline_of_isPlain {character : Char} (plain : isPlain character = true) :
    isInline character = true := by
  simp [isInline, plain]

/-- Words kept apart by blanks hold nothing but plain characters and the blanks. -/
theorem all_isInline_spaced {words : List (List Char)} (each : ∀ word ∈ words, IsWord word) :
    (spaced words).all isInline = true := by
  rw [List.all_eq_true]
  intro character member
  obtain ⟨word, listed, place⟩ := List.mem_flatMap.mp member
  rcases List.mem_cons.mp place with rfl | inside
  · decide
  · exact isInline_of_isPlain ((each word listed).2 character inside)

theorem isPlain_of_isAlphanum {character : Char} (letter : character.isAlphanum = true) :
    isPlain character = true := by
  have other : character ≠ ';' := by
    rintro rfl
    cases letter
  have kept : Text.isBlank character = false := by
    change (((65 ≤ character.val ∧ character.val ≤ 90 : Bool) ||
      (97 ≤ character.val && character.val ≤ 122)) ||
      (48 ≤ character.val && character.val ≤ 57)) = true at letter
    simp only [Bool.or_eq_true, Bool.and_eq_true, decide_eq_true_eq, UInt32.le_iff_toNat_le]
      at letter
    change ((65 ≤ character.toNat ∧ character.toNat ≤ 90) ∨
      (97 ≤ character.toNat ∧ character.toNat ≤ 122)) ∨
      (48 ≤ character.toNat ∧ character.toNat ≤ 57) at letter
    simp only [Text.isBlank, Bool.or_eq_false_iff, Bool.and_eq_false_iff, decide_eq_false_iff_not,
      beq_eq_false_iff_ne]
    omega
  simp [isPlain, kept, other]

namespace Token

/-- The characters of a word stay together. -/
theorem split_word {word : List Char} (plain : ∀ character ∈ word, isPlain character = true)
    (column : Nat) (rest : List Char) :
    split column (word ++ rest) =
      (word ++ (split (column + byteLength word) rest).1,
        (split (column + byteLength word) rest).2) := by
  induction word generalizing column with
  | nil => rfl
  | cons first word ih =>
      have others := ih (fun character member => plain character (List.mem_cons_of_mem _ member))
        (column + first.utf8Size)
      have kept : Text.isBlank first = false := by
        have part := plain first List.mem_cons_self
        simp only [isPlain, Bool.and_eq_true, Bool.not_eq_true'] at part
        exact part.1
      rw [Nat.add_assoc] at others
      rw [List.cons_append, split, others]
      simp [kept, byteLength]

theorem cons_word {word : List Char} (present : word ≠ []) (column : Nat) (later : List Token) :
    cons word column later = ⟨String.ofList word, column⟩ :: later := by
  have some : word.isEmpty = false := by simpa using present
  simp [cons, some]

/-- No character comes before the first blank, and the words follow. -/
theorem split_spaced {words : List (List Char)} (each : ∀ word ∈ words, IsWord word)
    (column : Nat) :
    (split column (spaced words)).1 = [] ∧
      (split column (spaced words)).2.map (·.text) = words.map String.ofList := by
  induction words generalizing column with
  | nil => exact ⟨rfl, rfl⟩
  | cons word rest ih =>
      obtain ⟨present, plain⟩ := each word List.mem_cons_self
      have blank : Text.isBlank ' ' = true := by decide
      have start := split_word plain (column + ' '.utf8Size) (spaced rest)
      obtain ⟨front, texts⟩ := ih (fun other member => each other (List.mem_cons_of_mem _ member))
        (column + ' '.utf8Size + byteLength word)
      rw [front, List.append_nil] at start
      rw [spaced_cons, split, start]
      simp [blank, cons_word present, texts]

theorem map_text_all {word : List Char} {words : List (List Char)} (first : IsWord word)
    (each : ∀ word ∈ words, IsWord word) :
    (all (word ++ spaced words)).map (·.text) = (word :: words).map String.ofList := by
  obtain ⟨present, plain⟩ := first
  have start := split_word plain 1 (spaced words)
  obtain ⟨front, texts⟩ := split_spaced each (1 + byteLength word)
  rw [front, List.append_nil] at start
  rw [all, start]
  simp [cons_word present, texts]

end Token

theorem beforeComment_eq_self {line : List Char} (bare : ';' ∉ line) :
    beforeComment line = line := by
  rw [beforeComment, List.takeWhile_eq_self_iff]
  intro character member
  have other : character ≠ ';' := fun same => bare (same ▸ member)
  simpa using other

end Vscp.Source
