/-
This file proves that numerals are read back as the values they were written for.
-/

import Vscp.Text.Numeral

namespace Vscp.Numeral

theorem extend?_append (radix total : Nat) (front back : List Char) :
    extend? radix total (front ++ back) =
      (extend? radix total front).bind fun value => extend? radix value back := by
  induction front generalizing total with
  | nil => rfl
  | cons character front ih =>
      simp only [List.cons_append, extend?]
      cases digitValue? radix character with
      | none => rfl
      | some digit => exact ih (total * radix + digit)

/-- Zeros on the left add nothing. -/
theorem extend?_zeros {radix : Nat} (positive : 0 < radix) (count : Nat)
    (characters : List Char) :
    extend? radix 0 (List.replicate count '0' ++ characters) = extend? radix 0 characters := by
  have zero : digitValue? radix '0' = some 0 := by
    simp [digitValue?, Option.filter, positive]
  induction count with
  | zero => rfl
  | succ count ih =>
      rw [List.replicate_succ, List.cons_append, extend?, zero]
      simpa using ih

theorem digitValue?_digitChar {radix digit : Nat} (small : radix ≤ 16) (within : digit < radix) :
    digitValue? radix (Nat.digitChar digit) = some digit := by
  have each : ∀ radix < 17, ∀ digit < radix,
      digitValue? radix (Nat.digitChar digit) = some digit := by decide
  exact each radix (by omega) digit within

theorem digitValue?_digitChar_toUpper {radix digit : Nat} (small : radix ≤ 16)
    (within : digit < radix) :
    digitValue? radix (Nat.digitChar digit).toUpper = some digit := by
  have each : ∀ radix < 17, ∀ digit < radix,
      digitValue? radix (Nat.digitChar digit).toUpper = some digit := by decide
  exact each radix (by omega) digit within

theorem digits_ne_nil (radix value : Nat) : digits radix value ≠ [] := by
  unfold digits
  split <;> simp

theorem mem_digits_lt {radix value digit : Nat} (wide : 2 ≤ radix)
    (member : digit ∈ digits radix value) : digit < radix := by
  fun_induction digits radix value with
  | case1 value small =>
      rw [List.mem_singleton] at member
      omega
  | case2 value large ih =>
      rcases List.mem_append.mp member with front | last
      · exact ih front
      · rw [List.mem_singleton] at last
        rw [last]
        exact Nat.mod_lt _ (by omega)

/-- A spelling of the digits that is read digit by digit is read as the value. -/
theorem extend?_digits {radix : Nat} (wide : 2 ≤ radix) (spell : Nat → Char)
    (legible : ∀ digit < radix, digitValue? radix (spell digit) = some digit) (value : Nat) :
    extend? radix 0 ((digits radix value).map spell) = some value := by
  fun_induction digits radix value with
  | case1 value small =>
      have read := legible value (by omega)
      simp [extend?, read]
  | case2 value large ih =>
      have read := legible (value % radix) (Nat.mod_lt _ (by omega))
      have whole : value / radix * radix + value % radix = value := by
        rw [Nat.mul_comm]
        exact Nat.div_add_mod value radix
      rw [List.map_append, extend?_append, ih]
      simp [extend?, read, whole]

/-- A text that is read digit by digit has no sign in front. -/
theorem readSigned?_of_extend? {radix value : Nat} {characters : List Char}
    (present : characters ≠ []) (read : extend? radix 0 characters = some value) :
    readSigned? radix characters = some value := by
  cases characters with
  | nil => exact absurd rfl present
  | cons first rest =>
      by_cases sign : first = '+'
      · rw [sign, extend?] at read
        cases read
      · simpa [readSigned?, sign, read?] using read

theorem readBelow?_of_extend? {radix bound value : Nat} {characters : List Char}
    (present : characters ≠ []) (read : extend? radix 0 characters = some value)
    (small : value < bound) : readBelow? radix bound characters = some value := by
  simp [readBelow?, readSigned?_of_extend? present read, small]

theorem write_ne_nil (radix value : Nat) : write radix value ≠ [] := by
  simpa [write] using digits_ne_nil radix value

theorem readBelow?_write_decimal {value bound : Nat} (small : value < bound) :
    readBelow? 10 bound (write 10 value) = some value :=
  readBelow?_of_extend? (write_ne_nil 10 value)
    (extend?_digits (by decide) Nat.digitChar
      (fun _ within => digitValue?_digitChar (by decide) within) value) small

theorem toList_capitalHexadecimal (width value : Nat) :
    (capitalHexadecimal width value).toList =
      List.replicate (width - (digits 16 value).length) '0' ++
        (digits 16 value).map fun digit => (Nat.digitChar digit).toUpper := by
  have zero : '0'.toUpper = '0' := by decide
  simp [capitalHexadecimal, writeWide, write, List.leftpad, zero]

theorem readBelow?_capitalHexadecimal {width value bound : Nat} (small : value < bound) :
    readBelow? 16 bound (capitalHexadecimal width value).toList = some value := by
  rw [toList_capitalHexadecimal]
  apply readBelow?_of_extend? _ _ small
  · simpa using fun _ => digits_ne_nil 16 value
  · rw [extend?_zeros (by decide)]
    exact extend?_digits (by decide) (fun digit => (Nat.digitChar digit).toUpper)
      (fun _ within => digitValue?_digitChar_toUpper (by decide) within) value

theorem isDigit_of_mem_decimal {value : Nat} {character : Char}
    (member : character ∈ (decimal value).toList) : character.isDigit = true := by
  have each : ∀ digit < 10, (Nat.digitChar digit).isDigit = true := by decide
  rw [decimal, String.toList_ofList, write] at member
  obtain ⟨digit, listed, rfl⟩ := List.mem_map.mp member
  exact each digit (mem_digits_lt (by decide) listed)

theorem isAlphanum_of_mem_capitalHexadecimal {width value : Nat} {character : Char}
    (member : character ∈ (capitalHexadecimal width value).toList) :
    character.isAlphanum = true := by
  have each : ∀ digit < 16, (Nat.digitChar digit).toUpper.isAlphanum = true := by decide
  rw [toList_capitalHexadecimal] at member
  rcases List.mem_append.mp member with zeros | front
  · rw [List.eq_of_mem_replicate zeros]
    decide
  · obtain ⟨digit, listed, rfl⟩ := List.mem_map.mp front
    exact each digit (mem_digits_lt (by decide) listed)

end Vscp.Numeral
