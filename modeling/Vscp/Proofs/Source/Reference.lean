/-
This file says which of numbered statements define constants, which literals these lead to and why
other lines define none, and proves that one line more keeps the table of constants right.
-/

import Vscp.Proofs.Source.Meaning

namespace Vscp.Source

/-- The line at a place gives an operand to a name. -/
def Gives (lines : List (Nat × Statement)) (place number : Nat) (name : String)
    (operand : Operand) : Prop :=
  lines[place]? = some (number, .constant name operand)

/-- An operand at a place is a literal, or a line before the place gives the name, which is not
reserved, to an operand that resolves there. -/
inductive Operand.Resolves (lines : List (Nat × Statement)) : Nat → Operand → Prop where
  | literal {place value : Nat} : Resolves lines place (.literal value)
  | name {place earlier number : Nat} {name : String} {operand : Operand}
      (before : earlier < place) (gives : Gives lines earlier number name operand)
      (free : ConstantTable.isReserved name = false) (resolves : Resolves lines earlier operand) :
      Resolves lines place (.name name)

/-- The line at a place is the first of those that give a name, which is not reserved, to an operand
that resolves. -/
structure Defines (lines : List (Nat × Statement)) (place number : Nat) (name : String)
    (operand : Operand) : Prop where
  gives : Gives lines place number name operand
  free : ConstantTable.isReserved name = false
  resolves : operand.Resolves lines place
  first : ∀ earlier < place, ∀ other original, Gives lines earlier other name original →
    ¬original.Resolves lines earlier

/-- References lead from an operand at a place to a literal. Each goes to the line that defines its
name, which stands before the place that it comes from. -/
inductive Operand.EndsAt (lines : List (Nat × Statement)) : Nat → Operand → Nat → Prop where
  | literal {place value : Nat} : EndsAt lines place (.literal value) value
  | name {place earlier number value : Nat} {name : String} {operand : Operand}
      (before : earlier < place) (defines : Defines lines earlier number name operand)
      (ends : EndsAt lines earlier operand value) : EndsAt lines place (.name name) value

/-- Why the line at a place defines nothing. -/
inductive Refusal (lines : List (Nat × Statement)) (place : Nat) (name : String)
    (operand : Operand) : ConstantError → Prop where
  | reserved (reserved : ConstantTable.isReserved name = true) :
      Refusal lines place name operand (.reservedName name)
  | duplicate {first number : Nat} {original : Operand} (before : first < place)
      (defines : Defines lines first number name original) :
      Refusal lines place name operand (.duplicateConstant name number)
  | undefined {missing : String} (free : ConstantTable.isReserved name = false)
      (fresh : ∀ earlier < place, ∀ number original, ¬Defines lines earlier number name original)
      (refers : operand = .name missing) (unresolved : ¬operand.Resolves lines place) :
      Refusal lines place name operand (.undefinedConstant missing)

section

variable {lines : List (Nat × Statement)} {place number : Nat} {name : String} {operand : Operand}

theorem Gives.unique {other : Nat} {twin : String} {given : Operand}
    (left : Gives lines place number name operand) (right : Gives lines place other twin given) :
    number = other ∧ name = twin ∧ operand = given := by
  have same := Option.some.inj (left.symm.trans right)
  cases same
  exact ⟨rfl, rfl, rfl⟩

theorem Gives.lt_length (gives : Gives lines place number name operand) : place < lines.length :=
  (List.getElem?_eq_some_iff.mp gives).1

/-- Of the lines that could define a name, the first does. -/
theorem Gives.exists_defines (gives : Gives lines place number name operand)
    (free : ConstantTable.isReserved name = false) (resolves : operand.Resolves lines place) :
    ∃ first ≤ place, ∃ original given, Defines lines first original name given := by
  -- An earlier line that could define the name leads to the first of them.
  induction place using Nat.strong_induction_on generalizing number operand with
  | _ place ih =>
      by_cases usable : ∃ earlier < place, ∃ other original,
          Gives lines earlier other name original ∧ original.Resolves lines earlier
      · obtain ⟨earlier, before, other, original, given, resolved⟩ := usable
        obtain ⟨first, within, defines⟩ := ih earlier before given resolved
        exact ⟨first, within.trans before.le, defines⟩
      · refine ⟨place, le_rfl, number, operand, gives, free, resolves, ?_⟩
        intro earlier before other original given resolved
        exact usable ⟨earlier, before, other, original, given, resolved⟩

namespace Defines

/-- Two lines cannot both be the first. -/
theorem place_unique {origin other : Nat} {given : Operand}
    (left : Defines lines place number name operand)
    (right : Defines lines origin other name given) : place = origin := by
  rcases Nat.lt_trichotomy place origin with before | same | after
  · exact absurd left.resolves (right.first place before number operand left.gives)
  · exact same
  · exact absurd right.resolves (left.first origin after other given right.gives)

/-- A definition by another constant comes after that constant. -/
theorem backward {other : String} (defines : Defines lines place number name (.name other)) :
    ∃ earlier < place, ∃ origin given, Defines lines earlier origin other given := by
  cases defines.resolves with
  | name before gives free resolves =>
      obtain ⟨first, within, defined⟩ := gives.exists_defines free resolves
      exact ⟨first, within.trans_lt before, defined⟩

/-- No constant is defined by itself. -/
theorem other_ne {other : String} (defines : Defines lines place number name (.name other)) :
    other ≠ name := by
  rintro rfl
  obtain ⟨earlier, before, origin, given, defined⟩ := defines.backward
  exact absurd (defines.place_unique defined) before.ne'

theorem not_refusal (defines : Defines lines place number name operand) (error : ConstantError) :
    ¬Refusal lines place name operand error := by
  intro refusal
  cases refusal with
  | reserved reserved =>
      rw [defines.free] at reserved
      cases reserved
  | duplicate before earlier => exact absurd (defines.place_unique earlier) before.ne'
  | undefined _ _ _ unresolved => exact unresolved defines.resolves

end Defines

/-- Of a name that is defined, later lines are refused as duplicates of its definition. -/
theorem Refusal.eq_of_defines {first original : Nat} {given : Operand} {error : ConstantError}
    (refusal : Refusal lines place name operand error) (before : first < place)
    (defines : Defines lines first original name given) :
    error = .duplicateConstant name original := by
  cases refusal with
  | reserved reserved =>
      rw [defines.free] at reserved
      cases reserved
  | duplicate _ earlier =>
      obtain rfl := defines.place_unique earlier
      rw [(defines.gives.unique earlier.gives).1]
  | undefined _ fresh => exact absurd defines (fresh first before original given)

namespace Operand

theorem EndsAt.resolves {value : Nat} (ends : operand.EndsAt lines place value) :
    operand.Resolves lines place := by
  cases ends with
  | literal => exact .literal
  | name before defines => exact .name before defines.gives defines.free defines.resolves

theorem Resolves.exists_endsAt (resolves : operand.Resolves lines place) :
    ∃ value, operand.EndsAt lines place value := by
  induction place using Nat.strong_induction_on generalizing operand with
  | _ place ih =>
      cases resolves with
      | literal => exact ⟨_, .literal⟩
      | name before gives free resolves =>
          obtain ⟨first, within, number, given, defines⟩ := gives.exists_defines free resolves
          have earlier := within.trans_lt before
          obtain ⟨value, ends⟩ := ih first earlier defines.resolves
          exact ⟨value, .name earlier defines ends⟩

theorem EndsAt.unique {first second : Nat} (left : operand.EndsAt lines place first)
    (right : operand.EndsAt lines place second) : first = second := by
  induction left generalizing second with
  | literal =>
      cases right
      rfl
  | name before defines _ ih =>
      cases right with
      | name later again ends =>
          obtain rfl := defines.place_unique again
          obtain ⟨-, -, rfl⟩ := defines.gives.unique again.gives
          exact ih ends

end Operand

end

namespace ConstantTable

/-- The table has the constants that the lines before a place define. -/
def Holds (table : ConstantTable) (lines : List (Nat × Statement)) (place : Nat) : Prop :=
  ∀ name constant, table.find? name = some constant ↔
    ∃ earlier < place, ∃ operand, Defines lines earlier constant.line name operand ∧
      operand.EndsAt lines earlier constant.value ∧ constant.name = name

theorem holds_empty (lines : List (Nat × Statement)) : empty.Holds lines 0 := by
  intro name constant
  constructor
  · intro found
    cases found
  · rintro ⟨earlier, before, -⟩
    exact absurd before (Nat.not_lt_zero earlier)

namespace Holds

variable {table : ConstantTable} {lines : List (Nat × Statement)} {place number : Nat}
variable {name : String} {operand : Operand}

theorem resolve_eq_ok_iff (holds : table.Holds lines place) {value : Nat} :
    table.resolve operand = .ok value ↔ operand.EndsAt lines place value := by
  cases operand with
  | literal number =>
      constructor
      · intro resolved
        cases resolved
        exact .literal
      · intro ends
        cases ends
        rfl
  | name name =>
      rw [resolve]
      constructor
      · intro resolved
        split at resolved
        · rename_i constant found
          cases resolved
          obtain ⟨earlier, before, operand, defines, ends, -⟩ := (holds name constant).mp found
          exact .name before defines ends
        · cases resolved
      · intro ends
        cases ends with
        | @name _ earlier number _ _ operand before defines ends =>
            have found := (holds name ⟨name, value, number⟩).mpr
              ⟨earlier, before, operand, defines, ends, rfl⟩
            rw [found]

theorem find?_eq_none_iff (holds : table.Holds lines place) :
    table.find? name = none ↔
      ∀ earlier < place, ∀ number operand, ¬Defines lines earlier number name operand := by
  constructor
  · intro absent earlier before number operand defines
    obtain ⟨value, ends⟩ := defines.resolves.exists_endsAt
    have found := (holds name ⟨name, value, number⟩).mpr
      ⟨earlier, before, operand, defines, ends, rfl⟩
    rw [absent] at found
    cases found
  · intro fresh
    cases found : table.find? name with
    | none => rfl
    | some constant =>
        obtain ⟨earlier, before, operand, defines, -⟩ := (holds name constant).mp found
        exact absurd defines (fresh earlier before _ operand)

/-- A line defines its constant exactly if the constant can be added to the table. -/
theorem define_eq_ok_iff (holds : table.Holds lines place)
    (gives : Gives lines place number name operand) {constant : Constant} :
    table.define number name operand = .ok constant ↔
      Defines lines place number name operand ∧
        ∃ value, operand.EndsAt lines place value ∧ constant = ⟨name, value, number⟩ := by
  rw [ConstantTable.define_eq_ok_iff, holds.find?_eq_none_iff]
  simp only [holds.resolve_eq_ok_iff]
  constructor
  · rintro ⟨free, fresh, value, ends, rfl⟩
    refine ⟨⟨gives, free, ends.resolves, ?_⟩, value, ends, rfl⟩
    intro earlier before other original given resolves
    obtain ⟨first, within, origin, operand, defines⟩ := given.exists_defines free resolves
    exact fresh first (within.trans_lt before) origin operand defines
  · rintro ⟨defines, value, ends, rfl⟩
    refine ⟨defines.free, ?_, value, ends, rfl⟩
    intro earlier before other original again
    exact absurd (defines.place_unique again) before.ne'

/-- A constant that cannot be added is refused for the reason that the error tells. -/
theorem refusal_of_define (holds : table.Holds lines place) {error : ConstantError}
    (failed : table.define number name operand = .error error) :
    Refusal lines place name operand error := by
  rw [define] at failed
  split at failed
  · rename_i reserved
    cases failed
    exact .reserved reserved
  · rename_i free
    split at failed
    · rename_i constant found
      cases failed
      obtain ⟨first, before, original, defines, -⟩ := (holds name constant).mp found
      exact .duplicate before defines
    · rename_i absent
      have unresolved : ¬operand.Resolves lines place := by
        intro resolves
        obtain ⟨value, ends⟩ := resolves.exists_endsAt
        rw [holds.resolve_eq_ok_iff.mpr ends] at failed
        cases failed
      cases operand with
      | literal value => exact absurd .literal unresolved
      | name missing =>
          have missed := map_eq_error_iff.mp failed
          rw [resolve] at missed
          split at missed <;> cases missed
          exact .undefined (Bool.eq_false_iff.mpr free) (holds.find?_eq_none_iff.mp absent) rfl
            unresolved

/-- A line that defines nothing leaves the table as it is. -/
theorem idle (holds : table.Holds lines place)
    (idle : ∀ number name operand, ¬Defines lines place number name operand) :
    table.Holds lines (place + 1) := by
  intro name constant
  rw [holds name constant]
  constructor
  · rintro ⟨earlier, before, rest⟩
    exact ⟨earlier, before.trans (Nat.lt_succ_self place), rest⟩
  · rintro ⟨earlier, before, operand, defines, rest⟩
    rcases Nat.lt_succ_iff_lt_or_eq.mp before with before | rfl
    · exact ⟨earlier, before, operand, defines, rest⟩
    · exact absurd defines (idle _ name operand)

/-- A line that defines a constant adds it. -/
theorem insert (holds : table.Holds lines place) {value : Nat}
    (defines : Defines lines place number name operand)
    (ends : operand.EndsAt lines place value) :
    (table.insert ⟨name, value, number⟩).Holds lines (place + 1) := by
  have fresh : table.find? name = none := by
    rw [holds.find?_eq_none_iff]
    intro earlier before other original again
    exact absurd (defines.place_unique again) before.ne'
  intro twin constant
  rw [find?_insert fresh]
  split
  · rename_i same
    subst same
    constructor
    · intro added
      cases added
      exact ⟨place, Nat.lt_succ_self place, operand, defines, ends, rfl⟩
    · rintro ⟨earlier, -, given, again, others, named⟩
      obtain rfl := defines.place_unique again
      obtain ⟨same, -, rfl⟩ := defines.gives.unique again.gives
      obtain ⟨_, _, _⟩ := constant
      dsimp only at same others named
      rw [same, ends.unique others, named]
  · rename_i other
    rw [holds twin constant]
    constructor
    · rintro ⟨earlier, before, rest⟩
      exact ⟨earlier, before.trans (Nat.lt_succ_self place), rest⟩
    · rintro ⟨earlier, before, given, again, rest⟩
      rcases Nat.lt_succ_iff_lt_or_eq.mp before with before | rfl
      · exact ⟨earlier, before, given, again, rest⟩
      · obtain ⟨-, rfl, -⟩ := defines.gives.unique again.gives
        exact absurd rfl other

end Holds

end ConstantTable

end Vscp.Source
