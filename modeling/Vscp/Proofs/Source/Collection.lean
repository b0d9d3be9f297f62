/-
This file proves that collecting constants gives one entry or one error for each line of a constant.
-/

import Vscp.Proofs.Source.Interleaving
import Vscp.Proofs.Source.Reference
import Vscp.Proofs.Source.RuleText

namespace Vscp.Source

/-- From a place on, each line of a constant has become an entry or an error, in the order of the
lines. -/
inductive Outcomes (lines : List (Nat × Statement)) :
    Nat → List (Nat × Statement) → List Constant → List (Nat × ConstantError) → Prop where
  | nil {place : Nat} : Outcomes lines place [] [] []
  | entry {place number value : Nat} {name : String} {operand : Operand}
      {later : List (Nat × Statement)} {entries : List Constant}
      {errors : List (Nat × ConstantError)} (defines : Defines lines place number name operand)
      (ends : operand.EndsAt lines place value)
      (others : Outcomes lines (place + 1) later entries errors) :
      Outcomes lines place ((number, .constant name operand) :: later)
        (⟨name, value, number⟩ :: entries) errors
  | error {place number : Nat} {name : String} {operand : Operand} {error : ConstantError}
      {later : List (Nat × Statement)} {entries : List Constant}
      {errors : List (Nat × ConstantError)}
      (refusal : Refusal lines place name operand error)
      (others : Outcomes lines (place + 1) later entries errors) :
      Outcomes lines place ((number, .constant name operand) :: later) entries
        ((number, error) :: errors)
  | other {place number : Nat} {statement : Statement} {later : List (Nat × Statement)}
      {entries : List Constant} {errors : List (Nat × ConstantError)}
      (other : statement.isConstant = false)
      (others : Outcomes lines (place + 1) later entries errors) :
      Outcomes lines place ((number, statement) :: later) entries errors

namespace Outcomes

variable {lines later : List (Nat × Statement)} {place : Nat} {entries : List Constant}
variable {errors : List (Nat × ConstantError)}

theorem length_add_length (outcomes : Outcomes lines place later entries errors) :
    entries.length + errors.length = later.countP (·.2.isConstant) := by
  induction outcomes with
  | nil => rfl
  | entry _ _ _ ih =>
      rw [List.countP_cons_of_pos (by rfl), ← ih, List.length_cons]
      omega
  | error _ _ ih =>
      rw [List.countP_cons_of_pos (by rfl), ← ih, List.length_cons]
      omega
  | other other _ ih => rw [List.countP_cons_of_neg (by simp [other]), ih]

theorem errors_sublist (outcomes : Outcomes lines place later entries errors) :
    (errors.map (·.1)).Sublist ((later.filter (·.2.isConstant)).map (·.1)) := by
  induction outcomes with
  | nil => exact List.nil_sublist []
  | entry _ _ _ ih => exact ih.cons _
  | error _ _ ih => exact ih.cons_cons _
  | other other _ ih => rwa [List.filter_cons_of_neg (by simp [other])]

theorem exists_defines (outcomes : Outcomes lines place later entries errors) {constant : Constant}
    (member : constant ∈ entries) :
    ∃ origin, place ≤ origin ∧ ∃ operand,
      Defines lines origin constant.line constant.name operand := by
  induction outcomes with
  | nil => cases member
  | entry defines _ _ ih =>
      rcases List.mem_cons.mp member with rfl | member
      · exact ⟨_, le_rfl, _, defines⟩
      · obtain ⟨origin, after, rest⟩ := ih member
        exact ⟨origin, (Nat.le_succ _).trans after, rest⟩
  | error _ _ ih =>
      obtain ⟨origin, after, rest⟩ := ih member
      exact ⟨origin, (Nat.le_succ _).trans after, rest⟩
  | other _ _ ih =>
      obtain ⟨origin, after, rest⟩ := ih member
      exact ⟨origin, (Nat.le_succ _).trans after, rest⟩

/-- A name is defined once. -/
theorem nodup (outcomes : Outcomes lines place later entries errors) :
    (entries.map (·.name)).Nodup := by
  induction outcomes with
  | nil => exact List.nodup_nil
  | @entry place number value name operand later entries errors defines _ others ih =>
      refine List.nodup_cons.mpr ⟨fun member => ?_, ih⟩
      obtain ⟨constant, listed, rfl⟩ := List.mem_map.mp member
      obtain ⟨origin, after, given, again⟩ := others.exists_defines listed
      have same := defines.place_unique again
      omega
  | error _ _ ih => exact ih
  | other _ _ ih => exact ih

/-- What has become of the line at a place. -/
theorem of_getElem? (outcomes : Outcomes lines place later entries errors) {index number : Nat}
    {name : String} {operand : Operand}
    (stands : later[index]? = some (number, .constant name operand)) :
    (Defines lines (place + index) number name operand ∧
      ∃ value, operand.EndsAt lines (place + index) value ∧ ⟨name, value, number⟩ ∈ entries) ∨
    ∃ error, Refusal lines (place + index) name operand error ∧ (number, error) ∈ errors := by
  induction outcomes generalizing index with
  | nil => cases stands
  | entry defines ends _ ih =>
      cases index with
      | zero =>
          cases stands
          exact .inl ⟨defines, _, ends, List.mem_cons_self⟩
      | succ index =>
          rw [Nat.add_comm index, ← Nat.add_assoc]
          rcases ih stands with ⟨defined, value, found, member⟩ | other
          · exact .inl ⟨defined, value, found, List.mem_cons_of_mem _ member⟩
          · exact .inr other
  | error refusal _ ih =>
      cases index with
      | zero =>
          cases stands
          exact .inr ⟨_, refusal, List.mem_cons_self⟩
      | succ index =>
          rw [Nat.add_comm index, ← Nat.add_assoc]
          rcases ih stands with defined | ⟨error, reason, member⟩
          · exact .inl defined
          · exact .inr ⟨error, reason, List.mem_cons_of_mem _ member⟩
  | other other _ ih =>
      cases index with
      | zero =>
          cases stands
          cases other
      | succ index =>
          rw [Nat.add_comm index, ← Nat.add_assoc]
          exact ih stands

section

variable {first original number : Nat} {name : String} {given operand : Operand}

theorem of_gives (outcomes : Outcomes lines 0 lines entries errors)
    (gives : Gives lines place number name operand) :
    Defines lines place number name operand ∨
      ∃ error, Refusal lines place name operand error ∧ (number, error) ∈ errors := by
  have become := outcomes.of_getElem? gives
  rw [Nat.zero_add] at become
  exact become.imp_left And.left

theorem refused (outcomes : Outcomes lines 0 lines entries errors)
    (gives : Gives lines place number name operand)
    (other : ¬Defines lines place number name operand) :
    ∃ error, Refusal lines place name operand error ∧ (number, error) ∈ errors :=
  (outcomes.of_gives gives).resolve_left other

/-- A later line with a name that is defined is an error, which tells the line of the definition. -/
theorem repeated (outcomes : Outcomes lines 0 lines entries errors) (before : first < place)
    (defines : Defines lines first original name given)
    (gives : Gives lines place number name operand) :
    (number, .duplicateConstant name original) ∈ errors := by
  have other : ¬Defines lines place number name operand := fun again =>
    absurd (defines.place_unique again) before.ne
  obtain ⟨error, refusal, member⟩ := outcomes.refused gives other
  rwa [← refusal.eq_of_defines before defines]

end

end Outcomes

namespace ConstantTable

theorem collect_cons_other {number : Nat} {statement : Statement}
    (other : statement.isConstant = false) (table : ConstantTable)
    (rest : List (Nat × Statement)) :
    table.collect ((number, statement) :: rest) = table.collect rest := by
  cases statement with
  | constant name operand => cases other
  | blank => simp [collect]
  | rule statement => simp [collect]

/-- The rest of the lines is collected by a table that holds what those before it define. -/
theorem Holds.collect {table : ConstantTable} {lines later : List (Nat × Statement)} {place : Nat}
    (holds : table.Holds lines place) (rest : lines.drop place = later) :
    ∃ entries, (table.collect later).1.entries = table.entries ++ entries ∧
      Outcomes lines place later entries (table.collect later).2 ∧
      (table.collect later).1.Holds lines (place + later.length) := by
  induction later generalizing table place with
  | nil => exact ⟨[], (List.append_nil _).symm, .nil, holds⟩
  | cons head later ih =>
      obtain ⟨number, statement⟩ := head
      have stands : lines[place]? = some (number, statement) := by
        rw [← Nat.add_zero place, ← List.getElem?_drop, rest, List.getElem?_cons_zero]
      have remaining : lines.drop (place + 1) = later := by
        rw [← List.drop_drop, rest, List.drop_one, List.tail_cons]
      have further : place + (later.length + 1) = place + 1 + later.length := by omega
      rw [List.length_cons, further]
      cases statement with
      | constant name operand =>
          rw [ConstantTable.collect]
          cases defined : table.define number name operand with
          | ok constant =>
              obtain ⟨defines, value, ends, rfl⟩ := (holds.define_eq_ok_iff stands).mp defined
              obtain ⟨entries, added, outcomes, final⟩ := ih (holds.insert defines ends) remaining
              refine ⟨⟨name, value, number⟩ :: entries, ?_, .entry defines ends outcomes, final⟩
              rw [added, ConstantTable.insert, List.append_assoc, List.singleton_append]
          | error error =>
              have refusal := holds.refusal_of_define defined
              -- The line is refused, so it cannot be the one that defines its name.
              have idle : table.Holds lines (place + 1) := by
                refine holds.idle fun other twin given defines => ?_
                obtain ⟨rfl, rfl, rfl⟩ := Gives.unique stands defines.gives
                exact defines.not_refusal error refusal
              obtain ⟨entries, added, outcomes, final⟩ := ih idle remaining
              exact ⟨entries, added, .error refusal outcomes, final⟩
      | _ =>
          have idle : table.Holds lines (place + 1) := by
            refine holds.idle fun other twin given defines => ?_
            cases stands.symm.trans defines.gives
          obtain ⟨entries, added, outcomes, final⟩ := ih idle remaining
          rw [collect_cons_other rfl]
          exact ⟨entries, added, .other rfl outcomes, final⟩

/-- After the last line the table has the constants that are defined. -/
theorem Holds.find?_eq_some_iff {table : ConstantTable} {lines : List (Nat × Statement)}
    (holds : table.Holds lines lines.length) {name : String} {constant : Constant} :
    table.find? name = some constant ↔
      ∃ place operand, Defines lines place constant.line name operand ∧
        operand.EndsAt lines place constant.value ∧ constant.name = name := by
  rw [holds name constant]
  constructor
  · rintro ⟨place, -, rest⟩
    exact ⟨place, rest⟩
  · rintro ⟨place, operand, defines, rest⟩
    exact ⟨place, defines.gives.lt_length, operand, defines, rest⟩

end ConstantTable

/-- Names that are only given one another do not resolve. -/
theorem Gives.not_resolves {lines : List (Nat × Statement)} {names : String → Prop}
    (closed : ∀ place number name operand, names name → Gives lines place number name operand →
      ∃ other, names other ∧ operand = .name other) {place number : Nat} {name : String}
    {operand : Operand} (gives : Gives lines place number name operand) (member : names name) :
    ¬operand.Resolves lines place := by
  induction place using Nat.strong_induction_on generalizing number name operand with
  | _ place ih =>
      obtain ⟨other, within, rfl⟩ := closed place number name operand member gives
      intro resolves
      cases resolves with
      | name before given _ resolved => exact ih _ before given within resolved

/-- Such names are not in the table. -/
theorem ConstantTable.Holds.find?_eq_none {table : ConstantTable}
    {lines : List (Nat × Statement)} (holds : table.Holds lines lines.length)
    {names : String → Prop}
    (closed : ∀ place number name operand, names name → Gives lines place number name operand →
      ∃ other, names other ∧ operand = .name other) {name : String} (member : names name) :
    table.find? name = none := by
  rw [holds.find?_eq_none_iff]
  intro place _ number operand defines
  exact defines.gives.not_resolves closed member defines.resolves

theorem ofName?_eq_of_sameWord {first second : String} (same : sameWord first second = true) :
    Field.ofName? first = Field.ofName? second := by
  rw [sameWord, beq_iff_eq] at same
  rw [Field.ofName?, Field.ofName?, same]

/-- A name that is not reserved is neither a keyword nor a field in any case. -/
theorem ConstantTable.of_isReserved_eq_false {name : String} (free : isReserved name = false) :
    (∀ keyword ∈ keywords, sameWord name keyword = false) ∧ Field.ofName? name = none ∧
      ∀ field : Field, field.id?.isSome = true → sameWord name field.name = false := by
  rw [isReserved, Bool.or_eq_false_iff, List.any_eq_false] at free
  obtain ⟨keywords, field⟩ := free
  have absent : Field.ofName? name = none := by simpa using field
  refine ⟨fun keyword listed => Bool.eq_false_iff.mpr (keywords keyword listed), absent, ?_⟩
  intro field within
  obtain ⟨id, named⟩ := Option.isSome_iff_exists.mp within
  rw [Bool.eq_false_iff]
  intro same
  rw [ofName?_eq_of_sameWord same, Field.ofName?_name named] at absent
  cases absent

/-- What the collected constants and errors say of the lines. -/
structure Collected (lines : List (Nat × Statement)) (table : ConstantTable)
    (errors : List (Nat × ConstantError)) : Prop where
  outcomes : Outcomes lines 0 lines table.entries errors
  exclusive : ∀ place number name operand error, Defines lines place number name operand →
    ¬Refusal lines place name operand error
  counted : table.entries.length + errors.length = lines.countP (·.2.isConstant)
  ordered : (errors.map (·.1)).Sublist ((lines.filter (·.2.isConstant)).map (·.1))
  distinct : (table.entries.map (·.name)).Nodup
  found : ∀ name constant, table.find? name = some constant ↔
    ∃ place operand, Defines lines place constant.line name operand ∧
      operand.EndsAt lines place constant.value ∧ constant.name = name
  refused : ∀ place number name operand, Gives lines place number name operand →
    ¬Defines lines place number name operand →
      ∃ error, Refusal lines place name operand error ∧ (number, error) ∈ errors
  repeated : ∀ first place original number name given operand, first < place →
    Defines lines first original name given → Gives lines place number name operand →
      (number, .duplicateConstant name original) ∈ errors
  backward : ∀ place number name other, Defines lines place number name (.name other) →
    other ≠ name ∧ ∃ earlier < place, ∃ origin operand, Defines lines earlier origin other operand
  cyclic : ∀ names : String → Prop,
    (∀ place number name operand, names name → Gives lines place number name operand →
      ∃ other, names other ∧ operand = .name other) →
    ∀ name, names name → table.find? name = none
  free : ∀ constant ∈ table.entries,
    (∀ keyword ∈ ConstantTable.keywords, sameWord constant.name keyword = false) ∧
      Field.ofName? constant.name = none ∧
      ∀ field : Field, field.id?.isSome = true → sameWord constant.name field.name = false

/-- Each line of a constant becomes an entry or an error. The entries are the definitions of their
names, with the literals that their references lead to. -/
theorem constants_collected (lines : List (Nat × Statement)) :
    Collected lines (ConstantTable.empty.collect lines).1
      (ConstantTable.empty.collect lines).2 := by
  obtain ⟨entries, added, outcomes, holds⟩ :=
    (ConstantTable.holds_empty lines).collect List.drop_zero
  rw [ConstantTable.empty, List.nil_append] at added
  rw [← added] at outcomes
  rw [Nat.zero_add] at holds
  exact {
    outcomes := outcomes
    exclusive := fun _ _ _ _ error defines => defines.not_refusal error
    counted := outcomes.length_add_length
    ordered := outcomes.errors_sublist
    distinct := outcomes.nodup
    found := fun _ _ => holds.find?_eq_some_iff
    refused := fun _ _ _ _ => outcomes.refused
    repeated := fun _ _ _ _ _ _ _ => outcomes.repeated
    backward := fun _ _ _ _ defines => ⟨defines.other_ne, defines.backward⟩
    cyclic := fun _ closed _ => holds.find?_eq_none closed
    free := by
      intro constant member
      obtain ⟨place, -, operand, defines⟩ := outcomes.exists_defines member
      exact ConstantTable.of_isReserved_eq_false defines.free }

/-- A line that defines nothing leaves its name to a later one. -/
example : ConstantTable.empty.collect
    [(1, .constant "A" (.name "B")), (2, .constant "B" (.literal 1)),
      (3, .constant "A" (.name "B")), (4, .constant "A" (.literal 7))] =
    (⟨[⟨"B", 1, 2⟩, ⟨"A", 1, 3⟩]⟩,
      [(1, .undefinedConstant "B"), (4, .duplicateConstant "A" 3)]) := by
  decide +kernel

end Vscp.Source
