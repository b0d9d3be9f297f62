/-
This file says which constants the lines of a source define, faulty lines among them, and proves
that the table holds exactly these constants.
-/

import Vscp.Proofs.Source.Meaning
import Vscp.Proofs.Split

namespace Vscp.Source

/-- The line can be read, and this is its statement. -/
def SourceLine.States (line : SourceLine) (statement : Statement) : Prop :=
  Statement.ofLine line.text = .ok statement

theorem SourceLine.States.unique {line : SourceLine} {first second : Statement}
    (left : line.States first) (right : line.States second) : first = second :=
  Except.ok.inj (left.symm.trans right)

/-- Lines settle a number, and they settle a name that one of them gives to an operand that the
lines before it settle. -/
inductive Operand.Settled : List SourceLine → Operand → Prop where
  | literal {lines : List SourceLine} {number : Nat} : Settled lines (.literal number)
  | constant {lines earlier later : List SourceLine} {line : SourceLine} {name : String}
      {operand : Operand} (split : lines = earlier ++ line :: later)
      (states : line.States (.constant name operand))
      (free : ConstantTable.isReserved name = false) (settled : Settled earlier operand) :
      Settled lines (.name name)

/-- The line is the first, after those before it, to give an operand to a name. -/
structure SourceLine.Introduces (line : SourceLine) (earlier : List SourceLine) (name : String)
    (operand : Operand) : Prop where
  states : line.States (.constant name operand)
  free : ConstantTable.isReserved name = false
  fresh : ¬Operand.Settled earlier (.name name)

/-- The value that lines give an operand. The first line that settles a name decides. -/
inductive Operand.Yields : List SourceLine → Operand → Nat → Prop where
  | literal {lines : List SourceLine} {number : Nat} : Yields lines (.literal number) number
  | constant {lines earlier later : List SourceLine} {line : SourceLine} {name : String}
      {operand : Operand} {value : Nat} (split : lines = earlier ++ line :: later)
      (introduces : line.Introduces earlier name operand) (yields : Yields earlier operand value) :
      Yields lines (.name name) value

namespace Operand

variable {lines : List SourceLine} {line : SourceLine} {name : String} {value : Nat}

theorem settled_name_concat_iff :
    Settled (lines ++ [line]) (.name name) ↔ Settled lines (.name name) ∨
      ∃ operand, line.States (.constant name operand) ∧ ConstantTable.isReserved name = false ∧
        operand.Settled lines := by
  constructor
  · intro settled
    cases settled with
    | constant split states free settled =>
        rcases concat_eq_split_iff.mp split with ⟨rfl, rfl, -⟩ | ⟨rest, rfl, -⟩
        · exact .inr ⟨_, states, free, settled⟩
        · exact .inl (.constant rfl states free settled)
  · rintro (settled | ⟨operand, states, free, settled⟩)
    · cases settled with
      | constant split states free settled =>
          exact .constant (by rw [split, List.append_assoc, List.cons_append]) states free settled
    · exact .constant rfl states free settled

theorem yields_name_concat_iff :
    Yields (lines ++ [line]) (.name name) value ↔ Yields lines (.name name) value ∨
      ∃ operand, line.Introduces lines name operand ∧ operand.Yields lines value := by
  constructor
  · intro yields
    cases yields with
    | constant split introduces yields =>
        rcases concat_eq_split_iff.mp split with ⟨rfl, rfl, -⟩ | ⟨rest, rfl, -⟩
        · exact .inr ⟨_, introduces, yields⟩
        · exact .inl (.constant rfl introduces yields)
  · rintro (yields | ⟨operand, introduces, yields⟩)
    · cases yields with
      | constant split introduces yields =>
          exact .constant (by rw [split, List.append_assoc, List.cons_append]) introduces yields
    · exact .constant rfl introduces yields

theorem Yields.settled {operand : Operand} (yields : operand.Yields lines value) :
    operand.Settled lines := by
  induction yields with
  | literal => exact .literal
  | constant split introduces _ settled =>
      exact .constant split introduces.states introduces.free settled

end Operand

/-- The line gives no name a value. -/
def SourceLine.Idle (line : SourceLine) (earlier : List SourceLine) : Prop :=
  ∀ name operand, line.Introduces earlier name operand → ¬operand.Settled earlier

namespace ConstantTable

variable {table : ConstantTable} {lines : List SourceLine} {line : SourceLine}

/-- The table has the names that lines settle, with their values and the numbers of their lines. -/
structure Records (table : ConstantTable) (lines : List SourceLine) : Prop where
  settled : ∀ name, Operand.Settled lines (.name name) ↔ (table.find? name).isSome
  yields : ∀ name value, Operand.Yields lines (.name name) value ↔
    (table.find? name).map (·.value) = some value
  first : ∀ name constant, table.find? name = some constant →
    ∃ earlier first later operand, lines = earlier ++ first :: later ∧
      first.Introduces earlier name operand ∧ operand.Settled earlier ∧
      first.number = constant.line

theorem records_empty : empty.Records [] where
  settled name := by
    refine ⟨fun settled => ?_, nofun⟩
    cases settled with
    | constant split => simp at split
  yields name value := by
    refine ⟨fun yields => ?_, nofun⟩
    cases yields with
    | constant split => simp at split
  first name constant found := by cases found

namespace Records

theorem settled_iff (records : table.Records lines) {operand : Operand} :
    operand.Settled lines ↔ ∃ value, table.resolve operand = .ok value := by
  cases operand with
  | literal number => exact ⟨fun _ => ⟨number, rfl⟩, fun _ => .literal⟩
  | name name =>
      rw [records.settled, resolve]
      cases table.find? name <;> simp

theorem yields_iff (records : table.Records lines) {operand : Operand} {value : Nat} :
    operand.Yields lines value ↔ table.resolve operand = .ok value := by
  cases operand with
  | literal number =>
      constructor
      · intro yields
        cases yields
        rfl
      · intro resolved
        cases resolved
        exact .literal
  | name name =>
      rw [records.yields, resolve]
      cases table.find? name <;> simp

/-- A line that defines nothing leaves the table as it is. -/
theorem idle (records : table.Records lines) (idle : line.Idle lines) :
    table.Records (lines ++ [line]) where
  settled name := by
    rw [← records.settled, Operand.settled_name_concat_iff, or_iff_left_iff_imp]
    rintro ⟨operand, states, free, settled⟩
    by_contra fresh
    exact idle name operand ⟨states, free, fresh⟩ settled
  yields name value := by
    rw [← records.yields, Operand.yields_name_concat_iff, or_iff_left_iff_imp]
    rintro ⟨operand, introduces, yields⟩
    exact absurd yields.settled (idle name operand introduces)
  first name constant found := by
    obtain ⟨earlier, first, later, operand, rfl, rest⟩ := records.first name constant found
    exact ⟨earlier, first, later ++ [line], operand, by simp, rest⟩

/-- A line that defines a constant adds it. -/
theorem insert (records : table.Records lines) {name : String} {operand : Operand} {value : Nat}
    (introduces : line.Introduces lines name operand) (yields : operand.Yields lines value) :
    (table.insert ⟨name, value, line.number⟩).Records (lines ++ [line]) := by
  have fresh : table.find? name = none := by
    rw [← Option.not_isSome_iff_eq_none, ← records.settled]
    exact introduces.fresh
  have only {other : String} {given : Operand} (states : line.States (.constant other given)) :
      other = name ∧ given = operand :=
    Statement.constant.inj (states.unique introduces.states)
  refine ⟨fun other => ?_, fun other number => ?_, fun other constant found => ?_⟩
  · rw [find?_insert fresh, Operand.settled_name_concat_iff]
    split
    · rename_i same
      subst same
      exact ⟨fun _ => rfl, fun _ => .inr ⟨operand, introduces.states, introduces.free,
        yields.settled⟩⟩
    · rename_i differs
      rw [← records.settled, or_iff_left_iff_imp]
      rintro ⟨given, states, -⟩
      exact absurd (only states).1 differs
  · rw [find?_insert fresh, Operand.yields_name_concat_iff]
    split
    · rename_i same
      subst same
      rw [Option.map_some, Option.some_inj]
      constructor
      · rintro (old | ⟨given, again, other⟩)
        · exact absurd old.settled introduces.fresh
        · rw [(only again.states).2, records.yields_iff] at other
          exact Except.ok.inj ((records.yields_iff.mp yields).symm.trans other)
      · rintro rfl
        exact .inr ⟨operand, introduces, yields⟩
    · rename_i differs
      rw [← records.yields, or_iff_left_iff_imp]
      rintro ⟨given, again, -⟩
      exact absurd (only again.states).1 differs
  · rw [find?_insert fresh] at found
    split at found
    · rename_i same
      subst same
      cases found
      exact ⟨lines, line, [], operand, rfl, introduces, yields.settled, rfl⟩
    · obtain ⟨earlier, first, later, given, rfl, rest⟩ := records.first other constant found
      exact ⟨earlier, first, later ++ [line], given, by simp, rest⟩

theorem find?_eq_none_iff (records : table.Records lines) {name : String} :
    table.find? name = none ↔ ¬Operand.Settled lines (.name name) := by
  rw [records.settled, Option.not_isSome_iff_eq_none]

/-- A constant is defined exactly if its line introduces it and its operand has a value. -/
theorem define_eq_ok_iff (records : table.Records lines) {name : String} {operand : Operand}
    (states : line.States (.constant name operand)) {constant : Constant} :
    table.define line.number name operand = .ok constant ↔
      line.Introduces lines name operand ∧
        ∃ value, operand.Yields lines value ∧ constant = ⟨name, value, line.number⟩ := by
  rw [ConstantTable.define_eq_ok_iff, records.find?_eq_none_iff]
  simp only [records.yields_iff]
  exact ⟨fun ⟨free, fresh, value⟩ => ⟨⟨states, free, fresh⟩, value⟩,
    fun ⟨introduces, value⟩ => ⟨introduces.free, introduces.fresh, value⟩⟩

/-- A line whose constant is refused defines nothing. -/
theorem idle_of_define (records : table.Records lines) {name : String} {operand : Operand}
    (states : line.States (.constant name operand)) {error : ConstantError}
    (failed : table.define line.number name operand = .error error) : line.Idle lines := by
  intro other given introduces settled
  cases states.unique introduces.states
  obtain ⟨value, resolved⟩ := records.settled_iff.mp settled
  have defined := (records.define_eq_ok_iff states).mpr
    ⟨introduces, value, records.yields_iff.mpr resolved, rfl⟩
  rw [failed] at defined
  cases defined

end Records

end ConstantTable

end Vscp.Source
