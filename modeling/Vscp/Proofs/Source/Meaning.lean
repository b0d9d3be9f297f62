/-
This file gives the words of a rule source their values and proves that the table of constants
holds exactly these values when every line can be used.
-/

import Mathlib.Data.List.Forall2
import Vscp.Proofs.Source.Grammar

namespace Vscp.Source

/-- A number stands for itself, and the name of a constant for the value that a line gives it. -/
inductive Operand.Value (lines : List SourceLine) : Operand → Nat → Prop where
  | literal {number : Nat} : Value lines (.literal number) number
  | constant {line : SourceLine} {name : String} {operand : Operand} {number : Nat}
      (member : line ∈ lines) (declared : Statement.Spelled line.words (.constant name operand))
      (value : Value lines operand number) : Value lines (.name name) number

/-- A condition with the field, comparison and connective of a term and the value of its operand. -/
structure Term.Means (lines : List SourceLine) (term : Term) (condition : Condition) : Prop where
  field : condition.field = term.field
  comparison : condition.comparison = term.comparison
  connective : condition.connective = term.connective
  operand : term.operand.Value lines condition.operand

/-- A rule whose action and parameter have the values of their operands and whose conditions are
those of the terms, one by one. -/
structure RuleStatement.Means (lines : List SourceLine) (statement : RuleStatement) (rule : Rule) :
    Prop where
  action : statement.action.Value lines rule.action.toNat
  param : statement.param.Value lines rule.param.toNat
  conditions : List.Forall₂ (Term.Means lines) statement.terms rule.conditions

namespace ConstantTable

theorem of_define {table : ConstantTable} {line : Nat} {name : String} {operand : Operand}
    {constant : Constant} (defined : table.define line name operand = .ok constant) :
    table.find? name = none ∧
      ∃ value, table.resolve operand = .ok value ∧ constant = ⟨name, value, line⟩ := by
  unfold define at defined
  split at defined
  · cases defined
  · split at defined
    · cases defined
    · rename_i fresh
      obtain ⟨value, resolved, rfl⟩ := map_eq_ok_iff.mp defined
      exact ⟨fresh, value, resolved, rfl⟩

theorem define_eq_ok_iff {table : ConstantTable} {number : Nat} {name : String}
    {operand : Operand} {constant : Constant} :
    table.define number name operand = .ok constant ↔
      isReserved name = false ∧ table.find? name = none ∧
        ∃ value, table.resolve operand = .ok value ∧ constant = ⟨name, value, number⟩ := by
  constructor
  · intro defined
    refine ⟨?_, of_define defined⟩
    cases reserved : isReserved name with
    | false => rfl
    | true => simp [define, reserved] at defined
  · rintro ⟨free, fresh, value, resolved, rfl⟩
    rw [define, free, fresh, resolved]
    rfl

theorem find?_insert_self {table : ConstantTable} {constant : Constant}
    (fresh : table.find? constant.name = none) :
    (table.insert constant).find? constant.name = some constant := by
  unfold find? at fresh
  simp [find?, insert, List.find?_append, fresh]

theorem find?_insert {table : ConstantTable} {constant : Constant}
    (fresh : table.find? constant.name = none) (name : String) :
    (table.insert constant).find? name =
      if name = constant.name then some constant else table.find? name := by
  by_cases same : name = constant.name
  · rw [if_pos same, same, find?_insert_self fresh]
  · have other : (constant.name == name) = false := beq_false_of_ne (Ne.symm same)
    rw [if_neg same]
    simp [find?, insert, List.find?_append, other]

theorem find?_insert_of_some {table : ConstantTable} {name : String} {found : Constant}
    (present : table.find? name = some found) (constant : Constant) :
    (table.insert constant).find? name = some found := by
  unfold find? at present
  simp [find?, insert, List.find?_append, present]

theorem of_find?_insert {table : ConstantTable} {name : String} {constant found : Constant}
    (present : (table.insert constant).find? name = some found) :
    table.find? name = some found ∨ constant.name = name ∧ constant = found := by
  rw [find?, insert, List.find?_append] at present
  rcases Option.or_eq_some_iff.mp present with old | ⟨-, new⟩
  · exact .inl old
  · rw [List.find?_singleton] at new
    split at new
    · rename_i same
      cases new
      exact .inr ⟨eq_of_beq same, rfl⟩
    · cases new

/-- Every constant of one table is in the other. -/
def Within (table other : ConstantTable) : Prop :=
  ∀ name constant, table.find? name = some constant → other.find? name = some constant

theorem Within.resolve {table other : ConstantTable} (within : table.Within other)
    {operand : Operand} {value : Nat} (resolved : table.resolve operand = .ok value) :
    other.resolve operand = .ok value := by
  cases operand with
  | literal number => exact resolved
  | name name =>
      unfold ConstantTable.resolve at resolved ⊢
      dsimp only at resolved ⊢
      cases found : table.find? name with
      | none =>
          rw [found] at resolved
          cases resolved
      | some constant =>
          rw [found] at resolved
          rw [within name constant found]
          exact resolved

/-- A statement without an error adds its constant, if it declares one. -/
theorem of_collect_cons {table final : ConstantTable} {line : Nat} {statement : Statement}
    {rest : List (Nat × Statement)}
    (collected : table.collect ((line, statement) :: rest) = (final, [])) :
    ((∀ name operand, statement ≠ .constant name operand) ∧ table.collect rest = (final, [])) ∨
      ∃ name operand constant, statement = .constant name operand ∧
        table.define line name operand = .ok constant ∧
        (table.insert constant).collect rest = (final, []) := by
  cases statement with
  | blank => exact .inl ⟨by simp, by simpa [collect] using collected⟩
  | rule statement => exact .inl ⟨by simp, by simpa [collect] using collected⟩
  | constant name operand =>
      rw [collect] at collected
      cases defined : table.define line name operand with
      | error error =>
          rw [defined] at collected
          cases collected
      | ok constant =>
          rw [defined] at collected
          exact .inr ⟨name, operand, constant, rfl, defined, collected⟩

/-- What every new constant preserves holds at the end. -/
theorem collect_preserves (Invariant : ConstantTable → Prop) {table final : ConstantTable}
    {statements : List (Nat × Statement)} (collected : table.collect statements = (final, []))
    (start : Invariant table)
    (step : ∀ table line name operand constant, (line, .constant name operand) ∈ statements →
      table.define line name operand = .ok constant → Invariant table →
      Invariant (table.insert constant)) : Invariant final := by
  induction statements generalizing table with
  | nil =>
      cases collected
      exact start
  | cons first rest ih =>
      have later := fun table line name operand constant member =>
        step table line name operand constant (List.mem_cons_of_mem first member)
      rcases of_collect_cons collected with
        ⟨-, others⟩ | ⟨name, operand, constant, declared, defined, others⟩
      · exact ih others start later
      · have member : (first.1, .constant name operand) ∈ first :: rest := by
          rw [← declared]
          exact List.mem_cons_self
        exact ih others (step table _ name operand constant member defined start) later

theorem within_of_collect {table final : ConstantTable} {statements : List (Nat × Statement)}
    (collected : table.collect statements = (final, [])) : table.Within final := by
  apply collect_preserves table.Within collected
  · exact fun _ _ found => found
  · intro table line name operand constant _ _ within name found present
    exact find?_insert_of_some (within name found present) constant

/-- The table after statements without errors has every constant that is declared, with the value
of its operand. -/
theorem of_collect {table final : ConstantTable} {statements : List (Nat × Statement)}
    (collected : table.collect statements = (final, [])) {line : Nat} {name : String}
    {operand : Operand} (member : (line, .constant name operand) ∈ statements) :
    ∃ value, final.find? name = some ⟨name, value, line⟩ ∧ final.resolve operand = .ok value := by
  induction statements generalizing table with
  | nil => cases member
  | cons first rest ih =>
      rcases of_collect_cons collected with
        ⟨other, others⟩ | ⟨name, operand, constant, declared, defined, others⟩
      · rcases List.mem_cons.mp member with rfl | later
        · exact absurd rfl (other name operand)
        · exact ih others later
      · rcases List.mem_cons.mp member with rfl | later
        · cases declared
          obtain ⟨fresh, value, resolved, rfl⟩ := of_define defined
          have kept := within_of_collect others
          have within : table.Within final := fun name found present =>
            kept name found (find?_insert_of_some present _)
          exact ⟨value, kept _ _ (find?_insert_self fresh), within.resolve resolved⟩
        · exact ih others later

/-- The constants of the table have the values that lines give them. -/
def Valued (lines : List SourceLine) (table : ConstantTable) : Prop :=
  ∀ name constant, table.find? name = some constant →
    Operand.Value lines (.name name) constant.value

theorem Valued.value_of_resolve {lines : List SourceLine} {table : ConstantTable}
    (valued : table.Valued lines) {operand : Operand} {value : Nat}
    (resolved : table.resolve operand = .ok value) : operand.Value lines value := by
  cases operand with
  | literal number =>
      cases resolved
      exact .literal
  | name name =>
      rw [resolve] at resolved
      split at resolved
      · rename_i constant found
        cases resolved
        exact valued name constant found
      · cases resolved

theorem valued_of_collect {lines : List SourceLine} {statements : List (Nat × Statement)}
    {table : ConstantTable} (collected : empty.collect statements = (table, []))
    (spelled : ∀ number statement, (number, statement) ∈ statements →
      ∃ line ∈ lines, statement.Spelled line.words) : table.Valued lines := by
  apply collect_preserves (Valued lines) collected
  · intro name constant found
    cases found
  · intro table number name operand constant member defined valued word found present
    rcases of_find?_insert present with old | ⟨rfl, rfl⟩
    · exact valued word found old
    · obtain ⟨-, value, resolved, rfl⟩ := of_define defined
      obtain ⟨line, listed, declared⟩ := spelled _ _ member
      exact .constant listed declared (valued.value_of_resolve resolved)

end ConstantTable

/-- Lines that can all be read keep their order, and each spells its statement. -/
theorem of_readLines {lines : List SourceLine} {statements : List (SourceLine × Statement)}
    (read : readLines lines = (statements, [])) :
    statements.map (·.1) = lines ∧
      ∀ line statement, (line, statement) ∈ statements → statement.Spelled line.words := by
  induction lines generalizing statements with
  | nil =>
      cases read
      exact ⟨rfl, nofun⟩
  | cons line rest ih =>
      rw [readLines] at read
      cases result : Statement.ofLine line.text with
      | error error =>
          rw [result] at read
          cases read
      | ok statement =>
          rw [result] at read
          obtain ⟨rfl, free⟩ := Prod.mk.inj read
          obtain ⟨order, spelled⟩ := ih (Prod.ext rfl free)
          refine ⟨by rw [List.map_cons, order], ?_⟩
          intro line' statement' member
          rcases List.mem_cons.mp member with same | later
          · cases same
            exact Statement.spelled_of_ofLine result
          · exact spelled line' statement' later

/-- The statements of lines as the table of constants takes them. -/
def numbered (statements : List (SourceLine × Statement)) : List (Nat × Statement) :=
  statements.map fun (line, statement) => (line.number, statement)

/-- The statements and the constants of lines that can all be used. -/
structure Understood (lines : List SourceLine) (statements : List (SourceLine × Statement))
    (table : ConstantTable) : Prop where
  read : readLines lines = (statements, [])
  collected : ConstantTable.empty.collect
    (statements.map fun (line, statement) => (line.number, statement)) = (table, [])

namespace Understood

variable {lines : List SourceLine} {statements : List (SourceLine × Statement)}
variable {table : ConstantTable}

/-- The statement of each line is among those that are read. -/
theorem exists_statement (understood : Understood lines statements table) {line : SourceLine}
    (member : line ∈ lines) :
    ∃ statement, (line, statement) ∈ statements ∧ statement.Spelled line.words := by
  obtain ⟨rfl, spelled⟩ := of_readLines understood.read
  obtain ⟨⟨_, statement⟩, listed, rfl⟩ := List.mem_map.mp member
  exact ⟨statement, listed, spelled _ _ listed⟩

/-- The table gives an operand the value that the lines give it. -/
theorem resolve_of_value (understood : Understood lines statements table) {operand : Operand}
    {number : Nat} (value : operand.Value lines number) : table.resolve operand = .ok number := by
  induction value with
  | literal => rfl
  | @constant line name operand number member declared _ resolved =>
      obtain ⟨statement, listed, spelled⟩ := understood.exists_statement member
      -- The words of the line spell nothing else, so its constant is in the table.
      obtain rfl := declared.unique spelled
      have numbered := List.mem_map_of_mem
        (f := fun (line, statement) => (line.number, statement)) listed
      obtain ⟨value, found, again⟩ := ConstantTable.of_collect understood.collected numbered
      rw [resolved] at again
      cases again
      rw [ConstantTable.resolve, found]

theorem valued (understood : Understood lines statements table) : table.Valued lines := by
  apply ConstantTable.valued_of_collect understood.collected
  intro number statement numbered
  obtain ⟨rfl, spelled⟩ := of_readLines understood.read
  obtain ⟨⟨line, _⟩, listed, same⟩ := List.mem_map.mp numbered
  cases same
  exact ⟨line, List.mem_map_of_mem listed, spelled line statement listed⟩

theorem resolve_eq_ok_iff (understood : Understood lines statements table) {operand : Operand}
    {number : Nat} : table.resolve operand = .ok number ↔ operand.Value lines number :=
  ⟨understood.valued.value_of_resolve, understood.resolve_of_value⟩

/-- An operand has one value at most. -/
theorem value_unique (understood : Understood lines statements table) {operand : Operand}
    {first second : Nat} (left : operand.Value lines first) (right : operand.Value lines second) :
    first = second := by
  rw [← understood.resolve_eq_ok_iff] at left right
  rw [left] at right
  cases right
  rfl

theorem value_of_resolveByte (understood : Understood lines statements table) {operand : Operand}
    {byte : UInt8} (resolved : table.resolveByte operand = .ok byte) :
    operand.Value lines byte.toNat := by
  obtain ⟨value, found, small⟩ := bind_eq_ok_iff.mp resolved
  split at small
  · rename_i within
    cases small
    rw [UInt8.toNat_ofNat_of_lt' within]
    exact understood.valued.value_of_resolve found
  · cases small

theorem means_of_condition (understood : Understood lines statements table) {term : Term}
    {condition : Condition} (built : term.condition table = .ok condition) :
    term.Means lines condition := by
  obtain ⟨operand, resolved, rfl⟩ := map_eq_ok_iff.mp built
  exact ⟨rfl, rfl, rfl, understood.valued.value_of_resolve resolved⟩

theorem means_of_conditions (understood : Understood lines statements table) {terms : List Term}
    {conditions : List Condition} (built : terms.mapM (Term.condition table) = .ok conditions) :
    List.Forall₂ (Term.Means lines) terms conditions :=
  (mapM_eq_ok_iff.mp built).imp fun _ _ => understood.means_of_condition

/-- The rule that is built for a statement means the statement. -/
theorem means_of_rule (understood : Understood lines statements table) {statement : RuleStatement}
    {rule : Rule} (built : statement.rule table = .ok rule) : statement.Means lines rule := by
  obtain ⟨action, first, built⟩ := bind_eq_ok_iff.mp built
  obtain ⟨param, second, built⟩ := bind_eq_ok_iff.mp built
  obtain ⟨conditions, third, built⟩ := bind_eq_ok_iff.mp built
  cases built
  exact ⟨understood.value_of_resolveByte first, understood.value_of_resolveByte second,
    understood.means_of_conditions third⟩

end Understood

end Vscp.Source
