/-
This file proves that a rule source becomes the same rules wherever its rules stand among its
constants.
-/

import Vscp.Proofs.Source.Row
import Vscp.Proofs.Source.Transcription

namespace Vscp.Source

def Statement.isConstant : Statement → Bool
  | .constant _ _ => true
  | _ => false

def Statement.isRule : Statement → Bool
  | .rule _ => true
  | _ => false

/-- Every line of the source can be read, and these are its statements. -/
def Reads (source : String) (statements : List Statement) : Prop :=
  (Text.lines source).map Statement.ofLine = statements.map .ok

theorem Reads.exists_readLines {source : String} {statements : List Statement}
    (reads : Reads source statements) :
    ∃ lines, readLines (sourceLines source) = (lines, []) ∧ lines.map (·.2) = statements := by
  unfold Reads at reads
  rw [← map_text_sourceLines] at reads
  obtain ⟨stated, unread⟩ := readLines_of_ok reads
  exact ⟨_, Prod.ext rfl unread, stated⟩

/-- The same constants in the same order and the same rules in the same order. Nothing is said of
where rules stand among constants, or of blank lines. -/
structure SameSequences (first second : List Statement) : Prop where
  constants : first.filter Statement.isConstant = second.filter Statement.isConstant
  rules : first.filter Statement.isRule = second.filter Statement.isRule

theorem SameSequences.symm {first second : List Statement} (same : SameSequences first second) :
    SameSequences second first :=
  ⟨same.constants.symm, same.rules.symm⟩

namespace ConstantTable

/-- Both tables resolve operands in the same way. Their constants may come from other lines. -/
def Alike (table other : ConstantTable) : Prop :=
  ∀ operand, table.resolve operand = other.resolve operand

theorem find?_eq_none_iff {table : ConstantTable} {name : String} :
    table.find? name = none ↔ table.resolve (.name name) = .error (.undefinedConstant name) := by
  rw [resolve]
  cases table.find? name <;> simp

theorem resolve_insert {table : ConstantTable} {constant : Constant}
    (fresh : table.find? constant.name = none) (operand : Operand) :
    (table.insert constant).resolve operand =
      if operand = .name constant.name then .ok constant.value else table.resolve operand := by
  cases operand with
  | literal number => rfl
  | name name =>
      simp only [resolve, find?_insert fresh, Operand.name.injEq]
      by_cases same : name = constant.name
      · rw [if_pos same, if_pos same]
      · rw [if_neg same, if_neg same]

/-- What one table can define, the other can, and they stay alike. -/
theorem Alike.define {table other : ConstantTable} (alike : table.Alike other) {line : Nat}
    {name : String} {operand : Operand} {constant : Constant}
    (defined : table.define line name operand = .ok constant) (number : Nat) :
    ∃ twin, other.define number name operand = .ok twin ∧
      (table.insert constant).Alike (other.insert twin) := by
  obtain ⟨free, fresh, value, resolved, rfl⟩ := define_eq_ok_iff.mp defined
  have absent : other.find? name = none :=
    find?_eq_none_iff.mpr ((alike _).symm.trans (find?_eq_none_iff.mp fresh))
  refine ⟨⟨name, value, number⟩, ?_, fun other => ?_⟩
  · rw [alike operand] at resolved
    exact define_eq_ok_iff.mpr ⟨free, absent, value, resolved, rfl⟩
  · rw [resolve_insert fresh, resolve_insert absent, alike other]

theorem collect_filter (table : ConstantTable) (statements : List (Nat × Statement)) :
    table.collect (statements.filter (·.2.isConstant)) = table.collect statements := by
  induction statements generalizing table with
  | nil => rfl
  | cons first rest ih =>
      obtain ⟨line, statement⟩ := first
      cases statement with
      | blank => simpa [collect, Statement.isConstant] using ih table
      | rule statement => simpa [collect, Statement.isConstant] using ih table
      | constant name operand =>
          rw [List.filter_cons_of_pos rfl, collect, collect]
          cases table.define line name operand with
          | error error => rw [ih table]
          | ok constant => exact ih (table.insert constant)

/-- Of lines with the same statements, one table can collect what the other can. -/
theorem Alike.collect {table other final : ConstantTable} (alike : table.Alike other)
    {first second : List (Nat × Statement)} (same : first.map (·.2) = second.map (·.2))
    (collected : table.collect first = (final, [])) :
    ∃ twin, other.collect second = (twin, []) ∧ final.Alike twin := by
  induction first generalizing table other second with
  | nil =>
      cases collected
      rw [List.map_nil, eq_comm, List.map_eq_nil_iff] at same
      exact ⟨other, by rw [same, ConstantTable.collect], alike⟩
  | cons head rest ih =>
      obtain ⟨line, _⟩ := head
      obtain ⟨⟨number, statement⟩, later, rfl, rfl, others⟩ := List.map_eq_cons_iff.mp same.symm
      rcases of_collect_cons collected with
        ⟨other, skipped⟩ | ⟨name, operand, constant, rfl, defined, taken⟩
      · obtain ⟨twin, done, kept⟩ := ih alike others.symm skipped
        refine ⟨twin, ?_, kept⟩
        cases statement with
        | blank => simpa [ConstantTable.collect] using done
        | rule statement => simpa [ConstantTable.collect] using done
        | constant name operand => exact absurd rfl (other name operand)
      · obtain ⟨twin, again, kept⟩ := alike.define defined number
        obtain ⟨last, done, kept⟩ := ih kept others.symm taken
        exact ⟨last, by rw [ConstantTable.collect, again]; exact done, kept⟩

/-- The statements between the constants do not matter. -/
theorem Alike.collect_interleaved {table other final : ConstantTable} (alike : table.Alike other)
    {first second : List (Nat × Statement)}
    (same : (first.map (·.2)).filter Statement.isConstant =
      (second.map (·.2)).filter Statement.isConstant)
    (collected : table.collect first = (final, [])) :
    ∃ twin, other.collect second = (twin, []) ∧ final.Alike twin := by
  rw [List.filter_map, List.filter_map] at same
  rw [← collect_filter] at collected ⊢
  exact alike.collect same collected

end ConstantTable

theorem RuleStatement.rule_of_alike {table other : ConstantTable} (alike : table.Alike other)
    (statement : RuleStatement) : statement.rule table = statement.rule other := by
  have same : table.resolve = other.resolve := funext alike
  have terms : Term.condition table = Term.condition other := by
    funext term
    rw [Term.condition, Term.condition, same]
  simp only [RuleStatement.rule, ConstantTable.resolveByte, same, terms]

/-- The rules do not depend on the lines of their statements. -/
theorem Transcript.alike {table other : ConstantTable} (alike : table.Alike other)
    {index offset : Nat} {first second : List (SourceLine × RuleStatement)}
    {entries : List (Rule × ListingEntry)}
    (transcript : Transcript table index offset first entries)
    (same : first.map (·.2) = second.map (·.2)) :
    ∃ twins, Transcript other index offset second twins ∧
      twins.map (·.1) = entries.map (·.1) := by
  induction transcript generalizing second with
  | nil =>
      rw [List.map_nil, eq_comm, List.map_eq_nil_iff] at same
      exact ⟨[], by rw [same]; exact .nil, rfl⟩
  | @cons index offset line statement rule bytes statements entries built encoded _ ih =>
      obtain ⟨⟨place, _⟩, later, rfl, rfl, others⟩ := List.map_eq_cons_iff.mp same.symm
      obtain ⟨twins, rest, rules⟩ := ih others.symm
      rw [RuleStatement.rule_of_alike alike] at built
      exact ⟨_, .cons built encoded rest, by rw [List.map_cons, List.map_cons, rules]⟩

theorem map_rule_ruleStatements (statements : List (SourceLine × Statement)) :
    ((ruleStatements statements).map (·.2)).map Statement.rule =
      (statements.map (·.2)).filter Statement.isRule := by
  induction statements with
  | nil => rfl
  | cons first rest ih =>
      obtain ⟨line, statement⟩ := first
      cases statement with
      | blank => exact ih
      | constant name operand => exact ih
      | rule statement => exact congrArg (Statement.rule statement :: ·) ih

section

variable {first second : List (SourceLine × Statement)}

/-- The constants do not depend on the rules between them. -/
theorem Understood.interleaved {lines others : List SourceLine} {table : ConstantTable}
    (understood : Understood lines first table) (read : readLines others = (second, []))
    (same : SameSequences (first.map (·.2)) (second.map (·.2))) :
    ∃ twin, Understood others second twin ∧ table.Alike twin := by
  have stands (statements : List (SourceLine × Statement)) :
      (numbered statements).map (·.2) = statements.map (·.2) := List.map_map
  have constants := same.constants
  rw [← stands first, ← stands second] at constants
  obtain ⟨twin, collected, alike⟩ := ConstantTable.Alike.collect_interleaved (fun _ => rfl)
    constants understood.collected
  exact ⟨twin, ⟨read, collected⟩, alike⟩

theorem SameSequences.ruleStatements
    (same : SameSequences (first.map (·.2)) (second.map (·.2))) :
    (ruleStatements first).map (·.2) = (ruleStatements second).map (·.2) := by
  apply (List.map_inj_right fun _ _ => Statement.rule.inj).mp
  rw [map_rule_ruleStatements, map_rule_ruleStatements, same.rules]

end

/-- What one source becomes, the other becomes. -/
theorem SameSequences.assemble {first second : String} {former latter : List Statement}
    (same : SameSequences former latter) (readFirst : Reads first former)
    (readSecond : Reads second latter) {capacity : Nat} {assembly : Assembly}
    (assembled : assemble first capacity = .ok assembly) :
    ∃ twin, Source.assemble second capacity = .ok twin ∧ twin.binary = assembly.binary ∧
      twin.rules = assembly.rules := by
  obtain ⟨statements, table, entries, parts⟩ := exists_parts_of_assemble assembled
  obtain ⟨_, again, rfl⟩ := readFirst.exists_readLines
  obtain ⟨others, read, rfl⟩ := readSecond.exists_readLines
  obtain rfl := congrArg Prod.fst (parts.understood.read.symm.trans again)
  obtain ⟨twinTable, understood, alike⟩ := parts.understood.interleaved read same
  obtain ⟨twins, transcript, rules⟩ := parts.transcript.alike alike same.ruleStatements
  have made : Assembly.MadeOf ⟨assembly.binary, assembly.rules, twins.map (·.2)⟩ second capacity
      others twinTable twins := {
    understood := understood
    transcript := transcript
    encoded := by rw [rules, parts.encoded]
    rules := by rw [rules, parts.rules]
    listing := rfl }
  exact ⟨_, made.assembled, rfl, rfl⟩

/-- Two sources with the same constants in order and the same rules in order, interleaved with each
other and with blank lines in any way, both assemble or both fail, and they assemble to the same
rules and bytes. -/
theorem assembly_ignores_interleaving {first second : String} {former latter : List Statement}
    (readFirst : Reads first former) (readSecond : Reads second latter)
    (same : SameSequences former latter) (capacity : Nat) :
    ((∃ assembly, assemble first capacity = .ok assembly) ↔
      ∃ assembly, assemble second capacity = .ok assembly) ∧
    ∀ left right, assemble first capacity = .ok left → assemble second capacity = .ok right →
      left.binary = right.binary ∧ left.rules = right.rules := by
  refine ⟨⟨?_, ?_⟩, ?_⟩
  · rintro ⟨assembly, assembled⟩
    obtain ⟨twin, done, -⟩ := same.assemble readFirst readSecond assembled
    exact ⟨twin, done⟩
  · rintro ⟨assembly, assembled⟩
    obtain ⟨twin, done, -⟩ := same.symm.assemble readSecond readFirst assembled
    exact ⟨twin, done⟩
  · intro left right assembled other
    obtain ⟨twin, done, binary, rules⟩ := same.assemble readFirst readSecond assembled
    rw [done] at other
    cases other
    exact ⟨binary.symm, rules.symm⟩

/-- Two lamp rules behind the constants that they use. -/
def orderedSource : String :=
  "const ON = 0x10\nconst ALIAS = ON\nrule ON 3 when class == 20\nrule ALIAS 0 when type > ON\n"

/-- The same statements, with each rule in front of its constant. -/
def mixedSource : String :=
  "rule ON 3 when class == 20\n; levels\nconst ON = 0x10\n\n" ++
    "rule ALIAS 0 when type > ON\nconst ALIAS = ON\n"

def orderedStatements : List Statement :=
  [.constant "ON" (.literal 0x10), .constant "ALIAS" (.name "ON"),
    .rule ⟨.name "ON", .literal 3, [⟨.eventClass, .equal, .literal 20, .last⟩]⟩,
    .rule ⟨.name "ALIAS", .literal 0, [⟨.eventType, .greater, .name "ON", .last⟩]⟩]

def mixedStatements : List Statement :=
  [.rule ⟨.name "ON", .literal 3, [⟨.eventClass, .equal, .literal 20, .last⟩]⟩, .blank,
    .constant "ON" (.literal 0x10), .blank,
    .rule ⟨.name "ALIAS", .literal 0, [⟨.eventType, .greater, .name "ON", .last⟩]⟩,
    .constant "ALIAS" (.name "ON")]

theorem mixed_source_assembles_alike :
    Reads orderedSource orderedStatements ∧ Reads mixedSource mixedStatements ∧
      SameSequences orderedStatements mixedStatements ∧
      ∃ assembly, assemble mixedSource 64 = .ok assembly ∧
        assembly.binary = [2, 7, 0x10, 3, 0, 0, 0, 20, 6, 0x10, 0, 2, 1, 0x10] := by
  have readFirst : Reads orderedSource orderedStatements := by
    unfold Reads
    decide +kernel
  have readSecond : Reads mixedSource mixedStatements := by
    unfold Reads
    decide +kernel
  have same : SameSequences orderedStatements mixedStatements := ⟨by decide, by decide⟩
  have written : (assemble orderedSource 64).map (·.binary) =
      .ok [2, 7, 0x10, 3, 0, 0, 0, 20, 6, 0x10, 0, 2, 1, 0x10] := by
    decide +kernel
  obtain ⟨left, assembled, bytes⟩ := map_eq_ok_iff.mp written
  obtain ⟨both, equal⟩ := assembly_ignores_interleaving readFirst readSecond same 64
  obtain ⟨right, other⟩ := both.mp ⟨left, assembled⟩
  exact ⟨readFirst, readSecond, same, right, other,
    (equal left right assembled other).1.symm.trans bytes⟩

end Vscp.Source
