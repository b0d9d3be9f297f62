/-
This file proves that the rows of a listing are lines, which assemble into the rules that they show.
-/

import Vscp.Proofs.Source.RuleText
import Vscp.Proofs.Text.Line

namespace Vscp

open Source

/-- A text of words, blanks and semicolons stays on one line. -/
theorem Source.isLine_of_shown {text : List Char} (present : text ≠ [])
    (shown : text.all (fun character => isInline character || character == ';') = true) :
    Text.IsLine text := by
  rw [List.all_eq_true] at shown
  refine ⟨present, fun member => ?_, fun member => ?_⟩
  · exact absurd (shown _ member) (by decide)
  · exact absurd (shown _ member) (by decide)

theorem Source.all_shown {text : List Char} (inline : text.all isInline = true) :
    text.all (fun character => isInline character || character == ';') = true := by
  rw [List.all_eq_true] at inline ⊢
  intro character member
  rw [inline character member]
  rfl

/-- The message of a fault is made of words and single blanks. -/
theorem RuleFault.all_isInline_message (fault : RuleFault) :
    fault.message.toList.all isInline = true := by
  have digits (value : Nat) : (Numeral.decimal value).toList.all isInline = true := by
    rw [List.all_eq_true]
    intro character member
    exact isInline_of_isPlain ((Numeral.isWord_decimal value).2 character member)
  have kind : fault.kind.message.toList.all isInline = true := by
    cases fault.kind <;> decide
  simp only [message, String.toList_append, List.all_append, digits, kind]
  decide

namespace RuleSite

/-- The statement that the row of a site stands for. -/
def statement (site : RuleSite) : Statement :=
  match site.rule with
  | .ok rule => .rule rule.statement
  | .error _ => .blank

theorem decode_of_rule {site : RuleSite} {rule : Rule} (read : site.rule = .ok rule) :
    ∃ cursor, Chain.decode cursor = .ok rule.conditions := by
  unfold RuleSite.rule at read
  obtain ⟨header, -, chained⟩ := bind_eq_ok_iff.mp read
  obtain ⟨conditions, decoded, rfl⟩ := map_eq_ok_iff.mp chained
  exact ⟨header.chain, decoded⟩

/-- A row is read as its statement; that of a faulty rule is a comment. -/
theorem ofLine_row (site : RuleSite) :
    Statement.ofLine site.row.text.toList = .ok site.statement := by
  unfold statement
  cases read : site.rule with
  | ok rule =>
      obtain ⟨cursor, decoded⟩ := decode_of_rule read
      rw [row_text_of_ok read]
      exact Rule.ofLine_source decoded
  | error flaw =>
      rw [row_text_of_error read, String.toList_append]
      rfl

theorem isLine_row (site : RuleSite) : Text.IsLine site.row.text.toList := by
  cases read : site.rule with
  | ok rule =>
      obtain ⟨cursor, decoded⟩ := decode_of_rule read
      have chained := Chain.isWord_of_mem_words decoded
      rw [row_text_of_ok read]
      exact isLine_of_shown (by simp [Rule.toList_source])
        (all_shown (Rule.all_isInline_source chained))
  | error flaw =>
      rw [row_text_of_error read, String.toList_append]
      refine isLine_of_shown (by simp) ?_
      rw [List.all_append, all_shown (RuleFault.all_isInline_message _)]
      decide

end RuleSite

namespace Source

/-- Lines that can all be read give their statements and no error. -/
theorem readLines_of_ok {lines : List SourceLine} {statements : List Statement}
    (read : (lines.map (·.text)).map Statement.ofLine = statements.map .ok) :
    (readLines lines).1.map (·.2) = statements ∧ (readLines lines).2 = [] := by
  induction lines generalizing statements with
  | nil =>
      obtain rfl : statements = [] := by simpa using read.symm
      exact ⟨rfl, rfl⟩
  | cons line rest ih =>
      cases statements with
      | nil => cases read
      | cons statement statements =>
          simp only [List.map_cons, List.cons.injEq] at read
          obtain ⟨texts, errors⟩ := ih read.2
          simp [readLines, read.1, texts, errors]

/-- Rules and blank lines leave a table of constants as it is. -/
theorem collect_of_rules (table : ConstantTable) {statements : List (Nat × Statement)}
    (rules : ∀ name value, .constant name value ∉ statements.map (·.2)) :
    table.collect statements = (table, []) := by
  induction statements with
  | nil => rfl
  | cons statement rest ih =>
      obtain ⟨line, statement⟩ := statement
      have others := ih fun name value member =>
        rules name value (List.mem_cons_of_mem _ member)
      cases statement with
      | blank => simpa [ConstantTable.collect] using others
      | constant name value => exact absurd List.mem_cons_self (rules name value)
      | rule statement => simpa [ConstantTable.collect] using others

/-- The numbered lines of a text have the lines of the text. -/
theorem map_text_sourceLines (source : String) :
    (sourceLines source).map (·.text) = Text.lines source := by
  rw [sourceLines, List.map_map]
  exact List.zipIdx_map_fst 0 (Text.lines source)

/-- The statements of sites assemble into the rules that are found there. -/
theorem assembleRules_of_sites (table : ConstantTable) {sites : List RuleSite}
    (written : ∀ site ∈ sites, ∀ rule, site.rule = .ok rule → ∀ index,
      ∃ bytes, rule.encode index = .ok bytes)
    {lines : List (SourceLine × Statement)}
    (stated : lines.map (·.2) = sites.map RuleSite.statement) (index offset : Nat) :
    (assembleRules table index offset lines).1.map (·.1) = sites.filterMap RuleSite.rule? ∧
      (assembleRules table index offset lines).2 = [] := by
  induction sites generalizing lines index offset with
  | nil =>
      obtain rfl : lines = [] := by simpa using stated
      exact ⟨rfl, rfl⟩
  | cons site rest ih =>
      obtain ⟨⟨line, -⟩, later, rfl, rfl, others⟩ := List.map_eq_cons_iff.mp stated
      have tail := ih (fun other member => written other (List.mem_cons_of_mem _ member)) others
      cases read : site.rule with
      | error flaw =>
          have blank : site.statement = .blank := by rw [RuleSite.statement, read]
          rw [List.filterMap_cons_none (RuleSite.rule?_of_error read)]
          simpa [assembleRules, blank] using tail index offset
      | ok rule =>
          have stands : site.statement = .rule rule.statement := by rw [RuleSite.statement, read]
          obtain ⟨bytes, encoded⟩ := written site List.mem_cons_self rule read index
          have assembled : rule.statement.assemble table index = .ok (rule, bytes) := by
            simp only [RuleStatement.assemble, Rule.rule_statement, encoded]
          obtain ⟨rules, errors⟩ := tail (index + 1) (offset + bytes.length)
          rw [List.filterMap_cons_some (RuleSite.rule?_of_ok read)]
          simp [assembleRules, stands, assembled, rules, errors]

/-- A text whose lines are the statements of sites assembles as the rules found there. -/
theorem assemble_of_sites {source : String} {sites : List RuleSite}
    (written : ∀ site ∈ sites, ∀ rule, site.rule = .ok rule → ∀ index,
      ∃ bytes, rule.encode index = .ok bytes)
    (read : (Text.lines source).map Statement.ofLine = (sites.map RuleSite.statement).map .ok)
    {capacity : Nat} {binary : List UInt8}
    (encoded : Ruleset.encode (sites.filterMap RuleSite.rule?) capacity = .ok binary) :
    ∃ assembly, assemble source capacity = .ok assembly ∧
      assembly.rules = sites.filterMap RuleSite.rule? ∧ assembly.binary = binary := by
  rw [← map_text_sourceLines] at read
  obtain ⟨stated, unread⟩ := readLines_of_ok read
  obtain ⟨rules, failed⟩ := assembleRules_of_sites ConstantTable.empty written stated 0 1
  unfold assemble
  dsimp only
  rw [collect_of_rules]
  · simp only [unread, failed, rules, encoded, List.map_nil, List.nil_append,
      List.isEmpty_nil, ↓reduceIte]
    exact ⟨_, rfl, rfl, rfl⟩
  · intro name value member
    rw [List.map_map] at member
    change _ ∈ (readLines (sourceLines source)).1.map (·.2) at member
    rw [stated] at member
    obtain ⟨site, -, same⟩ := List.mem_map.mp member
    unfold RuleSite.statement at same
    split at same <;> cases same

end Source

end Vscp
