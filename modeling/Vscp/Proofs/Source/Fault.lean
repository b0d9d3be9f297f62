/-
This file says which lines of a source are faulty and proves that a line becomes its constant or its
rule exactly if it has no fault.
-/

import Vscp.Proofs.Rule.Representable
import Vscp.Proofs.Source.Definition

namespace Vscp.Source

/-- The line is no statement. -/
inductive Unreadable (earlier : List SourceLine) (line : SourceLine) : AssemblyCause → Prop where
  | unread {error : LineError} (unread : Statement.ofLine line.text = .error error) :
      Unreadable earlier line (.statement error.error)

/-- The line gives a value to a reserved name, to a name that an earlier line has defined, or by a
name that no earlier line has defined. -/
inductive ConstantFault (earlier : List SourceLine) (line : SourceLine) : AssemblyCause → Prop where
  | reserved {name : String} {operand : Operand} (states : line.States (.constant name operand))
      (reserved : ConstantTable.isReserved name = true) :
      ConstantFault earlier line (.constant (.reservedName name))
  | duplicate {before between : List SourceLine} {first : SourceLine} {name : String}
      {operand original : Operand} (states : line.States (.constant name operand))
      (split : earlier = before ++ first :: between)
      (introduces : first.Introduces before name original) (settled : original.Settled before) :
      ConstantFault earlier line (.constant (.duplicateConstant name first.number))
  | undefined {name missing : String} (states : line.States (.constant name (.name missing)))
      (unsettled : ¬Operand.Settled earlier (.name missing)) :
      ConstantFault earlier line (.constant (.undefinedConstant missing))

/-- A condition with the field, comparison and connective of a term and the value that lines give
its operand. -/
def Term.Denotes (lines : List SourceLine) (term : Term) (condition : Condition) : Prop :=
  ∃ value, term.operand.Yields lines value ∧
    ⟨term.connective, term.comparison, term.field, value⟩ = condition

/-- A rule that has the values which lines give the operands of a statement. -/
structure RuleStatement.Denotes (lines : List SourceLine) (statement : RuleStatement)
    (rule : Rule) : Prop where
  action : statement.action.Yields lines rule.action.toNat
  param : statement.param.Yields lines rule.param.toNat
  conditions : List.Forall₂ (Term.Denotes lines) statement.terms rule.conditions

/-- The operands that must fit a byte. -/
def RuleStatement.bytes (statement : RuleStatement) : List Operand :=
  [statement.action, statement.param]

def RuleStatement.operands (statement : RuleStatement) : List Operand :=
  statement.bytes ++ statement.terms.map (·.operand)

namespace RuleStatement.Denotes

variable {lines : List SourceLine} {statement : RuleStatement} {rule : Rule}

theorem byte (denotes : statement.Denotes lines rule) (operand : Operand)
    (member : operand ∈ statement.bytes) : ∃ byte : UInt8, operand.Yields lines byte.toNat := by
  simp only [bytes, List.mem_cons, List.not_mem_nil, or_false] at member
  rcases member with rfl | rfl
  · exact ⟨_, denotes.action⟩
  · exact ⟨_, denotes.param⟩

theorem settled (denotes : statement.Denotes lines rule) (operand : Operand)
    (member : operand ∈ statement.operands) : operand.Settled lines := by
  rcases List.mem_append.mp member with short | within
  · obtain ⟨byte, yields⟩ := denotes.byte operand short
    exact yields.settled
  · obtain ⟨term, listed, rfl⟩ := List.mem_map.mp within
    have each : List.Forall₂
        (fun (term : Term) condition => term.operand.Settled lines ∧ term.Denotes lines condition)
        statement.terms rule.conditions :=
      denotes.conditions.imp fun _ _ ⟨value, yields, same⟩ =>
        ⟨yields.settled, value, yields, same⟩
    exact ((List.forall₂_and_left _ _).mp each).1 term listed

end RuleStatement.Denotes

/-- The line states the rule, which can be encoded. -/
def SourceLine.Becomes (lines : List SourceLine) (line : SourceLine) (rule : Rule) : Prop :=
  ∃ statement, line.States (.rule statement) ∧ statement.Denotes lines rule ∧ rule.Representable

open Classical in
/-- The rule of a line is numbered by those of the lines before it, without the faulty ones. -/
noncomputable def ruleIndex (lines earlier : List SourceLine) : Nat :=
  earlier.countP fun line => ∃ rule, line.Becomes lines rule

/-- An operand of the rule on the line has no value, its action or its parameter is wider than a
byte, or the rule cannot be encoded. -/
inductive RuleFault (lines earlier : List SourceLine) (line : SourceLine) : AssemblyCause → Prop
    where
  | undefined {statement : RuleStatement} {missing : String}
      (states : line.States (.rule statement)) (member : .name missing ∈ statement.operands)
      (unsettled : ¬Operand.Settled lines (.name missing)) :
      RuleFault lines earlier line (.constant (.undefinedConstant missing))
  | wide {statement : RuleStatement} {operand : Operand} {value : Nat}
      (states : line.States (.rule statement)) (member : operand ∈ statement.bytes)
      (yields : operand.Yields lines value) (wide : 255 < value) :
      RuleFault lines earlier line (.constant (.byteOutOfRange value))
  | rejected {statement : RuleStatement} {rule : Rule} {error : EncodeError}
      (states : line.States (.rule statement)) (denotes : statement.Denotes lines rule)
      (rejected : rule.encode (ruleIndex lines earlier) = .error error) :
      RuleFault lines earlier line (.encoding error)

section

variable {earlier : List SourceLine} {line : SourceLine} {cause : AssemblyCause}

theorem Unreadable.not_states (fault : Unreadable earlier line cause) (statement : Statement) :
    ¬line.States statement := by
  cases fault with
  | unread unread => exact fun states => nomatch unread.symm.trans states

theorem ConstantFault.states (fault : ConstantFault earlier line cause) :
    ∃ name operand, line.States (.constant name operand) := by
  cases fault with
  | reserved states => exact ⟨_, _, states⟩
  | duplicate states => exact ⟨_, _, states⟩
  | undefined states => exact ⟨_, _, states⟩

theorem RuleFault.states {lines : List SourceLine} (fault : RuleFault lines earlier line cause) :
    ∃ statement, line.States (.rule statement) := by
  cases fault with
  | undefined states => exact ⟨_, states⟩
  | wide states => exact ⟨_, states⟩
  | rejected states => exact ⟨_, states⟩

end

theorem SourceLine.Introduces.sound {line : SourceLine} {earlier : List SourceLine} {name : String}
    {operand : Operand} (introduces : line.Introduces earlier name operand)
    (settled : operand.Settled earlier) (cause : AssemblyCause) :
    ¬ConstantFault earlier line cause := by
  intro fault
  cases fault with
  | reserved states reserved =>
      cases states.unique introduces.states
      rw [introduces.free] at reserved
      cases reserved
  | duplicate states split first known =>
      cases states.unique introduces.states
      exact introduces.fresh (.constant split first.states first.free known)
  | undefined states unsettled =>
      cases states.unique introduces.states
      exact unsettled settled

/-- Only a line that states a constant can be faulty as a constant, and only such a line defines
one. -/
theorem idle_of_other {line : SourceLine} (other : ∀ name operand,
    ¬line.States (.constant name operand)) (earlier : List SourceLine) :
    line.Idle earlier ∧ ∀ cause, ¬ConstantFault earlier line cause := by
  refine ⟨fun name operand introduces => absurd introduces.states (other name operand), ?_⟩
  intro cause fault
  obtain ⟨name, operand, states⟩ := fault.states
  exact other name operand states

theorem not_ruleFault_of_other {line : SourceLine}
    (other : ∀ statement, ¬line.States (.rule statement)) (lines earlier : List SourceLine) :
    (¬∃ rule, line.Becomes lines rule) ∧ ∀ cause, ¬RuleFault lines earlier line cause := by
  refine ⟨fun ⟨_, statement, states, _⟩ => other statement states, fun cause fault => ?_⟩
  obtain ⟨statement, states⟩ := fault.states
  exact other statement states

namespace ConstantTable.Records

variable {table : ConstantTable} {lines earlier : List SourceLine} {line : SourceLine}

theorem of_resolve_error (records : table.Records lines) {operand : Operand}
    {error : ConstantError} (failed : table.resolve operand = .error error) :
    ∃ missing, operand = .name missing ∧ error = .undefinedConstant missing ∧
      ¬Operand.Settled lines (.name missing) := by
  cases operand with
  | literal number => cases failed
  | name name =>
      refine ⟨name, rfl, ?_, ?_⟩
      · rw [resolve] at failed
        split at failed <;> cases failed
        rfl
      · rw [records.settled_iff, failed]
        rintro ⟨value, resolved⟩
        cases resolved

/-- The constant of a line is refused for a fault of the line. -/
theorem fault_of_define (records : table.Records earlier) {name : String} {operand : Operand}
    (states : line.States (.constant name operand)) {error : ConstantError}
    (failed : table.define line.number name operand = .error error) :
    ConstantFault earlier line (.constant error) := by
  rw [define] at failed
  split at failed
  · rename_i reserved
    cases failed
    exact .reserved states reserved
  · split at failed
    · rename_i first found
      cases failed
      obtain ⟨before, original, between, given, split, introduces, settled, number⟩ :=
        records.first name first found
      rw [← number]
      exact .duplicate states split introduces settled
    · obtain ⟨missing, rfl, rfl, unsettled⟩ :=
        records.of_resolve_error (map_eq_error_iff.mp failed)
      exact .undefined states unsettled

theorem resolveByte_eq_ok_iff (records : table.Records lines) {operand : Operand} {byte : UInt8} :
    table.resolveByte operand = .ok byte ↔ operand.Yields lines byte.toNat := by
  rw [records.yields_iff, resolveByte, bind_eq_ok_iff]
  constructor
  · rintro ⟨value, resolved, small⟩
    split at small
    · rename_i within
      cases small
      rwa [UInt8.toNat_ofNat_of_lt' within]
    · cases small
  · intro resolved
    exact ⟨byte.toNat, resolved, by rw [if_pos byte.toNat_lt, UInt8.ofNat_toNat]⟩

/-- A statement becomes the rule that it denotes. -/
theorem rule_eq_ok_iff (records : table.Records lines) {statement : RuleStatement} {rule : Rule} :
    statement.rule table = .ok rule ↔ statement.Denotes lines rule := by
  have condition (term : Term) (condition : Condition) :
      term.condition table = .ok condition ↔ term.Denotes lines condition := by
    simp only [Term.condition, map_eq_ok_iff, Term.Denotes, records.yields_iff]
  have conditions (terms : List Term) (conditions : List Condition) :
      terms.mapM (Term.condition table) = .ok conditions ↔
        List.Forall₂ (Term.Denotes lines) terms conditions := by
    simp only [mapM_eq_ok_iff, condition]
  constructor
  · intro built
    obtain ⟨action, first, built⟩ := bind_eq_ok_iff.mp built
    obtain ⟨param, second, built⟩ := bind_eq_ok_iff.mp built
    obtain ⟨chain, third, built⟩ := bind_eq_ok_iff.mp built
    cases built
    exact ⟨records.resolveByte_eq_ok_iff.mp first, records.resolveByte_eq_ok_iff.mp second,
      (conditions _ _).mp third⟩
  · rintro ⟨action, param, chain⟩
    exact bind_eq_ok_iff.mpr ⟨_, records.resolveByte_eq_ok_iff.mpr action,
      bind_eq_ok_iff.mpr ⟨_, records.resolveByte_eq_ok_iff.mpr param,
        bind_eq_ok_iff.mpr ⟨_, (conditions _ _).mpr chain, rfl⟩⟩⟩

theorem fault_of_resolveByte (records : table.Records lines) {statement : RuleStatement}
    (states : line.States (.rule statement)) {operand : Operand}
    (member : operand ∈ statement.bytes) {error : ConstantError}
    (failed : table.resolveByte operand = .error error) :
    RuleFault lines earlier line (.constant error) := by
  rcases bind_eq_error_iff.mp failed with unresolved | ⟨value, resolved, wide⟩
  · obtain ⟨missing, rfl, rfl, unsettled⟩ := records.of_resolve_error unresolved
    exact .undefined states (List.mem_append_left _ member) unsettled
  · split at wide
    · cases wide
    · rename_i large
      cases wide
      exact .wide states member (records.yields_iff.mpr resolved) (by omega)

/-- A statement that becomes no rule has a fault. -/
theorem fault_of_rule (records : table.Records lines) {statement : RuleStatement}
    (states : line.States (.rule statement)) {error : ConstantError}
    (failed : statement.rule table = .error error) :
    RuleFault lines earlier line (.constant error) := by
  rcases bind_eq_error_iff.mp failed with action | ⟨action, -, failed⟩
  · exact records.fault_of_resolveByte states (by simp [RuleStatement.bytes]) action
  rcases bind_eq_error_iff.mp failed with param | ⟨param, -, failed⟩
  · exact records.fault_of_resolveByte states (by simp [RuleStatement.bytes]) param
  rcases bind_eq_error_iff.mp failed with chain | ⟨chain, -, failed⟩
  · obtain ⟨term, member, failed⟩ := exists_of_mapM_eq_error chain
    obtain ⟨missing, stands, rfl, unsettled⟩ :=
      records.of_resolve_error (map_eq_error_iff.mp failed)
    refine .undefined states (List.mem_append_right _ ?_) unsettled
    exact List.mem_map.mpr ⟨term, member, stands⟩
  · cases failed

/-- What a statement denotes is one rule at most. -/
theorem rule_unique (records : table.Records lines) {statement : RuleStatement}
    {first second : Rule} (left : statement.Denotes lines first)
    (right : statement.Denotes lines second) : first = second :=
  Except.ok.inj ((records.rule_eq_ok_iff.mpr left).symm.trans (records.rule_eq_ok_iff.mpr right))

theorem value_unique (records : table.Records lines) {operand : Operand} {first second : Nat}
    (left : operand.Yields lines first) (right : operand.Yields lines second) : first = second :=
  Except.ok.inj ((records.yields_iff.mp left).symm.trans (records.yields_iff.mp right))

/-- A line that becomes a rule has no fault. -/
theorem sound_of_becomes (records : table.Records lines) {rule : Rule}
    (becomes : line.Becomes lines rule) (cause : AssemblyCause) :
    ¬RuleFault lines earlier line cause := by
  obtain ⟨statement, states, denotes, representable⟩ := becomes
  intro fault
  cases fault with
  | undefined again member unsettled =>
      obtain rfl := Statement.rule.inj (states.unique again)
      exact unsettled (denotes.settled _ member)
  | wide again member yields wide =>
      obtain rfl := Statement.rule.inj (states.unique again)
      obtain ⟨byte, small⟩ := denotes.byte _ member
      rw [records.value_unique yields small] at wide
      exact absurd byte.toNat_lt (by omega)
  | rejected again other rejected =>
      obtain rfl := Statement.rule.inj (states.unique again)
      obtain rfl := records.rule_unique denotes other
      obtain ⟨bytes, encoded⟩ := (rule.exists_encode_iff (ruleIndex lines earlier)).mpr
        representable
      rw [encoded] at rejected
      cases rejected

/-- A rule statement is assembled, or its line has a fault, which is the cause. -/
theorem assemble_cases (records : table.Records lines) {statement : RuleStatement}
    (states : line.States (.rule statement)) :
    (∃ rule bytes, statement.assemble table (ruleIndex lines earlier) = .ok (rule, bytes) ∧
      line.Becomes lines rule) ∨
    ∃ cause, statement.assemble table (ruleIndex lines earlier) = .error cause ∧
      RuleFault lines earlier line cause := by
  rw [RuleStatement.assemble]
  cases built : statement.rule table with
  | error error => exact .inr ⟨_, rfl, records.fault_of_rule states built⟩
  | ok rule =>
      have denotes := records.rule_eq_ok_iff.mp built
      cases encoded : rule.encode (ruleIndex lines earlier) with
      | error error => exact .inr ⟨_, by simp only [encoded], .rejected states denotes encoded⟩
      | ok bytes =>
          exact .inl ⟨rule, bytes, by simp only [encoded], statement, states, denotes,
            (rule.exists_encode_iff _).mp ⟨bytes, encoded⟩⟩

end ConstantTable.Records

end Vscp.Source
