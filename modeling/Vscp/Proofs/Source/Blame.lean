/-
This file proves that exactly the faulty lines of a source are reported, each with one error.
-/

import Mathlib.Data.List.Nodup
import Vscp.Proofs.Source.Fault
import Vscp.Proofs.Source.Transcription

namespace Vscp.Source

/-- A fault of a line may depend on the lines before it. -/
abbrev FaultOf := List SourceLine → SourceLine → AssemblyCause → Prop

/-- In the order of the lines, a faulty line has one error, which tells one of its faults, and a
line without a fault has none. -/
inductive Reports (Fault : FaultOf) :
    List SourceLine → List SourceLine → List AssemblyError → Prop where
  | nil {earlier : List SourceLine} : Reports Fault earlier [] []
  | faulty {earlier later : List SourceLine} {line : SourceLine} {cause : AssemblyCause}
      {errors : List AssemblyError} (fault : Fault earlier line cause)
      (others : Reports Fault (earlier ++ [line]) later errors) :
      Reports Fault earlier (line :: later) (⟨some line.number, cause⟩ :: errors)
  | sound {earlier later : List SourceLine} {line : SourceLine} {errors : List AssemblyError}
      (sound : ∀ cause, ¬Fault earlier line cause)
      (others : Reports Fault (earlier ++ [line]) later errors) :
      Reports Fault earlier (line :: later) errors

namespace Reports

variable {Fault Other : FaultOf} {earlier later : List SourceLine}
variable {errors others : List AssemblyError}

theorem sublist (reports : Reports Fault earlier later errors) :
    (errors.map (·.line)).Sublist (later.map fun line => some line.number) := by
  induction reports with
  | nil => exact List.nil_sublist []
  | faulty _ _ ih => exact ih.cons_cons _
  | sound _ _ ih => exact ih.cons _

theorem ascending (ordered : later.Pairwise (·.number < ·.number))
    (reports : Reports Fault earlier later errors) :
    (errors.filterMap (·.line)).Pairwise (· < ·) := by
  have within := reports.sublist.filterMap id
  simp only [List.filterMap_map, Function.comp_def, id] at within
  refine List.Pairwise.sublist within ?_
  simpa [List.pairwise_map] using ordered

theorem nodup (distinct : (later.map (·.number)).Nodup)
    (reports : Reports Fault earlier later errors) : (errors.map (·.line)).Nodup := by
  refine reports.sublist.nodup ?_
  have numbers := distinct.map (Option.some_injective Nat)
  rwa [List.map_map] at numbers

/-- Each error stands for a faulty line. -/
theorem exists_fault (reports : Reports Fault earlier later errors) {error : AssemblyError}
    (member : error ∈ errors) :
    ∃ before, ∃ line ∈ later, error.line = some line.number ∧ Fault before line error.cause := by
  induction reports with
  | nil => cases member
  | @faulty earlier later line cause errors fault _ ih =>
      rcases List.mem_cons.mp member with rfl | member
      · exact ⟨earlier, line, List.mem_cons_self, rfl, fault⟩
      · obtain ⟨before, other, within, rest⟩ := ih member
        exact ⟨before, other, List.mem_cons_of_mem _ within, rest⟩
  | sound _ _ ih =>
      obtain ⟨before, other, within, rest⟩ := ih member
      exact ⟨before, other, List.mem_cons_of_mem _ within, rest⟩

/-- The groups have no line in common if no line has a fault of both kinds. -/
theorem disjoint (distinct : (later.map (·.number)).Nodup)
    (first : Reports Fault earlier later errors) (second : Reports Other earlier later others)
    (exclusive : ∀ before after line cause other, Fault before line cause →
      ¬Other after line other) :
    (errors.map (·.line)).Disjoint (others.map (·.line)) := by
  intro number left right
  obtain ⟨error, member, rfl⟩ := List.mem_map.mp left
  obtain ⟨twin, within, same⟩ := List.mem_map.mp right
  obtain ⟨before, line, listed, place, fault⟩ := first.exists_fault member
  obtain ⟨after, other, listed', place', fault'⟩ := second.exists_fault within
  rw [place, place', Option.some_inj] at same
  obtain rfl := List.inj_on_of_nodup_map distinct listed' listed same
  exact exclusive before after other error.cause twin.cause fault fault'

end Reports

theorem readLines_cons_of_error {line : SourceLine} {rest : List SourceLine} {error : LineError}
    (unread : Statement.ofLine line.text = .error error) :
    readLines (line :: rest) =
      ((readLines rest).1, ⟨some line.number, .statement error.error⟩ :: (readLines rest).2) := by
  rw [readLines, unread]

theorem readLines_cons_of_states {line : SourceLine} {rest : List SourceLine}
    {statement : Statement} (states : line.States statement) :
    readLines (line :: rest) = ((line, statement) :: (readLines rest).1, (readLines rest).2) := by
  rw [readLines, states]

theorem reports_unread (earlier later : List SourceLine) :
    Reports Unreadable earlier later (readLines later).2 := by
  induction later generalizing earlier with
  | nil => exact .nil
  | cons line rest ih =>
      cases read : Statement.ofLine line.text with
      | error error =>
          rw [readLines_cons_of_error read]
          exact .faulty (.unread read) (ih _)
      | ok statement =>
          rw [readLines_cons_of_states read]
          exact .sound (fun cause fault => fault.not_states statement read) (ih _)

/-- The errors of constants, which are told with the numbers of their lines. -/
def located (errors : List (Nat × ConstantError)) : List AssemblyError :=
  errors.map fun (line, error) => ⟨some line, .constant error⟩

theorem collect_cons_of_other {line : SourceLine} (other : ∀ name operand,
    ¬line.States (.constant name operand)) (table : ConstantTable) (rest : List SourceLine) :
    table.collect (numbered (readLines (line :: rest)).1) =
      table.collect (numbered (readLines rest).1) := by
  cases read : Statement.ofLine line.text with
  | error error => rw [readLines_cons_of_error read]
  | ok statement =>
      rw [readLines_cons_of_states read]
      cases statement with
      | constant name operand => exact absurd read (other name operand)
      | blank => simp [numbered, ConstantTable.collect]
      | rule statement => simp [numbered, ConstantTable.collect]

/-- The constants are collected with one error for each faulty line, and the table holds what the
lines define. -/
theorem reports_constants {table : ConstantTable} {earlier : List SourceLine}
    (records : table.Records earlier) (later : List SourceLine) :
    Reports ConstantFault earlier later
        (located (table.collect (numbered (readLines later).1)).2) ∧
      (table.collect (numbered (readLines later).1)).1.Records (earlier ++ later) := by
  induction later generalizing earlier table with
  | nil => exact ⟨.nil, by rwa [List.append_nil]⟩
  | cons line rest ih =>
      rw [List.append_cons]
      by_cases constant : ∃ name operand, line.States (.constant name operand)
      · obtain ⟨name, operand, states⟩ := constant
        rw [readLines_cons_of_states states]
        simp only [numbered, List.map_cons, ConstantTable.collect]
        cases defined : table.define line.number name operand with
        | ok constant =>
            obtain ⟨introduces, value, yields, rfl⟩ :=
              (records.define_eq_ok_iff states).mp defined
            obtain ⟨reports, final⟩ := ih (records.insert introduces yields)
            exact ⟨.sound (introduces.sound yields.settled) reports, final⟩
        | error error =>
            obtain ⟨reports, final⟩ := ih (records.idle (records.idle_of_define states defined))
            exact ⟨.faulty (records.fault_of_define states defined) reports, final⟩
      · have other (name : String) (operand : Operand) : ¬line.States (.constant name operand) :=
          fun states => constant ⟨name, operand, states⟩
        obtain ⟨idle, sound⟩ := idle_of_other other earlier
        obtain ⟨reports, final⟩ := ih (records.idle idle)
        rw [collect_cons_of_other other]
        exact ⟨.sound sound reports, final⟩

theorem assembleRules_cons_of_other {line : SourceLine}
    (other : ∀ statement, ¬line.States (.rule statement)) (table : ConstantTable)
    (index offset : Nat) (rest : List SourceLine) :
    assembleRules table index offset (readLines (line :: rest)).1 =
      assembleRules table index offset (readLines rest).1 := by
  cases read : Statement.ofLine line.text with
  | error error => rw [readLines_cons_of_error read]
  | ok statement =>
      rw [readLines_cons_of_states read]
      cases statement with
      | rule statement => exact absurd read (other statement)
      | blank => simp [assembleRules]
      | constant name operand => simp [assembleRules]

theorem ruleIndex_concat {lines : List SourceLine} {line : SourceLine} {rule : Rule}
    (becomes : line.Becomes lines rule) (earlier : List SourceLine) :
    ruleIndex lines (earlier ++ [line]) = ruleIndex lines earlier + 1 := by
  have counted : ∃ rule, line.Becomes lines rule := ⟨rule, becomes⟩
  simp [ruleIndex, List.countP_append, counted]

theorem ruleIndex_concat_other {lines : List SourceLine} {line : SourceLine}
    (other : ¬∃ rule, line.Becomes lines rule) (earlier : List SourceLine) :
    ruleIndex lines (earlier ++ [line]) = ruleIndex lines earlier := by
  simp [ruleIndex, List.countP_append, other]

/-- The rules are assembled with one error for each faulty line. -/
theorem reports_rules {table : ConstantTable} {lines : List SourceLine}
    (records : table.Records lines) (earlier later : List SourceLine) (offset : Nat) :
    Reports (RuleFault lines) earlier later
      (assembleRules table (ruleIndex lines earlier) offset (readLines later).1).2 := by
  induction later generalizing earlier offset with
  | nil => exact .nil
  | cons line rest ih =>
      by_cases rule : ∃ statement, line.States (.rule statement)
      · obtain ⟨statement, states⟩ := rule
        rw [readLines_cons_of_states states, assembleRules]
        rcases records.assemble_cases states with
          ⟨rule, bytes, assembled, becomes⟩ | ⟨cause, failed, fault⟩
        · rw [assembled, ← ruleIndex_concat becomes]
          exact .sound (records.sound_of_becomes becomes) (ih _ _)
        · have stays : ¬∃ rule, line.Becomes lines rule := by
            rintro ⟨rule, becomes⟩
            exact records.sound_of_becomes becomes cause fault
          rw [failed, ← ruleIndex_concat_other stays]
          exact .faulty fault (ih _ _)
      · obtain ⟨stays, sound⟩ := not_ruleFault_of_other
          (fun statement states => rule ⟨statement, states⟩) lines earlier
        rw [assembleRules_cons_of_other fun statement states => rule ⟨statement, states⟩,
          ← ruleIndex_concat_other stays]
        exact .sound sound (ih _ _)

theorem states_of_mem_readLines {lines : List SourceLine} {line : SourceLine}
    {statement : Statement} (member : (line, statement) ∈ (readLines lines).1) :
    line.States statement := by
  induction lines with
  | nil => cases member
  | cons first rest ih =>
      cases read : Statement.ofLine first.text with
      | error error =>
          rw [readLines_cons_of_error read] at member
          exact ih member
      | ok stated =>
          rw [readLines_cons_of_states read] at member
          rcases List.mem_cons.mp member with same | later
          · cases same
            exact read
          · exact ih later

/-- Without errors, each line of a rule statement becomes its rule. -/
theorem Transcript.becomes {table : ConstantTable} {lines : List SourceLine}
    (records : table.Records lines) {index offset : Nat}
    {statements : List (SourceLine × RuleStatement)} {entries : List (Rule × ListingEntry)}
    (transcript : Transcript table index offset statements entries)
    (states : ∀ line statement, (line, statement) ∈ statements → line.States (.rule statement)) :
    List.Forall₂ (SourceLine.Becomes lines) (statements.map (·.1)) (entries.map (·.1)) := by
  induction transcript with
  | nil => exact .nil
  | @cons index offset line statement rule bytes statements entries built encoded _ ih =>
      refine .cons ⟨statement, states line statement List.mem_cons_self,
        records.rule_eq_ok_iff.mp built, (rule.exists_encode_iff index).mp ⟨bytes, encoded⟩⟩ ?_
      exact ih fun line statement member => states line statement (List.mem_cons_of_mem _ member)

/-- What the three passes over the lines of a source give. -/
structure Passes (source : String) where
  statements : List (SourceLine × Statement)
  unread : List AssemblyError
  table : ConstantTable
  undefined : List (Nat × ConstantError)
  entries : List (Rule × ListingEntry)
  unbuilt : List AssemblyError
  read : readLines (sourceLines source) = (statements, unread)
  collected : ConstantTable.empty.collect (numbered statements) = (table, undefined)
  built : assembleRules table 0 1 statements = (entries, unbuilt)

namespace Passes

def run (source : String) : Passes source :=
  ⟨_, _, _, _, _, _, rfl, rfl, rfl⟩

variable {source : String}

theorem reportsUnread (passes : Passes source) :
    Reports Unreadable [] (sourceLines source) passes.unread := by
  have reports := reports_unread [] (sourceLines source)
  rwa [passes.read] at reports

theorem reportsConstants (passes : Passes source) :
    Reports ConstantFault [] (sourceLines source) (located passes.undefined) ∧
      passes.table.Records (sourceLines source) := by
  have reports := reports_constants ConstantTable.records_empty (sourceLines source)
  rwa [passes.read, passes.collected] at reports

theorem reportsRules (passes : Passes source) :
    Reports (RuleFault (sourceLines source)) [] (sourceLines source) passes.unbuilt := by
  have reports := reports_rules passes.reportsConstants.2 [] (sourceLines source) 1
  have start : ruleIndex (sourceLines source) [] = 0 := rfl
  rwa [passes.read, start, passes.built] at reports

/-- No line is in two groups, because a line has one statement at most. -/
theorem distinct (passes : Passes source) :
    ((passes.unread ++ located passes.undefined ++ passes.unbuilt).map (·.line)).Nodup := by
  have numbers : ((sourceLines source).map (·.number)).Nodup :=
    (List.pairwise_map.mpr (pairwise_number_sourceLines source)).imp Nat.ne_of_lt
  have lines := passes.reportsUnread
  obtain ⟨constants, -⟩ := passes.reportsConstants
  have rules := passes.reportsRules
  have first := lines.disjoint numbers constants fun _ _ _ _ _ unread fault =>
    let ⟨_, _, states⟩ := fault.states
    unread.not_states _ states
  have second := lines.disjoint numbers rules fun _ _ _ _ _ unread fault =>
    let ⟨_, states⟩ := fault.states
    unread.not_states _ states
  have third := constants.disjoint numbers rules fun _ _ _ _ _ constant rule =>
    let ⟨_, _, states⟩ := constant.states
    let ⟨_, other⟩ := rule.states
    nomatch states.unique other
  rw [List.map_append, List.map_append]
  exact ((lines.nodup numbers).append (constants.nodup numbers) first).append
    (rules.nodup numbers) (List.disjoint_append_left.mpr ⟨second, third⟩)

/-- The passes decide what a source becomes. -/
theorem assemble_eq (passes : Passes source) (capacity : Nat) :
    assemble source capacity =
      if (passes.unread ++ located passes.undefined ++ passes.unbuilt).isEmpty then
        match Ruleset.encode (passes.entries.map (·.1)) capacity with
        | .ok binary => .ok ⟨binary, passes.entries.map (·.1), passes.entries.map (·.2)⟩
        | .error error => .error [⟨none, .encoding error⟩]
      else .error (passes.unread ++ located passes.undefined ++ passes.unbuilt) := by
  have collected := passes.collected
  unfold numbered at collected
  unfold assemble
  simp only [passes.read, collected, passes.built]
  rfl

/-- Without errors the rules are those of the lines, and only their number or their size can keep
them from being assembled. -/
theorem assemble_of_free (passes : Passes source) (capacity : Nat)
    (free : passes.unread ++ located passes.undefined ++ passes.unbuilt = []) :
    ∃ rules, List.Forall₂ (SourceLine.Becomes (sourceLines source)) (ruleLines source) rules ∧
      (assemble source capacity).map (·.rules) =
        if 254 < rules.length then .error [⟨none, .encoding (.tooManyRules rules.length)⟩]
        else if capacity < Ruleset.size rules then
          .error [⟨none, .encoding (.capacityExceeded (Ruleset.size rules) capacity)⟩]
        else .ok rules := by
  obtain ⟨lines, unbuilt⟩ := List.append_eq_nil_iff.mp free
  have unread := (List.append_eq_nil_iff.mp lines).1
  have transcript := transcript_of_assembleRules (passes.built.trans (by rw [unbuilt]))
  refine ⟨passes.entries.map (·.1), ?_, ?_⟩
  · obtain ⟨order, spelled⟩ := of_readLines (passes.read.trans (by rw [unread]))
    rw [ruleLines, ← order, ← map_line_ruleStatements spelled, order]
    refine transcript.becomes passes.reportsConstants.2 fun line statement member => ?_
    apply states_of_mem_readLines
    rw [passes.read]
    exact mem_ruleStatements member
  · rw [passes.assemble_eq, free, Ruleset.encode_of_encodeRules transcript.encodeRules_eq]
    by_cases many : 254 < (passes.entries.map (·.1)).length
    · rw [if_pos many, if_pos many]
      rfl
    · rw [if_neg many, if_neg many]
      by_cases large : capacity < Ruleset.size (passes.entries.map (·.1))
      · rw [if_pos large, if_pos large]
        rfl
      · rw [if_neg large, if_neg large]
        rfl

end Passes

/-- The errors of the lines of a source, in three groups, and what becomes of the source with and
without such errors. -/
structure Diagnosis (source : String) (capacity : Nat)
    (unread undefined unbuilt : List AssemblyError) : Prop where
  statements : Reports Unreadable [] (sourceLines source) unread
  constants : Reports ConstantFault [] (sourceLines source) undefined
  rules : Reports (RuleFault (sourceLines source)) [] (sourceLines source) unbuilt
  ascending : ∀ group ∈ [unread, undefined, unbuilt], (group.filterMap (·.line)).Pairwise (· < ·)
  distinct : ((unread ++ undefined ++ unbuilt).map (·.line)).Nodup
  faulty : unread ++ undefined ++ unbuilt ≠ [] →
    assemble source capacity = .error (unread ++ undefined ++ unbuilt)
  sound : unread ++ undefined ++ unbuilt = [] →
    ∃ rules, List.Forall₂ (SourceLine.Becomes (sourceLines source)) (ruleLines source) rules ∧
      (assemble source capacity).map (·.rules) =
        if 254 < rules.length then .error [⟨none, .encoding (.tooManyRules rules.length)⟩]
        else if capacity < Ruleset.size rules then
          .error [⟨none, .encoding (.capacityExceeded (Ruleset.size rules) capacity)⟩]
        else .ok rules

/-- Exactly the faulty lines are reported, each with one error. An error without a line stands alone
and is about the ruleset as a whole. -/
theorem assembler_reports_faulty_lines (source : String) (capacity : Nat) :
    ∃ unread undefined unbuilt, Diagnosis source capacity unread undefined unbuilt := by
  let passes := Passes.run source
  have ordered := pairwise_number_sourceLines source
  have lines := passes.reportsUnread
  obtain ⟨constants, -⟩ := passes.reportsConstants
  have rules := passes.reportsRules
  refine ⟨passes.unread, located passes.undefined, passes.unbuilt, lines, constants, rules, ?_,
    passes.distinct, fun faulty => ?_, passes.assemble_of_free capacity⟩
  · simp only [List.forall_mem_cons, List.not_mem_nil, false_implies, implies_true, and_true]
    exact ⟨lines.ascending ordered, constants.ascending ordered, rules.ascending ordered⟩
  · rw [passes.assemble_eq, if_neg (mt List.isEmpty_iff.mp faulty)]

/-- A reserved name, an unknown name, a line that is no statement and a parameter of two bytes. The
last line is not a second definition, because the second line defines nothing. -/
def faultySource : String :=
  "const type = 1\nconst ON = LEVEL\nlamp on\nrule ON 300 when class == 20\nconst ON = 2\n"

example : assemble faultySource 64 = .error
    [⟨some 3, .statement (.unknownStatement "lamp")⟩, ⟨some 1, .constant (.reservedName "type")⟩,
      ⟨some 2, .constant (.undefinedConstant "LEVEL")⟩,
      ⟨some 4, .constant (.byteOutOfRange 300)⟩] := by
  decide +kernel

end Vscp.Source
