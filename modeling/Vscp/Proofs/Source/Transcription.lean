/-
This file proves that a successful assembly holds the rule statements of its source, each with its
bytes, its line and its place in the binary.
-/

import Vscp.Proofs.Rule.Encoding
import Vscp.Proofs.Source.Meaning

namespace Vscp.Source

/-- The lines whose first word is `rule`. -/
def ruleLines (source : String) : List SourceLine :=
  (sourceLines source).filter fun line => line.words.head?.any (sameWord · "rule")

/-- The rules among statements, with their lines. -/
def ruleStatements (statements : List (SourceLine × Statement)) :
    List (SourceLine × RuleStatement) :=
  statements.filterMap fun
    | (line, .rule statement) => some (line, statement)
    | _ => none

theorem mem_ruleStatements {statements : List (SourceLine × Statement)} {line : SourceLine}
    {statement : RuleStatement} (member : (line, statement) ∈ ruleStatements statements) :
    (line, .rule statement) ∈ statements := by
  obtain ⟨⟨first, kind⟩, listed, same⟩ := List.mem_filterMap.mp member
  cases kind with
  | blank => cases same
  | constant name value => cases same
  | rule rule =>
      cases same
      exact listed

/-- Rules and rows of a listing for statements, from an index and an offset on. -/
inductive Transcript (table : ConstantTable) :
    Nat → Nat → List (SourceLine × RuleStatement) → List (Rule × ListingEntry) → Prop where
  | nil {index offset : Nat} : Transcript table index offset [] []
  | cons {index offset : Nat} {line : SourceLine} {statement : RuleStatement} {rule : Rule}
      {bytes : List UInt8} {statements : List (SourceLine × RuleStatement)}
      {entries : List (Rule × ListingEntry)} (built : statement.rule table = .ok rule)
      (encoded : rule.encode index = .ok bytes)
      (later : Transcript table (index + 1) (offset + bytes.length) statements entries) :
      Transcript table index offset ((line, statement) :: statements)
        ((rule, ⟨offset, bytes, line.number, line.source⟩) :: entries)

theorem RuleStatement.of_assemble {table : ConstantTable} {index : Nat}
    {statement : RuleStatement} {rule : Rule} {bytes : List UInt8}
    (assembled : statement.assemble table index = .ok (rule, bytes)) :
    statement.rule table = .ok rule ∧ rule.encode index = .ok bytes := by
  unfold assemble at assembled
  split at assembled
  · cases assembled
  · rename_i built
    split at assembled
    · cases assembled
    · rename_i encoded
      cases assembled
      exact ⟨built, encoded⟩

/-- Rules that are assembled without errors are the transcript of their statements. -/
theorem transcript_of_assembleRules {table : ConstantTable} {index offset : Nat}
    {statements : List (SourceLine × Statement)} {entries : List (Rule × ListingEntry)}
    (assembled : assembleRules table index offset statements = (entries, [])) :
    Transcript table index offset (ruleStatements statements) entries := by
  induction statements generalizing index offset entries with
  | nil =>
      cases assembled
      exact .nil
  | cons first rest ih =>
      obtain ⟨line, statement⟩ := first
      cases statement with
      | blank => exact ih (by simpa [assembleRules] using assembled)
      | constant name value => exact ih (by simpa [assembleRules] using assembled)
      | rule statement =>
          rw [assembleRules] at assembled
          cases result : statement.assemble table index with
          | error cause =>
              rw [result] at assembled
              cases assembled
          | ok pair =>
              obtain ⟨rule, bytes⟩ := pair
              rw [result] at assembled
              obtain ⟨built, encoded⟩ := RuleStatement.of_assemble result
              obtain ⟨rfl, free⟩ := Prod.mk.inj assembled
              exact .cons built encoded (ih (Prod.ext rfl free))

/-- A transcript of the rule statements is what the statements are assembled to. -/
theorem Transcript.assembleRules_eq {table : ConstantTable} {index offset : Nat}
    {statements : List (SourceLine × Statement)} {entries : List (Rule × ListingEntry)}
    (transcript : Transcript table index offset (ruleStatements statements) entries) :
    assembleRules table index offset statements = (entries, []) := by
  induction statements generalizing index offset entries with
  | nil =>
      cases transcript
      rfl
  | cons first rest ih =>
      obtain ⟨line, statement⟩ := first
      cases statement with
      | blank => simpa [assembleRules] using ih transcript
      | constant name operand => simpa [assembleRules] using ih transcript
      | rule statement =>
          cases transcript with
          | cons built encoded rest =>
              simp [assembleRules, RuleStatement.assemble, built, encoded, ih rest]

namespace Transcript

variable {table : ConstantTable} {index offset : Nat}
variable {statements : List (SourceLine × RuleStatement)} {entries : List (Rule × ListingEntry)}

theorem length_eq (transcript : Transcript table index offset statements entries) :
    entries.length = statements.length := by
  induction transcript with
  | nil => rfl
  | cons _ _ _ ih => rw [List.length_cons, List.length_cons, ih]

/-- The rows come from the lines of the statements. -/
theorem map_line (transcript : Transcript table index offset statements entries) :
    entries.map (·.2.line) = statements.map (·.1.number) := by
  induction transcript with
  | nil => rfl
  | cons _ _ _ ih => rw [List.map_cons, List.map_cons, ih]

/-- Written as a whole, the rules have the bytes of their rows. -/
theorem encodeRules_eq (transcript : Transcript table index offset statements entries) :
    Ruleset.encodeRules index (entries.map (·.1)) = .ok (entries.flatMap (·.2.bytes)) := by
  induction transcript with
  | nil => rfl
  | cons _ encoded _ ih =>
      exact Ruleset.encodeRules_cons_eq_ok_iff.mpr ⟨_, _, encoded, ih, rfl⟩

/-- A row stands behind the bytes of those before it. -/
theorem of_getElem? (transcript : Transcript table index offset statements entries) {number : Nat}
    {line : SourceLine} {statement : RuleStatement}
    (there : statements[number]? = some (line, statement)) :
    ∃ rule bytes, statement.rule table = .ok rule ∧ rule.encode (index + number) = .ok bytes ∧
      entries[number]? = some (rule,
        ⟨offset + ((entries.take number).flatMap (·.2.bytes)).length, bytes, line.number,
          line.source⟩) := by
  induction transcript generalizing number with
  | nil => cases there
  | @cons index offset first statement' rule bytes statements entries built encoded _ ih =>
      cases number with
      | zero =>
          cases there
          exact ⟨rule, bytes, built, encoded, rfl⟩
      | succ number =>
          obtain ⟨found, code, built, encoded, place⟩ := ih there
          refine ⟨found, code, built, ?_, ?_⟩
          · rw [← encoded]
            congr 1
            omega
          · rw [List.getElem?_cons_succ, place, List.take_succ_cons, List.flatMap_cons,
              List.length_append, Nat.add_assoc]

end Transcript

/-- Only a rule is spelled by words that start with `rule`. -/
theorem Statement.Spelled.opens_rule_iff {words : List String} {statement : Statement}
    (spelled : statement.Spelled words) :
    words.head?.any (sameWord · "rule") = true ↔ ∃ rule, statement = .rule rule := by
  cases spelled with
  | blank => simp
  | constant opens _ _ => simp [sameWord_const_rule opens]
  | rule rule =>
      cases rule with
      | mk opens => simp [opens]

theorem Statement.Spelled.of_rule {words : List String} {statement : RuleStatement}
    (spelled : Statement.Spelled words (.rule statement)) : statement.Spelled words := by
  cases spelled with
  | rule written => exact written

/-- The rules among the statements of lines stand on the lines that start with `rule`. -/
theorem map_line_ruleStatements {statements : List (SourceLine × Statement)}
    (spelled : ∀ line statement, (line, statement) ∈ statements → statement.Spelled line.words) :
    (ruleStatements statements).map (·.1) =
      (statements.map (·.1)).filter fun line => line.words.head?.any (sameWord · "rule") := by
  induction statements with
  | nil => rfl
  | cons first rest ih =>
      obtain ⟨line, statement⟩ := first
      have others := ih fun line statement member =>
        spelled line statement (List.mem_cons_of_mem _ member)
      have opens := (spelled line statement List.mem_cons_self).opens_rule_iff
      rw [List.map_cons, List.filter_cons, ← others]
      cases statement with
      | rule statement =>
          rw [if_pos (opens.mpr ⟨statement, rfl⟩)]
          rfl
      | blank =>
          rw [if_neg fun rule => nomatch opens.mp rule]
          rfl
      | constant name value =>
          rw [if_neg fun rule => nomatch opens.mp rule]
          rfl

theorem spelled_of_getElem?_ruleStatements {statements : List (SourceLine × Statement)}
    (spelled : ∀ line statement, (line, statement) ∈ statements → statement.Spelled line.words)
    {number : Nat} {line : SourceLine} {statement : RuleStatement}
    (there : (ruleStatements statements)[number]? = some (line, statement)) :
    statement.Spelled line.words :=
  (spelled line _ (mem_ruleStatements (List.mem_of_getElem? there))).of_rule

/-- Lines are numbered upwards. -/
theorem pairwise_number_sourceLines (source : String) :
    (sourceLines source).Pairwise (·.number < ·.number) := by
  have indices : ((Text.lines source).zipIdx.map (·.2)).Pairwise (· < ·) := by
    rw [List.zipIdx_map_snd]
    exact List.pairwise_lt_range'
  rw [sourceLines, List.pairwise_map]
  exact (List.pairwise_map.mp indices).imp fun before => Nat.add_lt_add_right before 1

/-- The number of a line points at it. -/
theorem getElem?_of_mem_sourceLines {source : String} {line : SourceLine}
    (member : line ∈ sourceLines source) :
    1 ≤ line.number ∧ (Text.lines source)[line.number - 1]? = some line.text := by
  obtain ⟨⟨text, index⟩, listed, rfl⟩ := List.mem_map.mp member
  exact ⟨Nat.le_add_left 1 index, List.mem_zipIdx_iff_getElem?.mp listed⟩

/-- The bytes of a row stand behind those of the rows before it. -/
theorem take_drop_flatMap_bytes {entries : List ListingEntry} {number : Nat}
    {entry : ListingEntry} (there : entries[number]? = some entry) :
    ((entries.flatMap (·.bytes)).drop
      ((entries.take number).flatMap (·.bytes)).length).take entry.bytes.length = entry.bytes := by
  obtain ⟨within, found⟩ := List.getElem?_eq_some_iff.mp there
  have cut : entries.flatMap (·.bytes) = (entries.take number).flatMap (·.bytes) ++
      (entry.bytes ++ (entries.drop (number + 1)).flatMap (·.bytes)) := by
    rw [← List.flatMap_cons, ← found, ← List.drop_eq_getElem_cons within, ← List.flatMap_append,
      List.take_append_drop]
  rw [cut, List.drop_left, List.take_left]

/-- The rule and the row of a listing that a line has become. -/
structure Assembly.Transcribes (assembly : Assembly) (source : String) (number : Nat)
    (line : SourceLine) (rule : Rule) (entry : ListingEntry) : Prop where
  listed : assembly.rules[number]? = some rule
  row : assembly.listing[number]? = some entry
  means : ∃ statement : RuleStatement, statement.Spelled line.words ∧
    statement.Means (sourceLines source) rule
  encoded : rule.encode number = .ok entry.bytes
  numbered : entry.line = line.number
  pointed : 1 ≤ entry.line ∧ (Text.lines source)[entry.line - 1]? = some line.text
  shown : entry.source = line.source
  offset : entry.offset = 1 + ((assembly.listing.take number).flatMap (·.bytes)).length
  placed : (assembly.binary.drop entry.offset).take entry.bytes.length = entry.bytes

/-- What an assembly holds of its source, and nothing else. -/
structure Assembly.Complete (assembly : Assembly) (source : String) (capacity : Nat) : Prop where
  legible : ∀ line ∈ sourceLines source, ∃! statement : Statement, statement.Spelled line.words
  definite : ∀ operand first second, Operand.Value (sourceLines source) operand first →
    operand.Value (sourceLines source) second → first = second
  rules : assembly.rules.length = (ruleLines source).length
  rows : assembly.listing.length = (ruleLines source).length
  transcribed : ∀ number line, (ruleLines source)[number]? = some line →
    ∃ rule entry, assembly.Transcribes source number line rule entry
  ordered : assembly.listing.Pairwise (·.line < ·.line)
  few : assembly.rules.length ≤ 254
  binary : assembly.binary =
    UInt8.ofNat assembly.rules.length :: assembly.listing.flatMap (·.bytes)
  fits : assembly.binary.length ≤ capacity
  valid : Ruleset.validate assembly.binary = .ok assembly.rules.length

/-- The parts that a successful assembly is made of. -/
structure Assembly.MadeOf (assembly : Assembly) (source : String) (capacity : Nat)
    (statements : List (SourceLine × Statement)) (table : ConstantTable)
    (entries : List (Rule × ListingEntry)) : Prop where
  understood : Understood (sourceLines source) statements table
  transcript : Transcript table 0 1 (ruleStatements statements) entries
  encoded : Ruleset.encode (entries.map (·.1)) capacity = .ok assembly.binary
  rules : assembly.rules = entries.map (·.1)
  listing : assembly.listing = entries.map (·.2)

theorem exists_parts_of_assemble {source : String} {capacity : Nat} {assembly : Assembly}
    (assembled : assemble source capacity = .ok assembly) :
    ∃ statements table entries, assembly.MadeOf source capacity statements table entries := by
  unfold assemble at assembled
  split at assembled
  rename_i statements unread read
  split at assembled
  rename_i table undefined collected
  split at assembled
  rename_i entries failed built
  dsimp only at assembled
  split at assembled
  · rename_i free
    simp only [List.isEmpty_iff, List.append_eq_nil_iff, List.map_eq_nil_iff] at free
    obtain ⟨⟨rfl, rfl⟩, rfl⟩ := free
    split at assembled
    · rename_i binary encoded
      cases assembled
      exact ⟨statements, table, entries, ⟨read, collected⟩, transcript_of_assembleRules built,
        encoded, rfl, rfl⟩
    · cases assembled
  · cases assembled

namespace Assembly.MadeOf

variable {assembly : Assembly} {source : String} {capacity : Nat}
variable {statements : List (SourceLine × Statement)} {table : ConstantTable}
variable {entries : List (Rule × ListingEntry)}

/-- Nothing else than the parts is needed. -/
theorem assembled (parts : assembly.MadeOf source capacity statements table entries) :
    assemble source capacity = .ok assembly := by
  unfold assemble
  simp only [parts.understood.read, parts.understood.collected, parts.transcript.assembleRules_eq,
    List.map_nil, List.append_nil, List.isEmpty_nil, if_true, parts.encoded]
  rw [← parts.rules, ← parts.listing]

/-- The rule statements are those of the lines that start with `rule`. -/
theorem lines (parts : assembly.MadeOf source capacity statements table entries) :
    (ruleStatements statements).map (·.1) = ruleLines source := by
  obtain ⟨order, spelled⟩ := of_readLines parts.understood.read
  rw [map_line_ruleStatements spelled, order, ruleLines]

theorem length_entries (parts : assembly.MadeOf source capacity statements table entries) :
    entries.length = (ruleLines source).length := by
  rw [← parts.lines, List.length_map, parts.transcript.length_eq]

/-- The ruleset that is written as a whole is made of the rows, which are written one by one. -/
theorem binary (parts : assembly.MadeOf source capacity statements table entries) :
    assembly.rules.length ≤ 254 ∧
      assembly.binary =
        UInt8.ofNat assembly.rules.length :: assembly.listing.flatMap (·.bytes) ∧
      assembly.binary.length ≤ capacity := by
  obtain ⟨few, whole, written, fits, binary⟩ := Ruleset.encode_eq_ok_iff.mp parts.encoded
  -- Both encodings write the same rules, so they cannot drift apart.
  rw [parts.transcript.encodeRules_eq] at written
  cases written
  refine ⟨by rwa [parts.rules], ?_, ?_⟩
  · rw [← binary, parts.rules, parts.listing, List.flatMap_map]
  · rwa [← binary, List.length_cons]

theorem ordered (parts : assembly.MadeOf source capacity statements table entries) :
    assembly.listing.Pairwise (·.line < ·.line) := by
  have numbers : assembly.listing.map (·.line) = (ruleLines source).map (·.number) := by
    rw [parts.listing, List.map_map, ← parts.lines, List.map_map]
    exact parts.transcript.map_line
  rw [← List.pairwise_map, numbers, List.pairwise_map]
  exact (pairwise_number_sourceLines source).filter _

theorem transcribes (parts : assembly.MadeOf source capacity statements table entries)
    {number : Nat} {line : SourceLine} (there : (ruleLines source)[number]? = some line) :
    ∃ rule entry, assembly.Transcribes source number line rule entry := by
  have member : line ∈ sourceLines source := (List.mem_filter.mp (List.mem_of_getElem? there)).1
  rw [← parts.lines, List.getElem?_map, Option.map_eq_some_iff] at there
  obtain ⟨⟨line, statement⟩, there, rfl⟩ := there
  obtain ⟨rule, bytes, built, encoded, place⟩ := parts.transcript.of_getElem? there
  have before : (entries.take number).flatMap (·.2.bytes) =
      (assembly.listing.take number).flatMap (·.bytes) := by
    rw [parts.listing, ← List.map_take, List.flatMap_map]
  rw [before] at place
  rw [Nat.zero_add] at encoded
  have row := congrArg (Option.map (·.2)) place
  rw [← List.getElem?_map, ← parts.listing, Option.map_some] at row
  have placed : (assembly.binary.drop
      (1 + ((assembly.listing.take number).flatMap (·.bytes)).length)).take bytes.length =
        bytes := by
    rw [parts.binary.2.1, Nat.add_comm, List.drop_succ_cons]
    exact take_drop_flatMap_bytes row
  obtain ⟨-, spelled⟩ := of_readLines parts.understood.read
  exact ⟨rule, _, {
    listed := by rw [parts.rules, List.getElem?_map, place, Option.map_some]
    row := row
    means := ⟨statement, spelled_of_getElem?_ruleStatements spelled there,
      parts.understood.means_of_rule built⟩
    encoded := encoded
    numbered := rfl
    pointed := getElem?_of_mem_sourceLines member
    shown := rfl
    offset := rfl
    placed := placed }⟩

end Assembly.MadeOf

/-- A successful assembly is complete and consistent: the rule statements of the source are its
rules and the rows of its listing, one by one, and the binary is made of the rows. -/
theorem assembly_complete {source : String} {capacity : Nat} {assembly : Assembly}
    (assembled : assemble source capacity = .ok assembly) : assembly.Complete source capacity := by
  obtain ⟨statements, table, entries, parts⟩ := exists_parts_of_assemble assembled
  obtain ⟨few, binary, fits⟩ := parts.binary
  have valid := Ruleset.validate_encode parts.encoded []
  rw [List.append_nil, ← parts.rules] at valid
  exact {
    legible := fun line member =>
      let ⟨statement, _, spelled⟩ := parts.understood.exists_statement member
      ⟨statement, spelled, fun _ other => other.unique spelled⟩
    definite := fun _ _ _ => parts.understood.value_unique
    rules := by rw [parts.rules, List.length_map, parts.length_entries]
    rows := by rw [parts.listing, List.length_map, parts.length_entries]
    transcribed := fun _ _ => parts.transcribes
    ordered := parts.ordered
    few := few
    binary := binary
    fits := fits
    valid := valid }

/-- A comment, a constant and two rules of a lamp. -/
def lampSource : String :=
  "; lamp controller\nconst LAMP_ON = 0x10\n\n" ++
    "rule LAMP_ON 3 when class == 20 and type > 3 or data0 == 1\n" ++
    "rule 0x22 0 when u16@1 >= 0x0100   ; dimmer level\n"

def lampAssembly : Assembly where
  binary := [2, 13, 0x10, 3, 0x10, 0x00, 0, 20, 0x22, 0x01, 3, 0x00, 0x10, 1,
    7, 0x22, 0, 0x03, 0x21, 1, 0]
  rules := Ruleset.lampRules
  listing := [
    ⟨1, [13, 0x10, 3, 0x10, 0x00, 0, 20, 0x22, 0x01, 3, 0x00, 0x10, 1], 4,
      "rule LAMP_ON 3 when class == 20 and type > 3 or data0 == 1"⟩,
    ⟨14, [7, 0x22, 0, 0x03, 0x21, 1, 0], 5, "rule 0x22 0 when u16@1 >= 0x0100"⟩]

theorem lampAssembly_complete :
    assemble lampSource 64 = .ok lampAssembly ∧ lampAssembly.Complete lampSource 64 := by
  have assembled : assemble lampSource 64 = .ok lampAssembly := by decide +kernel
  exact ⟨assembled, assembly_complete assembled⟩

end Vscp.Source
