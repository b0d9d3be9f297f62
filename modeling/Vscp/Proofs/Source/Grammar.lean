/-
This file says which words spell a statement of a rule source and proves that the statement read
from a line is the one that the words of the line spell.
-/

import Vscp.Proofs.Except
import Vscp.Proofs.Source.Literal
import Vscp.Source.Assembly

namespace Vscp.Source

/-- The words of a text: what blanks keep apart, unless it is empty. -/
def wordsOf (text : List Char) : List String :=
  ((text.splitOnP Text.isBlank).filter (!·.isEmpty)).map String.ofList

/-- The words of a line before its comment. -/
def SourceLine.words (line : SourceLine) : List String :=
  wordsOf (beforeComment line.text)

/-- A word with a digit in front is a number, and a name is the name of a constant. -/
inductive Operand.Spelled : String → Operand → Prop where
  | literal {word : String} {value : Nat} (digit : word.toList.head?.any Char.isDigit = true)
      (number : IsLiteral word.toList value) : Spelled word (.literal value)
  | name {word : String} (named : isName word.toList = true) : Spelled word (.name word)

/-- The three words of a condition. -/
structure Term.Spelled (field comparison operand : String) (term : Term) : Prop where
  field : term.field.Spelled field
  comparison : term.comparison.symbol = comparison
  operand : term.operand.Spelled operand

/-- Conditions with their connectives between them; the last one has none. -/
inductive Term.ChainSpelled : List String → List Term → Prop where
  | last {field comparison operand : String} {term : Term}
      (spelled : term.Spelled field comparison operand) (ends : term.connective = .last) :
      ChainSpelled [field, comparison, operand] [term]
  | joined {field comparison operand joiner : String} {words : List String} {term : Term}
      {later : List Term} (spelled : term.Spelled field comparison operand)
      (joins : term.connective ≠ .last)
      (keyword : sameWord term.connective.keyword joiner = true)
      (others : ChainSpelled words later) :
      ChainSpelled (field :: comparison :: operand :: joiner :: words) (term :: later)

/-- The word `rule`, an action, its parameter, the word `when` and a chain of conditions. -/
inductive RuleStatement.Spelled : List String → RuleStatement → Prop where
  | mk {keyword action param bridge : String} {words : List String} {statement : RuleStatement}
      (opens : sameWord keyword "rule" = true) (act : statement.action.Spelled action)
      (parameter : statement.param.Spelled param) (goesOn : sameWord bridge "when" = true)
      (chain : Term.ChainSpelled words statement.terms) :
      Spelled (keyword :: action :: param :: bridge :: words) statement

/-- No word, a constant with its value, or a rule. -/
inductive Statement.Spelled : List String → Statement → Prop where
  | blank : Spelled [] .blank
  | constant {keyword name word : String} {value : Operand}
      (opens : sameWord keyword "const" = true) (named : isName name.toList = true)
      (spelled : value.Spelled word) : Spelled [keyword, name, "=", word] (.constant name value)
  | rule {words : List String} {statement : RuleStatement} (spelled : statement.Spelled words) :
      Spelled words (.rule statement)

/-- Only a capital letter has another lower case, which is a letter. -/
theorem eq_of_toLower_equals {character : Char} (lowered : character.toLower = '=') :
    character = '=' := by
  unfold Char.toLower at lowered
  split at lowered
  · rename_i capital
    obtain ⟨first, last⟩ := capital
    have code := congrArg (·.val.toNat) lowered
    simp only [ge_iff_le, UInt32.le_iff_toNat_le] at first last
    change 65 ≤ character.val.toNat at first
    change character.val.toNat ≤ 90 at last
    change (character.val + 32).toNat = 61 at code
    rw [UInt32.toNat_add] at code
    change (character.val.toNat + 32) % 4294967296 = 61 at code
    omega
  · exact lowered

theorem eq_of_sameWord_equals {word : String} (same : sameWord word "=" = true) : word = "=" := by
  have letters : word.toList.map Char.toLower = ['='] := by
    simpa [sameWord, lower] using same
  obtain ⟨character, spelled, lowered⟩ := List.map_eq_singleton_iff.mp letters
  rw [← String.ofList_toList (s := word), spelled, eq_of_toLower_equals lowered]

namespace Token

theorem map_text_cons (word : List Char) (column : Nat) (later : List Token) :
    (cons word column later).map (·.text) =
      (([word].filter (!·.isEmpty)).map String.ofList) ++ later.map (·.text) := by
  cases word <;> simp [cons]

/-- A text is cut at its blanks. -/
theorem splitOnP_split (column : Nat) (characters : List Char) :
    ∃ runs, characters.splitOnP Text.isBlank = (split column characters).1 :: runs ∧
      (split column characters).2.map (·.text) =
        (runs.filter (!·.isEmpty)).map String.ofList := by
  induction characters generalizing column with
  | nil => exact ⟨[], rfl, rfl⟩
  | cons character rest ih =>
      obtain ⟨runs, cut, later⟩ := ih (column + character.utf8Size)
      rw [List.splitOnP_cons_eq_if_modifyHead, cut, split]
      dsimp only
      split
      · refine ⟨_, rfl, ?_⟩
        rw [map_text_cons, later, ← List.map_append, ← List.filter_append, List.singleton_append]
      · exact ⟨runs, rfl, later⟩

theorem map_text_all_eq_wordsOf (text : List Char) : (all text).map (·.text) = wordsOf text := by
  obtain ⟨runs, cut, later⟩ := splitOnP_split 1 text
  rw [all, wordsOf, cut]
  dsimp only
  rw [map_text_cons, later, ← List.map_append, ← List.filter_append, List.singleton_append]

theorem next_eq_ok_iff {stop : Nat} {expected : Expectation} {tokens rest : List Token}
    {token : Token} :
    next stop expected tokens = .ok (token, rest) ↔ tokens = token :: rest := by
  cases tokens <;> simp [next]

theorem of_skip {stop : Nat} {word : String} {expected : Expectation} {tokens rest : List Token}
    (skipped : skip stop word expected tokens = .ok rest) :
    ∃ token, tokens = token :: rest ∧ sameWord token.text word = true := by
  obtain ⟨⟨token, later⟩, read, same⟩ := bind_eq_ok_iff.mp skipped
  dsimp only at same
  split at same
  · rename_i matched
    cases same
    exact ⟨token, next_eq_ok_iff.mp read, matched⟩
  · cases same

theorem of_finish {tokens : List Token} (finished : finish tokens = .ok ()) : tokens = [] := by
  cases tokens with
  | nil => rfl
  | cons token rest => cases finished

end Token

theorem Operand.spelled_of_ofToken {token : Token} {operand : Operand}
    (read : ofToken token = .ok operand) : operand.Spelled token.text := by
  unfold ofToken at read
  dsimp only at read
  split at read
  · rename_i digit
    split at read
    · rename_i value number
      cases read
      exact .literal digit (literal?_eq_some_iff.mp number)
    · cases read
  · split at read
    · rename_i named
      cases read
      exact .name named
    · cases read

theorem Term.spelled_of_ofTokens {field comparison operand : Token} {term : Term}
    (read : ofTokens field comparison operand = .ok term) :
    term.Spelled field.text comparison.text operand.text ∧ term.connective = .last := by
  obtain ⟨place, first, read⟩ := bind_eq_ok_iff.mp read
  obtain ⟨test, second, read⟩ := bind_eq_ok_iff.mp read
  obtain ⟨value, third, read⟩ := bind_eq_ok_iff.mp read
  cases read
  refine ⟨⟨?_, ?_, Operand.spelled_of_ofToken third⟩, rfl⟩
  · unfold fieldOf at first
    split at first
    · rename_i named
      cases first
      exact Field.spelled_of_ofName? named
    · cases first
  · unfold comparisonOf at second
    split at second
    · rename_i found
      cases second
      simpa using List.find?_some found
    · cases second

theorem keyword_of_connectiveOf {token : Token} {connective : Connective}
    (read : connectiveOf token = .ok connective) :
    connective ≠ .last ∧ sameWord connective.keyword token.text = true := by
  unfold connectiveOf at read
  split at read
  · rename_i found
    cases read
    unfold Connective.ofKeyword? at found
    have same := List.find?_some found
    have listed := List.mem_of_find?_eq_some found
    refine ⟨?_, same⟩
    rintro rfl
    simp at listed
  · cases read

/-- The terms that are read follow the words three by three. -/
theorem Term.chainSpelled_of_all {stop : Nat} {tokens : List Token} {terms : List Term}
    (read : all stop tokens = .ok terms) : ChainSpelled (tokens.map (·.text)) terms := by
  induction tokens using all.induct generalizing terms with
  | case1 field comparison operand rest ih =>
      unfold all at read
      obtain ⟨term, first, read⟩ := bind_eq_ok_iff.mp read
      obtain ⟨spelled, ends⟩ := spelled_of_ofTokens first
      cases rest with
      | nil =>
          cases read
          exact .last spelled ends
      | cons joiner rest =>
          obtain ⟨connective, keyword, read⟩ := bind_eq_ok_iff.mp read
          obtain ⟨later, others, read⟩ := bind_eq_ok_iff.mp read
          cases read
          obtain ⟨joins, same⟩ := keyword_of_connectiveOf keyword
          exact .joined ⟨spelled.field, spelled.comparison, spelled.operand⟩ joins same (ih others)
  | case2 tokens short =>
      rw [all] at read
      · cases read
      · exact short

namespace Statement

theorem spelled_of_constantOf {stop : Nat} {keyword : String} {tokens : List Token}
    {statement : Statement} (opens : sameWord keyword "const" = true)
    (read : constantOf stop tokens = .ok statement) :
    statement.Spelled (keyword :: tokens.map (·.text)) := by
  obtain ⟨⟨name, afterName⟩, first, checked⟩ := bind_eq_ok_iff.mp read
  obtain rfl := Token.next_eq_ok_iff.mp first
  dsimp only at checked
  split at checked
  · rename_i named
    obtain ⟨afterSign, second, read⟩ := bind_eq_ok_iff.mp checked
    obtain ⟨⟨word, afterWord⟩, third, read⟩ := bind_eq_ok_iff.mp read
    obtain ⟨value, fourth, read⟩ := bind_eq_ok_iff.mp read
    obtain ⟨⟨⟩, finished, read⟩ := bind_eq_ok_iff.mp read
    cases read
    obtain ⟨sign, rfl, equals⟩ := Token.of_skip second
    obtain rfl := Token.next_eq_ok_iff.mp third
    obtain rfl := Token.of_finish finished
    simp only [List.map_cons, List.map_nil, eq_of_sameWord_equals equals]
    exact .constant opens named (Operand.spelled_of_ofToken fourth)
  · cases checked

theorem spelled_of_ruleOf {stop : Nat} {keyword : String} {tokens : List Token}
    {statement : Statement} (opens : sameWord keyword "rule" = true)
    (read : ruleOf stop tokens = .ok statement) :
    statement.Spelled (keyword :: tokens.map (·.text)) := by
  obtain ⟨⟨action, afterAction⟩, first, read⟩ := bind_eq_ok_iff.mp read
  obtain ⟨act, second, read⟩ := bind_eq_ok_iff.mp read
  obtain ⟨⟨param, afterParam⟩, third, read⟩ := bind_eq_ok_iff.mp read
  obtain ⟨parameter, fourth, read⟩ := bind_eq_ok_iff.mp read
  obtain ⟨chain, fifth, read⟩ := bind_eq_ok_iff.mp read
  obtain ⟨terms, sixth, read⟩ := bind_eq_ok_iff.mp read
  cases read
  obtain rfl := Token.next_eq_ok_iff.mp first
  obtain rfl := Token.next_eq_ok_iff.mp third
  obtain ⟨bridge, rfl, goesOn⟩ := Token.of_skip fifth
  exact .rule (.mk opens (Operand.spelled_of_ofToken second) (Operand.spelled_of_ofToken fourth)
    goesOn (Term.chainSpelled_of_all sixth))

theorem spelled_of_ofTokens {stop : Nat} {tokens : List Token} {statement : Statement}
    (read : ofTokens stop tokens = .ok statement) :
    statement.Spelled (tokens.map (·.text)) := by
  cases tokens with
  | nil =>
      cases read
      exact .blank
  | cons first rest =>
      rw [ofTokens] at read
      split at read
      · rename_i opens
        exact spelled_of_constantOf opens read
      · split at read
        · rename_i opens
          exact spelled_of_ruleOf opens read
        · cases read

/-- What is read from a line is spelled by its words. -/
theorem spelled_of_ofLine {line : SourceLine} {statement : Statement}
    (read : ofLine line.text = .ok statement) : statement.Spelled line.words := by
  rw [SourceLine.words, ← Token.map_text_all_eq_wordsOf]
  exact spelled_of_ofTokens read

end Statement

theorem not_digit_of_isName {word : List Char} (named : isName word = true) :
    ¬word.head?.any Char.isDigit = true := by
  cases word with
  | nil => simp
  | cons first rest =>
      intro digit
      simp only [isName, Bool.and_eq_true, Bool.or_eq_true, beq_iff_eq] at named
      rw [List.head?_cons, Option.any_some] at digit
      rcases named.1 with letter | rfl
      · change ((65 ≤ first.val ∧ first.val ≤ 90 : Bool) ||
          (97 ≤ first.val && first.val ≤ 122)) = true at letter
        change (48 ≤ first.val && first.val ≤ 57) = true at digit
        simp only [Bool.or_eq_true, Bool.and_eq_true, decide_eq_true_eq,
          UInt32.le_iff_toNat_le] at letter digit
        change 65 ≤ first.toNat ∧ first.toNat ≤ 90 ∨ 97 ≤ first.toNat ∧ first.toNat ≤ 122
          at letter
        change 48 ≤ first.toNat ∧ first.toNat ≤ 57 at digit
        omega
      · cases digit

/-- A name does not start with a digit, so a word spells one operand at most. -/
theorem Operand.Spelled.unique {word : String} {first second : Operand}
    (left : first.Spelled word) (right : second.Spelled word) : first = second := by
  cases left with
  | literal digit number =>
      cases right with
      | literal _ again =>
          rw [← literal?_eq_some_iff] at number again
          rw [number] at again
          cases again
          rfl
      | name named => exact absurd digit (not_digit_of_isName named)
  | name named =>
      cases right with
      | literal digit _ => exact absurd digit (not_digit_of_isName named)
      | name _ => rfl

theorem sameWord_const_rule {word : String} (const : sameWord word "const" = true) :
    sameWord word "rule" = false := by
  rw [sameWord, beq_iff_eq] at const
  rw [sameWord, const]
  decide

theorem comparison_unique {first second : Comparison} (same : first.symbol = second.symbol) :
    first = second := by
  have each : ∀ first ∈ Comparison.all, ∀ second ∈ Comparison.all,
      first.symbol = second.symbol → first = second := by decide
  exact each first (by cases first <;> decide) second (by cases second <;> decide) same

/-- A joined condition is told from the last one by its connective, and `and` from `or` by its
keyword. -/
theorem connective_unique {joiner : String} {first second : Connective} (left : first ≠ .last)
    (right : second ≠ .last) (same : sameWord first.keyword joiner = true)
    (again : sameWord second.keyword joiner = true) : first = second := by
  rw [sameWord, beq_iff_eq] at same again
  rw [← again] at same
  cases first <;> cases second <;> first | rfl | contradiction

theorem Term.Spelled.unique {field comparison operand : String} {first second : Term}
    (left : first.Spelled field comparison operand)
    (right : second.Spelled field comparison operand)
    (connective : first.connective = second.connective) : first = second := by
  have symbols := left.comparison.trans right.comparison.symm
  cases first
  cases second
  simp only [mk.injEq]
  exact ⟨left.field.unique right.field, comparison_unique symbols,
    left.operand.unique right.operand, connective⟩

theorem Term.ChainSpelled.unique {words : List String} {first second : List Term}
    (left : ChainSpelled words first) (right : ChainSpelled words second) : first = second := by
  induction left generalizing second with
  | last spelled ends =>
      cases right with
      | last again stops => rw [spelled.unique again (ends.trans stops.symm)]
  | joined spelled joins keyword _ ih =>
      cases right with
      | joined again links joiner others =>
          have connective := connective_unique joins links keyword joiner
          rw [spelled.unique again connective, ih others]

theorem RuleStatement.Spelled.unique {words : List String} {first second : RuleStatement}
    (left : first.Spelled words) (right : second.Spelled words) : first = second := by
  cases left with
  | mk _ act parameter _ chain =>
      cases right with
      | mk _ actAgain parameterAgain _ chainAgain =>
          cases first
          cases second
          simp only [mk.injEq]
          exact ⟨act.unique actAgain, parameter.unique parameterAgain, chain.unique chainAgain⟩

/-- Words that declare a constant spell no rule. -/
theorem RuleStatement.Spelled.not_constant {keyword : String} {words : List String}
    {statement : RuleStatement} (spelled : statement.Spelled (keyword :: words))
    (opens : sameWord keyword "const" = true) : False := by
  cases spelled with
  | mk begins =>
      rw [sameWord_const_rule opens] at begins
      cases begins

/-- The grammar is unambiguous: words spell one statement at most. -/
theorem Statement.Spelled.unique {words : List String} {first second : Statement}
    (left : first.Spelled words) (right : second.Spelled words) : first = second := by
  cases left with
  | blank =>
      cases right with
      | blank => rfl
      | rule rule => cases rule
  | constant opens _ value =>
      cases right with
      | constant _ _ again => rw [value.unique again]
      | rule rule => exact (rule.not_constant opens).elim
  | rule rule =>
      cases right with
      | blank => cases rule
      | constant opens => exact (rule.not_constant opens).elim
      | rule again => rw [rule.unique again]

end Vscp.Source
