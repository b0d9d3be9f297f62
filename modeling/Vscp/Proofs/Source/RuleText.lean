/-
This file proves that the source of a rule is read back as the statement of this rule.
-/

import Vscp.Proofs.Rule.Site
import Vscp.Proofs.Source.Token
import Vscp.Proofs.Text.Numeral
import Vscp.Source.Assembly

namespace Vscp

open Source

namespace Numeral

theorem isWord_decimal (value : Nat) : IsWord (decimal value).toList := by
  constructor
  · rw [decimal, String.toList_ofList]
    exact write_ne_nil 10 value
  · intro character member
    apply isPlain_of_isAlphanum
    simp [Char.isAlphanum, isDigit_of_mem_decimal member]

theorem isWord_capitalHexadecimal (width value : Nat) :
    IsWord ('0' :: 'x' :: (capitalHexadecimal width value).toList) := by
  refine ⟨by simp, ?_⟩
  intro character member
  simp only [List.mem_cons] at member
  rcases member with rfl | rfl | member
  · decide
  · decide
  · exact isPlain_of_isAlphanum (isAlphanum_of_mem_capitalHexadecimal member)

end Numeral

namespace Source

/-- Digits alone are a decimal number. -/
theorem literal?_of_isDigit {characters : List Char}
    (digits : ∀ character ∈ characters, character.isDigit = true) :
    literal? characters = Numeral.readBelow? 10 literalBound characters := by
  have second {first letter : Char} {rest : List Char} (same : characters = first :: letter :: rest)
      (other : letter.isDigit = false) : False := by
    have digit := digits letter (by simp [same])
    rw [other] at digit
    cases digit
  unfold literal?
  split
  · exact (second rfl (by decide)).elim
  · exact (second rfl (by decide)).elim
  · exact (second rfl (by decide)).elim
  · exact (second rfl (by decide)).elim
  · rfl

theorem operand_decimal {value column : Nat} (small : value < literalBound) :
    Operand.ofToken ⟨Numeral.decimal value, column⟩ = .ok (.literal value) := by
  obtain ⟨present, -⟩ := Numeral.isWord_decimal value
  obtain ⟨first, rest, spelled⟩ := List.exists_cons_of_ne_nil present
  have member : first ∈ (Numeral.decimal value).toList := by simp [spelled]
  have digit : first.isDigit = true := Numeral.isDigit_of_mem_decimal member
  have read : literal? (Numeral.decimal value).toList = some value := by
    rw [literal?_of_isDigit fun _ => Numeral.isDigit_of_mem_decimal]
    rw [Numeral.decimal, String.toList_ofList]
    exact Numeral.readBelow?_write_decimal small
  have starts : (Numeral.decimal value).toList.head?.any Char.isDigit = true := by
    simp [spelled, digit]
  simp [Operand.ofToken, starts, read]

theorem operand_capitalHexadecimal {width value column : Nat} (small : value < literalBound) :
    Operand.ofToken
      ⟨String.ofList ('0' :: 'x' :: (Numeral.capitalHexadecimal width value).toList), column⟩ =
        .ok (.literal value) := by
  have read : literal? ('0' :: 'x' :: (Numeral.capitalHexadecimal width value).toList) =
      some value := Numeral.readBelow?_capitalHexadecimal small
  have digit : '0'.isDigit = true := by decide
  simp [Operand.ofToken, digit, read]

end Source

theorem Field.isWord_name {field : Field} {id : UInt8} (named : field.id? = some id) :
    IsWord field.name.toList := by
  have each : ∀ field ∈ all, IsWord field.name.toList := by decide +kernel
  exact each field (mem_all_of_id? named)

/-- A field is read from its own name. -/
theorem Field.ofName?_name {field : Field} {id : UInt8} (named : field.id? = some id) :
    ofName? field.name = some field := by
  have each : ∀ field ∈ all, ofName? field.name = some field := by decide +kernel
  exact each field (mem_all_of_id? named)

theorem Comparison.isWord_symbol (comparison : Comparison) : IsWord comparison.symbol.toList := by
  cases comparison <;> decide

theorem Comparison.ofSymbol?_symbol (comparison : Comparison) :
    ofSymbol? comparison.symbol = some comparison := by
  cases comparison <;> decide

theorem Connective.isWord_keyword (connective : Connective) :
    IsWord connective.keyword.toList := by
  cases connective <;> decide

theorem Connective.ofKeyword?_keyword {connective : Connective} (joined : connective ≠ .last) :
    ofKeyword? connective.keyword = some connective := by
  cases connective with
  | last => exact absurd rfl joined
  | and => decide
  | or => decide

namespace Condition

def words (condition : Condition) : List (List Char) :=
  [condition.field.name.toList, condition.comparison.symbol.toList,
    (Numeral.decimal condition.operand).toList]

/-- The term that the source of a condition stands for. -/
def term (condition : Condition) : Term :=
  ⟨condition.field, condition.comparison, .literal condition.operand, condition.connective⟩

/-- A condition is printed exactly when its bytes can be read. -/
structure Legible (condition : Condition) : Prop where
  named : ∃ id, condition.field.id? = some id
  small : condition.operand < literalBound

theorem legible_of_decode {cursor next : RuleCursor} {condition : Condition}
    (read : decode cursor = .ok (condition, next)) : condition.Legible := by
  obtain ⟨bytes, encoded, -⟩ := (decode_eq_ok_iff 0).mp read
  obtain ⟨id, named, fits, -⟩ := encode_eq_ok_iff.mp encoded
  refine ⟨⟨id, named⟩, ?_⟩
  have widest : Bytes.bound condition.field.width ≤ Bytes.bound 4 :=
    Nat.pow_le_pow_right (by decide) condition.field.width_le
  exact Nat.lt_of_lt_of_le fits widest

theorem isWord_of_mem_words {condition : Condition} (legible : condition.Legible) :
    ∀ word ∈ condition.words, IsWord word := by
  obtain ⟨id, named⟩ := legible.named
  intro word member
  simp only [words, List.mem_cons, List.not_mem_nil, or_false] at member
  rcases member with rfl | rfl | rfl
  · exact Field.isWord_name named
  · exact Comparison.isWord_symbol _
  · exact Numeral.isWord_decimal _

theorem toList_source (condition : Condition) :
    ' ' :: condition.source.toList = spaced condition.words := by
  simp [source, words]

/-- The three words of a condition make its term, wherever they stand. -/
theorem term_of_words {condition : Condition} (legible : condition.Legible)
    (first second third : Nat) :
    Term.ofTokens ⟨condition.field.name, first⟩ ⟨condition.comparison.symbol, second⟩
      ⟨Numeral.decimal condition.operand, third⟩ =
        .ok { condition.term with connective := .last } := by
  obtain ⟨id, named⟩ := legible.named
  simp only [Term.ofTokens, fieldOf, Field.ofName?_name named, comparisonOf,
    Comparison.ofSymbol?_symbol, operand_decimal legible.small]
  rfl

/-- Tokens that start with the words of a condition. -/
theorem tokens_of_words {condition : Condition} {rest : List (List Char)} {tokens : List Token}
    (texts : tokens.map (·.text) = (condition.words ++ rest).map String.ofList) :
    ∃ first second third later, tokens =
        ⟨condition.field.name, first⟩ :: ⟨condition.comparison.symbol, second⟩ ::
          ⟨Numeral.decimal condition.operand, third⟩ :: later ∧
      later.map (·.text) = rest.map String.ofList := by
  simp only [words, List.cons_append, List.nil_append, List.map_cons, String.ofList_toList]
    at texts
  obtain ⟨⟨-, first⟩, afterField, rfl, rfl, texts'⟩ := List.map_eq_cons_iff.mp texts
  obtain ⟨⟨-, second⟩, afterSymbol, rfl, rfl, texts''⟩ := List.map_eq_cons_iff.mp texts'
  obtain ⟨⟨-, third⟩, later, rfl, rfl, remaining⟩ := List.map_eq_cons_iff.mp texts''
  exact ⟨first, second, third, later, rfl, remaining⟩

end Condition

namespace Chain

def words : List Condition → List (List Char)
  | [] => []
  | condition :: rest =>
      condition.words ++
        if condition.connective = .last then []
        else condition.connective.keyword.toList :: words rest

theorem toList_source (conditions : List Condition) :
    (source conditions).toList = spaced (words conditions) := by
  induction conditions with
  | nil => rfl
  | cons condition rest ih =>
      have first := condition.toList_source
      unfold source words
      by_cases last : condition.connective = .last
      · simp [last, ← first]
      · simp [last, ← first, ih]

/-- Every word of a chain that was read is a word. -/
theorem isWord_of_mem_words {cursor : RuleCursor} {conditions : List Condition}
    (decoded : decode cursor = .ok conditions) : ∀ word ∈ words conditions, IsWord word := by
  fun_induction decode cursor generalizing conditions with
  | case1 cursor flaw failed => cases decoded
  | case2 cursor condition next read last done =>
      cases decoded
      simpa [words, last] using Condition.isWord_of_mem_words (Condition.legible_of_decode read)
  | case3 cursor condition next read last more => cases decoded
  | case4 cursor condition next read joined ih =>
      obtain ⟨later, others, rfl⟩ := map_eq_ok_iff.mp decoded
      intro word member
      rw [words, if_neg joined] at member
      rcases List.mem_append.mp member with own | member
      · exact Condition.isWord_of_mem_words (Condition.legible_of_decode read) word own
      · rcases List.mem_cons.mp member with rfl | member
        · exact Connective.isWord_keyword _
        · exact ih others word member

/-- The words of a chain that was read make its terms. -/
theorem terms_of_words {cursor : RuleCursor} {conditions : List Condition}
    (decoded : decode cursor = .ok conditions) (stop : Nat) {tokens : List Token}
    (texts : tokens.map (·.text) = (words conditions).map String.ofList) :
    Term.all stop tokens = .ok (conditions.map Condition.term) := by
  fun_induction decode cursor generalizing conditions tokens with
  | case1 cursor flaw failed => cases decoded
  | case2 cursor condition next read last done =>
      cases decoded
      simp only [words, last, ↓reduceIte] at texts
      obtain ⟨first, second, third, later, rfl, remaining⟩ := Condition.tokens_of_words texts
      obtain rfl : later = [] := List.map_eq_nil_iff.mp remaining
      have term := Condition.term_of_words (Condition.legible_of_decode read) first second third
      rw [Term.all, term]
      simp only [List.map_cons, List.map_nil, ← last]
      rfl
  | case3 cursor condition next read last more => cases decoded
  | case4 cursor condition next read joined ih =>
      obtain ⟨later, others, rfl⟩ := map_eq_ok_iff.mp decoded
      simp only [words, joined, ↓reduceIte] at texts
      obtain ⟨first, second, third, afterTerm, rfl, remaining⟩ := Condition.tokens_of_words texts
      obtain ⟨⟨text, column⟩, afterKeyword, rfl, spelled, following⟩ :=
        List.map_eq_cons_iff.mp remaining
      obtain rfl : text = condition.connective.keyword := spelled.trans String.ofList_toList
      have term := Condition.term_of_words (Condition.legible_of_decode read) first second third
      have keyword : connectiveOf ⟨condition.connective.keyword, column⟩ =
          .ok condition.connective := by
        rw [connectiveOf, Connective.ofKeyword?_keyword joined]
      rw [Term.all, term]
      simp only [bind, Except.bind, keyword, ih others following]
      rfl

end Chain

namespace Rule

/-- The words of a rule after the first. -/
def words (rule : Rule) : List (List Char) :=
  ('0' :: 'x' :: (Numeral.capitalHexadecimal 2 rule.action.toNat).toList) ::
    (Numeral.decimal rule.param.toNat).toList :: "when".toList :: Chain.words rule.conditions

/-- The statement that the source of a rule stands for. -/
def statement (rule : Rule) : RuleStatement :=
  ⟨.literal rule.action.toNat, .literal rule.param.toNat, rule.conditions.map Condition.term⟩

theorem toList_source (rule : Rule) :
    rule.source.toList = "rule".toList ++ spaced rule.words := by
  simp [source, opening, words, Chain.toList_source]

theorem isWord_of_mem_words {rule : Rule}
    (chained : ∀ word ∈ Chain.words rule.conditions, IsWord word) :
    ∀ word ∈ rule.words, IsWord word := by
  intro word member
  simp only [words, List.mem_cons] at member
  rcases member with rfl | rfl | rfl | member
  · exact Numeral.isWord_capitalHexadecimal 2 _
  · exact Numeral.isWord_decimal _
  · decide
  · exact chained word member

/-- The source of a rule is one line without a comment. -/
theorem all_isInline_source {rule : Rule}
    (chained : ∀ word ∈ Chain.words rule.conditions, IsWord word) :
    rule.source.toList.all isInline = true := by
  have first : "rule".toList.all isInline = true := by decide
  rw [toList_source, List.all_append, first, all_isInline_spaced (isWord_of_mem_words chained)]
  rfl

theorem byte_small (byte : UInt8) : byte.toNat < literalBound :=
  Nat.lt_trans byte.toNat_lt (by decide)

/-- The words of a rule make its statement, wherever they stand. -/
theorem ofTokens_of_words {cursor : RuleCursor} {rule : Rule}
    (decoded : Chain.decode cursor = .ok rule.conditions) (stop : Nat) {tokens : List Token}
    (texts : tokens.map (·.text) = ("rule".toList :: rule.words).map String.ofList) :
    Statement.ofTokens stop tokens = .ok (.rule rule.statement) := by
  simp only [words, List.map_cons, String.ofList_toList] at texts
  obtain ⟨⟨keyword, first⟩, afterKeyword, rfl, rfl, afterRule⟩ := List.map_eq_cons_iff.mp texts
  obtain ⟨⟨action, second⟩, afterAction, rfl, rfl, afterHex⟩ := List.map_eq_cons_iff.mp afterRule
  obtain ⟨⟨param, third⟩, afterParam, rfl, rfl, afterDecimal⟩ := List.map_eq_cons_iff.mp afterHex
  obtain ⟨⟨bridge, fourth⟩, terms, rfl, rfl, remaining⟩ := List.map_eq_cons_iff.mp afterDecimal
  have notConstant : sameWord "rule" "const" = false := by decide
  have ruleWord : sameWord "rule" "rule" = true := by decide
  have whenWord : sameWord "when" "when" = true := by decide
  simp only [Statement.ofTokens, notConstant, ruleWord, Bool.false_eq_true, ↓reduceIte,
    Statement.ruleOf, Token.next, Token.skip, whenWord, bind, Except.bind,
    operand_capitalHexadecimal (byte_small _), operand_decimal (byte_small _),
    Chain.terms_of_words decoded stop remaining]
  rfl

/-- The source of a rule whose chain can be read is a line with its statement. -/
theorem ofLine_source {cursor : RuleCursor} {rule : Rule}
    (decoded : Chain.decode cursor = .ok rule.conditions) :
    Statement.ofLine rule.source.toList = .ok (.rule rule.statement) := by
  have chained := Chain.isWord_of_mem_words decoded
  have bare : ';' ∉ rule.source.toList := by
    intro member
    have inline := List.all_eq_true.mp (all_isInline_source chained) ';' member
    exact absurd inline (by decide)
  have first : IsWord "rule".toList := by decide
  have texts := Token.map_text_all first (isWord_of_mem_words chained)
  rw [Statement.ofLine, beforeComment_eq_self bare, toList_source]
  exact ofTokens_of_words decoded _ texts

theorem resolveByte_literal (table : ConstantTable) (byte : UInt8) :
    table.resolveByte (.literal byte.toNat) = .ok byte := by
  have small := byte.toNat_lt
  simp only [ConstantTable.resolveByte, ConstantTable.resolve, Except.bind]
  rw [if_pos small, UInt8.ofNat_toNat]

theorem mapM_condition (table : ConstantTable) (conditions : List Condition) :
    (conditions.map Condition.term).mapM (Term.condition table) = .ok conditions := by
  induction conditions with
  | nil => rfl
  | cons condition rest ih =>
      rw [List.map_cons, List.mapM_cons, ih]
      rfl

/-- The statement of a rule stands for the rule whatever the constants. -/
theorem rule_statement (table : ConstantTable) (rule : Rule) :
    rule.statement.rule table = .ok rule := by
  simp only [RuleStatement.rule, statement, resolveByte_literal, mapM_condition, bind,
    Except.bind]
  rfl

end Rule

end Vscp
