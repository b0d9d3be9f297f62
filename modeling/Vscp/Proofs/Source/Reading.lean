/-
This file proves that a line is read as the statement that its words spell, whatever stands between
them and after them, and that every other line is refused.
-/

import Vscp.Proofs.Source.FieldName
import Vscp.Proofs.Source.Layout
import Vscp.Proofs.Source.RuleText
import Vscp.Proofs.Source.Transcription

namespace Vscp

theorem Comparison.ofSymbol?_eq_some_iff {symbol : String} {comparison : Comparison} :
    ofSymbol? symbol = some comparison ↔ comparison.symbol = symbol := by
  constructor
  · intro found
    simpa using List.find?_some found
  · rintro rfl
    exact ofSymbol?_symbol comparison

/-- A keyword counts in any case. -/
theorem Connective.ofKeyword?_eq_some_iff {text : String} {connective : Connective} :
    ofKeyword? text = some connective ↔
      connective ≠ .last ∧ Source.sameWord connective.keyword text = true := by
  constructor
  · intro found
    unfold ofKeyword? at found
    have same := List.find?_some found
    have listed := List.mem_of_find?_eq_some found
    refine ⟨?_, same⟩
    rintro rfl
    simp at listed
  · rintro ⟨joined, same⟩
    rw [Source.sameWord, beq_iff_eq] at same
    have found := ofKeyword?_keyword joined
    unfold ofKeyword? Source.sameWord at found ⊢
    rwa [← same]

/-- A field has its name in any case. -/
theorem Field.Spelled.recased {field : Field} {text other : String}
    (spelled : field.Spelled text) (same : Source.sameWord text other = true) :
    field.Spelled other := by
  rw [Source.sameWord, beq_iff_eq] at same
  cases spelled with
  | plain listed named => exact .plain listed (same.symm.trans named)
  | payload listed named denotes => exact .payload listed (same.symm.trans named) denotes

namespace Source

theorem Operand.ofToken_eq_ok_iff {token : Token} {operand : Operand} :
    ofToken token = .ok operand ↔ operand.Spelled token.text := by
  refine ⟨spelled_of_ofToken, fun spelled => ?_⟩
  unfold ofToken
  dsimp only
  cases spelled with
  | literal digit number => rw [if_pos digit, literal?_eq_some_iff.mpr number]
  | name named => rw [if_neg (not_digit_of_isName named), if_pos named]

theorem fieldOf_eq_ok_iff {token : Token} {field : Field} :
    fieldOf token = .ok field ↔ field.Spelled token.text ∧ field.id?.isSome = true := by
  rw [← Field.ofName?_eq_some_iff, fieldOf]
  cases Field.ofName? token.text <;> simp

theorem comparisonOf_eq_ok_iff {token : Token} {comparison : Comparison} :
    comparisonOf token = .ok comparison ↔ comparison.symbol = token.text := by
  rw [← Comparison.ofSymbol?_eq_some_iff, comparisonOf]
  cases Comparison.ofSymbol? token.text <;> simp

theorem connectiveOf_eq_ok_iff {token : Token} {connective : Connective} :
    connectiveOf token = .ok connective ↔
      connective ≠ .last ∧ sameWord connective.keyword token.text = true := by
  rw [← Connective.ofKeyword?_eq_some_iff, connectiveOf]
  cases Connective.ofKeyword? token.text <;> simp

namespace Term

/-- The field lies in an event: one of the payload ends within eight bytes. -/
def Named (term : Term) : Prop :=
  term.field.id?.isSome = true

theorem ofTokens_eq_ok_iff {field comparison operand : Token} {term : Term} :
    ofTokens field comparison operand = .ok term ↔
      term.Spelled field.text comparison.text operand.text ∧ term.Named ∧
        term.connective = .last := by
  constructor
  · intro read
    obtain ⟨spelled, ends⟩ := spelled_of_ofTokens read
    obtain ⟨place, first, read⟩ := bind_eq_ok_iff.mp read
    obtain ⟨test, -, read⟩ := bind_eq_ok_iff.mp read
    obtain ⟨value, -, read⟩ := bind_eq_ok_iff.mp read
    cases read
    exact ⟨spelled, (fieldOf_eq_ok_iff.mp first).2, ends⟩
  · rintro ⟨spelled, named, ends⟩
    have field := fieldOf_eq_ok_iff.mpr ⟨spelled.field, named⟩
    have comparison := comparisonOf_eq_ok_iff.mpr spelled.comparison
    have operand := Operand.ofToken_eq_ok_iff.mpr spelled.operand
    refine bind_eq_ok_iff.mpr ⟨_, field, bind_eq_ok_iff.mpr ⟨_, comparison,
      bind_eq_ok_iff.mpr ⟨_, operand, ?_⟩⟩⟩
    rw [← ends]
    rfl

theorem named_of_all {stop : Nat} {tokens : List Token} {terms : List Term}
    (read : all stop tokens = .ok terms) : ∀ term ∈ terms, term.Named := by
  induction tokens using all.induct generalizing terms with
  | case1 field comparison operand rest ih =>
      unfold all at read
      obtain ⟨term, first, read⟩ := bind_eq_ok_iff.mp read
      have named := (ofTokens_eq_ok_iff.mp first).2.1
      cases rest with
      | nil =>
          cases read
          exact List.forall_mem_singleton.mpr named
      | cons joiner rest =>
          obtain ⟨connective, -, read⟩ := bind_eq_ok_iff.mp read
          obtain ⟨later, others, read⟩ := bind_eq_ok_iff.mp read
          cases read
          exact List.forall_mem_cons.mpr ⟨named, ih others⟩
  | case2 tokens short =>
      rw [all] at read
      · cases read
      · exact short

/-- The words of a chain are read as its terms. -/
theorem all_of_chainSpelled {words : List String} {terms : List Term}
    (spelled : ChainSpelled words terms) (named : ∀ term ∈ terms, term.Named) (stop : Nat)
    {tokens : List Token} (texts : tokens.map (·.text) = words) :
    all stop tokens = .ok terms := by
  induction spelled generalizing tokens with
  | @last _ _ _ term spelled ends =>
      obtain ⟨field, _, rfl, rfl, texts'⟩ := List.map_eq_cons_iff.mp texts
      obtain ⟨comparison, _, rfl, rfl, texts''⟩ := List.map_eq_cons_iff.mp texts'
      obtain ⟨operand, rfl, rfl⟩ := List.map_eq_singleton_iff.mp texts''
      have term : ofTokens field comparison operand = .ok term :=
        ofTokens_eq_ok_iff.mpr ⟨spelled, List.forall_mem_singleton.mp named, ends⟩
      exact bind_eq_ok_iff.mpr ⟨_, term, rfl⟩
  | @joined _ _ _ _ _ term later spelled joins keyword _ ih =>
      obtain ⟨field, _, rfl, rfl, texts'⟩ := List.map_eq_cons_iff.mp texts
      obtain ⟨comparison, _, rfl, rfl, texts''⟩ := List.map_eq_cons_iff.mp texts'
      obtain ⟨operand, _, rfl, rfl, texts'''⟩ := List.map_eq_cons_iff.mp texts''
      obtain ⟨joiner, rest, rfl, rfl, following⟩ := List.map_eq_cons_iff.mp texts'''
      obtain ⟨own, others⟩ := List.forall_mem_cons.mp named
      -- A term is read as the last one, and the keyword after it joins it to the next.
      have alone : ofTokens field comparison operand = .ok { term with connective := .last } :=
        ofTokens_eq_ok_iff.mpr ⟨⟨spelled.field, spelled.comparison, spelled.operand⟩, own, rfl⟩
      have connective := connectiveOf_eq_ok_iff.mpr ⟨joins, keyword⟩
      exact bind_eq_ok_iff.mpr ⟨_, alone, bind_eq_ok_iff.mpr ⟨_, connective,
        bind_eq_ok_iff.mpr ⟨_, ih others following, rfl⟩⟩⟩

end Term

namespace Token

theorem skip_eq_ok_iff {stop : Nat} {word : String} {expected : Expectation}
    {tokens rest : List Token} :
    skip stop word expected tokens = .ok rest ↔
      ∃ token, tokens = token :: rest ∧ sameWord token.text word = true := by
  refine ⟨of_skip, ?_⟩
  rintro ⟨token, rfl, same⟩
  exact bind_eq_ok_iff.mpr ⟨(token, rest), rfl, if_pos same⟩

end Token

namespace Statement

/-- The fields of the conditions lie in an event. -/
def Named : Statement → Prop
  | .rule statement => ∀ term ∈ statement.terms, term.Named
  | _ => True

theorem named_of_ruleOf {stop : Nat} {tokens : List Token} {statement : Statement}
    (read : ruleOf stop tokens = .ok statement) : statement.Named := by
  obtain ⟨⟨action, afterAction⟩, -, read⟩ := bind_eq_ok_iff.mp read
  obtain ⟨act, -, read⟩ := bind_eq_ok_iff.mp read
  obtain ⟨⟨param, afterParam⟩, -, read⟩ := bind_eq_ok_iff.mp read
  obtain ⟨parameter, -, read⟩ := bind_eq_ok_iff.mp read
  obtain ⟨chain, -, read⟩ := bind_eq_ok_iff.mp read
  obtain ⟨terms, last, read⟩ := bind_eq_ok_iff.mp read
  cases read
  exact Term.named_of_all last

theorem named_of_ofTokens {stop : Nat} {tokens : List Token} {statement : Statement}
    (read : ofTokens stop tokens = .ok statement) : statement.Named := by
  cases tokens with
  | nil =>
      cases read
      trivial
  | cons first rest =>
      rw [ofTokens] at read
      split at read
      · rename_i opens
        have spelled := spelled_of_constantOf opens read
        cases statement with
        | rule statement => exact (spelled.of_rule.not_constant opens).elim
        | _ => trivial
      · split at read
        · exact named_of_ruleOf read
        · cases read

theorem ofTokens_of_spelled {words : List String} {statement : Statement}
    (spelled : statement.Spelled words) (named : statement.Named) (stop : Nat)
    {tokens : List Token} (texts : tokens.map (·.text) = words) :
    ofTokens stop tokens = .ok statement := by
  cases spelled with
  | blank =>
      rw [List.map_eq_nil_iff.mp texts]
      rfl
  | constant opens isName value =>
      obtain ⟨keyword, _, rfl, rfl, texts'⟩ := List.map_eq_cons_iff.mp texts
      obtain ⟨name, _, rfl, rfl, texts''⟩ := List.map_eq_cons_iff.mp texts'
      obtain ⟨sign, _, rfl, equals, texts'''⟩ := List.map_eq_cons_iff.mp texts''
      obtain ⟨word, rfl, rfl⟩ := List.map_eq_singleton_iff.mp texts'''
      have skipped : Token.skip stop "=" .equalsSign [sign, word] = .ok [word] :=
        Token.skip_eq_ok_iff.mpr ⟨sign, rfl, by rw [equals]; decide⟩
      rw [ofTokens, if_pos opens, constantOf]
      refine bind_eq_ok_iff.mpr ⟨(name, [sign, word]), rfl, ?_⟩
      refine (if_pos isName).trans ?_
      exact bind_eq_ok_iff.mpr ⟨_, skipped, bind_eq_ok_iff.mpr ⟨(word, []), rfl,
        bind_eq_ok_iff.mpr ⟨_, Operand.ofToken_eq_ok_iff.mpr value, rfl⟩⟩⟩
  | rule rule =>
      cases rule with
      | mk opens act parameter goesOn chain =>
          obtain ⟨keyword, _, rfl, rfl, texts'⟩ := List.map_eq_cons_iff.mp texts
          obtain ⟨action, _, rfl, rfl, texts''⟩ := List.map_eq_cons_iff.mp texts'
          obtain ⟨param, _, rfl, rfl, texts'''⟩ := List.map_eq_cons_iff.mp texts''
          obtain ⟨bridge, rest, rfl, rfl, following⟩ := List.map_eq_cons_iff.mp texts'''
          have other : ¬sameWord keyword.text "const" = true := by
            intro const
            rw [sameWord_const_rule const] at opens
            cases opens
          have skipped : Token.skip stop "when" .when (bridge :: rest) = .ok rest :=
            Token.skip_eq_ok_iff.mpr ⟨bridge, rfl, goesOn⟩
          have terms := Term.all_of_chainSpelled chain named stop following
          rw [ofTokens, if_neg other, if_pos opens, ruleOf]
          refine bind_eq_ok_iff.mpr ⟨(action, param :: bridge :: rest), rfl, ?_⟩
          refine bind_eq_ok_iff.mpr ⟨_, Operand.ofToken_eq_ok_iff.mpr act, ?_⟩
          refine bind_eq_ok_iff.mpr ⟨(param, bridge :: rest), rfl, ?_⟩
          refine bind_eq_ok_iff.mpr ⟨_, Operand.ofToken_eq_ok_iff.mpr parameter, ?_⟩
          exact bind_eq_ok_iff.mpr ⟨_, skipped, bind_eq_ok_iff.mpr ⟨_, terms, rfl⟩⟩

/-- A line is read as the statement that its words spell. -/
theorem ofLine_eq_ok_iff {line : List Char} {statement : Statement} :
    ofLine line = .ok statement ↔
      statement.Spelled (wordsOf (beforeComment line)) ∧ statement.Named := by
  rw [← Token.map_text_all_eq_wordsOf]
  exact ⟨fun read => ⟨spelled_of_ofTokens read, named_of_ofTokens read⟩,
    fun ⟨spelled, named⟩ => ofTokens_of_spelled spelled named _ rfl⟩

theorem exists_error_iff {line : List Char} :
    (∃ error, ofLine line = .error error) ↔
      ∀ statement : Statement, statement.Spelled (wordsOf (beforeComment line)) →
        ¬statement.Named := by
  constructor
  · rintro ⟨error, failed⟩ statement spelled named
    have read := ofLine_eq_ok_iff.mpr ⟨spelled, named⟩
    rw [failed] at read
    cases read
  · intro other
    cases read : ofLine line with
    | error error => exact ⟨error, rfl⟩
    | ok statement =>
        obtain ⟨spelled, named⟩ := ofLine_eq_ok_iff.mp read
        exact absurd named (other statement spelled)

end Statement

/-- The fields and the keywords between conditions may be in another case. -/
inductive ChainRecased : List String → List String → Prop where
  | last {field other comparison operand : String} (same : sameWord field other = true) :
      ChainRecased [field, comparison, operand] [other, comparison, operand]
  | joined {field other comparison operand joiner twin : String} {words others : List String}
      (same : sameWord field other = true) (keyword : sameWord joiner twin = true)
      (rest : ChainRecased words others) :
      ChainRecased (field :: comparison :: operand :: joiner :: words)
        (other :: comparison :: operand :: twin :: others)

/-- The first word, and the keywords and fields of a rule, may be in another case. -/
inductive Recased : List String → List String → Prop where
  | nothing : Recased [] []
  | opening {keyword other : String} {words : List String} (same : sameWord keyword other = true) :
      Recased (keyword :: words) (other :: words)
  | rule {keyword other action param bridge crossing : String} {words others : List String}
      (same : sameWord keyword other = true) (goesOn : sameWord bridge crossing = true)
      (chain : ChainRecased words others) :
      Recased (keyword :: action :: param :: bridge :: words)
        (other :: action :: param :: crossing :: others)

theorem sameWord_trans {first second third : String} (left : sameWord first second = true)
    (right : sameWord second third = true) : sameWord first third = true := by
  rw [sameWord, beq_iff_eq] at left right ⊢
  exact left.trans right

theorem sameWord_symm {first second : String} (same : sameWord first second = true) :
    sameWord second first = true := by
  rw [sameWord, beq_iff_eq] at same ⊢
  exact same.symm

theorem Term.ChainSpelled.recased {words others : List String} {terms : List Term}
    (spelled : ChainSpelled words terms) (recased : ChainRecased words others) :
    ChainSpelled others terms := by
  induction spelled generalizing others with
  | last spelled ends =>
      cases recased with
      | last same =>
          exact .last ⟨spelled.field.recased same, spelled.comparison, spelled.operand⟩ ends
  | joined spelled joins keyword _ ih =>
      cases recased with
      | joined same twin rest =>
          exact .joined ⟨spelled.field.recased same, spelled.comparison, spelled.operand⟩ joins
            (sameWord_trans keyword twin) (ih rest)

theorem RuleStatement.Spelled.recased {words others : List String} {statement : RuleStatement}
    (spelled : statement.Spelled words) (recased : Recased words others) :
    statement.Spelled others := by
  cases spelled with
  | mk opens act parameter goesOn chain =>
      cases recased with
      | opening same =>
          exact .mk (sameWord_trans (sameWord_symm same) opens) act parameter goesOn chain
      | rule same crossing rest =>
          exact .mk (sameWord_trans (sameWord_symm same) opens) act parameter
            (sameWord_trans (sameWord_symm crossing) goesOn) (chain.recased rest)

theorem Statement.Spelled.recased {words others : List String} {statement : Statement}
    (spelled : statement.Spelled words) (recased : Recased words others) :
    statement.Spelled others := by
  cases spelled with
  | blank =>
      cases recased with
      | nothing => exact .blank
  | constant opens named value =>
      cases recased with
      | opening same => exact .constant (sameWord_trans (sameWord_symm same) opens) named value
      | rule _ _ chain => cases chain
  | rule rule => exact .rule (rule.recased recased)

/-- A line with the given words, which may be in another case where case does not matter, in any
layout and with any comment. -/
inductive Retold (words : List String) : List Char → Prop where
  | mk {others : List String} {text comment : List Char} (recased : Recased words others)
      (laid : LaidOut text others) (bare : ';' ∉ text)
      (ends : comment.head?.all (· == ';') = true) : Retold words (text ++ comment)

theorem Retold.ofLine_eq_ok {words : List String} {line : List Char} {statement : Statement}
    (retold : Retold words line) (spelled : statement.Spelled words) (named : statement.Named) :
    Statement.ofLine line = .ok statement := by
  cases retold with
  | mk recased laid bare ends =>
      rw [Statement.ofLine_eq_ok_iff, beforeComment_append bare ends, laid.wordsOf_eq]
      exact ⟨spelled.recased recased, named⟩

/-- What a line with the given words is read as. -/
structure LineReading (line : List Char) (words : List String) : Prop where
  laid : LaidOut (beforeComment line) words
  blank : Statement.ofLine line = .ok .blank ↔ words = []
  constant : ∀ name value, Statement.ofLine line = .ok (.constant name value) ↔
    ∃ keyword word, words = [keyword, name, "=", word] ∧ sameWord keyword "const" = true ∧
      isName name.toList = true ∧ value.Spelled word
  rule : ∀ statement, Statement.ofLine line = .ok (.rule statement) ↔
    statement.Spelled words ∧ ∀ term ∈ statement.terms, term.Named
  refused : (∃ error, Statement.ofLine line = .error error) ↔
    ∀ statement : Statement, statement.Spelled words → ¬statement.Named
  retold : ∀ statement other, Retold words other → Statement.ofLine line = .ok statement →
    Statement.ofLine other = .ok statement

/-- What the readers of words find in a word. -/
structure WordReading (word : String) : Prop where
  number : ∀ value, literal? word.toList = some value ↔ IsLiteral word.toList value
  field : ∀ field, Field.ofName? word = some field ↔
    field.Spelled word ∧ field.id?.isSome = true
  comparison : ∀ comparison, Comparison.ofSymbol? word = some comparison ↔
    comparison.symbol = word

theorem Statement.spelled_blank_iff {words : List String} :
    Statement.Spelled words .blank ↔ words = [] := by
  constructor
  · intro spelled
    cases spelled
    rfl
  · rintro rfl
    exact .blank

theorem Statement.spelled_constant_iff {words : List String} {name : String} {value : Operand} :
    Statement.Spelled words (.constant name value) ↔
      ∃ keyword word, words = [keyword, name, "=", word] ∧ sameWord keyword "const" = true ∧
        isName name.toList = true ∧ value.Spelled word := by
  constructor
  · intro spelled
    cases spelled with
    | constant opens named value => exact ⟨_, _, rfl, opens, named, value⟩
  · rintro ⟨keyword, word, rfl, opens, named, value⟩
    exact .constant opens named value

/-- A line is read by the grammar of statements, and its words by that of words. -/
theorem lines_read_by_grammar (line : List Char) :
    LineReading line (wordsOf (beforeComment line)) ∧ ∀ word, WordReading word := by
  refine ⟨⟨laidOut_iff.mpr rfl, ?_, fun name value => ?_, fun statement => ?_, ?_, ?_⟩, ?_⟩
  · rw [Statement.ofLine_eq_ok_iff, Statement.spelled_blank_iff]
    exact and_iff_left trivial
  · rw [Statement.ofLine_eq_ok_iff, Statement.spelled_constant_iff]
    exact and_iff_left trivial
  · rw [Statement.ofLine_eq_ok_iff]
    exact and_congr_left fun _ => ⟨Statement.Spelled.of_rule, .rule⟩
  · exact Statement.exists_error_iff
  · intro statement other retold read
    obtain ⟨spelled, named⟩ := Statement.ofLine_eq_ok_iff.mp read
    exact retold.ofLine_eq_ok spelled named
  · intro word
    exact ⟨fun _ => literal?_eq_some_iff, fun _ => Field.ofName?_eq_some_iff,
      fun _ => Comparison.ofSymbol?_eq_some_iff⟩

/-- Blanks, comments and the case of keywords and fields do not matter. -/
example : Statement.ofLine "\tRULE LAMP_ON 3 When  Class == 20 ; lamp".toList =
    Statement.ofLine "rule LAMP_ON 3 when class == 20".toList := by
  decide +kernel

end Source

end Vscp
