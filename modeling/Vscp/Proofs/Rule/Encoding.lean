/-
This file proves that an encoded list of rules is walked, checked and evaluated as the list itself,
whatever follows its bytes in memory.
-/

import Vscp.Proofs.Rule.Walk

namespace Vscp

namespace Chain

/-- The value so far of a chain with the next condition joined to it. -/
def joinNext (event : Event) (result : Bool) : Condition × Condition → Bool
  | (condition, next) =>
      match condition.connective with
      | .and => result && next.holds event
      | .or => result || next.holds event
      | .last => result

/-- The value of a chain from left to right: the first condition gives the value to start with, and
each condition but the last joins the next one to the value so far. -/
def value (event : Event) (conditions : List Condition) : Bool :=
  (conditions.zip conditions.tail).foldl (joinNext event) (conditions.head?.any (·.holds event))

/-- In a chain that can be written every condition but the last is joined to the next. -/
theorem joined_of_encodeFrom {rule position : Nat} {conditions : List Condition}
    {bytes : List UInt8} (encoded : encodeFrom rule position conditions = .ok bytes) :
    ∀ condition ∈ conditions.dropLast, condition.connective ≠ .last := by
  induction conditions generalizing position bytes with
  | nil => simp
  | cons condition rest ih =>
      cases rest with
      | nil => simp
      | cons following later =>
          obtain ⟨joined, front, back, -, others, -⟩ := encodeFrom_cons_cons_eq_ok_iff.mp encoded
          intro other member
          rw [List.dropLast_cons_cons] at member
          rcases List.mem_cons.mp member with rfl | member
          · exact joined
          · exact ih others other member

theorem holdsAfter_eq_foldl (event : Event) (condition : Condition) {rest : List Condition}
    (joined : ∀ other ∈ (condition :: rest).dropLast, other.connective ≠ .last) (result : Bool) :
    holdsAfter event result condition.connective rest =
      ((condition :: rest).zip rest).foldl (joinNext event) result := by
  induction rest generalizing condition result with
  | nil => rfl
  | cons next later ih =>
      rw [List.dropLast_cons_cons] at joined
      have first := joined condition List.mem_cons_self
      have step : condition.connective.join result (next.holds event) =
          joinNext event result (condition, next) := by
        cases connective : condition.connective with
        | last => exact absurd connective first
        | and => simp [joinNext, connective, Connective.join]
        | or => simp [joinNext, connective, Connective.join]
      have others := ih next fun other member => joined other (List.mem_cons_of_mem _ member)
      rw [holdsAfter, others, step]
      rfl

/-- A joined chain holds exactly when its value from left to right is true. -/
theorem holds_eq_value (event : Event) {conditions : List Condition}
    (joined : ∀ condition ∈ conditions.dropLast, condition.connective ≠ .last) :
    holds event conditions = value event conditions := by
  cases conditions with
  | nil => rfl
  | cons condition rest => exact holdsAfter_eq_foldl event condition joined _

theorem ne_nil_of_encodeFrom {rule position : Nat} {conditions : List Condition}
    {bytes : List UInt8} (present : conditions ≠ [])
    (encoded : encodeFrom rule position conditions = .ok bytes) : bytes ≠ [] := by
  have decoded : decode ⟨0, bytes⟩ = _ := decode_encodeFrom present encoded
  rintro rfl
  have failed : Condition.decode ⟨0, []⟩ = .error ⟨.truncatedCondition, 0⟩ := rfl
  rw [decode_of_error failed] at decoded
  cases decoded

end Chain

namespace Rule

/-- The rule as its bytes give it back; its last condition carries the mark of the last. -/
def marked (rule : Rule) : Rule :=
  { rule with conditions := Chain.withLast .last rule.conditions }

theorem holds_marked (rule : Rule) (event : Event) : rule.marked.holds event = rule.holds event :=
  Chain.holds_withLast event rule.conditions .last

theorem encode_eq_ok_iff {index : Nat} {rule : Rule} {bytes : List UInt8} :
    rule.encode index = .ok bytes ↔
      rule.conditions ≠ [] ∧ ∃ chain, Chain.encodeFrom index 0 rule.conditions = .ok chain ∧
        chain.length + 3 ≤ 255 ∧
        UInt8.ofNat (chain.length + 3) :: rule.action :: rule.param :: chain = bytes := by
  unfold encode
  by_cases empty : rule.conditions = []
  · simp [empty]
  · have present : ¬rule.conditions.isEmpty = true := by simpa using empty
    rw [if_neg present, bind_eq_ok_iff]
    simp only [empty, not_false_eq_true, ne_eq, true_and]
    apply exists_congr
    intro chain
    by_cases long : 255 < chain.length + 3
    · simp [long, Nat.not_le.mpr long]
    · simp [long, Nat.not_lt.mp long]

/-- The first rule of a list that holds, when the first rule has the given index. -/
def firstFrom (event : Event) (index : Nat) : List Rule → Option RuleHit
  | [] => none
  | rule :: rest =>
      if rule.holds event then some ⟨index, rule.action, rule.param⟩
      else firstFrom event (index + 1) rest

theorem firstFrom_map_marked (event : Event) (index : Nat) (rules : List Rule) :
    firstFrom event index (rules.map marked) = firstFrom event index rules := by
  induction rules generalizing index with
  | nil => rfl
  | cons rule rest ih =>
      rw [List.map_cons, firstFrom, firstFrom, holds_marked, ih]
      rfl

/-- The hit names the least rule of the list that is met; there is none when no rule is met. -/
def FirstHit (meets : Rule → Bool) (rules : List Rule) : Option RuleHit → Prop
  | none => ∀ rule ∈ rules, meets rule = false
  | some hit =>
      ∃ rule, rules[hit.rule]? = some rule ∧ meets rule = true ∧
        hit.action = rule.action ∧ hit.param = rule.param ∧
        ∀ earlier < hit.rule, ∀ other, rules[earlier]? = some other → meets other = false

/-- A search that starts at an index finds the least rule, counted from that index. -/
theorem firstHit_shift {event : Event} {meets : Rule → Bool} {rules : List Rule}
    (agrees : ∀ rule ∈ rules, rule.holds event = meets rule) (index : Nat) :
    match firstFrom event index rules with
    | none => FirstHit meets rules none
    | some hit => index ≤ hit.rule ∧
        FirstHit meets rules (some ⟨hit.rule - index, hit.action, hit.param⟩) := by
  induction rules generalizing index with
  | nil =>
      intro rule member
      cases member
  | cons rule rest ih =>
      unfold firstFrom
      rw [agrees rule List.mem_cons_self]
      cases holds : meets rule with
      | true =>
          refine ⟨Nat.le_refl _, rule, ?_, holds, rfl, rfl, ?_⟩
          · simp
          · intro earlier before
            simp at before
      | false =>
          have later := ih (fun other member => agrees other (List.mem_cons_of_mem _ member))
            (index + 1)
          simp only [Bool.false_eq_true, ↓reduceIte]
          cases fired : firstFrom event (index + 1) rest with
          | none =>
              rw [fired] at later
              intro other member
              rcases List.mem_cons.mp member with rfl | member
              · exact holds
              · exact later other member
          | some hit =>
              rw [fired] at later
              obtain ⟨after, found, place, met, action, param, least⟩ := later
              have step : hit.rule - index = hit.rule - (index + 1) + 1 := by omega
              refine ⟨by omega, found, ?_, met, action, param, ?_⟩
              · simpa [step] using place
              · intro earlier before other there
                cases earlier with
                | zero =>
                    cases there
                    exact holds
                | succ earlier =>
                    refine least earlier ?_ other (by simpa using there)
                    change earlier + 1 < hit.rule - index at before
                    change earlier < hit.rule - (index + 1)
                    omega

theorem firstHit_firstFrom {event : Event} {meets : Rule → Bool} {rules : List Rule}
    (agrees : ∀ rule ∈ rules, rule.holds event = meets rule) :
    FirstHit meets rules (firstFrom event 0 rules) := by
  have start := firstHit_shift agrees 0
  cases fired : firstFrom event 0 rules with
  | none =>
      rw [fired] at start
      exact start
  | some hit =>
      rw [fired] at start
      exact start.2

end Rule

namespace Evaluation

/-- Sites that hold rules are evaluated as the list of these rules. -/
theorem ofSites_of_rules (event : Event) {sites : List RuleSite} {rules : List Rule} {index : Nat}
    (held : sites.map RuleSite.rule = rules.map .ok)
    (numbered : sites.map (·.index) = List.range' index sites.length) :
    ofSites event sites = ⟨Rule.firstFrom event index rules, []⟩ := by
  induction sites generalizing rules index with
  | nil =>
      have empty : rules = [] := by simpa using held.symm
      rw [empty]
      rfl
  | cons site rest ih =>
      cases rules with
      | nil => cases held
      | cons rule rules =>
          simp only [List.map_cons, List.cons.injEq, List.length_cons,
            List.range'_succ] at held numbered
          simp only [ofSites, Rule.firstFrom, held.1, numbered.1, ih held.2 numbered.2]
          split <;> rfl

end Evaluation

namespace Ruleset

theorem encodeRules_cons_eq_ok_iff {index : Nat} {rule : Rule} {rest : List Rule}
    {bytes : List UInt8} :
    encodeRules index (rule :: rest) = .ok bytes ↔
      ∃ front back, rule.encode index = .ok front ∧ encodeRules (index + 1) rest = .ok back ∧
        front ++ back = bytes := by
  simp [encodeRules, bind_eq_ok_iff, map_eq_ok_iff]

/-- The walk over encoded rules finds the rules and stops behind them. -/
theorem rules_sitesFrom {rules : List Rule} {index : Nat} {bytes : List UInt8}
    (encoded : encodeRules index rules = .ok bytes) (number offset : Nat) (junk : List UInt8) :
    (sitesFrom rules.length number offset (bytes ++ junk)).map RuleSite.rule =
      rules.map fun rule => .ok rule.marked := by
  induction rules generalizing index bytes number offset with
  | nil => rfl
  | cons rule rest ih =>
      obtain ⟨front, back, first, others, rfl⟩ := encodeRules_cons_eq_ok_iff.mp encoded
      obtain ⟨present, chain, written, short, rfl⟩ := Rule.encode_eq_ok_iff.mp first
      have length : (UInt8.ofNat (chain.length + 3)).toNat = chain.length + 3 := by
        rw [UInt8.toNat_ofNat']
        omega
      have whole : (rule.action :: rule.param :: chain).length + 1 =
          (UInt8.ofNat (chain.length + 3)).toNat := by
        rw [length]
        rfl
      have read : RuleSite.rule ⟨number, offset,
          RuleSite.header offset (rule.action :: rule.param :: chain)⟩ = .ok rule.marked := by
        obtain ⟨byte, later, rfl⟩ := List.exists_cons_of_ne_nil
          (Chain.ne_nil_of_encodeFrom present written)
        simp only [RuleSite.rule, RuleSite.header, Except.bind,
          Chain.decode_encodeFrom present written]
        rfl
      have found := sitesFrom_rule rest.length number offset (back ++ junk) whole
      simp only [List.cons_append, List.append_assoc, List.length_cons] at found ⊢
      rw [found, List.map_cons, List.map_cons, ih others, read]

/-- An encoded ruleset is its count followed by its rules. -/
theorem encode_eq_ok_iff {rules : List Rule} {capacity : Nat} {bytes : List UInt8} :
    encode rules capacity = .ok bytes ↔
      rules.length ≤ 254 ∧ ∃ code, encodeRules 0 rules = .ok code ∧
        code.length + 1 ≤ capacity ∧ UInt8.ofNat rules.length :: code = bytes := by
  unfold encode
  by_cases many : 254 < rules.length
  · simp [many, Nat.not_le.mpr many]
  · rw [if_neg many, bind_eq_ok_iff]
    simp only [Nat.not_lt.mp many, true_and]
    apply exists_congr
    intro code
    by_cases large : capacity < code.length + 1
    · simp [large, Nat.not_le.mpr large]
    · simp [large, Nat.not_lt.mp large]

theorem announced_encode {rules : List Rule} (few : rules.length ≤ 254) (code : List UInt8) :
    announced (UInt8.ofNat rules.length :: code) = rules.length := by
  have count : (UInt8.ofNat rules.length).toNat = rules.length := by
    rw [UInt8.toNat_ofNat']
    omega
  have kept : UInt8.ofNat rules.length ≠ erased := by
    intro same
    rw [same] at count
    change 255 = rules.length at count
    omega
  rw [announced, if_neg kept, count]

theorem rules_sites_encode {rules : List Rule} {capacity : Nat} {bytes : List UInt8}
    (encoded : encode rules capacity = .ok bytes) (junk : List UInt8) :
    (sites (bytes ++ junk)).map RuleSite.rule = (rules.map Rule.marked).map .ok := by
  obtain ⟨few, code, written, -, rfl⟩ := encode_eq_ok_iff.mp encoded
  rw [sites, List.cons_append, announced_encode few, List.map_map]
  exact rules_sitesFrom written 0 1 junk

/-- Sites that hold rules are free of faults. -/
theorem fault?_of_rules {sites : List RuleSite} {rules : List Rule}
    (held : sites.map RuleSite.rule = rules.map .ok) : sites.filterMap RuleSite.fault? = [] := by
  rw [List.filterMap_eq_nil_iff]
  intro site member
  have listed : site.rule ∈ rules.map .ok := held ▸ List.mem_map_of_mem member
  obtain ⟨rule, -, read⟩ := List.mem_map.mp listed
  exact RuleSite.fault?_of_ok read.symm

theorem validate_encode {rules : List Rule} {capacity : Nat} {bytes : List UInt8}
    (encoded : encode rules capacity = .ok bytes) (junk : List UInt8) :
    validate (bytes ++ junk) = .ok rules.length := by
  have held := rules_sites_encode encoded junk
  obtain ⟨few, code, -, -, rfl⟩ := encode_eq_ok_iff.mp encoded
  rw [validate, checkSites_eq, fault?_of_rules held, List.cons_append, announced_encode few]
  rfl

theorem evaluate_encode {rules : List Rule} {capacity : Nat} {bytes : List UInt8}
    (encoded : encode rules capacity = .ok bytes) (junk : List UInt8) (event : Event)
    (engine : RuleEngine) :
    engine.evaluate (bytes ++ junk) event = (⟨Rule.firstFrom event 0 rules, []⟩, engine) := by
  have held := rules_sites_encode encoded junk
  have numbered := map_index_sitesFrom (announced (bytes ++ junk)) 0 1 ((bytes ++ junk).drop 1)
  rw [RuleEngine.evaluate_eq, Evaluation.ofSites_of_rules event held numbered,
    Rule.firstFrom_map_marked]
  rfl

/-- Rules that can be written are joined. -/
theorem joined_of_encodeRules {rules : List Rule} {index : Nat} {bytes : List UInt8}
    (encoded : encodeRules index rules = .ok bytes) :
    ∀ rule ∈ rules, ∀ condition ∈ rule.conditions.dropLast, condition.connective ≠ .last := by
  induction rules generalizing index bytes with
  | nil => simp
  | cons rule rest ih =>
      obtain ⟨front, back, first, others, -⟩ := encodeRules_cons_eq_ok_iff.mp encoded
      intro other member
      rcases List.mem_cons.mp member with rfl | member
      · obtain ⟨-, chain, written, -⟩ := Rule.encode_eq_ok_iff.mp first
        exact Chain.joined_of_encodeFrom written
      · exact ih others other member

/-- Encoded rules run as the typed rules: nothing is faulty, and the least rule whose chain has the
value true from left to right fires, whatever follows the bytes. -/
theorem encoded_rules_run {rules : List Rule} {capacity : Nat} {bytes : List UInt8}
    (encoded : encode rules capacity = .ok bytes) (junk : List UInt8) (event : Event)
    (engine : RuleEngine) :
    validate (bytes ++ junk) = .ok rules.length ∧
      ∃ hit, engine.evaluate (bytes ++ junk) event = (⟨hit, []⟩, engine) ∧
        Rule.FirstHit (fun rule => Chain.value event rule.conditions) rules hit := by
  refine ⟨validate_encode encoded junk, _, evaluate_encode encoded junk event engine, ?_⟩
  obtain ⟨-, code, written, -⟩ := encode_eq_ok_iff.mp encoded
  apply Rule.firstHit_firstFrom
  intro rule member
  exact Chain.holds_eq_value event (joined_of_encodeRules written rule member)

/-- The first rule joins three conditions, the second compares a word of the payload. -/
def lampRules : List Rule :=
  [(Rule.when 0x10 3 (.new .eventClass .equal 20)).joined .and (.new .eventType .greater 3)
      |>.joined .or (.new (.byte 0) .equal 1),
    Rule.when 0x22 0 (.new (.word 1) .greaterEqual 0x100)]

/-- The event is of the class that the first rule wants, but of a lower type. -/
def dimmerEvent : Event :=
  { Event.new 20 2 1 with data := [0, 1, 0], dataWithin := by decide }

theorem lampRules_run :
    ∃ bytes, encode lampRules 64 = .ok bytes ∧
      validate (bytes ++ [0xFF, 7, 0]) = .ok 2 ∧
      ∃ hit, RuleEngine.new.evaluate (bytes ++ [0xFF, 7, 0]) dimmerEvent =
          (⟨hit, []⟩, RuleEngine.new) ∧
        Rule.FirstHit (fun rule => Chain.value dimmerEvent rule.conditions) lampRules hit := by
  have encoded : encode lampRules 64 =
      .ok [2, 13, 0x10, 3, 0x10, 0x00, 0, 20, 0x22, 0x01, 3, 0x00, 0x10, 1,
        7, 0x22, 0, 0x03, 0x21, 1, 0] := rfl
  exact ⟨_, encoded, encoded_rules_run encoded [0xFF, 7, 0] dimmerEvent RuleEngine.new⟩

end Ruleset

end Vscp
