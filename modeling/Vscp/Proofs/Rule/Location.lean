/-
This file proves that the faults and hits of a ruleset are reported at their exact places, whatever
the bytes of the ruleset and however many there are.
-/

import Vscp.Proofs.Rule.Position

namespace Vscp

/-- The kinds of fault that lie behind the header of a rule. -/
def FaultKind.inBody : FaultKind → Bool
  | .truncatedRuleset | .ruleLengthInvalid => false
  | .truncatedCondition | .unknownLogicOp | .unknownBasicOp | .unknownParam | .trailingBytes => true

/-- A fault of the body of a rule, met between two positions. -/
structure Flaw.Between (flaw : Flaw) (first last : Nat) : Prop where
  inBody : flaw.kind.inBody = true
  first_le : first ≤ flaw.offset
  le_last : flaw.offset ≤ last

theorem Condition.between_of_decodeAt {ruleset : List UInt8} {position stop : Nat} {flaw : Flaw}
    (ordered : position ≤ stop) (failed : decodeAt ruleset stop position = some (.error flaw)) :
    flaw.Between position stop := by
  unfold decodeAt at failed
  split at failed
  · cases failed
    exact ⟨rfl, Nat.le_refl _, ordered⟩
  · obtain ⟨operation, -, failed⟩ := Option.bind_eq_some_iff.mp failed
    split at failed
    · cases failed
      exact ⟨rfl, Nat.le_refl _, ordered⟩
    · cases failed
      exact ⟨rfl, Nat.le_refl _, ordered⟩
    · split at failed
      · cases failed
        exact ⟨rfl, Nat.le_add_right _ _, by dsimp only; omega⟩
      · obtain ⟨id, -, failed⟩ := Option.bind_eq_some_iff.mp failed
        split at failed
        · cases failed
          exact ⟨rfl, Nat.le_add_right _ _, by dsimp only; omega⟩
        · split at failed
          · cases failed
            exact ⟨rfl, Nat.le_add_right _ _, by dsimp only; omega⟩
          · obtain ⟨operand, -, read⟩ := Option.map_eq_some_iff.mp failed
            cases read

/-- A chain stops between its first byte and the end of its rule. -/
theorem Chain.between_of_evaluateAt {ruleset : List UInt8} {event : Event} {position stop : Nat}
    {result : Bool} {pending : Connective} {flaw : Flaw} (ordered : position ≤ stop)
    (within : stop ≤ ruleset.length)
    (failed : evaluateAt ruleset event stop result pending position = some (.error flaw)) :
    flaw.Between position stop := by
  fun_induction evaluateAt ruleset event stop result pending position with
  | case1 result pending position outside => cases failed
  | case2 result pending position cause stopped =>
      cases failed
      exact Condition.between_of_decodeAt ordered stopped
  | case3 result pending position condition read value next last ended => cases failed
  | case4 result pending position condition read next last more =>
      cases failed
      obtain ⟨room, -⟩ := Condition.decode_of_decodeAt_ok ordered within read
      exact ⟨rfl, Nat.le_add_right _ _, room⟩
  | case5 result pending position condition read value next joined ih =>
      obtain ⟨room, -⟩ := Condition.decode_of_decodeAt_ok ordered within read
      obtain ⟨body, first, last⟩ := ih room failed
      exact ⟨body, Nat.le_trans (Nat.le_add_right _ _) first, last⟩

/-- The place of a fault in a ruleset. The judgement of the rule by positions stops at the reported
offset, which sixteen bits always hold. -/
structure RuleFault.PlacedAt (ruleset : List UInt8) (fault : RuleFault) (site : RuleSite) :
    Prop where
  visited : site ∈ Ruleset.sites ruleset
  rule : fault.rule = site.index
  stopped : ∀ event, (site.judge event).verdict = .error ⟨fault.kind, fault.offset⟩
  small : fault.offset ≤ 64771
  within : fault.offset ≤ ruleset.length
  ofLength : fault.kind = .ruleLengthInvalid → fault.offset = site.start
  ofEnd : fault.kind = .truncatedRuleset → fault.offset = ruleset.length
  ofBody : fault.kind.inBody = true → site.start + 3 ≤ fault.offset ∧
    fault.offset ≤ Ruleset.finish ruleset site.start

namespace Ruleset

/-- A rule that cannot be read stops the judgement at its length byte, at the end of the ruleset, or
between its header and the next rule. -/
theorem flaw_cases {ruleset : List UInt8} {site : RuleSite} {flaw : Flaw}
    (member : site ∈ sites ruleset) (failed : site.rule = .error flaw) :
    flaw = ⟨.ruleLengthInvalid, site.start⟩ ∨
      (flaw = ⟨.truncatedRuleset, site.start⟩ ∧ site.start = ruleset.length) ∨
      (Bounded ruleset site.start ∧
        flaw.Between (site.start + 3) (finish ruleset site.start)) := by
  have inside := (start_le_of_mem_sites member).1
  rcases found_of_mem_sitesFrom (announced ruleset) 0 1 member with
    ⟨bounded, found⟩ | ⟨-, found⟩
  · by_cases short : lengthAt ruleset site.start < 4
    · rw [header_of_short bounded short] at found
      rw [RuleSite.rule, found] at failed
      cases failed
      exact .inl rfl
    · obtain ⟨action, param, -, -, header⟩ := header_of_long bounded (Nat.not_lt.mp short)
      rw [header] at found
      have verdict := site.verdict_of_error failed (Event.new 0 0 0)
      have ordered : site.start + 3 ≤ finish ruleset site.start := by
        rw [finish]
        omega
      rw [RuleSite.verdict, found] at verdict
      have stopped : Chain.evaluateAt ruleset (Event.new 0 0 0) (finish ruleset site.start) false
          .last (site.start + 3) = some (.error flaw) := by
        rw [Chain.evaluateAt_eq _ _ _ ordered bounded.within, map_eq_error_iff.mp verdict]
      exact .inr (.inr ⟨bounded, Chain.between_of_evaluateAt ordered bounded.within stopped⟩)
  · rw [RuleSite.rule, found] at failed
    cases failed
    by_cases ended : ruleset.length ≤ site.start
    · rw [if_pos ended]
      exact .inr (.inl ⟨rfl, Nat.le_antisymm inside ended⟩)
    · rw [if_neg ended]
      exact .inl rfl

/-- At most 254 rules of at most 255 bytes follow the first byte. -/
theorem offset_of_flaw_le {ruleset : List UInt8} {site : RuleSite} {flaw : Flaw}
    (member : site ∈ sites ruleset) (failed : site.rule = .error flaw) :
    flaw.offset ≤ 64771 ∧ flaw.offset ≤ ruleset.length := by
  obtain ⟨inside, short⟩ := start_le_of_mem_sites member
  have few := index_lt_announced member
  have all := announced_le ruleset
  have byte := lengthAt_lt ruleset site.start
  rcases flaw_cases member failed with rfl | ⟨rfl, -⟩ | ⟨⟨-, within⟩, -, -, last⟩
  · exact ⟨by dsimp only; omega, inside⟩
  · exact ⟨by dsimp only; omega, inside⟩
  · refine ⟨?_, Nat.le_trans last within⟩
    rw [finish] at last
    omega

theorem placedAt_of_fault? {ruleset : List UInt8} {site : RuleSite} {fault : RuleFault}
    (member : site ∈ sites ruleset) (faulty : site.fault? = some fault) :
    fault.PlacedAt ruleset site := by
  cases read : site.rule with
  | ok rule =>
      rw [RuleSite.fault?_of_ok read] at faulty
      cases faulty
  | error flaw =>
      obtain ⟨small, within⟩ := offset_of_flaw_le member read
      have unchanged : RuleFault.reportedOffset flaw.offset = flaw.offset :=
        Nat.min_eq_left (by omega)
      have stopped (event : Event) : (site.judge event).verdict = .error flaw := by
        rw [RuleSite.judge, site.verdict_of_error read event]
        rfl
      rw [RuleSite.fault?_of_error read, RuleFault.ofFlaw, unchanged] at faulty
      cases faulty
      rcases flaw_cases member read with rfl | ⟨rfl, ended⟩ | ⟨-, body, first, last⟩
      · refine ⟨member, rfl, stopped, small, within, fun _ => rfl, ?_, ?_⟩
        · intro other
          cases other
        · intro other
          cases other
      · refine ⟨member, rfl, stopped, small, within, ?_, fun _ => ended, ?_⟩
        · intro other
          cases other
        · intro other
          cases other
      · refine ⟨member, rfl, stopped, small, within, ?_, ?_, fun _ => ⟨first, last⟩⟩
        · intro other
          dsimp only at other
          rw [other] at body
          cases body
        · intro other
          dsimp only at other
          rw [other] at body
          cases body

theorem faults_ordered {sites : List RuleSite} (ordered : sites.Pairwise (·.index < ·.index)) :
    (sites.filterMap RuleSite.fault?).Pairwise (·.rule < ·.rule) := by
  rw [List.pairwise_filterMap]
  apply ordered.imp
  intro first second before fault faulty fault' faulty'
  rw [RuleSite.rule_of_fault? faulty, RuleSite.rule_of_fault? faulty']
  exact before

/-- A row of the listing shows the fault of its rule at its place. -/
theorem placedAt_of_mem_listing {ruleset : List UInt8} {row : RuleRow}
    (listed : row ∈ listing ruleset) : row.rule < announced ruleset ∧
      ∀ fault, row.fault = some fault →
        fault.rule = row.rule ∧ ∃ site, fault.PlacedAt ruleset site := by
  obtain ⟨site, member, rfl⟩ := List.mem_map.mp listed
  rw [RuleSite.row_index]
  refine ⟨index_lt_announced member, ?_⟩
  intro fault faulty
  rw [RuleSite.row_fault] at faulty
  exact ⟨RuleSite.rule_of_fault? faulty, site, placedAt_of_fault? member faulty⟩

/-- The rule that fires is judged by its own action and parameter. -/
theorem judged_of_hit {ruleset : List UInt8} {event : Event} {engine : RuleEngine} {hit : RuleHit}
    (fired : (engine.evaluate ruleset event).1.hit = some hit) :
    hit.rule < announced ruleset ∧ ∃ site ∈ sites ruleset, site.index = hit.rule ∧
      (site.judge event).verdict = .ok (hit.action, hit.param, true) := by
  rw [RuleEngine.evaluate_eq] at fired
  obtain ⟨site, member, rule, read, holds, rfl⟩ := Evaluation.site_of_hit fired
  refine ⟨index_lt_announced member, site, member, rfl, ?_⟩
  obtain ⟨header, verdict, action, param⟩ := site.verdict_of_ok read event
  rw [RuleSite.judge, verdict, holds, ← action, ← param]
  rfl

/-- The faults before the rule that fires are reported. -/
theorem faults_evaluate (ruleset : List UInt8) (event : Event) (engine : RuleEngine) :
    (engine.evaluate ruleset event).1.faults =
      ((sites ruleset).filterMap RuleSite.fault?).filter
        fun fault => (Evaluation.ofSites event (sites ruleset)).hit.all (fault.rule < ·.rule) := by
  rw [RuleEngine.evaluate_eq]
  exact Evaluation.faults_ofSites event (sites_ordered ruleset)

theorem placedAt_of_mem_faults {ruleset : List UInt8} {event : Event} {engine : RuleEngine}
    {fault : RuleFault} (member : fault ∈ (engine.evaluate ruleset event).1.faults) :
    fault.rule < announced ruleset ∧ ∃ site, fault.PlacedAt ruleset site := by
  rw [faults_evaluate] at member
  obtain ⟨site, visited, faulty⟩ := List.mem_filterMap.mp (List.mem_filter.mp member).1
  rw [RuleSite.rule_of_fault? faulty]
  exact ⟨index_lt_announced visited, site, placedAt_of_fault? visited faulty⟩

/-- Whatever its bytes, a ruleset is read at positions within it, and what is reported names each
rule at most once, in order and below the announced number: the rule that fires by its own action,
and every fault by the exact position where the judgement of its rule stops. -/
theorem reports_placed_exactly (ruleset : List UInt8) :
    announced ruleset ≤ 254 ∧
    (∀ event, judge ruleset event = some ((sites ruleset).map (RuleSite.judge event))) ∧
    (listing ruleset).Pairwise (·.rule < ·.rule) ∧
    (∀ row ∈ listing ruleset, row.rule < announced ruleset ∧
      ∀ fault, row.fault = some fault →
        fault.rule = row.rule ∧ ∃ site, fault.PlacedAt ruleset site) ∧
    ∀ (event : Event) (engine : RuleEngine),
      let evaluation := (engine.evaluate ruleset event).1
      (∀ hit, evaluation.hit = some hit → hit.rule < announced ruleset ∧
        ∃ site ∈ sites ruleset, site.index = hit.rule ∧
          (site.judge event).verdict = .ok (hit.action, hit.param, true)) ∧
      evaluation.faults.Pairwise (·.rule < ·.rule) ∧
      ∀ fault ∈ evaluation.faults, fault.rule < announced ruleset ∧
        ∃ site, fault.PlacedAt ruleset site := by
  have ordered := sites_ordered ruleset
  refine ⟨announced_le ruleset, judge_eq ruleset, ?_, fun row => placedAt_of_mem_listing, ?_⟩
  · rw [listing, List.pairwise_map]
    simpa only [RuleSite.row_index] using ordered
  · intro event engine
    refine ⟨fun hit => judged_of_hit, ?_, fun fault => placedAt_of_mem_faults⟩
    rw [faults_evaluate]
    exact (faults_ordered ordered).filter _

end Ruleset

end Vscp
