/-
This file gives the rule at each site of a ruleset and proves that evaluating, checking and listing
the sites see the same rules and the same faults.
-/

import Vscp.Proofs.Rule.Chain

namespace Vscp

def Rule.source (rule : Rule) : String :=
  Rule.opening rule.action rule.param ++ Chain.source rule.conditions

namespace RuleSite

def rule (site : RuleSite) : Except Flaw Rule :=
  site.found.bind fun header =>
    (Chain.decode header.chain).map fun conditions => ⟨header.action, header.param, conditions⟩

def fault? (site : RuleSite) : Option RuleFault :=
  match site.rule with
  | .error flaw => some (RuleFault.ofFlaw site.index flaw)
  | .ok _ => none

theorem fault?_of_error {site : RuleSite} {flaw : Flaw} (failed : site.rule = .error flaw) :
    site.fault? = some (RuleFault.ofFlaw site.index flaw) := by
  rw [fault?, failed]

theorem fault?_of_ok {site : RuleSite} {rule : Rule} (read : site.rule = .ok rule) :
    site.fault? = none := by
  rw [fault?, read]

def rule? (site : RuleSite) : Option Rule :=
  site.rule.toOption

theorem rule?_of_ok {site : RuleSite} {rule : Rule} (read : site.rule = .ok rule) :
    site.rule? = some rule := by
  rw [rule?, read]
  rfl

theorem rule?_of_error {site : RuleSite} {flaw : Flaw} (failed : site.rule = .error flaw) :
    site.rule? = none := by
  rw [rule?, failed]
  rfl

theorem fault?_eq_none_iff {site : RuleSite} :
    site.fault? = none ↔ ∃ rule, site.rule = .ok rule := by
  unfold fault?
  cases site.rule <;> simp

theorem rule_of_fault? {site : RuleSite} {fault : RuleFault} (faulty : site.fault? = some fault) :
    fault.rule = site.index := by
  unfold fault? at faulty
  split at faulty
  · cases faulty
    rfl
  · cases faulty

theorem check_eq_rule (site : RuleSite) : site.check = site.rule.map fun _ => () := by
  unfold check rule
  cases site.found with
  | error flaw => rfl
  | ok header =>
      simp only [Except.bind, Chain.check_eq_decode]
      cases Chain.decode header.chain <;> rfl

theorem source_eq_rule (site : RuleSite) : site.source = site.rule.map Rule.source := by
  unfold source rule
  cases site.found with
  | error flaw => rfl
  | ok header =>
      simp only [Except.bind, Chain.render_eq_decode]
      cases Chain.decode header.chain <;> rfl

theorem verdict_of_error {site : RuleSite} {flaw : Flaw} (failed : site.rule = .error flaw)
    (event : Event) : site.verdict event = .error flaw := by
  unfold rule at failed
  unfold verdict
  cases found : site.found with
  | error cause =>
      rw [found] at failed
      cases failed
      rfl
  | ok header =>
      rw [found] at failed
      simp only [Except.bind, Chain.evaluate_eq_decode] at failed ⊢
      cases read : Chain.decode header.chain with
      | error cause =>
          rw [read] at failed
          cases failed
          rfl
      | ok conditions =>
          rw [read] at failed
          cases failed

/-- The verdict judges the chain of the rule at the site, whatever the header. -/
theorem verdict_of_ok {site : RuleSite} {rule : Rule} (read : site.rule = .ok rule)
    (event : Event) :
    ∃ header, site.verdict event = .ok (header, rule.holds event) ∧
      header.action = rule.action ∧ header.param = rule.param := by
  unfold RuleSite.rule at read
  unfold verdict
  cases found : site.found with
  | error cause =>
      rw [found] at read
      cases read
  | ok header =>
      rw [found] at read
      simp only [Except.bind, Chain.evaluate_eq_decode] at read ⊢
      cases chain : Chain.decode header.chain with
      | error cause =>
          rw [chain] at read
          cases read
      | ok conditions =>
          rw [chain] at read
          cases read
          refine ⟨header, ?_, rfl, rfl⟩
          simp only [Except.map, Rule.holds, Chain.holdsAfter_last]

theorem row_fault (site : RuleSite) : site.row.fault = site.fault? := by
  unfold row fault?
  rw [source_eq_rule]
  cases site.rule <;> rfl

theorem row_index (site : RuleSite) : site.row.rule = site.index := by
  unfold row
  cases site.source <;> rfl

theorem row_text_of_ok {site : RuleSite} {rule : Rule} (read : site.rule = .ok rule) :
    site.row.text = rule.source := by
  unfold row
  rw [source_eq_rule, read]
  rfl

theorem row_text_of_error {site : RuleSite} {flaw : Flaw} (failed : site.rule = .error flaw) :
    site.row.text = "; " ++ (RuleFault.ofFlaw site.index flaw).message := by
  unfold row
  rw [source_eq_rule, failed]
  rfl

theorem isNone_row_fault (site : RuleSite) :
    site.row.fault.isNone = site.rule?.isSome := by
  rw [row_fault]
  cases read : site.rule with
  | ok rule => rw [fault?_of_ok read, rule?_of_ok read]; rfl
  | error flaw => rw [fault?_of_error read, rule?_of_error read]; rfl

end RuleSite

namespace Evaluation

/-- The first rule that holds fires; a faulty one is passed over. -/
def ofSites (event : Event) : List RuleSite → Evaluation
  | [] => ⟨none, []⟩
  | site :: rest =>
      match site.rule with
      | .error flaw => (ofSites event rest).withFault (RuleFault.ofFlaw site.index flaw)
      | .ok rule =>
          if rule.holds event then ⟨some ⟨site.index, rule.action, rule.param⟩, []⟩
          else ofSites event rest

theorem ofSites_cons_of_error {site : RuleSite} {flaw : Flaw} (failed : site.rule = .error flaw)
    (event : Event) (rest : List RuleSite) :
    ofSites event (site :: rest) =
      (ofSites event rest).withFault (RuleFault.ofFlaw site.index flaw) := by
  rw [ofSites, failed]

theorem ofSites_cons_of_ok {site : RuleSite} {rule : Rule} (read : site.rule = .ok rule)
    (event : Event) (rest : List RuleSite) :
    ofSites event (site :: rest) =
      if rule.holds event then ⟨some ⟨site.index, rule.action, rule.param⟩, []⟩
      else ofSites event rest := by
  rw [ofSites, read]

/-- A rule fires only where one holds. -/
theorem site_of_hit {event : Event} {sites : List RuleSite} {hit : RuleHit}
    (fired : (ofSites event sites).hit = some hit) :
    ∃ site ∈ sites, ∃ rule, site.rule = .ok rule ∧
      rule.holds event = true ∧ hit = ⟨site.index, rule.action, rule.param⟩ := by
  induction sites with
  | nil => cases fired
  | cons site rest ih =>
      unfold ofSites at fired
      split at fired
      · obtain ⟨later, member, found⟩ := ih fired
        exact ⟨later, List.mem_cons_of_mem _ member, found⟩
      · rename_i rule read
        split at fired
        · rename_i holds
          cases fired
          exact ⟨site, List.mem_cons_self, rule, read, holds, rfl⟩
        · obtain ⟨later, member, found⟩ := ih fired
          exact ⟨later, List.mem_cons_of_mem _ member, found⟩

/-- The faults met are those of the sites before the rule that fires. -/
theorem faults_ofSites (event : Event) {sites : List RuleSite}
    (ordered : sites.Pairwise (·.index < ·.index)) :
    (ofSites event sites).faults =
      (sites.filterMap RuleSite.fault?).filter fun fault =>
        (ofSites event sites).hit.all (fault.rule < ·.rule) := by
  induction sites with
  | nil => rfl
  | cons site rest ih =>
      obtain ⟨before, ordered⟩ := List.pairwise_cons.mp ordered
      cases read : site.rule with
      | error flaw =>
          have earlier : (ofSites event rest).hit.all (site.index < ·.rule) = true := by
            cases fired : (ofSites event rest).hit with
            | none => rfl
            | some hit =>
                obtain ⟨later, member, rule, -, -, rfl⟩ := site_of_hit fired
                simpa using before later member
          have faulty := RuleSite.fault?_of_error read
          simp only [ofSites, read, withFault, List.filterMap_cons, faulty]
          rw [ih ordered]
          symm
          exact List.filter_cons_of_pos earlier
      | ok rule =>
          have sound := RuleSite.fault?_of_ok read
          simp only [ofSites, read, List.filterMap_cons, sound]
          split
          · symm
            simp only [List.filter_eq_nil_iff, List.mem_filterMap]
            rintro fault ⟨later, member, faulty⟩
            have place := RuleSite.rule_of_fault? faulty
            have after := before later member
            simp only [Option.all_some, decide_eq_true_eq, Nat.not_lt]
            omega
          · exact ih ordered

end Evaluation

namespace RuleEngine

/-- The engine keeps the last of the faults that it meets. -/
theorem evaluateSites_eq (event : Event) (sites : List RuleSite) (engine : RuleEngine) :
    evaluateSites event sites engine =
      (Evaluation.ofSites event sites,
        ⟨(Evaluation.ofSites event sites).faults.getLast?.or engine.lastFault⟩) := by
  induction sites generalizing engine with
  | nil => rfl
  | cons site rest ih =>
      cases read : site.rule with
      | error flaw =>
          simp only [evaluateSites, Evaluation.ofSites, site.verdict_of_error read, read, ih]
          simp [Evaluation.withFault, List.getLast?_cons]
      | ok rule =>
          obtain ⟨header, verdict, action, param⟩ := site.verdict_of_ok read event
          cases holds : rule.holds event with
          | true =>
              rw [holds] at verdict
              simp [evaluateSites, Evaluation.ofSites, verdict, read, holds, action, param]
          | false =>
              rw [holds] at verdict
              simp [evaluateSites, Evaluation.ofSites, verdict, read, holds, ih]

theorem evaluate_eq (engine : RuleEngine) (ruleset : List UInt8) (event : Event) :
    engine.evaluate ruleset event =
      (Evaluation.ofSites event (Ruleset.sites ruleset),
        ⟨(Evaluation.ofSites event (Ruleset.sites ruleset)).faults.getLast?.or
          engine.lastFault⟩) :=
  evaluateSites_eq event (Ruleset.sites ruleset) engine

end RuleEngine

namespace Ruleset

/-- The check stops at the first fault of the sites. -/
theorem checkSites_eq (sites : List RuleSite) :
    checkSites sites =
      match sites.filterMap RuleSite.fault? with
      | [] => .ok ()
      | fault :: _ => .error fault := by
  induction sites with
  | nil => rfl
  | cons site rest ih =>
      rw [checkSites, RuleSite.check_eq_rule, List.filterMap_cons]
      cases read : site.rule with
      | error flaw =>
          rw [RuleSite.fault?_of_error read]
          rfl
      | ok rule =>
          rw [RuleSite.fault?_of_ok read]
          exact ih

theorem faults_listing (ruleset : List UInt8) :
    (listing ruleset).filterMap (·.fault) = (sites ruleset).filterMap RuleSite.fault? := by
  rw [listing, List.filterMap_map]
  congr 1
  funext site
  exact site.row_fault

end Ruleset

end Vscp
