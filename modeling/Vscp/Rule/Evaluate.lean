/-
This file evaluates and validates rulesets.
-/

import Vscp.Rule.Decode

namespace Vscp

namespace Chain

/-- The value of a chain whose conditions before the cursor gave `result` and end in `pending`. A
condition that ends the chain takes the last byte of the window. -/
def evaluate (event : Event) (result : Bool) (pending : Connective) (cursor : RuleCursor) :
    Except Flaw Bool :=
  match _decoded : Condition.decode cursor with
  | .error flaw => .error flaw
  | .ok (condition, next) =>
      let value := pending.join result (condition.holds event)
      if condition.connective = .last then
        if next.atEnd then .ok value else .error ⟨.trailingBytes, next.offset⟩
      else evaluate event value condition.connective next
termination_by cursor.remaining
decreasing_by exact Condition.remaining_of_decode (by assumption)

/-- A chain is checked condition by condition, without an event. -/
def check (cursor : RuleCursor) : Except Flaw Unit :=
  match _decoded : Condition.decode cursor with
  | .error flaw => .error flaw
  | .ok (condition, next) =>
      if condition.connective = .last then
        if next.atEnd then .ok () else .error ⟨.trailingBytes, next.offset⟩
      else check next
termination_by cursor.remaining
decreasing_by exact Condition.remaining_of_decode (by assumption)

end Chain

namespace RuleSite

/-- The header of the rule and whether its chain holds; nothing precedes the first condition. -/
def verdict (site : RuleSite) (event : Event) : Except Flaw (RuleHeader × Bool) :=
  site.found.bind fun header =>
    (Chain.evaluate event false .last header.chain).map fun holds => (header, holds)

def check (site : RuleSite) : Except Flaw Unit :=
  site.found.bind fun header => Chain.check header.chain

end RuleSite

/-- The rule that fired and the faults met before it. -/
structure Evaluation where
  hit : Option RuleHit
  faults : List RuleFault
  deriving DecidableEq, Repr

def Evaluation.withFault (fault : RuleFault) (evaluation : Evaluation) : Evaluation :=
  { evaluation with faults := fault :: evaluation.faults }

/-- The latest fault is kept until it is cleared. -/
structure RuleEngine where
  lastFault : Option RuleFault
  deriving DecidableEq, Repr

namespace RuleEngine

def new : RuleEngine :=
  ⟨none⟩

/-- The first rule that holds fires; a faulty rule is reported and passed over. -/
def evaluateSites (event : Event) : List RuleSite → RuleEngine → Evaluation × RuleEngine
  | [], engine => (⟨none, []⟩, engine)
  | site :: rest, engine =>
      match site.verdict event with
      | .ok (header, true) => (⟨some ⟨site.index, header.action, header.param⟩, []⟩, engine)
      | .ok (_, false) => evaluateSites event rest engine
      | .error flaw =>
          let fault := RuleFault.ofFlaw site.index flaw
          let (evaluation, engine) := evaluateSites event rest ⟨some fault⟩
          (evaluation.withFault fault, engine)

def evaluate (engine : RuleEngine) (ruleset : List UInt8) (event : Event) :
    Evaluation × RuleEngine :=
  evaluateSites event (Ruleset.sites ruleset) engine

end RuleEngine

namespace Ruleset

/-- The first faulty rule ends the check. -/
def checkSites : List RuleSite → Except RuleFault Unit
  | [] => .ok ()
  | site :: rest =>
      match site.check with
      | .error flaw => .error (RuleFault.ofFlaw site.index flaw)
      | .ok () => checkSites rest

/-- The announced number of rules, or the first fault. -/
def validate (ruleset : List UInt8) : Except RuleFault Nat :=
  (checkSites (sites ruleset)).map fun _ => announced ruleset

end Ruleset

end Vscp
