/-
This file writes rules as source text.
-/

import Vscp.Rule.Decode

namespace Vscp

def Condition.source (condition : Condition) : String :=
  condition.field.name ++ " " ++ condition.comparison.symbol ++ " " ++
    Numeral.decimal condition.operand

/-- The text before the first condition of a rule. -/
def Rule.opening (action param : UInt8) : String :=
  "rule 0x" ++ Numeral.capitalHexadecimal 2 action.toNat ++ " " ++
    Numeral.decimal param.toNat ++ " when"

/-- The text of a rule whose conditions before the cursor are written in `text`. A condition that
ends the chain takes the last byte of the window. -/
def Chain.render (text : String) (cursor : RuleCursor) : Except Flaw String :=
  match _decoded : Condition.decode cursor with
  | .error flaw => .error flaw
  | .ok (condition, next) =>
      let text := text ++ " " ++ condition.source
      if condition.connective = .last then
        if next.atEnd then .ok text else .error ⟨.trailingBytes, next.offset⟩
      else Chain.render (text ++ " " ++ condition.connective.keyword) next
termination_by cursor.remaining
decreasing_by exact Condition.remaining_of_decode (by assumption)

/-- One rule of a listing: its source, or a comment that tells its fault. -/
structure RuleRow where
  rule : Nat
  offset : Nat
  text : String
  fault : Option RuleFault
  deriving DecidableEq, Repr

namespace RuleSite

def source (site : RuleSite) : Except Flaw String :=
  site.found.bind fun header => Chain.render (Rule.opening header.action header.param) header.chain

def row (site : RuleSite) : RuleRow :=
  let offset := RuleFault.reportedOffset site.start
  match site.source with
  | .ok text => ⟨site.index, offset, text, none⟩
  | .error flaw =>
      let fault := RuleFault.ofFlaw site.index flaw
      ⟨site.index, offset, "; " ++ fault.message, some fault⟩

end RuleSite

def Ruleset.listing (ruleset : List UInt8) : List RuleRow :=
  (sites ruleset).map RuleSite.row

end Vscp
