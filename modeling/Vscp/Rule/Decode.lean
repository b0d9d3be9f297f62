/-
This file finds the rules of a ruleset and decodes their conditions.
-/

import Vscp.Rule.Basic
import Vscp.Rule.Cursor

namespace Vscp

/-- The condition at the cursor: operation byte, field, operand. -/
def Condition.decode (cursor : RuleCursor) : Except Flaw (Condition × RuleCursor) :=
  match cursor.readByte .truncatedCondition with
  | .error kind => .error ⟨kind, cursor.offset⟩
  | .ok (operation, afterOperation) =>
      match Connective.ofCode? (operation / 16), Comparison.ofCode? (operation % 16) with
      | none, _ => .error ⟨.unknownLogicOp, cursor.offset⟩
      | some _, none => .error ⟨.unknownBasicOp, cursor.offset⟩
      | some connective, some comparison =>
          match afterOperation.readByte .truncatedCondition with
          | .error kind => .error ⟨kind, afterOperation.offset⟩
          | .ok (id, afterField) =>
              match Field.ofId? id with
              | none => .error ⟨.unknownParam, afterOperation.offset⟩
              | some field =>
                  match afterField.readNumber field.width .truncatedCondition with
                  | .error kind => .error ⟨kind, afterField.offset⟩
                  | .ok (operand, next) => .ok (⟨connective, comparison, field, operand⟩, next)

theorem Condition.remaining_of_decode {cursor next : RuleCursor} {condition : Condition}
    (decoded : Condition.decode cursor = .ok (condition, next)) :
    next.remaining < cursor.remaining := by
  unfold Condition.decode at decoded
  split at decoded
  · cases decoded
  · rename_i operationRead
    split at decoded
    · cases decoded
    · cases decoded
    · split at decoded
      · cases decoded
      · rename_i fieldRead
        split at decoded
        · cases decoded
        · split at decoded
          · cases decoded
          · rename_i operandRead
            cases decoded
            have first := RuleCursor.remaining_of_readByte operationRead
            have second := RuleCursor.remaining_of_readByte fieldRead
            have third := RuleCursor.remaining_of_readNumber operandRead
            omega

/-- What precedes the chain of a rule. -/
structure RuleHeader where
  action : UInt8
  param : UInt8
  chain : RuleCursor
  deriving DecidableEq, Repr

/-- The place of a rule in a ruleset and what was found there. -/
structure RuleSite where
  index : Nat
  start : Nat
  found : Except Flaw RuleHeader

namespace RuleSite

/-- The header in the bytes after the length byte; a rule has at least one byte of chain. -/
def header (start : Nat) : List UInt8 → Except Flaw RuleHeader
  | action :: param :: first :: rest => .ok ⟨action, param, ⟨start + 3, first :: rest⟩⟩
  | _ => .error ⟨.ruleLengthInvalid, start⟩

end RuleSite

namespace Ruleset

/-- The first byte of erased storage. -/
def erased : UInt8 := 0xFF

/-- The number of rules that the first byte announces; erased storage has none. -/
def announced : List UInt8 → Nat
  | [] => 0
  | count :: _ => if count = erased then 0 else count.toNat

/-- The sites of `count` rules from an offset on. A length byte of zero, one that reaches past the
ruleset, or a missing one hides where the next rule starts. -/
def sitesFrom : (count index offset : Nat) → List UInt8 → List RuleSite
  | 0, _, _, _ => []
  | _ + 1, index, offset, [] => [⟨index, offset, .error ⟨.truncatedRuleset, offset⟩⟩]
  | count + 1, index, offset, length :: rest =>
      if length = 0 ∨ rest.length < length.toNat - 1 then
        [⟨index, offset, .error ⟨.ruleLengthInvalid, offset⟩⟩]
      else
        ⟨index, offset, RuleSite.header offset (rest.take (length.toNat - 1))⟩ ::
          sitesFrom count (index + 1) (offset + length.toNat) (rest.drop (length.toNat - 1))

def sites (ruleset : List UInt8) : List RuleSite :=
  sitesFrom (announced ruleset) 0 1 (ruleset.drop 1)

end Ruleset

end Vscp
