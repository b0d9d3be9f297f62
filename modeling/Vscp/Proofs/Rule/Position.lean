/-
This file judges the rules of a ruleset by the positions of their bytes. It proves that no position
outside the ruleset is read and that the windows of the walk lead to the same verdicts.
-/

import Vscp.Proofs.Rule.Place
import Vscp.Proofs.Rule.Representable
import Vscp.Proofs.Rule.Window

namespace Vscp

namespace Condition

/-- The condition at a position of a rule that ends at `stop`. -/
def decodeAt (ruleset : List UInt8) (stop position : Nat) : Option (Except Flaw Condition) :=
  if stop ≤ position then some (.error ⟨.truncatedCondition, position⟩)
  else
    ruleset[position]?.bind fun operation =>
      match Connective.ofCode? (operation / 16), Comparison.ofCode? (operation % 16) with
      | none, _ => some (.error ⟨.unknownLogicOp, position⟩)
      | some _, none => some (.error ⟨.unknownBasicOp, position⟩)
      | some connective, some comparison =>
          if stop ≤ position + 1 then some (.error ⟨.truncatedCondition, position + 1⟩)
          else
            ruleset[position + 1]?.bind fun id =>
              match Field.ofId? id with
              | none => some (.error ⟨.unknownParam, position + 1⟩)
              | some field =>
                  if stop < position + 2 + field.width then
                    some (.error ⟨.truncatedCondition, position + 2⟩)
                  else
                    (Bytes.at? ruleset (position + 2) field.width).map fun operand =>
                      .ok ⟨connective, comparison, field, Bytes.value operand⟩

variable {ruleset : List UInt8} {position stop : Nat}

theorem lt_of_decodeAt {condition : Condition}
    (decoded : decodeAt ruleset stop position = some (.ok condition)) : position < stop := by
  unfold decodeAt at decoded
  split at decoded
  · cases decoded
  · omega

theorem size_positive (condition : Condition) : 0 < condition.size := by
  unfold size
  omega

theorem decodeAt_eq (ordered : position ≤ stop) (within : stop ≤ ruleset.length) :
    decodeAt ruleset stop position =
      some ((decode (.window ruleset position stop)).map (·.1)) := by
  have here := RuleCursor.offset_window ordered within
  unfold decodeAt decode
  by_cases ended : stop ≤ position
  · obtain rfl : position = stop := Nat.le_antisymm ordered ended
    simp only [ended, ↓reduceIte, RuleCursor.readByte_window_end within, here, Except.map]
  · have room : position + 1 ≤ stop := Nat.not_le.mp ended
    obtain ⟨operation, byte, read⟩ := RuleCursor.readByte_window room within .truncatedCondition
    have next := RuleCursor.offset_window room within
    simp only [ended, ↓reduceIte, byte, read, Option.bind_some, here, next]
    cases Connective.ofCode? (operation / 16) with
    | none => rfl
    | some connective =>
      cases Comparison.ofCode? (operation % 16) with
      | none => rfl
      | some comparison =>
        by_cases alone : stop ≤ position + 1
        · obtain rfl : stop = position + 1 := Nat.le_antisymm alone room
          simp only [Nat.le_refl, ↓reduceIte, RuleCursor.readByte_window_end within, Except.map]
        · have more : position + 2 ≤ stop := Nat.not_le.mp alone
          obtain ⟨id, byte', read'⟩ := RuleCursor.readByte_window more within .truncatedCondition
          have behind := RuleCursor.offset_window more within
          simp only [alone, ↓reduceIte, byte', read', Option.bind_some, Nat.add_assoc,
            Nat.reduceAdd, behind]
          cases Field.ofId? id with
          | none => rfl
          | some field =>
            by_cases short : stop < position + 2 + field.width
            · have failed := RuleCursor.readNumber_window_end more (fun _ => short) within
                .truncatedCondition
              simp only [← Nat.add_assoc, short, ↓reduceIte, failed, Except.map]
            · obtain ⟨operand, bytes, read''⟩ := RuleCursor.readNumber_window field.width_le
                (Nat.not_lt.mp short) within .truncatedCondition
              simp only [← Nat.add_assoc, short, ↓reduceIte, bytes, read'', Option.map_some,
                Except.map]

/-- A condition that is read leaves the window behind its bytes. -/
theorem next_of_decode {condition : Condition} {next : RuleCursor} (ordered : position ≤ stop)
    (within : stop ≤ ruleset.length)
    (decoded : decode (.window ruleset position stop) = .ok (condition, next)) :
    position + condition.size ≤ stop ∧
      next = .window ruleset (position + condition.size) stop := by
  obtain ⟨bytes, encoded, rest, offset⟩ := (decode_eq_ok_iff 0).mp decoded
  have size := length_encode encoded
  have left := RuleCursor.remaining_window ordered within
  have total := congrArg List.length rest
  rw [List.length_append, size] at total
  change RuleCursor.remaining _ = _ at total
  have room : position + condition.size ≤ stop := by omega
  refine ⟨room, ?_⟩
  rw [← RuleCursor.skip_window room within, RuleCursor.skip, rest, List.drop_left' size, ← size,
    ← offset]

theorem decode_of_decodeAt_error {flaw : Flaw} (ordered : position ≤ stop)
    (within : stop ≤ ruleset.length)
    (failed : decodeAt ruleset stop position = some (.error flaw)) :
    decode (.window ruleset position stop) = .error flaw := by
  rw [decodeAt_eq ordered within] at failed
  exact map_eq_error_iff.mp (Option.some.inj failed)

theorem decode_of_decodeAt_ok {condition : Condition} (ordered : position ≤ stop)
    (within : stop ≤ ruleset.length)
    (read : decodeAt ruleset stop position = some (.ok condition)) :
    position + condition.size ≤ stop ∧
      decode (.window ruleset position stop) =
        .ok (condition, .window ruleset (position + condition.size) stop) := by
  rw [decodeAt_eq ordered within] at read
  obtain ⟨⟨condition, next⟩, decoded, rfl⟩ := map_eq_ok_iff.mp (Option.some.inj read)
  obtain ⟨room, rfl⟩ := next_of_decode ordered within decoded
  exact ⟨room, decoded⟩

end Condition

namespace Chain

/-- The value of a chain whose conditions before a position gave `result` and end in `pending`. The
rule ends at `stop`. -/
def evaluateAt (ruleset : List UInt8) (event : Event) (stop : Nat) (result : Bool)
    (pending : Connective) (position : Nat) : Option (Except Flaw Bool) :=
  match _decoded : Condition.decodeAt ruleset stop position with
  | none => none
  | some (.error flaw) => some (.error flaw)
  | some (.ok condition) =>
      let value := pending.join result (condition.holds event)
      let next := position + condition.size
      if condition.connective = .last then
        if next = stop then some (.ok value) else some (.error ⟨.trailingBytes, next⟩)
      else evaluateAt ruleset event stop value condition.connective next
termination_by stop - position
decreasing_by
  have room := Condition.lt_of_decodeAt _decoded
  have positive := condition.size_positive
  omega

theorem evaluate_of_error {cursor : RuleCursor} {flaw : Flaw}
    (failed : Condition.decode cursor = .error flaw) (event : Event) (result : Bool)
    (pending : Connective) : evaluate event result pending cursor = .error flaw := by
  rw [evaluate_eq_decode, decode_of_error failed]
  rfl

theorem evaluate_of_ok {cursor next : RuleCursor} {condition : Condition}
    (decoded : Condition.decode cursor = .ok (condition, next)) (event : Event) (result : Bool)
    (pending : Connective) :
    evaluate event result pending cursor =
      if condition.connective = .last then
        if next.atEnd then .ok (pending.join result (condition.holds event))
        else .error ⟨.trailingBytes, next.offset⟩
      else
        evaluate event (pending.join result (condition.holds event)) condition.connective next := by
  rw [evaluate]
  split
  · rename_i failed
    rw [decoded] at failed
    cases failed
  · rename_i again
    rw [decoded] at again
    cases again
    rfl

theorem evaluateAt_eq {ruleset : List UInt8} {position stop : Nat} (event : Event) (result : Bool)
    (pending : Connective) (ordered : position ≤ stop) (within : stop ≤ ruleset.length) :
    evaluateAt ruleset event stop result pending position =
      some (evaluate event result pending (.window ruleset position stop)) := by
  fun_induction evaluateAt ruleset event stop result pending position with
  | case1 result pending position outside =>
      rw [Condition.decodeAt_eq ordered within] at outside
      cases outside
  | case2 result pending position flaw failed =>
      rw [evaluate_of_error (Condition.decode_of_decodeAt_error ordered within failed)]
  | case3 result pending position condition read value next last ended =>
      obtain ⟨room, decoded⟩ := Condition.decode_of_decodeAt_ok ordered within read
      have done := (RuleCursor.atEnd_window room within).mpr ended
      rw [evaluate_of_ok decoded, if_pos last, if_pos done]
  | case4 result pending position condition read next last more =>
      obtain ⟨room, decoded⟩ := Condition.decode_of_decodeAt_ok ordered within read
      have trailing := mt (RuleCursor.atEnd_window room within).mp more
      rw [evaluate_of_ok decoded, if_pos last, if_neg trailing,
        RuleCursor.offset_window room within]
  | case5 result pending position condition read value next joined ih =>
      obtain ⟨room, decoded⟩ := Condition.decode_of_decodeAt_ok ordered within read
      rw [evaluate_of_ok decoded, if_neg joined, ih room]

end Chain

/-- What is judged of a rule for an event: its place, and a fault or its action with the value of
its chain. -/
structure Judgement where
  rule : Nat
  start : Nat
  verdict : Except Flaw (UInt8 × UInt8 × Bool)

def RuleSite.judge (event : Event) (site : RuleSite) : Judgement :=
  ⟨site.index, site.start,
    (site.verdict event).map fun (header, holds) => (header.action, header.param, holds)⟩

namespace Ruleset

/-- The judgements of `count` rules from a position on. A rule has at least four bytes. -/
def judgeFrom (ruleset : List UInt8) (event : Event) :
    (count index start : Nat) → Option (List Judgement)
  | 0, _, _ => some []
  | count + 1, index, start =>
      if ruleset.length ≤ start then
        some [⟨index, start, .error ⟨.truncatedRuleset, start⟩⟩]
      else
        ruleset[start]?.bind fun length =>
          let stop := start + length.toNat
          if length = 0 ∨ ruleset.length < stop then
            some [⟨index, start, .error ⟨.ruleLengthInvalid, start⟩⟩]
          else if length.toNat < 4 then
            (judgeFrom ruleset event count (index + 1) stop).map
              (⟨index, start, .error ⟨.ruleLengthInvalid, start⟩⟩ :: ·)
          else
            ruleset[start + 1]?.bind fun action =>
              ruleset[start + 2]?.bind fun param =>
                (Chain.evaluateAt ruleset event stop false .last (start + 3)).bind fun verdict =>
                  (judgeFrom ruleset event count (index + 1) stop).map
                    (⟨index, start, verdict.map fun holds => (action, param, holds)⟩ :: ·)

def judge (ruleset : List UInt8) (event : Event) : Option (List Judgement) :=
  judgeFrom ruleset event (announced ruleset) 0 1

/-- A body of less than three bytes has no header. -/
theorem header_of_short {ruleset : List UInt8} {start : Nat} (bounded : Bounded ruleset start)
    (short : lengthAt ruleset start < 4) :
    RuleSite.header start (body ruleset start) = .error ⟨.ruleLengthInvalid, start⟩ := by
  have length := bounded.length_body
  unfold RuleSite.header
  split
  · rename_i bytes
    rw [bytes] at length
    simp only [List.length_cons] at length
    omega
  · rfl

/-- A longer one has its action and parameter behind the length byte, and its chain takes the bytes
up to the next rule. -/
theorem header_of_long {ruleset : List UInt8} {start : Nat} (bounded : Bounded ruleset start)
    (long : 4 ≤ lengthAt ruleset start) :
    ∃ action param, ruleset[start + 1]? = some action ∧ ruleset[start + 2]? = some param ∧
      RuleSite.header start (body ruleset start) =
        .ok ⟨action, param, .window ruleset (start + 3) (finish ruleset start)⟩ := by
  obtain ⟨-, within⟩ := bounded
  have ordered : start + 3 < finish ruleset start := by
    rw [finish]
    omega
  have first : start + 1 < ruleset.length := by omega
  have second : start + 2 < ruleset.length := by omega
  have third : start + 3 < ruleset.length := by omega
  have window : RuleCursor.window ruleset (start + 3) (finish ruleset start) =
      ⟨start + 3, (ruleset.drop (start + 3)).take (lengthAt ruleset start - 4 + 1)⟩ := by
    have left : finish ruleset start - (start + 3) = lengthAt ruleset start - 4 + 1 := by
      rw [finish]
      omega
    rw [RuleCursor.window_of_within (Nat.le_of_lt ordered) within, List.drop_take, left]
  have size : lengthAt ruleset start - 1 = lengthAt ruleset start - 4 + 1 + 1 + 1 := by omega
  refine ⟨ruleset[start + 1], ruleset[start + 2], List.getElem?_eq_getElem first,
    List.getElem?_eq_getElem second, ?_⟩
  rw [window, body, size, List.drop_eq_getElem_cons first, List.drop_eq_getElem_cons second,
    List.drop_eq_getElem_cons third]
  rfl

theorem bounded_iff_of_getElem? {ruleset : List UInt8} {start : Nat} {length : UInt8}
    (place : ruleset[start]? = some length) :
    Bounded ruleset start ↔ ¬(length = 0 ∨ ruleset.length < start + length.toNat) := by
  have value : lengthAt ruleset start = length.toNat := by
    rw [lengthAt, place]
    rfl
  have zero : length = 0 ↔ length.toNat = 0 := UInt8.toNat_inj.symm
  rw [zero]
  constructor
  · rintro ⟨positive, within⟩
    rw [finish] at within
    omega
  · intro sound
    exact ⟨by omega, by rw [finish]; omega⟩

/-- The walk by positions judges every rule as the walk by windows does and stays within the
ruleset. -/
theorem judgeFrom_eq (ruleset : List UInt8) (event : Event) (count index start : Nat) :
    judgeFrom ruleset event count index start =
      some ((sitesFrom count index start (ruleset.drop start)).map (RuleSite.judge event)) := by
  induction count generalizing index start with
  | zero => rfl
  | succ count ih =>
      unfold judgeFrom
      by_cases ended : ruleset.length ≤ start
      · have unbounded : ¬Bounded ruleset start := fun bounded =>
          Nat.not_lt.mpr ended bounded.lt_length
        rw [sitesFrom_of_not_bounded unbounded, if_pos ended, if_pos ended]
        rfl
      · have place := List.getElem?_eq_getElem (Nat.not_le.mp ended)
        have bounded_iff := bounded_iff_of_getElem? place
        have value : lengthAt ruleset start = ruleset[start].toNat := by
          rw [lengthAt, place]
          rfl
        rw [if_neg ended, place, Option.bind_some]
        dsimp only
        by_cases wrong : ruleset[start] = 0 ∨ ruleset.length < start + ruleset[start].toNat
        · have unbounded : ¬Bounded ruleset start := fun bounded => bounded_iff.mp bounded wrong
          rw [sitesFrom_of_not_bounded unbounded, if_pos wrong, if_neg ended]
          rfl
        · have bounded := bounded_iff.mpr wrong
          have stop : start + ruleset[start].toNat = finish ruleset start := by rw [finish, value]
          rw [if_neg wrong, stop, ih, sitesFrom_of_bounded bounded, List.map_cons]
          by_cases short : ruleset[start].toNat < 4
          · rw [if_pos short, header_of_short bounded (by omega)]
            rfl
          · obtain ⟨action, param, first, second, header⟩ := header_of_long bounded (by omega)
            have ordered : start + 3 ≤ finish ruleset start := by omega
            rw [if_neg short, first, second, Chain.evaluateAt_eq _ _ _ ordered bounded.within,
              header]
            simp only [Option.bind_some, Option.map_some, RuleSite.judge, RuleSite.verdict,
              Except.bind]
            cases Chain.evaluate event false .last
              (.window ruleset (start + 3) (finish ruleset start)) <;> rfl

theorem judge_eq (ruleset : List UInt8) (event : Event) :
    judge ruleset event = some ((sites ruleset).map (RuleSite.judge event)) :=
  judgeFrom_eq ruleset event (announced ruleset) 0 1

end Ruleset

end Vscp
