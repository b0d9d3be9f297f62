/-
This file says by position which rules the walk over a ruleset visits and where each begins and
ends.
-/

import Vscp.Proofs.Rule.Walk

namespace Vscp.Ruleset

/-- The length byte of the rule at an offset, or zero behind the ruleset. -/
def lengthAt (ruleset : List UInt8) (offset : Nat) : Nat :=
  ruleset[offset]?.elim 0 UInt8.toNat

/-- The position behind the rule at an offset, by its length byte. -/
def finish (ruleset : List UInt8) (offset : Nat) : Nat :=
  offset + lengthAt ruleset offset

/-- The length byte at an offset is not zero and leads to a position within the ruleset. -/
structure Bounded (ruleset : List UInt8) (offset : Nat) : Prop where
  positive : 0 < lengthAt ruleset offset
  within : finish ruleset offset ≤ ruleset.length

/-- The bytes of the rule at an offset behind its length byte. -/
def body (ruleset : List UInt8) (offset : Nat) : List UInt8 :=
  (ruleset.drop (offset + 1)).take (lengthAt ruleset offset - 1)

theorem lengthAt_of_drop {ruleset rest : List UInt8} {offset : Nat} {length : UInt8}
    (place : ruleset.drop offset = length :: rest) : lengthAt ruleset offset = length.toNat := by
  have first : ruleset[offset]? = some length := by
    rw [← List.head?_drop, place]
    rfl
  rw [lengthAt, first]
  rfl

theorem lengthAt_lt (ruleset : List UInt8) (offset : Nat) : lengthAt ruleset offset < 256 := by
  unfold lengthAt
  cases ruleset[offset]? with
  | none => decide
  | some length => exact length.toNat_lt

namespace Bounded

variable {ruleset : List UInt8} {offset : Nat}

theorem lt_finish (bounded : Bounded ruleset offset) : offset < finish ruleset offset :=
  Nat.lt_add_of_pos_right bounded.positive

theorem lt_length (bounded : Bounded ruleset offset) : offset < ruleset.length :=
  Nat.lt_of_lt_of_le bounded.lt_finish bounded.within

theorem length_body (bounded : Bounded ruleset offset) :
    (body ruleset offset).length + 1 = lengthAt ruleset offset := by
  obtain ⟨positive, within⟩ := bounded
  rw [finish] at within
  rw [body, List.length_take, List.length_drop]
  omega

end Bounded

/-- Where the next rule can be found the walk takes the bytes up to it and goes on there. -/
theorem sitesFrom_of_bounded {ruleset : List UInt8} {offset : Nat}
    (bounded : Bounded ruleset offset) (count index : Nat) :
    sitesFrom (count + 1) index offset (ruleset.drop offset) =
      ⟨index, offset, RuleSite.header offset (body ruleset offset)⟩ ::
        sitesFrom count (index + 1) (finish ruleset offset)
          (ruleset.drop (finish ruleset offset)) := by
  have place := List.drop_eq_getElem_cons bounded.lt_length
  have length := lengthAt_of_drop place
  have whole := bounded.length_body
  rw [length] at whole
  have split : ruleset.drop (offset + 1) =
      body ruleset offset ++ ruleset.drop (finish ruleset offset) := by
    have next : finish ruleset offset = offset + 1 + (lengthAt ruleset offset - 1) := by
      have positive := bounded.positive
      rw [finish]
      omega
    rw [next, body, ← List.drop_drop (i := lengthAt ruleset offset - 1), List.take_append_drop]
  rw [place, split, sitesFrom_rule count index offset _ whole, finish, length]

/-- Where it cannot be found the walk ends with a fault: no byte is left, or the length is wrong. -/
theorem sitesFrom_of_not_bounded {ruleset : List UInt8} {offset : Nat}
    (unbounded : ¬Bounded ruleset offset) (count index : Nat) :
    sitesFrom (count + 1) index offset (ruleset.drop offset) =
      [⟨index, offset, .error
        ⟨if ruleset.length ≤ offset then .truncatedRuleset else .ruleLengthInvalid, offset⟩⟩] := by
  by_cases behind : ruleset.length ≤ offset
  · rw [if_pos behind, List.drop_eq_nil_of_le behind]
    rfl
  · have room : offset < ruleset.length := Nat.not_le.mp behind
    have place := List.drop_eq_getElem_cons room
    have hidden : ruleset[offset] = 0 ∨
        (ruleset.drop (offset + 1)).length < ruleset[offset].toNat - 1 := by
      by_cases zero : ruleset[offset] = 0
      · exact .inl zero
      · right
        have positive : 0 < ruleset[offset].toNat :=
          Nat.pos_of_ne_zero fun same => zero (UInt8.toNat_inj.mp same)
        have far : ¬finish ruleset offset ≤ ruleset.length := by
          intro within
          exact unbounded ⟨by rw [lengthAt_of_drop place]; exact positive, within⟩
        rw [finish, lengthAt_of_drop place] at far
        rw [List.length_drop]
        omega
    rw [if_neg behind, place, sitesFrom, if_pos hidden]

/-- The walk does not go back. -/
theorem le_start_of_mem_sitesFrom {ruleset : List UInt8} {site : RuleSite}
    (count index offset : Nat)
    (member : site ∈ sitesFrom count index offset (ruleset.drop offset)) :
    offset ≤ site.start := by
  induction count generalizing index offset with
  | zero => cases member
  | succ count ih =>
      by_cases bounded : Bounded ruleset offset
      · rw [sitesFrom_of_bounded bounded] at member
        rcases List.mem_cons.mp member with rfl | later
        · exact Nat.le_refl _
        · exact Nat.le_trans (Nat.le_of_lt bounded.lt_finish) (ih _ _ later)
      · rw [sitesFrom_of_not_bounded bounded, List.mem_singleton] at member
        exact Nat.le_of_eq (congrArg RuleSite.start member).symm

/-- The walk stays within the ruleset, and no rule is longer than its length byte can say. -/
theorem start_le_of_mem_sitesFrom {ruleset : List UInt8} {site : RuleSite}
    (count index offset : Nat) (within : offset ≤ ruleset.length)
    (member : site ∈ sitesFrom count index offset (ruleset.drop offset)) :
    site.start ≤ ruleset.length ∧ site.start + 255 * index ≤ offset + 255 * site.index := by
  induction count generalizing index offset with
  | zero => cases member
  | succ count ih =>
      by_cases bounded : Bounded ruleset offset
      · rw [sitesFrom_of_bounded bounded] at member
        rcases List.mem_cons.mp member with rfl | later
        · exact ⟨within, Nat.le_refl _⟩
        · obtain ⟨inside, short⟩ := ih _ _ bounded.within later
          have byte := lengthAt_lt ruleset offset
          rw [finish] at short
          exact ⟨inside, by omega⟩
      · rw [sitesFrom_of_not_bounded bounded, List.mem_singleton] at member
        rw [congrArg RuleSite.start member, congrArg RuleSite.index member]
        exact ⟨within, Nat.le_refl _⟩

/-- What is found of a rule depends on the bytes at its start alone. -/
theorem found_of_mem_sitesFrom {ruleset : List UInt8} {site : RuleSite} (count index offset : Nat)
    (member : site ∈ sitesFrom count index offset (ruleset.drop offset)) :
    (Bounded ruleset site.start ∧
      site.found = RuleSite.header site.start (body ruleset site.start)) ∨
    (¬Bounded ruleset site.start ∧ site.found =
      .error ⟨if ruleset.length ≤ site.start then .truncatedRuleset else .ruleLengthInvalid,
        site.start⟩) := by
  induction count generalizing index offset with
  | zero => cases member
  | succ count ih =>
      by_cases bounded : Bounded ruleset offset
      · rw [sitesFrom_of_bounded bounded] at member
        rcases List.mem_cons.mp member with rfl | later
        · exact .inl ⟨bounded, rfl⟩
        · exact ih _ _ later
      · rw [sitesFrom_of_not_bounded bounded, List.mem_singleton] at member
        rw [member]
        exact .inr ⟨bounded, rfl⟩

/-- Each site has its place in the walk as its number. -/
theorem index_of_getElem? {ruleset : List UInt8} {number : Nat} {site : RuleSite}
    (place : (sites ruleset)[number]? = some site) : site.index = number := by
  have numbered := map_index_sitesFrom (announced ruleset) 0 1 (ruleset.drop 1)
  change (sites ruleset).map (·.index) = List.range' 0 (sites ruleset).length at numbered
  have entry := congrArg (·[number]?) numbered
  have room : number < (sites ruleset).length := (List.getElem?_eq_some_iff.mp place).1
  simp only [List.getElem?_map, place, Option.map_some, List.getElem?_range' room] at entry
  simpa using entry

theorem index_lt_announced {ruleset : List UInt8} {site : RuleSite}
    (member : site ∈ sites ruleset) : site.index < announced ruleset := by
  obtain ⟨number, place⟩ := List.mem_iff_getElem?.mp member
  have room : number < (sites ruleset).length := (List.getElem?_eq_some_iff.mp place).1
  rw [index_of_getElem? place]
  exact Nat.lt_of_lt_of_le room (length_sitesFrom_le _ _ _ _)

/-- The first byte announces the rules, so where it announces one the walk starts within. -/
theorem start_le_of_mem_sites {ruleset : List UInt8} {site : RuleSite}
    (member : site ∈ sites ruleset) :
    site.start ≤ ruleset.length ∧ site.start ≤ 1 + 255 * site.index := by
  have present : 1 ≤ ruleset.length := by
    cases ruleset with
    | nil => cases member
    | cons count rest => exact Nat.le_add_left 1 rest.length
  obtain ⟨inside, short⟩ := start_le_of_mem_sitesFrom (announced ruleset) 0 1 present member
  exact ⟨inside, by omega⟩

end Vscp.Ruleset
