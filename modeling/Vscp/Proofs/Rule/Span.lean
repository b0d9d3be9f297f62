/-
This file proves that the rule at a site is written with the bytes between its start and its end.
-/

import Vscp.Proofs.Rule.Encoding

namespace Vscp

namespace RuleSite

/-- The position behind the last byte of the rule at a site. -/
def stop (site : RuleSite) : Nat :=
  match site.found with
  | .ok header => header.chain.stop
  | .error _ => site.start

def bytes (ruleset : List UInt8) (site : RuleSite) : List UInt8 :=
  (ruleset.drop site.start).take (site.stop - site.start)

/-- A header that leads to a rule is followed by at least one byte of chain. -/
theorem header_of_rule {index start : Nat} {body : List UInt8} {rule : Rule}
    (read : RuleSite.rule ⟨index, start, header start body⟩ = .ok rule) :
    ∃ chain, body = rule.action :: rule.param :: chain ∧ chain ≠ [] ∧
      header start body = .ok ⟨rule.action, rule.param, ⟨start + 3, chain⟩⟩ ∧
      Chain.decode ⟨start + 3, chain⟩ = .ok rule.conditions := by
  unfold RuleSite.rule at read
  obtain ⟨found, headed, chained⟩ := bind_eq_ok_iff.mp read
  obtain ⟨conditions, decoded, rfl⟩ := map_eq_ok_iff.mp chained
  change header start body = .ok found at headed
  unfold header at headed
  split at headed
  · cases headed
    exact ⟨_, rfl, by simp, rfl, decoded⟩
  · cases headed

/-- A rule is written with the length byte and the bytes behind it that it was read from. -/
theorem encode_of_header {index start : Nat} {length : UInt8} {body : List UInt8} {rule : Rule}
    (whole : body.length + 1 = length.toNat)
    (read : RuleSite.rule ⟨index, start, header start body⟩ = .ok rule) (number : Nat) :
    rule.encode number = .ok (length :: body) := by
  obtain ⟨chain, rfl, -, -, decoded⟩ := header_of_rule read
  obtain ⟨present, written⟩ := Chain.encodeFrom_decode decoded number 0
  have total : chain.length + 3 = length.toNat := whole
  have small := length.toNat_lt
  refine Rule.encode_eq_ok_iff.mpr ⟨present, chain, written, by omega, ?_⟩
  rw [total, UInt8.ofNat_toNat]

/-- The bytes of a site that holds a rule are its length byte and its body. -/
theorem bytes_of_header {ruleset rest : List UInt8} {index start : Nat} {length : UInt8}
    {body : List UInt8} {rule : Rule} (place : ruleset.drop start = length :: (body ++ rest))
    (read : RuleSite.rule ⟨index, start, header start body⟩ = .ok rule) :
    bytes ruleset ⟨index, start, header start body⟩ = length :: body ∧
      stop ⟨index, start, header start body⟩ = start + (body.length + 1) := by
  obtain ⟨chain, rfl, -, headed, -⟩ := header_of_rule read
  have ends : stop ⟨index, start, header start (rule.action :: rule.param :: chain)⟩ =
      start + ((rule.action :: rule.param :: chain).length + 1) := by
    simp only [stop, headed, RuleCursor.stop, RuleCursor.remaining, List.length_cons]
    omega
  refine ⟨?_, ends⟩
  rw [bytes, ends, place, Nat.add_sub_cancel_left, List.take_succ_cons, List.take_left]

end RuleSite

namespace Ruleset

/-- What the walk finds at an offset: nothing past the count, a fault that ends it, or a body of
the length that its first byte gives. -/
theorem sitesFrom_cases (ruleset : List UInt8) (count index offset : Nat) :
    (∃ flaw, sitesFrom (count + 1) index offset (ruleset.drop offset) =
      [⟨index, offset, .error flaw⟩]) ∨
    ∃ length body rest, body.length + 1 = length.toNat ∧
      ruleset.drop offset = length :: (body ++ rest) ∧
      ruleset.drop (offset + length.toNat) = rest ∧
      sitesFrom (count + 1) index offset (ruleset.drop offset) =
        ⟨index, offset, RuleSite.header offset body⟩ ::
          sitesFrom count (index + 1) (offset + length.toNat)
            (ruleset.drop (offset + length.toNat)) := by
  cases place : ruleset.drop offset with
  | nil => exact .inl ⟨_, rfl⟩
  | cons length rest =>
      by_cases hidden : length = 0 ∨ rest.length < length.toNat - 1
      · exact .inl ⟨_, by rw [sitesFrom, if_pos hidden]⟩
      · have positive : 0 < length.toNat := by
          apply Nat.pos_of_ne_zero
          intro zero
          exact hidden (.inl (UInt8.toNat_inj.mp zero))
        have room : length.toNat - 1 ≤ rest.length := by omega
        have whole : (rest.take (length.toNat - 1)).length + 1 = length.toNat := by
          rw [List.length_take_of_le room]
          omega
        have next : ruleset.drop (offset + length.toNat) = rest.drop (length.toNat - 1) := by
          obtain ⟨size, split⟩ : ∃ size, length.toNat = size + 1 := ⟨length.toNat - 1, by omega⟩
          rw [← List.drop_drop, place, split]
          rfl
        refine .inr ⟨length, rest.take (length.toNat - 1), rest.drop (length.toNat - 1), whole,
          ?_, next, ?_⟩
        · rw [List.take_append_drop]
        · have found := sitesFrom_rule count index offset (rest.drop (length.toNat - 1)) whole
          rw [List.take_append_drop] at found
          rw [found, next]

/-- The rule at a site of a walk is written with the bytes of the site. -/
theorem encode_of_mem_sitesFrom {ruleset : List UInt8} {site : RuleSite} {rule : Rule}
    (count index offset : Nat)
    (member : site ∈ sitesFrom count index offset (ruleset.drop offset))
    (read : site.rule = .ok rule) (number : Nat) :
    rule.encode number = .ok (site.bytes ruleset) := by
  induction count generalizing index offset with
  | zero => cases member
  | succ count ih =>
      rcases sitesFrom_cases ruleset count index offset with
        ⟨flaw, ended⟩ | ⟨length, body, rest, whole, place, -, found⟩
      · rw [ended, List.mem_singleton] at member
        rw [member] at read
        cases read
      · rw [found] at member
        rcases List.mem_cons.mp member with rfl | later
        · rw [(RuleSite.bytes_of_header place read).1]
          exact RuleSite.encode_of_header whole read number
        · exact ih _ _ later

/-- Sites without faults follow each other without gaps. -/
theorem flatMap_bytes_sitesFrom (ruleset : List UInt8) (count index offset : Nat)
    (sound : ∀ site ∈ sitesFrom count index offset (ruleset.drop offset), site.fault? = none) :
    let sites := sitesFrom count index offset (ruleset.drop offset)
    let code := sites.flatMap (RuleSite.bytes ruleset)
    sites.getLast?.elim offset RuleSite.stop = offset + code.length ∧
      ∃ tail, ruleset.drop offset = code ++ tail := by
  induction count generalizing index offset with
  | zero => exact ⟨rfl, _, rfl⟩
  | succ count ih =>
      rcases sitesFrom_cases ruleset count index offset with
        ⟨flaw, ended⟩ | ⟨length, body, rest, whole, place, next, found⟩
      · rw [ended] at sound
        have faulty := sound _ List.mem_cons_self
        cases faulty
      · rw [found] at sound ⊢
        obtain ⟨rule, read⟩ := RuleSite.fault?_eq_none_iff.mp (sound _ List.mem_cons_self)
        obtain ⟨own, ends⟩ := RuleSite.bytes_of_header place read
        obtain ⟨last, tail, others⟩ :=
          ih _ _ fun site member => sound site (List.mem_cons_of_mem _ member)
        rw [next] at last others
        simp only [List.flatMap_cons, own, next, List.length_append, List.length_cons]
        constructor
        · rw [List.getLast?_cons]
          cases behind : (sitesFrom count (index + 1) (offset + length.toNat) rest).getLast? with
          | none =>
              rw [behind, Option.elim_none] at last
              rw [Option.getD_none, Option.elim_some, ends]
              omega
          | some site =>
              rw [behind, Option.elim_some] at last
              rw [Option.getD_some, Option.elim_some, last]
              omega
        · refine ⟨tail, ?_⟩
          rw [place, List.cons_append, List.cons_append, List.append_assoc, ← others]

end Ruleset

end Vscp
