/-
This file proves that validation, evaluation and listing agree on the faults of every ruleset,
whatever its bytes.
-/

import Vscp.Proofs.Rule.Site

namespace Vscp.Ruleset

/-- A rule that is found whole and within the ruleset leaves the walk behind its last byte. -/
theorem sitesFrom_rule (count index offset : Nat) {length : UInt8} {body : List UInt8}
    (rest : List UInt8) (whole : body.length + 1 = length.toNat) :
    sitesFrom (count + 1) index offset (length :: (body ++ rest)) =
      ⟨index, offset, RuleSite.header offset body⟩ ::
        sitesFrom count (index + 1) (offset + length.toNat) rest := by
  have positive : length ≠ 0 := by
    rintro rfl
    cases whole
  have size : length.toNat - 1 = body.length := by omega
  have within : ¬(length = 0 ∨ (body ++ rest).length < length.toNat - 1) := by
    simp only [positive, false_or, List.length_append]
    omega
  rw [sitesFrom, if_neg within, size, List.take_left, List.drop_left]

/-- Sites are numbered without gaps. -/
theorem map_index_sitesFrom (count index offset : Nat) (rest : List UInt8) :
    (sitesFrom count index offset rest).map (·.index) =
      List.range' index (sitesFrom count index offset rest).length := by
  induction count generalizing index offset rest with
  | zero => rfl
  | succ count ih =>
      cases rest with
      | nil => rfl
      | cons length rest =>
          unfold sitesFrom
          split
          · rfl
          · rw [List.map_cons, ih, List.length_cons, List.range'_succ]

theorem sites_ordered (ruleset : List UInt8) :
    (sites ruleset).Pairwise (·.index < ·.index) := by
  have numbered := map_index_sitesFrom (announced ruleset) 0 1 (ruleset.drop 1)
  have increasing : (List.range' 0 (sites ruleset).length).Pairwise (· < ·) :=
    List.pairwise_lt_range'
  change (sites ruleset).map (·.index) = List.range' 0 (sites ruleset).length at numbered
  rw [← numbered, List.pairwise_map] at increasing
  exact increasing

/-- Two sites of a ruleset are told apart by their numbers. -/
theorem site_unique {ruleset : List UInt8} {first second : RuleSite}
    (left : first ∈ sites ruleset) (right : second ∈ sites ruleset)
    (same : first.index = second.index) : first = second := by
  obtain ⟨before, room, rfl⟩ := List.mem_iff_getElem.mp left
  obtain ⟨after, room', rfl⟩ := List.mem_iff_getElem.mp right
  have ordered := List.pairwise_iff_getElem.mp (sites_ordered ruleset)
  rcases Nat.lt_trichotomy before after with lower | equal | higher
  · have apart := ordered before after room room' lower
    omega
  · simp [equal]
  · have apart := ordered after before room' room higher
    omega

/-- A walk without faults visits every announced rule. -/
theorem length_sitesFrom (count index offset : Nat) (rest : List UInt8)
    (sound : ∀ site ∈ sitesFrom count index offset rest, site.fault? = none) :
    (sitesFrom count index offset rest).length = count := by
  induction count generalizing index offset rest with
  | zero => rfl
  | succ count ih =>
      cases rest with
      | nil =>
          have faulty := sound ⟨index, offset, .error ⟨.truncatedRuleset, offset⟩⟩
            (by simp [sitesFrom])
          cases faulty
      | cons length rest =>
          unfold sitesFrom at sound ⊢
          split at sound
          · have faulty := sound _ List.mem_cons_self
            cases faulty
          · rename_i within
            rw [if_neg within, List.length_cons]
            have tail := ih _ _ _ fun site member => sound site (List.mem_cons_of_mem _ member)
            rw [tail]

theorem length_sitesFrom_le (count index offset : Nat) (rest : List UInt8) :
    (sitesFrom count index offset rest).length ≤ count := by
  induction count generalizing index offset rest with
  | zero => exact Nat.le_refl 0
  | succ count ih =>
      cases rest with
      | nil => exact Nat.le_add_left 1 count
      | cons length rest =>
          unfold sitesFrom
          split
          · exact Nat.le_add_left 1 count
          · exact Nat.succ_le_succ (ih _ _ _)

theorem announced_le (ruleset : List UInt8) : announced ruleset ≤ 254 := by
  cases ruleset with
  | nil => exact Nat.zero_le 254
  | cons count rest =>
      have small := count.toNat_lt
      by_cases kept : count = erased
      · simp [announced, kept]
      · have other : count.toNat ≠ 255 := fun same => kept (UInt8.toNat_inj.mp same)
        rw [announced, if_neg kept]
        omega

theorem announced_eq (ruleset : List UInt8) :
    announced ruleset =
      match ruleset.head? with
      | none => 0
      | some count => if count = 0xFF then 0 else count.toNat := by
  cases ruleset <;> rfl

/-- The faults of a listing decide the validation, and an evaluation for any event meets exactly
those before the rule that it fires. -/
theorem listing_faults_decide (ruleset : List UInt8) :
    let rows := listing ruleset
    let faults := rows.filterMap (·.fault)
    let announced :=
      match ruleset.head? with
      | none => 0
      | some count => if count = 0xFF then 0 else count.toNat
    (validate ruleset =
      match faults with
      | [] => .ok announced
      | fault :: _ => .error fault) ∧
    (faults = [] → rows.length = announced) ∧
    ∀ (event : Event) (engine : RuleEngine),
      let (evaluation, after) := engine.evaluate ruleset event
      evaluation.faults =
        faults.filter (fun fault => evaluation.hit.all (fault.rule < ·.rule)) ∧
      (∀ hit, evaluation.hit = some hit →
        (∃ row ∈ rows, row.rule = hit.rule) ∧
          ∀ row ∈ rows, row.rule = hit.rule → row.fault = none) ∧
      after.lastFault = evaluation.faults.getLast?.or engine.lastFault := by
  intro rows faults count
  have carried : faults = (sites ruleset).filterMap RuleSite.fault? := faults_listing ruleset
  have first : count = announced ruleset := (announced_eq ruleset).symm
  refine ⟨?_, ?_, ?_⟩
  · rw [validate, checkSites_eq, ← carried, first]
    cases faults <;> rfl
  · intro sound
    rw [carried, List.filterMap_eq_nil_iff] at sound
    rw [first]
    exact (List.length_map _).trans (length_sitesFrom _ _ _ _ sound)
  · intro event engine
    rw [RuleEngine.evaluate_eq]
    refine ⟨?_, ?_, rfl⟩
    · rw [carried]
      exact Evaluation.faults_ofSites event (sites_ordered ruleset)
    · intro hit fired
      obtain ⟨site, member, rule, read, -, rfl⟩ := Evaluation.site_of_hit fired
      constructor
      · exact ⟨site.row, List.mem_map_of_mem member, site.row_index⟩
      · intro row listed place
        obtain ⟨other, visited, rfl⟩ := List.mem_map.mp listed
        rw [RuleSite.row_index] at place
        rw [site_unique visited member place, RuleSite.row_fault, RuleSite.fault?_of_ok read]

end Vscp.Ruleset
