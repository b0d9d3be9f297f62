/-
This file proves that damage within one rule of a ruleset is not seen by any other rule.
-/

import Vscp.Proofs.Rule.Place

namespace Vscp

namespace Ruleset

/-- A ruleset and a worn one of the same length. They differ only between the length byte of the
rule at an offset and the end of this rule, which lies within the ruleset. -/
structure WornWithin (ruleset worn : List UInt8) (start : Nat) : Prop where
  bounded : Bounded ruleset start
  length : worn.length = ruleset.length
  same : ∀ position, ¬(start < position ∧ position < finish ruleset start) →
    worn[position]? = ruleset[position]?

namespace WornWithin

variable {ruleset worn : List UInt8} {start offset : Nat}

theorem lengthAt (confined : WornWithin ruleset worn start)
    (outside : ¬(start < offset ∧ offset < finish ruleset start)) :
    lengthAt worn offset = Ruleset.lengthAt ruleset offset := by
  rw [Ruleset.lengthAt, Ruleset.lengthAt, confined.same offset outside]

theorem finish (confined : WornWithin ruleset worn start)
    (outside : ¬(start < offset ∧ offset < finish ruleset start)) :
    finish worn offset = Ruleset.finish ruleset offset := by
  rw [Ruleset.finish, Ruleset.finish, confined.lengthAt outside]

theorem bounded_iff (confined : WornWithin ruleset worn start)
    (outside : ¬(start < offset ∧ offset < Ruleset.finish ruleset start)) :
    Bounded worn offset ↔ Bounded ruleset offset := by
  constructor
  · rintro ⟨positive, within⟩
    rw [confined.lengthAt outside] at positive
    rw [confined.finish outside, confined.length] at within
    exact ⟨positive, within⟩
  · rintro ⟨positive, within⟩
    rw [← confined.lengthAt outside] at positive
    rw [← confined.finish outside, ← confined.length] at within
    exact ⟨positive, within⟩

/-- A rule that ends before the damage keeps its bytes. -/
theorem body (confined : WornWithin ruleset worn start)
    (before : Ruleset.finish ruleset offset ≤ start) :
    body worn offset = Ruleset.body ruleset offset := by
  have outside : ¬(start < offset ∧ offset < Ruleset.finish ruleset start) := by
    rw [Ruleset.finish] at before
    omega
  rw [Ruleset.body, Ruleset.body, confined.lengthAt outside]
  apply List.ext_getElem?
  intro position
  rw [List.getElem?_take, List.getElem?_take, List.getElem?_drop, List.getElem?_drop]
  split
  · apply confined.same
    rw [Ruleset.finish] at before
    omega
  · rfl

/-- Nothing has changed behind the damage. -/
theorem drop (confined : WornWithin ruleset worn start) :
    worn.drop (Ruleset.finish ruleset start) = ruleset.drop (Ruleset.finish ruleset start) := by
  apply List.ext_getElem?
  intro position
  rw [List.getElem?_drop, List.getElem?_drop]
  apply confined.same
  omega

end WornWithin

/-- The two walks find the same rules before the damaged one, meet it at the same place, and find
the same rules behind it. -/
theorem sitesFrom_of_worn {ruleset worn : List UInt8} {site : RuleSite}
    (confined : WornWithin ruleset worn site.start) (count index offset : Nat)
    (member : site ∈ sitesFrom count index offset (ruleset.drop offset)) :
    ∃ front other back,
      sitesFrom count index offset (ruleset.drop offset) = front ++ site :: back ∧
      sitesFrom count index offset (worn.drop offset) = front ++ other :: back ∧
      other.index = site.index ∧ other.start = site.start ∧
      (∀ earlier ∈ front, earlier.start < site.start) ∧
      ∀ later ∈ back, finish ruleset site.start ≤ later.start := by
  induction count generalizing index offset with
  | zero => cases member
  | succ count ih =>
      have reached := le_start_of_mem_sitesFrom (count + 1) index offset member
      have outside : ¬(site.start < offset ∧ offset < finish ruleset site.start) := by omega
      by_cases bounded : Bounded ruleset offset
      · rw [sitesFrom_of_bounded bounded] at member ⊢
        rw [sitesFrom_of_bounded ((confined.bounded_iff outside).mpr bounded),
          confined.finish outside]
        rcases List.mem_cons.mp member with same | later
        · have here : site.start = offset := congrArg RuleSite.start same
          rw [here] at confined
          refine ⟨[], ⟨index, offset, RuleSite.header offset (body worn offset)⟩,
            sitesFrom count (index + 1) (finish ruleset offset)
              (ruleset.drop (finish ruleset offset)), ?_, ?_, ?_, here.symm, by simp, ?_⟩
          · rw [same, List.nil_append]
          · rw [confined.drop, List.nil_append]
          · rw [same]
          · intro later behind
            rw [here]
            exact le_start_of_mem_sitesFrom count _ _ behind
        · have before := le_start_of_mem_sitesFrom count _ _ later
          obtain ⟨front, other, back, sound, damaged, number, place, first, last⟩ := ih _ _ later
          refine ⟨_ :: front, other, back, by rw [sound]; rfl, ?_, number, place, ?_, last⟩
          · rw [damaged, confined.body before]
            rfl
          · rw [List.forall_mem_cons]
            exact ⟨Nat.lt_of_lt_of_le bounded.lt_finish before, first⟩
      · rw [sitesFrom_of_not_bounded bounded, List.mem_singleton] at member
        have here : site.start = offset := congrArg RuleSite.start member
        exact absurd (here ▸ confined.bounded) bounded

/-- A site of one ruleset and a site of another begin and end at the same place, and their rules
are judged alike: the same fault, or the same action with the same value. -/
structure JudgedAlike (ruleset worn : List UInt8) (first second : RuleSite) : Prop where
  index : second.index = first.index
  start : second.start = first.start
  finish : finish worn second.start = finish ruleset first.start
  verdict : ∀ event, second.verdict event = first.verdict event

end Ruleset

namespace Evaluation

/-- What an evaluation finds behind a rule that does not fire is what it finds without this rule. -/
theorem ofSites_cons_of_not_fired {event : Event} {site : RuleSite} {rest : List RuleSite}
    (passed : (ofSites event (site :: rest)).hit.map (·.rule) ≠ some site.index) :
    (ofSites event (site :: rest)).hit = (ofSites event rest).hit ∧
      (ofSites event (site :: rest)).faults.filter (·.rule ≠ site.index) =
        (ofSites event rest).faults.filter (·.rule ≠ site.index) := by
  cases read : site.rule with
  | error flaw =>
      rw [ofSites_cons_of_error read]
      refine ⟨rfl, List.filter_cons_of_neg ?_⟩
      simp [RuleFault.ofFlaw]
  | ok rule =>
      rw [ofSites_cons_of_ok read] at passed ⊢
      cases holds : rule.holds event with
      | true => simp [holds] at passed
      | false => exact ⟨rfl, rfl⟩

/-- Two walks that differ in one rule only, which fires in neither, fire the same rule and meet the
same faults elsewhere. -/
theorem ofSites_replace {event : Event} {front back : List RuleSite} {site other : RuleSite}
    (number : other.index = site.index)
    (passed : (ofSites event (front ++ site :: back)).hit.map (·.rule) ≠ some site.index)
    (passed' : (ofSites event (front ++ other :: back)).hit.map (·.rule) ≠ some site.index) :
    (ofSites event (front ++ other :: back)).hit = (ofSites event (front ++ site :: back)).hit ∧
      (ofSites event (front ++ other :: back)).faults.filter (·.rule ≠ site.index) =
        (ofSites event (front ++ site :: back)).faults.filter (·.rule ≠ site.index) := by
  induction front with
  | nil =>
      obtain ⟨hit, faults⟩ := ofSites_cons_of_not_fired passed
      rw [← number] at passed'
      obtain ⟨hit', faults'⟩ := ofSites_cons_of_not_fired passed'
      rw [number] at faults'
      exact ⟨hit'.trans hit.symm, faults'.trans faults.symm⟩
  | cons first front ih =>
      simp only [List.cons_append] at passed passed' ⊢
      cases read : first.rule with
      | error flaw =>
          simp only [ofSites_cons_of_error read, withFault] at passed passed' ⊢
          obtain ⟨hit, faults⟩ := ih passed passed'
          exact ⟨hit, by rw [List.filter_cons, List.filter_cons, faults]⟩
      | ok rule =>
          simp only [ofSites_cons_of_ok read] at passed passed' ⊢
          cases holds : rule.holds event with
          | true => exact ⟨rfl, rfl⟩
          | false =>
              simp only [holds, Bool.false_eq_true, ↓reduceIte] at passed passed'
              exact ih passed passed'

end Evaluation

namespace Ruleset

/-- Two walks that differ in one site are the same everywhere else. -/
theorem getElem?_replace {front back : List RuleSite} (site other : RuleSite) {number : Nat}
    (apart : number ≠ front.length) :
    (front ++ other :: back)[number]? = (front ++ site :: back)[number]? := by
  rw [List.getElem?_append, List.getElem?_append]
  split
  · rfl
  · obtain ⟨later, behind⟩ : ∃ later, number - front.length = later + 1 :=
      ⟨number - front.length - 1, by omega⟩
    rw [behind, List.getElem?_cons_succ, List.getElem?_cons_succ]

/-- The damage lies in one site of the walk; no other site begins in it. -/
theorem sites_of_worn {ruleset worn : List UInt8} {site : RuleSite}
    (visited : site ∈ sites ruleset) (confined : WornWithin ruleset worn site.start) :
    ∃ front other back, sites ruleset = front ++ site :: back ∧
      sites worn = front ++ other :: back ∧ other.index = site.index ∧
      site.index = front.length ∧
      ∀ number, number ≠ site.index → ∀ visited, (sites ruleset)[number]? = some visited →
        ¬(site.start < visited.start ∧ visited.start < finish ruleset site.start) := by
  have outside : ¬(site.start < 0 ∧ 0 < finish ruleset site.start) := by omega
  have count : announced worn = announced ruleset := by
    rw [announced_eq, announced_eq, List.head?_eq_getElem?, List.head?_eq_getElem?,
      confined.same 0 outside]
  obtain ⟨front, other, back, sound, broken, number, -, first, last⟩ :=
    sitesFrom_of_worn confined (announced ruleset) 0 1 visited
  change sites ruleset = _ at sound
  rw [← count] at broken
  have place : (sites ruleset)[front.length]? = some site := by simp [sound]
  refine ⟨front, other, back, sound, broken, number, index_of_getElem? place, ?_⟩
  intro number apart visited found
  have member := List.mem_of_getElem? found
  rw [sound, List.mem_append, List.mem_cons] at member
  rcases member with before | same | behind
  · have early := first visited before
    omega
  · rw [same] at found
    exact absurd (index_of_getElem? found).symm apart
  · have late := last visited behind
    omega

/-- Damage within one rule does not reach another: every other rule is visited in both rulesets, at
the same place and with the same verdict for every event. If the damaged rule fires in neither,
the same rule fires and the same faults are met apart from its own. -/
theorem corruption_isolated {ruleset worn : List UInt8} {site : RuleSite}
    (visited : site ∈ sites ruleset) (confined : WornWithin ruleset worn site.start) :
    (∀ number, number ≠ site.index →
      Option.Rel (JudgedAlike ruleset worn) (sites ruleset)[number]? (sites worn)[number]?) ∧
    ∀ (event : Event) (engine other : RuleEngine),
      let original := (engine.evaluate ruleset event).1
      let damaged := (other.evaluate worn event).1
      original.hit.map (·.rule) ≠ some site.index → damaged.hit.map (·.rule) ≠ some site.index →
        damaged.hit = original.hit ∧
          damaged.faults.filter (·.rule ≠ site.index) =
            original.faults.filter (·.rule ≠ site.index) := by
  obtain ⟨front, other, back, sound, broken, number, position, untouched⟩ :=
    sites_of_worn visited confined
  constructor
  · intro index apart
    have same : (sites worn)[index]? = (sites ruleset)[index]? := by
      rw [sound, broken]
      exact getElem?_replace site other (position ▸ apart)
    rw [same]
    cases found : (sites ruleset)[index]? with
    | none => exact .none
    | some visited =>
        have outside := untouched index apart visited found
        exact .some ⟨rfl, rfl, confined.finish outside, fun _ => rfl⟩
  · intro event engine engine' original damaged passed passed'
    simp only [original, damaged, RuleEngine.evaluate_eq, sound, broken] at passed passed' ⊢
    exact Evaluation.ofSites_replace number passed passed'

/-- Three rules that each want another type of event. -/
def hallRuleset : List UInt8 :=
  [3, 6, 1, 0, 0x00, 0x01, 9, 6, 2, 0, 0x00, 0x01, 3, 6, 3, 0, 0x00, 0x01, 2]

/-- The second rule names a field of two bytes and breaks off in its operand. -/
def hallWorn : List UInt8 :=
  [3, 6, 1, 0, 0x00, 0x01, 9, 6, 2, 0, 0x00, 0x00, 3, 6, 3, 0, 0x00, 0x01, 2]

theorem hallWorn_within : WornWithin hallRuleset hallWorn 7 where
  bounded := ⟨by decide, by decide⟩
  length := rfl
  same := by
    intro position outside
    by_cases room : position < 19
    · have each : ∀ position < 19, ¬(7 < position ∧ position < 13) →
          hallWorn[position]? = hallRuleset[position]? := by decide
      exact each position room outside
    · rw [List.getElem?_eq_none (Nat.not_lt.mp room), List.getElem?_eq_none (Nat.not_lt.mp room)]

theorem hallWorn_fires_alike :
    ∃ site ∈ sites hallRuleset, WornWithin hallRuleset hallWorn site.start ∧
      (RuleEngine.new.evaluate hallWorn (Event.new 20 2 1)).1.hit = some ⟨2, 3, 0⟩ ∧
      Option.Rel (JudgedAlike hallRuleset hallWorn)
        (sites hallRuleset)[2]? (sites hallWorn)[2]? := by
  have visited : ⟨1, 7, .ok ⟨2, 0, ⟨10, [0x00, 0x01, 3]⟩⟩⟩ ∈ sites hallRuleset :=
    List.mem_of_getElem? (i := 1) rfl
  have fired : (RuleEngine.new.evaluate hallRuleset (Event.new 20 2 1)).1.hit = some ⟨2, 3, 0⟩ := by
    decide +kernel
  have passed :
      (RuleEngine.new.evaluate hallWorn (Event.new 20 2 1)).1.hit.map (·.rule) ≠ some 1 := by
    decide +kernel
  obtain ⟨others, evaluated⟩ := corruption_isolated visited hallWorn_within
  obtain ⟨hit, -⟩ := evaluated (Event.new 20 2 1) .new .new (by simp [fired]) passed
  exact ⟨_, visited, hallWorn_within, hit.trans fired, others 2 (by decide)⟩

end Ruleset

end Vscp
