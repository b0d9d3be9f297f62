/-
This file proves that the listing of a ruleset assembles into the rules of the ruleset that carry
no fault, byte for byte.
-/

import Vscp.Proofs.Rule.Span
import Vscp.Proofs.Source.Row

namespace Vscp

namespace Evaluation

/-- What fires at the sites is what fires among the rules found there, apart from its number. -/
theorem fired_ofSites (event : Event) (sites : List RuleSite) (index : Nat) :
    (ofSites event sites).hit.map (fun hit => (hit.action, hit.param)) =
      (Rule.firstFrom event index (sites.filterMap RuleSite.rule?)).map
        fun hit => (hit.action, hit.param) := by
  induction sites generalizing index with
  | nil => rfl
  | cons site rest ih =>
      cases read : site.rule with
      | error flaw =>
          rw [List.filterMap_cons_none (RuleSite.rule?_of_error read), ← ih index]
          simp only [ofSites, read, withFault]
      | ok rule =>
          rw [List.filterMap_cons_some (RuleSite.rule?_of_ok read)]
          cases holds : rule.holds event with
          | true => simp [ofSites, read, Rule.firstFrom, holds]
          | false => simpa [ofSites, read, Rule.firstFrom, holds] using ih (index + 1)

end Evaluation

namespace Ruleset

/-- The sites whose rows carry no fault. -/
def sound (ruleset : List UInt8) : List RuleSite :=
  (sites ruleset).filter (·.row.fault.isNone)

/-- The bytes of the rules that carry no fault, in their order. -/
def soundCode (ruleset : List UInt8) : List UInt8 :=
  (sound ruleset).flatMap (RuleSite.bytes ruleset)

/-- The position behind the last rule. -/
def used (ruleset : List UInt8) : Nat :=
  (sites ruleset).getLast?.elim 1 RuleSite.stop

/-- The source text of a ruleset, a row a line. -/
def dump (ruleset : List UInt8) : String :=
  "\n".intercalate ((listing ruleset).map (·.text))

theorem length_sound_le (ruleset : List UInt8) : (sound ruleset).length ≤ 254 :=
  calc (sound ruleset).length
      ≤ (sites ruleset).length := List.length_filter_le _ _
    _ ≤ announced ruleset := length_sitesFrom_le _ _ _ _
    _ ≤ 254 := announced_le ruleset

theorem encode_of_mem_sites {ruleset : List UInt8} {site : RuleSite} {rule : Rule}
    (member : site ∈ sites ruleset) (read : site.rule = .ok rule) (index : Nat) :
    rule.encode index = .ok (site.bytes ruleset) :=
  encode_of_mem_sitesFrom (announced ruleset) 0 1 member read index

/-- The rules found at sites are written with the bytes of the sites that hold one. -/
theorem encodeRules_of_sites {ruleset : List UInt8} {sites : List RuleSite}
    (written : ∀ site ∈ sites, ∀ rule, site.rule = .ok rule → ∀ index,
      rule.encode index = .ok (site.bytes ruleset)) (index : Nat) :
    encodeRules index (sites.filterMap RuleSite.rule?) =
      .ok ((sites.filter (·.row.fault.isNone)).flatMap (RuleSite.bytes ruleset)) := by
  induction sites generalizing index with
  | nil => rfl
  | cons site rest ih =>
      have others := ih fun other member => written other (List.mem_cons_of_mem _ member)
      cases read : site.rule with
      | error flaw =>
          have missing := RuleSite.rule?_of_error read
          rw [List.filterMap_cons_none missing, others, List.filter_cons_of_neg]
          simp [RuleSite.isNone_row_fault, missing]
      | ok rule =>
          have present := RuleSite.rule?_of_ok read
          have first := written site List.mem_cons_self rule read index
          rw [List.filterMap_cons_some present, List.filter_cons_of_pos]
          · exact encodeRules_cons_eq_ok_iff.mpr ⟨_, _, first, others (index + 1), rfl⟩
          · simp [RuleSite.isNone_row_fault, present]

theorem length_filterMap_rule? (ruleset : List UInt8) :
    ((sites ruleset).filterMap RuleSite.rule?).length = (sound ruleset).length := by
  rw [List.length_filterMap_eq_countP, sound, ← List.countP_eq_length_filter]
  congr 1
  funext site
  exact site.isNone_row_fault.symm

/-- The rules that can be read are encoded as their count and their own bytes. -/
theorem encode_rules? {ruleset : List UInt8} {capacity : Nat}
    (room : 1 + (soundCode ruleset).length ≤ capacity) :
    encode ((sites ruleset).filterMap RuleSite.rule?) capacity =
      .ok (UInt8.ofNat (sound ruleset).length :: soundCode ruleset) := by
  have written : encodeRules 0 ((sites ruleset).filterMap RuleSite.rule?) =
      .ok (soundCode ruleset) :=
    encodeRules_of_sites (fun site member rule read => encode_of_mem_sites member read) 0
  refine encode_eq_ok_iff.mpr ⟨?_, _, written, by omega, ?_⟩
  · rw [length_filterMap_rule?]
    exact length_sound_le ruleset
  · rw [length_filterMap_rule?]

/-- The lines of a dump are its rows. -/
theorem lines_dump (ruleset : List UInt8) :
    Text.lines (dump ruleset) = (sites ruleset).map (·.row.text.toList) := by
  have joined : (dump ruleset).toList =
      ['\n'].intercalate ((sites ruleset).map (·.row.text.toList)) := by
    rw [dump, String.toList_intercalate, listing, List.map_map, List.map_map]
    rfl
  rw [Text.lines, joined]
  apply Text.linesAfter_intercalate
  intro text member
  obtain ⟨site, -, rfl⟩ := List.mem_map.mp member
  exact site.isLine_row

/-- A dump assembles whenever there is room for the rules that can be read. -/
theorem assemble_dump {ruleset : List UInt8} {capacity : Nat}
    (room : 1 + (soundCode ruleset).length ≤ capacity) :
    ∃ assembly, Source.assemble (dump ruleset) capacity = .ok assembly ∧
      assembly.rules = (sites ruleset).filterMap RuleSite.rule? ∧
      assembly.binary = UInt8.ofNat (sound ruleset).length :: soundCode ruleset := by
  refine Source.assemble_of_sites ?_ ?_ (encode_rules? room)
  · intro site member rule read index
    exact ⟨_, encode_of_mem_sites member read index⟩
  · rw [lines_dump, List.map_map, List.map_map]
    apply List.map_congr_left
    intro site _
    exact site.ofLine_row

/-- Every site of a valid ruleset holds a rule. -/
theorem fault?_of_validate {ruleset : List UInt8} {number : Nat}
    (valid : validate ruleset = .ok number) : ∀ site ∈ sites ruleset, site.fault? = none := by
  rw [validate, checkSites_eq] at valid
  cases faults : (sites ruleset).filterMap RuleSite.fault? with
  | nil => exact List.filterMap_eq_nil_iff.mp faults
  | cons fault rest =>
      rw [faults] at valid
      cases valid

theorem sound_eq_sites {ruleset : List UInt8} (free : ∀ site ∈ sites ruleset, site.fault? = none) :
    sound ruleset = sites ruleset := by
  rw [sound, List.filter_eq_self]
  intro site member
  rw [RuleSite.row_fault, free site member]
  rfl

/-- A ruleset without faults is its first byte, its rules and what follows them. -/
theorem take_used {ruleset : List UInt8} {number : Nat} (valid : validate ruleset = .ok number)
    (present : ruleset ≠ []) (written : ruleset.head? ≠ some 0xFF) :
    UInt8.ofNat (sound ruleset).length :: soundCode ruleset = ruleset.take (used ruleset) := by
  have free := fault?_of_validate valid
  have all := sound_eq_sites free
  obtain ⟨count, rest, rfl⟩ := List.exists_cons_of_ne_nil present
  have kept : count ≠ erased := by
    rintro rfl
    exact written rfl
  have number_sites : (sites (count :: rest)).length = count.toNat := by
    rw [sites, length_sitesFrom _ _ _ _ free, announced, if_neg kept]
  obtain ⟨stops, tail, split⟩ := flatMap_bytes_sitesFrom (count :: rest) _ 0 1 free
  have ends : used (count :: rest) = 1 + (soundCode (count :: rest)).length := by
    rw [soundCode, all]
    exact stops
  have code : rest = soundCode (count :: rest) ++ tail := by
    rw [soundCode, all]
    exact split
  rw [ends, all, number_sites, UInt8.ofNat_toNat, Nat.add_comm, List.take_succ_cons]
  congr 1
  calc soundCode (count :: rest)
      = (soundCode (count :: rest) ++ tail).take (soundCode (count :: rest)).length :=
        List.take_left.symm
    _ = rest.take (soundCode (count :: rest)).length := by rw [← code]

/-- Dumping and assembling keep exactly the rules without a fault: the binary is their count and
their own bytes, it fires what the ruleset fires for every event and meets no fault, and a ruleset
that is valid gives its used bytes. -/
theorem dump_builds_sound_rules {ruleset : List UInt8} {capacity : Nat}
    (room : 1 + (soundCode ruleset).length ≤ capacity) :
    ∃ assembly, Source.assemble (dump ruleset) capacity = .ok assembly ∧
      (sound ruleset).length ≤ 254 ∧
      assembly.binary = UInt8.ofNat (sound ruleset).length :: soundCode ruleset ∧
      (∀ (event : Event) (engine other : RuleEngine),
        let rebuilt := (engine.evaluate assembly.binary event).1
        let original := (other.evaluate ruleset event).1
        rebuilt.faults = [] ∧
          rebuilt.hit.map (fun hit => (hit.action, hit.param)) =
            original.hit.map fun hit => (hit.action, hit.param)) ∧
      ∀ number, validate ruleset = .ok number → ruleset ≠ [] → ruleset.head? ≠ some 0xFF →
        assembly.binary = ruleset.take (used ruleset) := by
  obtain ⟨assembly, assembled, -, binary⟩ := assemble_dump room
  refine ⟨assembly, assembled, length_sound_le ruleset, binary, ?_, ?_⟩
  · intro event engine other rebuilt original
    have encoded := (encode_rules? room).trans (congrArg Except.ok binary.symm)
    have run := evaluate_encode encoded [] event engine
    rw [List.append_nil] at run
    have fired := Evaluation.fired_ofSites event (sites ruleset) 0
    simp only [rebuilt, original, run, RuleEngine.evaluate_eq, fired, and_self]
  · intro number valid present written
    rw [binary]
    exact take_used valid present written

/-- The second of the three rules has an operation that does not exist, and storage goes on behind
the last one. -/
def wornRuleset : List UInt8 :=
  [3, 7, 0x10, 3, 0x00, 0x00, 0, 20, 5, 0x22, 0, 0x77, 0x10, 6, 0x22, 0, 0x00, 0x10, 1, 0xFF, 0xFF]

theorem wornRuleset_builds :
    ∃ assembly, Source.assemble (dump wornRuleset) 64 = .ok assembly ∧
      assembly.binary = [2, 7, 0x10, 3, 0x00, 0x00, 0, 20, 6, 0x22, 0, 0x00, 0x10, 1] := by
  have code : soundCode wornRuleset =
      [7, 0x10, 3, 0x00, 0x00, 0, 20, 6, 0x22, 0, 0x00, 0x10, 1] := by decide +kernel
  have room : 1 + (soundCode wornRuleset).length ≤ 64 := by simp [code]
  have two : UInt8.ofNat (sound wornRuleset).length = 2 := by decide +kernel
  obtain ⟨assembly, assembled, -, binary, -⟩ := dump_builds_sound_rules room
  exact ⟨assembly, assembled, by rw [binary, two, code]⟩

end Ruleset

end Vscp
