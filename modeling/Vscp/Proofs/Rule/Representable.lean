/-
This file proves that exactly the representable lists of rules are encoded, to the length that they
announce, and that their bytes tell them apart.
-/

import Mathlib.Algebra.GroupWithZero.Nat
import Vscp.Proofs.Rule.Encoding

namespace Vscp

namespace Condition

/-- A condition takes its operation byte, its field and its operand. -/
def size (condition : Condition) : Nat :=
  2 + condition.field.width

structure Representable (condition : Condition) : Prop where
  named : condition.field.id?.isSome = true
  fits : condition.operand ≤ condition.field.maximum

instance (condition : Condition) : Decidable condition.Representable :=
  decidable_of_iff
    (condition.field.id?.isSome = true ∧ condition.operand ≤ condition.field.maximum)
    ⟨fun ⟨named, fits⟩ => ⟨named, fits⟩, fun ⟨named, fits⟩ => ⟨named, fits⟩⟩

theorem exists_encode_iff (condition : Condition) (rule : Nat) (connective : Connective) :
    (∃ bytes, condition.encode rule connective = .ok bytes) ↔ condition.Representable := by
  constructor
  · rintro ⟨bytes, encoded⟩
    obtain ⟨id, named, fits, -⟩ := encode_eq_ok_iff.mp encoded
    exact ⟨by simp [named], (Field.le_maximum_iff _ _).mpr fits⟩
  · rintro ⟨named, fits⟩
    obtain ⟨id, named⟩ := Option.isSome_iff_exists.mp named
    exact ⟨_, encode_eq_ok_iff.mpr ⟨id, named, (Field.le_maximum_iff _ _).mp fits, rfl⟩⟩

theorem length_encode {condition : Condition} {rule : Nat} {connective : Connective}
    {bytes : List UInt8} (encoded : condition.encode rule connective = .ok bytes) :
    bytes.length = condition.size := by
  obtain ⟨id, -, -, rfl⟩ := encode_eq_ok_iff.mp encoded
  rw [List.length_cons, List.length_cons, Bytes.length_write, size]
  omega

end Condition

namespace Chain

def size (conditions : List Condition) : Nat :=
  (conditions.map Condition.size).sum

theorem exists_encodeFrom_iff (rule position : Nat) (conditions : List Condition) :
    (∃ bytes, encodeFrom rule position conditions = .ok bytes) ↔
      (∀ condition ∈ conditions.dropLast, condition.connective ≠ .last) ∧
        ∀ condition ∈ conditions, condition.Representable := by
  induction conditions generalizing position with
  | nil => simp [encodeFrom]
  | cons condition rest ih =>
      cases rest with
      | nil =>
          have own := condition.exists_encode_iff rule .last
          simpa [encodeFrom] using own
      | cons following later =>
          have own := condition.exists_encode_iff rule condition.connective
          have others := ih (position + 1)
          rw [List.dropLast_cons_cons, List.forall_mem_cons, List.forall_mem_cons, ← own]
          constructor
          · rintro ⟨bytes, encoded⟩
            obtain ⟨joined, front, back, first, second, -⟩ :=
              encodeFrom_cons_cons_eq_ok_iff.mp encoded
            obtain ⟨tail, each⟩ := others.mp ⟨back, second⟩
            exact ⟨⟨joined, tail⟩, ⟨front, first⟩, each⟩
          · rintro ⟨⟨joined, tail⟩, ⟨front, first⟩, each⟩
            obtain ⟨back, second⟩ := others.mpr ⟨tail, each⟩
            exact ⟨_, encodeFrom_cons_cons_eq_ok_iff.mpr ⟨joined, front, back, first, second, rfl⟩⟩

theorem length_encodeFrom {rule position : Nat} {conditions : List Condition} {bytes : List UInt8}
    (encoded : encodeFrom rule position conditions = .ok bytes) :
    bytes.length = size conditions := by
  induction conditions generalizing position bytes with
  | nil =>
      cases encoded
      rfl
  | cons condition rest ih =>
      cases rest with
      | nil => simpa [size] using Condition.length_encode encoded
      | cons following later =>
          obtain ⟨-, front, back, first, others, rfl⟩ := encodeFrom_cons_cons_eq_ok_iff.mp encoded
          rw [List.length_append, Condition.length_encode first, ih others]
          rfl

end Chain

theorem Connective.ne_last_iff {connective : Connective} :
    connective ≠ .last ↔ connective = .and ∨ connective = .or := by
  cases connective <;> decide

/-- The rule that an error is about. -/
def EncodeError.rule? : EncodeError → Option Nat
  | .tooManyRules _ | .capacityExceeded _ _ => none
  | .emptyRule rule | .ruleTooLong rule _ | .chainEndsEarly rule _ | .fieldOutOfRange rule
  | .operandOutOfRange rule _ _ => some rule

theorem Condition.rule?_of_encode {condition : Condition} {rule : Nat} {connective : Connective}
    {error : EncodeError} (failed : condition.encode rule connective = .error error) :
    error.rule? = some rule := by
  unfold Condition.encode at failed
  split at failed
  · cases failed
    rfl
  · split at failed
    · cases failed
    · cases failed
      rfl

theorem Chain.rule?_of_encodeFrom {rule position : Nat} {conditions : List Condition}
    {error : EncodeError} (failed : encodeFrom rule position conditions = .error error) :
    error.rule? = some rule := by
  induction conditions generalizing position with
  | nil => cases failed
  | cons condition rest ih =>
      cases rest with
      | nil => exact Condition.rule?_of_encode failed
      | cons following later =>
          rw [encodeFrom] at failed
          · split at failed
            · cases failed
              rfl
            · rcases bind_eq_error_iff.mp failed with own | ⟨bytes, -, others⟩
              · exact Condition.rule?_of_encode own
              · exact ih (map_eq_error_iff.mp others)
          · simp

namespace Rule

/-- A rule takes its length byte, its action and its parameter before its chain. -/
def size (rule : Rule) : Nat :=
  3 + Chain.size rule.conditions

structure Representable (rule : Rule) : Prop where
  present : rule.conditions ≠ []
  joined : ∀ condition ∈ rule.conditions.dropLast,
    condition.connective = .and ∨ condition.connective = .or
  each : ∀ condition ∈ rule.conditions, condition.Representable
  short : rule.size ≤ 255

instance (rule : Rule) : Decidable rule.Representable :=
  decidable_of_iff
    (rule.conditions ≠ [] ∧
      (∀ condition ∈ rule.conditions.dropLast,
        condition.connective = .and ∨ condition.connective = .or) ∧
      (∀ condition ∈ rule.conditions, condition.Representable) ∧ rule.size ≤ 255)
    ⟨fun ⟨present, joined, each, short⟩ => ⟨present, joined, each, short⟩,
      fun ⟨present, joined, each, short⟩ => ⟨present, joined, each, short⟩⟩

theorem length_encode {index : Nat} {rule : Rule} {bytes : List UInt8}
    (encoded : rule.encode index = .ok bytes) : bytes.length = rule.size := by
  obtain ⟨-, chain, written, -, rfl⟩ := encode_eq_ok_iff.mp encoded
  simp only [List.length_cons, Chain.length_encodeFrom written, size]
  omega

theorem exists_encode_iff (rule : Rule) (index : Nat) :
    (∃ bytes, rule.encode index = .ok bytes) ↔ rule.Representable := by
  constructor
  · rintro ⟨bytes, encoded⟩
    obtain ⟨present, chain, written, short, rfl⟩ := encode_eq_ok_iff.mp encoded
    obtain ⟨joined, each⟩ := (Chain.exists_encodeFrom_iff _ _ _).mp ⟨chain, written⟩
    refine ⟨present,
      fun condition member => Connective.ne_last_iff.mp (joined condition member), each, ?_⟩
    rw [← length_encode encoded]
    exact short
  · rintro ⟨present, joined, each, short⟩
    obtain ⟨chain, written⟩ := (Chain.exists_encodeFrom_iff _ _ _).mpr
      ⟨fun condition member => Connective.ne_last_iff.mpr (joined condition member), each⟩
    refine ⟨_, encode_eq_ok_iff.mpr ⟨present, chain, written, ?_, rfl⟩⟩
    rw [Chain.length_encodeFrom written, Nat.add_comm]
    exact short

/-- What keeps a rule from being encoded is told with its index. -/
theorem rule?_of_encode {index : Nat} {rule : Rule} {error : EncodeError}
    (failed : rule.encode index = .error error) : error.rule? = some index := by
  unfold encode at failed
  split at failed
  · cases failed
    rfl
  · rcases bind_eq_error_iff.mp failed with chain | ⟨chain, -, long⟩
    · exact Chain.rule?_of_encodeFrom chain
    · dsimp only at long
      split at long
      · cases long
        rfl
      · cases long

theorem encode_of_not_representable {rule : Rule} (refused : ¬rule.Representable) (index : Nat) :
    ∃ error, rule.encode index = .error error := by
  cases encoded : rule.encode index with
  | error error => exact ⟨error, rfl⟩
  | ok bytes => exact absurd ((exists_encode_iff rule index).mp ⟨bytes, encoded⟩) refused

end Rule

namespace Ruleset

/-- A ruleset takes its count and its rules. -/
def size (rules : List Rule) : Nat :=
  1 + (rules.map Rule.size).sum

structure Representable (rules : List Rule) (capacity : Nat) : Prop where
  few : rules.length ≤ 254
  each : ∀ rule ∈ rules, rule.Representable
  room : size rules ≤ capacity

theorem length_encodeRules {rules : List Rule} {index : Nat} {code : List UInt8}
    (encoded : encodeRules index rules = .ok code) : 1 + code.length = size rules := by
  induction rules generalizing index code with
  | nil =>
      cases encoded
      rfl
  | cons rule rest ih =>
      obtain ⟨front, back, first, others, rfl⟩ := encodeRules_cons_eq_ok_iff.mp encoded
      have tail := ih others
      unfold size at tail ⊢
      rw [List.length_append, Rule.length_encode first, List.map_cons, List.sum_cons]
      omega

theorem exists_encodeRules_iff (rules : List Rule) (index : Nat) :
    (∃ code, encodeRules index rules = .ok code) ↔ ∀ rule ∈ rules, rule.Representable := by
  induction rules generalizing index with
  | nil => simp [encodeRules]
  | cons rule rest ih =>
      rw [List.forall_mem_cons, ← rule.exists_encode_iff index, ← ih (index + 1)]
      constructor
      · rintro ⟨code, encoded⟩
        obtain ⟨front, back, first, others, -⟩ := encodeRules_cons_eq_ok_iff.mp encoded
        exact ⟨⟨front, first⟩, back, others⟩
      · rintro ⟨⟨front, first⟩, back, others⟩
        exact ⟨_, encodeRules_cons_eq_ok_iff.mpr ⟨front, back, first, others, rfl⟩⟩

/-- Rules that are written one by one can fail as a whole only by their number or their size. -/
theorem encode_of_encodeRules {rules : List Rule} {code : List UInt8}
    (written : encodeRules 0 rules = .ok code) (capacity : Nat) :
    encode rules capacity =
      if 254 < rules.length then .error (.tooManyRules rules.length)
      else if capacity < size rules then .error (.capacityExceeded (size rules) capacity)
      else .ok (UInt8.ofNat rules.length :: code) := by
  rw [encode, written, ← length_encodeRules written, Nat.add_comm 1]
  rfl

theorem length_encode {rules : List Rule} {capacity : Nat} {bytes : List UInt8}
    (encoded : encode rules capacity = .ok bytes) : bytes.length = size rules := by
  obtain ⟨-, code, written, -, rfl⟩ := encode_eq_ok_iff.mp encoded
  rw [List.length_cons, Nat.add_comm, length_encodeRules written]

theorem exists_encode_iff {rules : List Rule} {capacity : Nat} :
    (∃ bytes, encode rules capacity = .ok bytes) ↔ Representable rules capacity := by
  constructor
  · rintro ⟨bytes, encoded⟩
    obtain ⟨few, code, written, room, -⟩ := encode_eq_ok_iff.mp encoded
    refine ⟨few, (exists_encodeRules_iff _ _).mp ⟨code, written⟩, ?_⟩
    rw [← length_encodeRules written, Nat.add_comm]
    exact room
  · rintro ⟨few, each, room⟩
    obtain ⟨code, written⟩ := (exists_encodeRules_iff _ 0).mpr each
    rw [← length_encodeRules written, Nat.add_comm] at room
    exact ⟨_, encode_eq_ok_iff.mpr ⟨few, code, written, room, rfl⟩⟩

/-- The rules are written in order, so the first that cannot be written is the one reported. -/
theorem encodeRules_of_not_representable {rules : List Rule}
    (refused : ∃ rule ∈ rules, ¬rule.Representable) (index : Nat) :
    ∃ (error : EncodeError) (number : Nat) (rule : Rule),
      encodeRules index rules = .error error ∧ rules[number]? = some rule ∧
      rule.encode (index + number) = .error error ∧
      ∀ earlier < number, ∀ other, rules[earlier]? = some other → other.Representable := by
  induction rules generalizing index with
  | nil => simp at refused
  | cons rule rest ih =>
      by_cases first : rule.Representable
      · obtain ⟨front, encoded⟩ := (rule.exists_encode_iff index).mpr first
        have later : ∃ other ∈ rest, ¬other.Representable := by
          obtain ⟨other, member, broken⟩ := refused
          rcases List.mem_cons.mp member with rfl | member
          · exact absurd first broken
          · exact ⟨other, member, broken⟩
        obtain ⟨error, number, broken, failed, place, cause, least⟩ := ih later (index + 1)
        refine ⟨error, number + 1, broken, ?_, by simpa using place, ?_, ?_⟩
        · simp [encodeRules, encoded, failed, Except.bind, Except.map]
        · rw [← cause]
          congr 1
          omega
        · intro earlier before other there
          cases earlier with
          | zero =>
              cases there
              exact first
          | succ earlier =>
              exact least earlier (by omega) other (by simpa using there)
      · obtain ⟨error, failed⟩ := Rule.encode_of_not_representable first index
        refine ⟨error, 0, rule, ?_, rfl, failed, fun earlier before => absurd before (by omega)⟩
        simp [encodeRules, failed, Except.bind]

/-- Rules with the same bytes are the same up to the marks of their last conditions. -/
theorem marked_of_encode {rules others : List Rule} {capacity room : Nat} {bytes : List UInt8}
    (first : encode rules capacity = .ok bytes) (second : encode others room = .ok bytes) :
    rules.map Rule.marked = others.map Rule.marked := by
  have left := rules_sites_encode first []
  have right := rules_sites_encode second []
  rw [left] at right
  exact (List.map_inj_right fun _ _ => Except.ok.inj).mp right

/-- Exactly the representable rules are encoded, to the length of their count and their own bytes.
A rule that cannot be encoded is reported by its number, the least such rule first, and the bytes
of two lists of rules are the same only for the same rules. -/
theorem encode_accepts_representable (rules : List Rule) (capacity : Nat) :
    ((∃ bytes, encode rules capacity = .ok bytes) ↔ Representable rules capacity) ∧
    (∀ bytes, encode rules capacity = .ok bytes → bytes.length = size rules) ∧
    (rules.length ≤ 254 → (∃ rule ∈ rules, ¬rule.Representable) →
      ∃ error number rule, encode rules capacity = .error error ∧ error.rule? = some number ∧
        rules[number]? = some rule ∧ ¬rule.Representable ∧
        ∀ earlier < number, ∀ other, rules[earlier]? = some other → other.Representable) ∧
    ∀ others room bytes, encode rules capacity = .ok bytes → encode others room = .ok bytes →
      rules.map Rule.marked = others.map Rule.marked := by
  refine ⟨exists_encode_iff, fun bytes => length_encode, ?_, fun others room bytes =>
    marked_of_encode⟩
  intro few refused
  obtain ⟨error, number, rule, failed, place, cause, least⟩ :=
    encodeRules_of_not_representable refused 0
  rw [Nat.zero_add] at cause
  have broken : ¬rule.Representable := by
    intro representable
    obtain ⟨bytes, encoded⟩ := (rule.exists_encode_iff number).mpr representable
    rw [encoded] at cause
    cases cause
  refine ⟨error, number, rule, ?_, Rule.rule?_of_encode cause, place, broken, least⟩
  rw [encode, if_neg (Nat.not_lt.mpr few), failed]
  rfl

/-- The second rule compares a byte with a number that needs two, the third has no condition. -/
def wideRules : List Rule :=
  [Rule.when 0x10 3 (.new .eventClass .equal 20), Rule.when 0x11 3 (.new .eventType .equal 0x100),
    ⟨0x12, 3, []⟩]

theorem wideRules_refused :
    ∃ error number rule, encode wideRules 64 = .error error ∧ error.rule? = some number ∧
      wideRules[number]? = some rule ∧ ¬rule.Representable ∧
      ∀ earlier < number, ∀ other, wideRules[earlier]? = some other → other.Representable :=
  (encode_accepts_representable wideRules 64).2.2.1 (by decide)
    ⟨⟨0x12, 3, []⟩, by decide, by decide⟩

end Ruleset

end Vscp
