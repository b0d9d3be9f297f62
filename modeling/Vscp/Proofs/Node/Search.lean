/-
This file follows the search for a free nickname through any acknowledgements and timeouts, up to
the one that ends it.
-/

import Mathlib.Data.List.Induction
import Mathlib.Data.List.Nodup
import Vscp.Node.Discovery

namespace Vscp

/-- A probe is acknowledged by the node that holds the candidate, or by nobody in time. -/
inductive ProbeAct where
  | acknowledge
  | timeout
  deriving DecidableEq, Repr

/-- A search with its history: the candidates other than the master that were acknowledged since
the last timeout, and what the last acknowledgement meant if no timeout followed it. -/
structure Search where
  discovery : Discovery
  answers : List UInt8
  outcome? : Option AckOutcome
  deriving DecidableEq, Repr

namespace Search

def new : Search :=
  ⟨.new, [], none⟩

def perform (search : Search) : ProbeAct → Search
  | .acknowledge =>
      let candidate := search.discovery.candidate
      let (outcome, discovery) := search.discovery.acknowledge
      { discovery
        answers :=
          if candidate = Protocol.segmentMaster then search.answers
          else search.answers ++ [candidate]
        outcome? := some outcome }
  | .timeout => ⟨search.discovery.timeout, [], none⟩

/-- The search after these acts, which come in order. -/
def after (acts : List ProbeAct) : Search :=
  acts.foldl perform new

theorem after_concat (acts : List ProbeAct) (act : ProbeAct) :
    after (acts ++ [act]) = (after acts).perform act := by
  rw [after, List.foldl_append]
  rfl

@[simp] theorem discovery_acknowledge (search : Search) :
    (search.perform .acknowledge).discovery = search.discovery.acknowledge.2 := rfl

@[simp] theorem outcome_acknowledge (search : Search) :
    (search.perform .acknowledge).outcome? = some search.discovery.acknowledge.1 := rfl

theorem mem_answers_acknowledge {search : Search} {nickname : UInt8}
    (answered : nickname ∈ (search.perform .acknowledge).answers) :
    nickname ∈ search.answers ∨ nickname = search.discovery.candidate := by
  change nickname ∈ (if _ then _ else _) at answered
  split at answered
  · exact .inl answered
  · exact (List.mem_append.mp answered).imp_right List.mem_singleton.mp

/-- The acts go on until the search has ended, and no further. -/
def Open (acts : List ProbeAct) : Prop :=
  ∀ earlier, earlier <+: acts → earlier ≠ acts → (after earlier).outcome? ≠ some .exhausted

theorem open_nil : Open [] := by
  intro earlier within other
  exact absurd (List.prefix_nil.mp within) other

theorem open_concat_iff {acts : List ProbeAct} {act : ProbeAct} :
    Open (acts ++ [act]) ↔ Open acts ∧ (after acts).outcome? ≠ some .exhausted := by
  constructor
  · intro unended
    refine ⟨fun earlier within other => ?_, ?_⟩
    · refine unended earlier (within.trans (List.prefix_append ..)) ?_
      rintro rfl
      have longer := within.length_le
      rw [List.length_append] at longer
      exact absurd longer (Nat.not_succ_le_self _)
    · exact unended acts (List.prefix_append ..) (by simp)
  · rintro ⟨unended, last⟩ earlier within other
    rcases List.prefix_concat_iff.mp within with whole | shorter
    · exact absurd whole other
    · by_cases same : earlier = acts
      · exact same ▸ last
      · exact unended earlier shorter same

end Search

/-- The candidates other than the master in the order of the search, which starts over after the
last one. -/
def Discovery.candidateAt (index : Nat) : UInt8 :=
  UInt8.ofNat (index % candidates + 1)

/-- Successive candidates. -/
def Discovery.round (start count : Nat) : List UInt8 :=
  (List.range count).map fun index => candidateAt (start + index)

namespace Discovery

@[simp] theorem toNat_candidateAt (index : Nat) :
    (candidateAt index).toNat = index % 254 + 1 := by
  unfold candidateAt candidates
  rw [UInt8.toNat_ofNat']
  omega

theorem candidateAt_ne_master (index : Nat) : candidateAt index ≠ Protocol.segmentMaster := by
  intro master
  have number := congrArg UInt8.toNat master
  rw [toNat_candidateAt] at number
  cases number

theorem candidateAt_le (index : Nat) : candidateAt index ≤ Protocol.highestNickname := by
  rw [UInt8.le_iff_toNat_le, toNat_candidateAt]
  change _ ≤ 254
  omega

/-- The search starts over behind the highest nickname. -/
theorem advance_candidateAt (index acked : Nat) (awaitingAssignment : Bool) :
    advance ⟨candidateAt index, acked, awaitingAssignment⟩ =
      ⟨candidateAt (index + 1), acked, false⟩ := by
  have next : (if Protocol.highestNickname ≤ candidateAt index then 1
      else candidateAt index + 1) = candidateAt (index + 1) := by
    have number := toNat_candidateAt index
    apply UInt8.toNat_inj.mp
    rw [toNat_candidateAt]
    split
    · rename_i highest
      rw [UInt8.le_iff_toNat_le, number] at highest
      change 254 ≤ _ at highest
      change 1 = _
      omega
    · rename_i lower
      rw [UInt8.le_iff_toNat_le, number] at lower
      change ¬254 ≤ _ at lower
      rw [UInt8.toNat_add, number]
      change (_ + 1) % 256 = _
      omega
  rw [advance, next]

@[simp] theorem length_round (start count : Nat) : (round start count).length = count := by
  rw [round, List.length_map, List.length_range]

theorem round_succ (start count : Nat) :
    round start (count + 1) = round start count ++ [candidateAt (start + count)] := by
  rw [round, List.range_succ, List.map_append]
  rfl

/-- No candidate comes twice in one round. -/
theorem nodup_round (start : Nat) : (round start candidates).Nodup := by
  refine List.Nodup.map_on ?_ List.nodup_range
  intro first firstWithin second secondWithin same
  have bounds : first < 254 ∧ second < 254 :=
    ⟨List.mem_range.mp firstWithin, List.mem_range.mp secondWithin⟩
  have numbers := congrArg UInt8.toNat same
  rw [toNat_candidateAt, toNat_candidateAt] at numbers
  omega

/-- A round has every nickname but that of the master. -/
theorem mem_round_iff {start : Nat} {nickname : UInt8} :
    nickname ∈ round start candidates ↔ 1 ≤ nickname ∧ nickname ≤ Protocol.highestNickname := by
  rw [UInt8.le_iff_toNat_le, UInt8.le_iff_toNat_le]
  change _ ↔ 1 ≤ nickname.toNat ∧ nickname.toNat ≤ 254
  constructor
  · intro met
    obtain ⟨index, -, rfl⟩ := List.mem_map.mp met
    rw [toNat_candidateAt]
    omega
  · intro valid
    refine List.mem_map.mpr ⟨(nickname.toNat + 253 - start % 254) % 254, ?_, ?_⟩
    · exact List.mem_range.mpr (Nat.mod_lt _ (by decide))
    · apply UInt8.toNat_inj.mp
      rw [toNat_candidateAt]
      omega

end Discovery

namespace Search

open Discovery

/-- Where the acts have led a search: it still asks the master, it walks through the candidates, or
a whole round of them was acknowledged. -/
inductive Led (acts : List ProbeAct) : Search → Prop where
  | asking {outcome? : Option AckOutcome} (early : .timeout ∉ acts)
      (unended : outcome? ≠ some .exhausted) :
      Led acts ⟨⟨Protocol.segmentMaster, 0, decide (.acknowledge ∈ acts)⟩, [], outcome?⟩
  | walking {outcome? : Option AckOutcome} (start : Nat) {count : Nat} (late : .timeout ∈ acts)
      (below : count < candidates) (unended : outcome? ≠ some .exhausted) :
      Led acts ⟨⟨candidateAt (start + count), count, false⟩, round start count, outcome?⟩
  | ended (start : Nat) {candidate : UInt8} (late : .timeout ∈ acts)
      (other : candidate ≠ Protocol.segmentMaster)
      (valid : candidate ≤ Protocol.highestNickname) :
      Led acts ⟨⟨candidate, candidates, false⟩, round start candidates, some .exhausted⟩

/-- A timeout leads to the next candidate and forgets the answers. -/
theorem Led.timeout {acts : List ProbeAct} {search : Search} (led : Led acts search)
    (unended : search.outcome? ≠ some .exhausted) :
    Led (acts ++ [.timeout]) (search.perform .timeout) := by
  have late : ProbeAct.timeout ∈ acts ++ [.timeout] := by simp
  cases led with
  | @asking outcome? early open? =>
      have next : perform ⟨⟨Protocol.segmentMaster, 0, decide (.acknowledge ∈ acts)⟩, [],
          outcome?⟩ .timeout = ⟨⟨candidateAt (0 + 0), 0, false⟩, round 0 0, none⟩ := rfl
      rw [next]
      exact .walking 0 late (by decide) (by decide)
  | @walking outcome? start count earlier below open? =>
      have next : perform ⟨⟨candidateAt (start + count), count, false⟩, round start count,
          outcome?⟩ .timeout =
          ⟨⟨candidateAt (start + count + 1 + 0), 0, false⟩, round (start + count + 1) 0, none⟩ :=
        congrArg (Search.mk · [] none) (advance_candidateAt ..)
      rw [next]
      exact .walking (start + count + 1) late (by decide) (by decide)
  | ended start => exact absurd rfl unended

/-- An acknowledgement adds the candidate to the answers, unless it is the master. -/
theorem Led.acknowledge {acts : List ProbeAct} {search : Search} (led : Led acts search)
    (unended : search.outcome? ≠ some .exhausted) :
    Led (acts ++ [.acknowledge]) (search.perform .acknowledge) := by
  cases led with
  | @asking outcome? early open? =>
      have next : perform ⟨⟨Protocol.segmentMaster, 0, decide (.acknowledge ∈ acts)⟩, [],
          outcome?⟩ .acknowledge =
          ⟨⟨Protocol.segmentMaster, 0, decide (.acknowledge ∈ acts ++ [.acknowledge])⟩, [],
            some .masterPresent⟩ := by
        simp [perform, Discovery.acknowledge]
      rw [next]
      exact .asking (by simpa using early) (by decide)
  | @walking outcome? start count late below open? =>
      have later : ProbeAct.timeout ∈ acts ++ [.acknowledge] := List.mem_append_left _ late
      have other := candidateAt_ne_master (start + count)
      by_cases last : candidates ≤ count + 1
      · have full : count + 1 = candidates := by omega
        have next : perform ⟨⟨candidateAt (start + count), count, false⟩, round start count,
            outcome?⟩ .acknowledge =
            ⟨⟨candidateAt (start + count), candidates, false⟩, round start candidates,
              some .exhausted⟩ := by
          rw [← full, round_succ]
          simp [perform, Discovery.acknowledge, other, last]
        rw [next]
        exact .ended start later other (candidateAt_le _)
      · have next : perform ⟨⟨candidateAt (start + count), count, false⟩, round start count,
            outcome?⟩ .acknowledge =
            ⟨⟨candidateAt (start + (count + 1)), count + 1, false⟩, round start (count + 1),
              some .taken⟩ := by
          rw [round_succ, ← Nat.add_assoc]
          simp [perform, Discovery.acknowledge, other, last, advance_candidateAt]
        rw [next]
        exact .walking start later (by omega) (by decide)
  | ended start => exact absurd rfl unended

/-- Every search is led so, up to its end. -/
theorem led_after {acts : List ProbeAct} (unended : Open acts) : Led acts (after acts) := by
  induction acts using List.reverseRecOn with
  | nil => exact .asking List.not_mem_nil (show none ≠ _ by decide)
  | append_singleton acts act ih =>
      obtain ⟨earlier, last⟩ := open_concat_iff.mp unended
      rw [after_concat]
      cases act with
      | acknowledge => exact (ih earlier).acknowledge last
      | timeout => exact (ih earlier).timeout last

/-- What the acts say of the search that they led to: the search asks the master until the first
timeout, counts the acknowledgements since the last one, and ends when these are as many as there
are other candidates, each of which then came once. -/
structure Tallies (acts : List ProbeAct) (search : Search) : Prop where
  valid : search.discovery.candidate ≤ Protocol.highestNickname
  master : search.discovery.candidate = Protocol.segmentMaster ↔ .timeout ∉ acts
  awaiting : search.discovery.awaitingAssignment = true ↔
    search.discovery.candidate = Protocol.segmentMaster ∧ .acknowledge ∈ acts
  counted : search.discovery.acked = search.answers.length
  bounded : search.discovery.acked ≤ candidates
  ended : search.outcome? = some .exhausted ↔ search.answers.length = candidates
  heard : search.outcome? = some .exhausted → search.answers.Nodup ∧
    ∀ nickname, nickname ∈ search.answers ↔ 1 ≤ nickname ∧ nickname ≤ Protocol.highestNickname

theorem Led.tallies {acts : List ProbeAct} {search : Search} (led : Led acts search) :
    Tallies acts search := by
  cases led with
  | asking early unended =>
      exact {
        valid := show Protocol.segmentMaster ≤ _ by decide
        master := by simp [early]
        awaiting := by simp
        counted := rfl
        bounded := Nat.zero_le _
        ended := iff_of_false unended (show 0 ≠ candidates by decide)
        heard := fun ended => absurd ended unended }
  | @walking outcome? start count late below unended =>
      have other := candidateAt_ne_master (start + count)
      exact {
        valid := candidateAt_le _
        master := by simp [late, other]
        awaiting := by simp [other]
        counted := (length_round start count).symm
        bounded := Nat.le_of_lt below
        ended := by
          rw [length_round]
          exact iff_of_false unended (Nat.ne_of_lt below)
        heard := fun ended => absurd ended unended }
  | ended start late other valid =>
      exact {
        valid := valid
        master := by simp [late, other]
        awaiting := by simp [other]
        counted := (length_round start _).symm
        bounded := Nat.le_refl _
        ended := iff_of_true rfl (length_round start _)
        heard := fun _ => ⟨nodup_round start, fun _ => mem_round_iff⟩ }

theorem tallies_after {acts : List ProbeAct} (unended : Open acts) : Tallies acts (after acts) :=
  (led_after unended).tallies

end Search

end Vscp
