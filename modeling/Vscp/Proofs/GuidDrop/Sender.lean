/-
This file proves that two senders of withdrawals cannot disturb each other: each is answered as if
it were alone.
-/

import Vscp.Proofs.GuidDrop.History

namespace Vscp

/-- The outcome of a frame without the number of its slot. -/
inductive FrameAnswer where
  | progress
  | complete
  | discarded
  | refused
  deriving DecidableEq, Repr

def FrameOutcome.answer : FrameOutcome → FrameAnswer
  | .progress _ => .progress
  | .complete _ => .complete
  | .dropped (some _) => .discarded
  | .dropped none => .refused

namespace GuidDropSessions

/-- The answers to the frames of one sender among frames that follow each other. -/
def answers (guid : List UInt8) (origin : UInt8) :
    List GuidDropFrame → GuidDropSessions → List FrameAnswer
  | [], _ => []
  | frame :: rest, sessions =>
      let (outcome, after) := sessions.accept frame.origin frame.index frame.bytes guid
      if frame.origin = origin then outcome.answer :: answers guid origin rest after
      else answers guid origin rest after

/-- The index that the session of a sender awaits, if it has one. -/
def awaits? (sessions : GuidDropSessions) (origin : UInt8) : Option (Fin 4) :=
  ((sessions.slotOf? origin).bind sessions.get).map (·.awaited)

/-- What a sender for whom there is always room sees of the table. -/
def react (guid : List UInt8) (frame : GuidDropFrame) (awaits? : Option (Fin 4)) :
    FrameAnswer × Option (Fin 4) :=
  match if frame.index = 0 then some 0 else awaits? with
  | none => (.refused, none)
  | some awaited =>
      if frame.index.toNat = awaited ∧ frame.bytes = chunk guid awaited then
        if more : awaited.val + 1 < 4 then (.progress, some ⟨awaited + 1, more⟩)
        else (.complete, none)
      else (.discarded, none)

def converse (guid : List UInt8) : List GuidDropFrame → Option (Fin 4) → List FrameAnswer
  | [], _ => []
  | frame :: rest, awaits? =>
      let (answer, after) := react guid frame awaits?
      answer :: converse guid rest after

variable {sessions : GuidDropSessions} {slot : SessionSlot} {origin first second : UInt8}
  {guid : List UInt8} {frame : GuidDropFrame} {awaited : Fin 4}

theorem awaits?_of_held (distinct : sessions.Distinct)
    (held : sessions.get slot = some ⟨origin, awaited⟩) :
    sessions.awaits? origin = some awaited := by
  rw [awaits?, (slotOf?_eq_some_iff distinct).mpr ⟨awaited, held⟩, Option.bind_some, held]
  rfl

theorem awaits?_eq_none (foreign : ∀ slot awaited, sessions.get slot ≠ some ⟨origin, awaited⟩) :
    sessions.awaits? origin = none := by
  rw [awaits?, slotOf?_eq_none_iff.mpr foreign]
  rfl

theorem awaits?_eq_some_iff (distinct : sessions.Distinct) :
    sessions.awaits? origin = some awaited ↔ ∃ slot, sessions.get slot = some ⟨origin, awaited⟩ := by
  constructor
  · intro awaits
    obtain ⟨⟨sender, later⟩, found, value⟩ := Option.map_eq_some_iff.mp awaits
    obtain ⟨slot, own, held⟩ := Option.bind_eq_some_iff.mp found
    obtain ⟨also, same⟩ := get_of_slotOf? own
    cases held.symm.trans same
    cases value
    exact ⟨slot, held⟩
  · rintro ⟨slot, held⟩
    exact awaits?_of_held distinct held

/-- Frames of others change nothing of what a sender awaits. -/
theorem awaits?_accept_of_ne (distinct : sessions.Distinct) (foreign : frame.origin ≠ origin) :
    (sessions.accept frame.origin frame.index frame.bytes guid).2.awaits? origin =
      sessions.awaits? origin := by
  refine Option.ext fun awaited => ?_
  rw [awaits?_eq_some_iff (distinct.accept _ _ _ _), awaits?_eq_some_iff distinct]
  exact exists_congr fun slot => get_accept_of_ne distinct foreign

/-- There is a slot for a first frame of the sender. -/
def HasRoom (sessions : GuidDropSessions) (origin : UInt8) : Prop :=
  sessions.slotFor? origin 0 ≠ none

theorem HasRoom.awaits?_of_refused (room : sessions.HasRoom origin) {index : UInt8}
    (refused : sessions.slotFor? origin index = none) :
    index ≠ 0 ∧ sessions.awaits? origin = none := by
  have later : index ≠ 0 := by
    rintro rfl
    exact room refused
  rw [slotFor?, if_neg later] at refused
  exact ⟨later, awaits?_eq_none (slotOf?_eq_none_iff.mp refused)⟩

/-- The slot of a frame awaits what its sender does. -/
theorem awaits?_of_slotFor? (distinct : sessions.Distinct) {index : UInt8}
    (granted : sessions.slotFor? origin index = some slot) :
    ∃ awaited, (if index = 0 then some 0 else sessions.awaits? origin) = some awaited ∧
      sessions.awaited slot index = awaited.val := by
  by_cases first : index = 0
  · exact ⟨0, if_pos first, if_pos first⟩
  · obtain ⟨awaited, held, value⟩ := held_of_slotFor? granted first
    exact ⟨awaited, (if_neg first).trans (awaits?_of_held distinct held), value⟩

/-- A sender that loses its slot has no session. -/
theorem awaits?_set_none (grants : sessions.Grants origin slot) :
    (sessions.set slot none).awaits? origin = none := by
  refine awaits?_eq_none fun other awaited held => ?_
  rw [get_set] at held
  split at held
  · cases held
  · rename_i apart
    exact apart (grants.only other awaited held)

/-- A sender that finds room sees nothing of the others. -/
theorem accept_eq_react (guid : List UInt8) (distinct : sessions.Distinct)
    (room : sessions.HasRoom frame.origin) :
    ((sessions.accept frame.origin frame.index frame.bytes guid).1.answer,
      (sessions.accept frame.origin frame.index frame.bytes guid).2.awaits? frame.origin) =
      react guid frame (sessions.awaits? frame.origin) := by
  have verdict := sessions.verdict frame.origin frame.index frame.bytes guid
  have after := distinct.accept frame.origin frame.index frame.bytes guid
  generalize sessions.accept frame.origin frame.index frame.bytes guid = result at verdict after ⊢
  unfold react
  cases verdict with
  | refused foreign =>
      obtain ⟨later, missing⟩ := room.awaits?_of_refused foreign
      simp only [if_neg later, missing]
      rfl
  | discarded granted unfit =>
      obtain ⟨awaited, awaits, value⟩ := awaits?_of_slotFor? distinct granted
      rw [Fits, value] at unfit
      simp only [awaits, if_neg unfit, awaits?_set_none (grants_of_slotFor? distinct granted)]
      rfl
  | completed granted fits last =>
      obtain ⟨awaited, awaits, value⟩ := awaits?_of_slotFor? distinct granted
      rw [Fits, value] at fits
      have full : ¬awaited.val + 1 < 4 := by omega
      simp only [awaits, if_pos fits, dif_neg full,
        awaits?_set_none (grants_of_slotFor? distinct granted)]
      rfl
  | @progressed slot granted fits more =>
      obtain ⟨awaited, awaits, value⟩ := awaits?_of_slotFor? distinct granted
      rw [Fits, value] at fits
      have next : awaited.val + 1 < 4 := value ▸ more
      have held : (sessions.set slot (some ⟨frame.origin, _, more⟩)).get slot =
          some ⟨frame.origin, _, more⟩ := by
        rw [get_set, if_pos rfl]
      simp only [awaits, if_pos fits, dif_pos next, awaits?_of_held after held]
      exact congrArg (Prod.mk _ <| some ·) (Fin.ext (congrArg (· + 1) value))

/-- Every session is of one of two senders. -/
def Between (first second : UInt8) (sessions : GuidDropSessions) : Prop :=
  ∀ slot session, sessions.get slot = some session →
    session.origin = first ∨ session.origin = second

/-- Two slots are enough for two senders. -/
theorem Between.hasRoom (between : sessions.Between first second) (distinct : sessions.Distinct)
    (own : origin = first ∨ origin = second) : sessions.HasRoom origin := by
  intro full
  obtain ⟨missing, taken⟩ := Option.or_eq_none_iff.mp full
  obtain ⟨⟨left, awaited⟩, held⟩ := free?_eq_none_iff.mp taken .first
  obtain ⟨⟨right, later⟩, also⟩ := free?_eq_none_iff.mp taken .second
  have foreign := slotOf?_eq_none_iff.mp missing
  have others : left ≠ origin ∧ right ≠ origin :=
    ⟨fun same => foreign .first awaited (same ▸ held), fun same => foreign .second later (same ▸ also)⟩
  -- both slots belong to the other sender, who has one at most
  have same : left = right := by
    rcases between .first _ held with rfl | rfl <;> rcases between .second _ also with rfl | rfl <;>
      grind
  subst same
  exact absurd (distinct .first .second left awaited later held also) (by decide)

theorem Between.accept (between : sessions.Between first second)
    (own : frame.origin = first ∨ frame.origin = second) :
    (sessions.accept frame.origin frame.index frame.bytes guid).2.Between first second := by
  cases granted : sessions.slotFor? frame.origin frame.index with
  | none =>
      rw [verdict_iff.mp (.refused granted)]
      exact between
  | some place =>
      obtain ⟨session?, mine, moved⟩ := exists_accept_eq_set granted
      rw [moved]
      intro slot session held
      rw [get_set] at held
      split at held
      · rw [mine session held]
        exact own
      · exact between slot session held

/-- Of two senders each has the conversation that its own frames make. -/
theorem answers_eq_converse {frames : List GuidDropFrame}
    (two : ∀ frame ∈ frames, frame.origin = first ∨ frame.origin = second)
    (distinct : sessions.Distinct) (between : sessions.Between first second) :
    answers guid origin frames sessions =
      converse guid (frames.filter (·.origin = origin)) (sessions.awaits? origin) := by
  induction frames generalizing sessions with
  | nil => rfl
  | cons frame rest ih =>
      have own := two frame List.mem_cons_self
      have later := ih (fun frame within => two frame (List.mem_cons_of_mem _ within))
        (distinct.accept frame.origin frame.index frame.bytes guid) (between.accept own)
      rw [answers]
      dsimp only
      rw [later]
      split
      · rename_i mine
        subst mine
        have reacted := accept_eq_react guid distinct (between.hasRoom distinct own)
        rw [List.filter_cons_of_pos (by simp), converse, ← reacted]
      · rename_i foreign
        rw [List.filter_cons_of_neg (by simpa using foreign),
          awaits?_accept_of_ne distinct foreign]

/-- Of two senders each is answered as if it were alone. -/
theorem answers_of_two_senders (guid : List UInt8) {frames : List GuidDropFrame}
    {first second : UInt8} (two : ∀ frame ∈ frames, frame.origin = first ∨ frame.origin = second)
    (origin : UInt8) :
    answers guid origin frames empty =
      answers guid origin (frames.filter (·.origin = origin)) empty := by
  have none : Between first second empty := fun slot session held =>
    absurd ((get_empty slot).symm.trans held) (by simp)
  have alone : ∀ frame ∈ frames.filter (·.origin = origin),
      frame.origin = first ∨ frame.origin = second :=
    fun frame within => two frame (List.mem_of_mem_filter within)
  rw [answers_eq_converse two distinct_empty none, answers_eq_converse alone distinct_empty none,
    List.filter_filter]
  simp

/-- A first frame that is discarded gives its slot to the other sender, and each still has its own
way. -/
theorem contending_senders_answered_alone :
    let guid : List UInt8 := [0, 1, 2, 3, 4, 5, 6, 7, 8, 9, 10, 11, 12, 13, 14, 15]
    let frames : List GuidDropFrame :=
      [⟨1, 0, [9]⟩, .genuine guid 2 0, .genuine guid 1 0, .genuine guid 2 1, .genuine guid 1 2,
        .genuine guid 2 2, .genuine guid 1 1, .genuine guid 2 3]
    (∀ frame ∈ frames, frame.origin = 1 ∨ frame.origin = 2) ∧
    answers guid 1 frames empty = answers guid 1 (frames.filter (·.origin = 1)) empty ∧
    answers guid 1 frames empty = [.discarded, .progress, .discarded, .refused] ∧
    answers guid 2 frames empty = [.progress, .progress, .progress, .complete] := by
  intro guid frames
  have two : ∀ frame ∈ frames, frame.origin = 1 ∨ frame.origin = 2 := by decide
  exact ⟨two, answers_of_two_senders guid two 1, by decide, by decide⟩

end GuidDropSessions

end Vscp
