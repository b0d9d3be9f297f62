/-
This file proves which slot of the table of sessions a frame moves, and that no sender ever has two
slots.
-/

import Vscp.Node.GuidDrop

namespace Vscp

theorem SessionSlot.mem_all (slot : SessionSlot) : slot ∈ all := by
  cases slot <;> decide

theorem SessionSlot.index_inj {slot other : SessionSlot} (same : slot.index = other.index) :
    slot = other := by
  cases slot <;> cases other <;> first | rfl | cases same

theorem SessionSlot.index_of_ofIndex? {slot : SessionSlot} {index : Nat}
    (named : ofIndex? index = some slot) : index = slot.index := by
  match index with
  | 0 | 1 =>
      cases named
      rfl
  | index + 2 => cases named

namespace GuidDropSessions

variable {sessions : GuidDropSessions} {slot other : SessionSlot} {origin index : UInt8}
  {bytes guid : List UInt8} {awaited : Fin 4}

/-- No sender has two sessions. -/
def Distinct (sessions : GuidDropSessions) : Prop :=
  ∀ slot other origin awaited later, sessions.get slot = some ⟨origin, awaited⟩ →
    sessions.get other = some ⟨origin, later⟩ → slot = other

theorem distinct_iff : sessions.Distinct ↔ ∀ left ∈ sessions.first, ∀ right ∈ sessions.second,
    left.origin ≠ right.origin := by
  constructor
  · rintro distinct ⟨origin, awaited⟩ left ⟨_, later⟩ right rfl
    exact absurd (distinct .first .second origin awaited later left right) (by decide)
  · intro apart slot other origin awaited later left right
    cases slot <;> cases other
    · rfl
    · exact absurd rfl (apart ⟨origin, awaited⟩ left ⟨origin, later⟩ right)
    · exact absurd rfl (apart ⟨origin, later⟩ right ⟨origin, awaited⟩ left)
    · rfl

theorem distinct_empty : empty.Distinct := by
  intro slot other origin awaited later left
  cases slot <;> cases left

/-- A slot of the sender is found if there is one. -/
theorem get_of_slotOf? (found : sessions.slotOf? origin = some slot) :
    ∃ awaited, sessions.get slot = some ⟨origin, awaited⟩ := by
  unfold slotOf? at found
  have matched := List.find?_some found
  obtain ⟨⟨sender, awaited⟩, held, own⟩ := (Option.any_eq_true ..).mp matched
  obtain rfl := eq_of_beq own
  exact ⟨awaited, held⟩

theorem slotOf?_eq_none_iff : sessions.slotOf? origin = none ↔
    ∀ slot awaited, sessions.get slot ≠ some ⟨origin, awaited⟩ := by
  constructor
  · intro missing slot awaited held
    have skipped := List.find?_eq_none.mp missing slot slot.mem_all
    rw [held] at skipped
    simp at skipped
  · intro foreign
    cases found : sessions.slotOf? origin with
    | none => rfl
    | some slot =>
        obtain ⟨awaited, held⟩ := get_of_slotOf? found
        exact absurd held (foreign slot awaited)

theorem slotOf?_eq_some_iff (distinct : sessions.Distinct) :
    sessions.slotOf? origin = some slot ↔ ∃ awaited, sessions.get slot = some ⟨origin, awaited⟩ := by
  constructor
  · exact get_of_slotOf?
  · rintro ⟨awaited, held⟩
    cases found : sessions.slotOf? origin with
    | none => exact absurd held (slotOf?_eq_none_iff.mp found slot awaited)
    | some other =>
        obtain ⟨later, also⟩ := get_of_slotOf? found
        rw [distinct other slot origin later awaited also held]

theorem get_of_free? (free : sessions.free? = some slot) : sessions.get slot = none := by
  have shut := List.find?_some free
  simpa [isOpen] using shut

theorem free?_eq_none_iff : sessions.free? = none ↔ ∀ slot, ∃ session,
    sessions.get slot = some session := by
  unfold free?
  rw [List.find?_eq_none]
  constructor
  · intro full slot
    have taken := full slot slot.mem_all
    exact Option.ne_none_iff_exists'.mp (by simpa [isOpen] using taken)
  · intro full slot _
    obtain ⟨session, held⟩ := full slot
    simp [isOpen, held]

/-- The slot is free or the sender's own, and the sender has no other. -/
structure Grants (sessions : GuidDropSessions) (origin : UInt8) (slot : SessionSlot) : Prop where
  vacant : ∀ sender awaited, sessions.get slot = some ⟨sender, awaited⟩ → sender = origin
  only : ∀ other awaited, sessions.get other = some ⟨origin, awaited⟩ → other = slot

/-- A frame is given no slot of another sender. -/
theorem grants_of_slotFor? (distinct : sessions.Distinct)
    (granted : sessions.slotFor? origin index = some slot) : sessions.Grants origin slot := by
  have own (found : sessions.slotOf? origin = some slot) : sessions.Grants origin slot := by
    obtain ⟨awaited, held⟩ := get_of_slotOf? found
    refine ⟨fun sender later also => ?_, fun other later also => ?_⟩
    · cases held.symm.trans also
      rfl
    · exact distinct other slot origin later awaited also held
  unfold slotFor? at granted
  split at granted
  · rcases Option.or_eq_some_iff.mp granted with found | ⟨missing, free⟩
    · exact own found
    · have shut := get_of_free? free
      refine ⟨fun sender awaited held => ?_, fun other awaited held => ?_⟩
      · exact absurd (shut.symm.trans held) (by simp)
      · exact absurd held (slotOf?_eq_none_iff.mp missing other awaited)
  · exact own granted

/-- The frame is the one that the slot awaits. -/
def Fits (sessions : GuidDropSessions) (slot : SessionSlot) (index : UInt8)
    (bytes guid : List UInt8) : Prop :=
  index.toNat = sessions.awaited slot index ∧ bytes = chunk guid (sessions.awaited slot index)

/-- What the table makes of a frame. -/
inductive Verdict (sessions : GuidDropSessions) (origin index : UInt8) (bytes guid : List UInt8) :
    FrameOutcome × GuidDropSessions → Prop where
  | refused (foreign : sessions.slotFor? origin index = none) :
      Verdict sessions origin index bytes guid (.dropped none, sessions)
  | discarded {slot : SessionSlot} (granted : sessions.slotFor? origin index = some slot)
      (unfit : ¬sessions.Fits slot index bytes guid) :
      Verdict sessions origin index bytes guid (.dropped (some slot), sessions.set slot none)
  | progressed {slot : SessionSlot} (granted : sessions.slotFor? origin index = some slot)
      (fits : sessions.Fits slot index bytes guid) (more : sessions.awaited slot index + 1 < 4) :
      Verdict sessions origin index bytes guid
        (.progress slot, sessions.set slot (some ⟨origin, _, more⟩))
  | completed {slot : SessionSlot} (granted : sessions.slotFor? origin index = some slot)
      (fits : sessions.Fits slot index bytes guid) (last : 3 ≤ sessions.awaited slot index) :
      Verdict sessions origin index bytes guid (.complete slot, sessions.set slot none)

theorem verdict_iff {result : FrameOutcome × GuidDropSessions} :
    sessions.Verdict origin index bytes guid result ↔
      sessions.accept origin index bytes guid = result := by
  constructor
  · rintro (foreign | ⟨granted, unfit⟩ | ⟨granted, fits, more⟩ | ⟨granted, fits, last⟩)
    · simp only [accept, foreign]
    · simp only [accept, granted]
      exact if_neg unfit
    · simp only [accept, granted]
      exact (if_pos fits).trans (dif_pos more)
    · simp only [accept, granted]
      exact (if_pos fits).trans (dif_neg (Nat.not_lt.mpr (Nat.succ_le_succ last)))
  · rintro rfl
    unfold accept
    split
    · rename_i foreign
      exact .refused foreign
    · rename_i slot granted
      dsimp only
      split
      · rename_i fits
        split
        · rename_i more
          exact .progressed granted fits more
        · rename_i last
          exact .completed granted fits (Nat.le_of_succ_le_succ (Nat.not_lt.mp last))
      · rename_i unfit
        exact .discarded granted unfit

theorem verdict (sessions : GuidDropSessions) (origin index : UInt8) (bytes guid : List UInt8) :
    sessions.Verdict origin index bytes guid (sessions.accept origin index bytes guid) :=
  verdict_iff.mpr rfl

/-- A frame is refused if there is no slot for it. -/
theorem refused_iff (bytes guid : List UInt8) :
    (sessions.accept origin index bytes guid).1 = .dropped none ↔
      sessions.slotFor? origin index = none := by
  constructor
  · intro refused
    have verdict := sessions.verdict origin index bytes guid
    generalize sessions.accept origin index bytes guid = result at verdict refused
    cases verdict with
    | refused foreign => exact foreign
    | _ => cases refused
  · intro foreign
    rw [verdict_iff.mp (.refused foreign)]

/-- A refused frame leaves the table as it was. -/
theorem eq_of_refused {later : GuidDropSessions}
    (refused : sessions.accept origin index bytes guid = (.dropped none, later)) :
    later = sessions := by
  have foreign := (refused_iff bytes guid).mp (congrArg Prod.fst refused)
  rw [verdict_iff.mp (.refused foreign)] at refused
  cases refused
  rfl

/-- A frame moves its slot alone, and leaves a session of its sender there or none. -/
theorem exists_accept_eq_set (granted : sessions.slotFor? origin index = some slot) :
    ∃ session?, (∀ session ∈ session?, session.origin = origin) ∧
      (sessions.accept origin index bytes guid).2 = sessions.set slot session? := by
  have verdict := sessions.verdict origin index bytes guid
  generalize sessions.accept origin index bytes guid = result at verdict ⊢
  cases verdict with
  | refused foreign => cases foreign.symm.trans granted
  | discarded found unfit =>
      cases found.symm.trans granted
      exact ⟨none, by rintro _ ⟨⟩, rfl⟩
  | progressed found fits more =>
      cases found.symm.trans granted
      exact ⟨some _, by rintro _ ⟨⟩; rfl, rfl⟩
  | completed found fits last =>
      cases found.symm.trans granted
      exact ⟨none, by rintro _ ⟨⟩, rfl⟩

theorem Distinct.set_none (distinct : sessions.Distinct) (slot : SessionSlot) :
    (sessions.set slot none).Distinct := by
  have kept (other : SessionSlot) (session : GuidDropSession)
      (held : (sessions.set slot none).get other = some session) :
      sessions.get other = some session := by
    rw [get_set] at held
    split at held
    · cases held
    · exact held
  intro left right origin awaited later first second
  exact distinct left right origin awaited later (kept left _ first) (kept right _ second)

/-- A sender that is given a slot of its own has no other. -/
theorem Distinct.set (distinct : sessions.Distinct) (grants : sessions.Grants origin slot)
    {session? : Option GuidDropSession} (own : ∀ session ∈ session?, session.origin = origin) :
    (sessions.set slot session?).Distinct := by
  have placed (other : SessionSlot) (sender : UInt8) (awaited : Fin 4)
      (held : (sessions.set slot session?).get other = some ⟨sender, awaited⟩) :
      (other = slot ∧ sender = origin) ∨
        (other ≠ slot ∧ sessions.get other = some ⟨sender, awaited⟩) := by
    rw [get_set] at held
    split at held
    · rename_i same
      exact .inl ⟨same, own _ held⟩
    · rename_i apart
      exact .inr ⟨apart, held⟩
  intro left right sender awaited later first second
  rcases placed left sender awaited first with ⟨rfl, rfl⟩ | ⟨apart, held⟩ <;>
    rcases placed right sender later second with ⟨rfl, mine⟩ | ⟨also, there⟩
  · rfl
  · exact absurd (grants.only right later there) also
  · exact absurd (grants.only left awaited (mine ▸ held)) apart
  · exact distinct left right sender awaited later held there

theorem Distinct.accept (distinct : sessions.Distinct) (origin index : UInt8)
    (bytes guid : List UInt8) : (sessions.accept origin index bytes guid).2.Distinct := by
  cases granted : sessions.slotFor? origin index with
  | none =>
      rw [verdict_iff.mp (.refused granted)]
      exact distinct
  | some slot =>
      obtain ⟨session?, own, moved⟩ := exists_accept_eq_set granted
      rw [moved]
      exact distinct.set (grants_of_slotFor? distinct granted) own

/-- A frame leaves the sessions of other senders alone. -/
theorem get_accept_of_ne (distinct : sessions.Distinct) {sender : UInt8} (foreign : sender ≠ origin) :
    (sessions.accept sender index bytes guid).2.get slot = some ⟨origin, awaited⟩ ↔
      sessions.get slot = some ⟨origin, awaited⟩ := by
  cases granted : sessions.slotFor? sender index with
  | none => rw [verdict_iff.mp (.refused granted)]
  | some place =>
      have grants := grants_of_slotFor? distinct granted
      obtain ⟨session?, own, moved⟩ := exists_accept_eq_set granted
      rw [moved, get_set]
      split
      · rename_i same
        subst same
        constructor
        · intro held
          exact absurd (own _ held).symm foreign
        · intro held
          exact absurd (grants.vacant origin awaited held).symm foreign
      · exact .rfl

/-- Every frame of a sender that has a session is for its slot. -/
theorem slotFor?_of_held (distinct : sessions.Distinct)
    (held : sessions.get slot = some ⟨origin, awaited⟩) (index : UInt8) :
    sessions.slotFor? origin index = some slot := by
  have found := (slotOf?_eq_some_iff distinct).mpr ⟨awaited, held⟩
  unfold slotFor?
  split
  · exact Option.or_eq_some_iff.mpr (.inl found)
  · exact found

theorem awaited_of_held (held : sessions.get slot = some ⟨origin, awaited⟩) (later : index ≠ 0) :
    sessions.awaited slot index = awaited.val := by
  rw [GuidDropSessions.awaited, if_neg later, held]
  rfl

/-- A frame after the first one is granted the slot of the session that awaits something. -/
theorem held_of_slotFor? (granted : sessions.slotFor? origin index = some slot)
    (later : index ≠ 0) :
    ∃ awaited, sessions.get slot = some ⟨origin, awaited⟩ ∧
      sessions.awaited slot index = awaited.val := by
  rw [slotFor?, if_neg later] at granted
  obtain ⟨awaited, held⟩ := get_of_slotOf? granted
  exact ⟨awaited, held, awaited_of_held held later⟩

theorem bytes_of_progress (progress : (sessions.accept origin index bytes guid).1 = .progress slot) :
    bytes = chunk guid index.toNat := by
  have verdict := sessions.verdict origin index bytes guid
  generalize sessions.accept origin index bytes guid = result at verdict progress
  cases verdict with
  | progressed granted fits more =>
      rw [fits.1]
      exact fits.2
  | _ => cases progress

/-- After a frame its sender has a session exactly where the frame was a progress, and the session
awaits the next frame. -/
theorem get_accept_self (distinct : sessions.Distinct) :
    (sessions.accept origin index bytes guid).2.get slot = some ⟨origin, awaited⟩ ↔
      (sessions.accept origin index bytes guid).1 = .progress slot ∧
        awaited.val = index.toNat + 1 := by
  have verdict := sessions.verdict origin index bytes guid
  generalize sessions.accept origin index bytes guid = result at verdict ⊢
  have gone {place : SessionSlot} (granted : sessions.slotFor? origin index = some place) :
      (sessions.set place none).get slot ≠ some ⟨origin, awaited⟩ := by
    intro held
    rw [get_set] at held
    split at held
    · cases held
    · rename_i apart
      exact apart ((grants_of_slotFor? distinct granted).only slot awaited held)
  cases verdict with
  | refused foreign =>
      refine ⟨fun held => ?_, fun progress => by cases progress.1⟩
      cases foreign.symm.trans (slotFor?_of_held distinct held index)
  | discarded granted unfit =>
      exact ⟨fun held => absurd held (gone granted), fun progress => by cases progress.1⟩
  | completed granted fits last =>
      exact ⟨fun held => absurd held (gone granted), fun progress => by cases progress.1⟩
  | @progressed place granted fits more =>
      rw [get_set]
      constructor
      · intro held
        split at held
        · rename_i same
          have next : sessions.awaited place index + 1 = awaited.val :=
            congrArg (·.awaited.val) (Option.some.inj held)
          exact ⟨congrArg _ same.symm, next.symm.trans (congrArg (· + 1) fits.1.symm)⟩
        · rename_i apart
          exact absurd ((grants_of_slotFor? distinct granted).only slot awaited held) apart
      · rintro ⟨progress, next⟩
        obtain rfl : place = slot := FrameOutcome.progress.inj progress
        have value : sessions.awaited place index + 1 = awaited.val := by rw [next, fits.1]
        rw [if_pos rfl]
        exact congrArg some (congrArg (GuidDropSession.mk origin) (Fin.ext value))

/-- A frame after the first one makes a progress exactly if its session awaits it. -/
theorem progress_iff (distinct : sessions.Distinct) (later : index ≠ 0) :
    (sessions.accept origin index bytes guid).1 = .progress slot ↔
      bytes = chunk guid index.toNat ∧ index.toNat < 3 ∧
        ∃ awaited, sessions.get slot = some ⟨origin, awaited⟩ ∧ awaited.val = index.toNat := by
  constructor
  · intro progress
    refine ⟨bytes_of_progress progress, ?_⟩
    have verdict := sessions.verdict origin index bytes guid
    generalize sessions.accept origin index bytes guid = result at verdict progress
    cases verdict with
    | progressed granted fits more =>
        cases progress
        obtain ⟨awaited, held, value⟩ := held_of_slotFor? granted later
        have short : index.toNat < 3 := fits.1 ▸ Nat.lt_of_succ_lt_succ more
        exact ⟨short, awaited, held, value.symm.trans fits.1.symm⟩
    | _ => cases progress
  · rintro ⟨rfl, short, awaited, held, value⟩
    have awaits : sessions.awaited slot index = index.toNat :=
      (awaited_of_held held later).trans value
    refine congrArg Prod.fst (verdict_iff.mp (.progressed (slotFor?_of_held distinct held index)
      ⟨awaits.symm, ?_⟩ ?_))
    · rw [awaits]
    · omega

/-- The withdrawal is complete at the last frame of a session that awaits it. -/
theorem complete_iff (distinct : sessions.Distinct) :
    (sessions.accept origin index bytes guid).1 = .complete slot ↔
      index = 3 ∧ bytes = chunk guid 3 ∧ sessions.get slot = some ⟨origin, 3⟩ := by
  constructor
  · intro complete
    have verdict := sessions.verdict origin index bytes guid
    generalize sessions.accept origin index bytes guid = result at verdict complete
    cases verdict with
    | completed granted fits last =>
        cases complete
        have later : index ≠ 0 := by
          rintro rfl
          exact absurd last (by simp [GuidDropSessions.awaited])
        obtain ⟨awaited, held, value⟩ := held_of_slotFor? granted later
        have third : awaited = 3 := Fin.ext (by have := awaited.isLt; omega)
        subst third
        have number : index = 3 := UInt8.toNat_inj.mp (fits.1.trans value)
        have content : bytes = chunk guid (sessions.awaited slot index) := fits.2
        rw [value] at content
        exact ⟨number, content, held⟩
    | _ => cases complete
  · rintro ⟨rfl, rfl, held⟩
    have awaits : sessions.awaited slot 3 = 3 := awaited_of_held held (by decide)
    refine congrArg Prod.fst (verdict_iff.mp (.completed (slotFor?_of_held distinct held 3)
      ⟨awaits.symm, ?_⟩ (Nat.le_of_eq awaits.symm)))
    rw [awaits]

end GuidDropSessions

end Vscp
