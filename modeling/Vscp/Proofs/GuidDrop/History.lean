/-
This file proves that a withdrawal completes exactly when its sender has sent the whole identity in
order, whatever other senders did in between.
-/

import Mathlib.Data.List.Basic
import Mathlib.Data.List.Induction
import Vscp.Proofs.GuidDrop.Table
import Vscp.Proofs.Split

namespace Vscp

structure GuidDropFrame where
  origin : UInt8
  index : UInt8
  bytes : List UInt8
  deriving DecidableEq, Repr

/-- What may happen to a table of sessions. Slots are named by their numbers, and other numbers name
none. -/
inductive SessionAct where
  | accept (frame : GuidDropFrame)
  | expire (index : Nat)
  | clear
  deriving DecidableEq, Repr

namespace GuidDropSessions

def perform (guid : List UInt8) (sessions : GuidDropSessions) : SessionAct → GuidDropSessions
  | .accept frame => (sessions.accept frame.origin frame.index frame.bytes guid).2
  | .expire index =>
      match SessionSlot.ofIndex? index with
      | some slot => (sessions.expire slot).2
      | none => sessions
  | .clear => empty

/-- The table after acts that follow each other from the empty table. -/
def performAll (guid : List UInt8) (acts : List SessionAct) : GuidDropSessions :=
  acts.foldl (perform guid) empty

end GuidDropSessions

/-- The frame of a sender that carries the right bytes for its index. -/
def GuidDropFrame.genuine (guid : List UInt8) (origin : UInt8) (index : Nat) : GuidDropFrame :=
  ⟨origin, UInt8.ofNat index, GuidDropSessions.chunk guid index⟩

/-- The act is no frame of the sender and does not end its session. -/
def SessionAct.Spares (slot : SessionSlot) (origin : UInt8) : SessionAct → Prop
  | .accept frame => frame.origin ≠ origin
  | .expire index => index ≠ slot.index
  | .clear => False

namespace GuidDropSessions

variable {sessions : GuidDropSessions} {slot other : SessionSlot} {origin : UInt8}
  {guid : List UInt8} {acts : List SessionAct} {act : SessionAct}

/-- The last frames of the sender were the first ones of the identity in order, the first of them
was granted the slot, and nothing has ended the session since. -/
def Delivered (guid : List UInt8) (slot : SessionSlot) (origin : UInt8) :
    Nat → List SessionAct → Prop
  | 0, acts => ((performAll guid acts).accept origin 0 (chunk guid 0) guid).1 = .progress slot
  | count + 1, acts => ∃ earlier later,
      acts = earlier ++ .accept (.genuine guid origin count) :: later ∧
      (∀ act ∈ later, act.Spares slot origin) ∧ Delivered guid slot origin count earlier

theorem delivered_concat {count : Nat} :
    Delivered guid slot origin (count + 1) (acts ++ [act]) ↔
      (act = .accept (.genuine guid origin count) ∧ Delivered guid slot origin count acts) ∨
      (act.Spares slot origin ∧ Delivered guid slot origin (count + 1) acts) := by
  constructor
  · rintro ⟨earlier, later, split, spared, delivered⟩
    rcases concat_eq_split_iff.mp split with ⟨rfl, same, -⟩ | ⟨middle, rfl, rfl⟩
    · exact .inl ⟨same, delivered⟩
    · refine .inr ⟨spared act (by simp), earlier, middle, rfl, fun act within => ?_, delivered⟩
      exact spared act (List.mem_append_left _ within)
  · rintro (⟨rfl, delivered⟩ | ⟨spares, earlier, later, rfl, spared, delivered⟩)
    · exact ⟨acts, [], rfl, by simp, delivered⟩
    · refine ⟨earlier, later ++ [act], by simp, ?_, delivered⟩
      exact List.forall_mem_append.mpr ⟨spared, List.forall_mem_singleton.mpr spares⟩

theorem performAll_concat (guid : List UInt8) (acts : List SessionAct) (act : SessionAct) :
    performAll guid (acts ++ [act]) = (performAll guid acts).perform guid act := by
  rw [performAll, List.foldl_append]
  rfl

theorem Distinct.perform (distinct : sessions.Distinct) (guid : List UInt8) (act : SessionAct) :
    (sessions.perform guid act).Distinct := by
  cases act with
  | accept frame => exact distinct.accept _ _ _ _
  | expire index =>
      change Distinct (match SessionSlot.ofIndex? index with | some _ => _ | none => _)
      split
      · exact distinct.set_none _
      · exact distinct
  | clear => exact distinct_empty

theorem distinct_performAll (guid : List UInt8) (acts : List SessionAct) :
    (performAll guid acts).Distinct := by
  induction acts using List.reverseRecOn with
  | nil => exact distinct_empty
  | append_singleton acts act ih =>
      rw [performAll_concat]
      exact ih.perform guid act

theorem get_empty (slot : SessionSlot) : empty.get slot = none := by
  cases slot <;> rfl

/-- Only the session of the slot with the number ends. -/
theorem get_expire_iff {session : GuidDropSession} {index : Nat} :
    (sessions.perform guid (.expire index)).get slot = some session ↔
      index ≠ slot.index ∧ sessions.get slot = some session := by
  change (match SessionSlot.ofIndex? index with
    | some ended => (sessions.expire ended).2
    | none => sessions).get slot = some session ↔ _
  split
  · rename_i ended named
    have number : index = ended.index := SessionSlot.index_of_ofIndex? named
    change (sessions.set ended none).get slot = some session ↔ _
    rw [get_set, number]
    by_cases same : slot = ended
    · simp [same]
    · have apart : ended.index ≠ slot.index := fun index => same (SessionSlot.index_inj index.symm)
      simp [same, apart]
  · rename_i unnamed
    have apart : index ≠ slot.index := by
      rintro rfl
      cases slot <;> cases unnamed
    simp [apart]

theorem toNat_index {count : Nat} (short : count < 4) : (UInt8.ofNat count).toNat = count :=
  UInt8.toNat_ofNat_of_lt' (Nat.lt_trans short (by decide))

/-- A session that awaits a frame has just been delivered the one before, or has been spared. -/
theorem get_perform_iff (distinct : sessions.Distinct) {count : Nat} (short : count + 1 < 4) :
    (sessions.perform guid act).get slot = some ⟨origin, ⟨count + 1, short⟩⟩ ↔
      (act = .accept (.genuine guid origin count) ∧
        (sessions.accept origin (UInt8.ofNat count) (chunk guid count) guid).1 =
          .progress slot) ∨
      (act.Spares slot origin ∧ sessions.get slot = some ⟨origin, ⟨count + 1, short⟩⟩) := by
  have index := toNat_index (Nat.lt_of_succ_lt short)
  cases act with
  | accept frame =>
      obtain ⟨sender, number, bytes⟩ := frame
      change (sessions.accept sender number bytes guid).2.get slot = _ ↔ _
      by_cases own : sender = origin
      · subst own
        rw [get_accept_self distinct]
        constructor
        · rintro ⟨progress, next⟩
          have number_eq : number = UInt8.ofNat count :=
            UInt8.toNat_inj.mp ((Nat.succ.inj next).symm.trans index.symm)
          have content := bytes_of_progress progress
          subst number_eq
          rw [index] at content
          subst content
          exact .inl ⟨rfl, progress⟩
        · rintro (⟨⟨⟩, progress⟩ | ⟨foreign, -⟩)
          · exact ⟨progress, congrArg (· + 1) index.symm⟩
          · exact absurd rfl foreign
      · rw [get_accept_of_ne distinct own]
        constructor
        · intro held
          exact .inr ⟨own, held⟩
        · rintro (⟨⟨⟩, -⟩ | ⟨-, held⟩)
          · exact absurd rfl own
          · exact held
  | expire number =>
      rw [get_expire_iff]
      exact ⟨.inr, fun kept => kept.resolve_left fun delivered => by cases delivered.1⟩
  | clear =>
      constructor
      · intro held
        exact absurd ((get_empty slot).symm.trans held) (by simp)
      · rintro (⟨⟨⟩, -⟩ | ⟨⟨⟩, -⟩)

/-- The table tells what has been delivered. -/
theorem get_performAll_iff {count : Nat} (short : count + 1 < 4) :
    (performAll guid acts).get slot = some ⟨origin, ⟨count + 1, short⟩⟩ ↔
      Delivered guid slot origin (count + 1) acts := by
  induction acts using List.reverseRecOn generalizing count with
  | nil =>
      constructor
      · intro held
        exact absurd ((get_empty slot).symm.trans held) (by simp)
      · rintro ⟨earlier, later, split, -⟩
        simp at split
  | append_singleton acts act ih =>
      have distinct := distinct_performAll guid acts
      -- the last act is either spared or the frame before the one that is awaited, for which the
      -- hypothesis is needed once more with the count of that frame
      rw [performAll_concat, get_perform_iff distinct short, delivered_concat, ih short]
      refine or_congr_left (and_congr_right fun _ => ?_)
      cases count with
      | zero => exact .rfl
      | succ count =>
          have index := toNat_index (Nat.lt_of_succ_lt short)
          have later : UInt8.ofNat (count + 1) ≠ 0 := by
            intro first
            rw [first] at index
            cases index
          rw [progress_iff distinct later, index, ← ih (Nat.lt_of_succ_lt short)]
          constructor
          · rintro ⟨-, -, awaited, held, value⟩
            rw [held]
            exact congrArg some (congrArg (GuidDropSession.mk origin) (Fin.ext value))
          · intro held
            exact ⟨rfl, Nat.lt_of_succ_lt_succ short, _, held, rfl⟩

/-- After any acts no sender has two sessions, and a frame completes a withdrawal exactly if it is
the last one of the identity and the frames of its sender before it were the others in order, of
which the first was granted the slot, without an end of its session in between. -/
theorem completes_iff_delivered (guid : List UInt8) (acts : List SessionAct) :
    let sessions := performAll guid acts
    (∀ left ∈ sessions.first, ∀ right ∈ sessions.second, left.origin ≠ right.origin) ∧
    ∀ origin index bytes slot,
      (sessions.accept origin index bytes guid).1 = .complete slot ↔
        index = 3 ∧ bytes = chunk guid 3 ∧ Delivered guid slot origin 3 acts := by
  intro sessions
  have distinct := distinct_performAll guid acts
  refine ⟨distinct_iff.mp distinct, fun origin index bytes slot => ?_⟩
  rw [complete_iff distinct]
  exact and_congr_right fun _ => and_congr_right fun _ => get_performAll_iff (by decide)

example :
    let guid : List UInt8 := [0, 1, 2, 3, 4, 5, 6, 7, 8, 9, 10, 11, 12, 13, 14, 15]
    let sessions := performAll guid
      [.accept (.genuine guid 7 0), .accept (.genuine guid 1 0), .accept (.genuine guid 9 0),
        .accept (.genuine guid 1 1), .expire 0, .accept (.genuine guid 1 2)]
    (sessions.accept 1 3 (chunk guid 3) guid).1 = .complete .second := by
  decide

end GuidDropSessions

end Vscp
