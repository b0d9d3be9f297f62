/-
This file proves that a node restores factory defaults on two writes in a row and within a second,
and else only when it is asked to drop its nickname for them.
-/

import Vscp.Proofs.Node.Deadline
import Vscp.Proofs.Node.Exhaustion
import Vscp.Proofs.Split

namespace Vscp

namespace HostAct

variable {Clock App : Type}

/-- The milliseconds that pass with the act. -/
def elapsed : HostAct Clock App → Nat
  | .call served => served.elapsed
  | .surround .. => 0

/-- The milliseconds that pass with acts that follow each other. -/
def total : List (HostAct Clock App) → Nat
  | [] => 0
  | act :: rest => act.elapsed + total rest

theorem total_append (acts later : List (HostAct Clock App)) :
    total (acts ++ later) = total acts + total later := by
  induction acts with
  | nil => exact (Nat.zero_add _).symm
  | cons first rest ih =>
      rw [List.cons_append, total, total, ih, Nat.add_assoc]

theorem total_concat (acts : List (HostAct Clock App)) (act : HostAct Clock App) :
    total (acts ++ [act]) = total acts + act.elapsed :=
  total_append acts [act]

end HostAct

namespace Node

variable {Clock App : Type} [TimerService Clock] [Application App]

/-- The call writes some value to the register. -/
def Touches (node : Node Clock App) (call : HostCall) : Prop :=
  ∃ value, node.Writes call StandardRange.restoreDefaults value

/-- The application is told once to restore factory defaults if the condition holds, else not. -/
def RestoresOnceIff (before after : Node Clock App) (condition : Prop) : Prop :=
  (condition ∧ after.restoresTold = before.restoresTold + 1) ∨
    (¬condition ∧ after.restoresTold = before.restoresTold)

section Calls

variable (node : Node Clock App) (call : HostCall)

omit [Application App] in
theorem renewal_ticked : (node.ticked call).renewal =
    { node.renewal with uptime := (node.ticked call).uptime } := by
  cases call <;> rfl

omit [Application App] in
/-- Time that fits the uptime is added to it. -/
theorem uptime_ticked (fits : node.uptime + call.elapsed ≤ longestUptime) :
    (node.ticked call).uptime = node.uptime + call.elapsed := by
  cases call with
  | tick elapsed => exact Nat.min_eq_left fits
  | poll elapsed => exact Nat.min_eq_left fits
  | _ => rfl

theorem uptime_serve : (node.serve call).2.uptime = (node.ticked call).uptime := by
  cases node.renewed_serve call with
  | kept same => exact congrArg Renewal.uptime same
  | reset starting told => exact congrArg Renewal.uptime told
  | dropped asked starting told => exact congrArg Renewal.uptime told
  | wrote asked resets =>
      obtain ⟨value, writes⟩ := asked
      exact congrArg Renewal.uptime (renewal_of_writes writes)

/-- A call that does not write the register leaves the wait alone, or ends it with a reset. -/
theorem restoreArmedAt_serve (untouched : ¬node.Touches call) :
    ((node.serve call).2.restoreArmedAt = node.restoreArmedAt ∧
        (node.serve call).2.resetsTold = node.resetsTold) ∨
      ((node.serve call).2.restoreArmedAt = none ∧
        (node.serve call).2.resetsTold = node.resetsTold + 1) := by
  have renewed := node.renewed_serve call
  have armed : (node.ticked call).restoreArmedAt = node.restoreArmedAt :=
    (congrArg Renewal.armedAt (node.renewal_ticked call) :)
  rw [← armed, ← node.resetsTold_ticked call]
  cases renewed with
  | kept same => exact .inl ⟨congrArg Renewal.armedAt same, congrArg Renewal.resets same⟩
  | reset starting told => exact .inr ⟨congrArg Renewal.armedAt told, congrArg Renewal.resets told⟩
  | dropped asked starting told =>
      exact .inr ⟨congrArg Renewal.armedAt told, congrArg Renewal.resets told⟩
  | wrote asked resets => exact absurd asked untouched

omit [Application App] in
theorem restoresTold_ticked : (node.ticked call).restoresTold = node.restoresTold :=
  congrArg Renewal.restores (node.renewal_ticked call)

/-- A call that does not write the register restores factory defaults only on a command to drop the
nickname. -/
theorem restoresOnceIff_drops (untouched : ¬node.Touches call) :
    RestoresOnceIff node (node.serve call).2 (node.DropsToDefaults call) := by
  have renewed := node.renewed_serve call
  unfold RestoresOnceIff
  rw [← node.restoresTold_ticked call]
  by_cases drops : node.DropsToDefaults call
  · exact .inl ⟨drops, congrArg Renewal.restores (renewal_of_drops drops)⟩
  · refine .inr ⟨drops, ?_⟩
    cases renewed with
    | kept same => exact congrArg Renewal.restores same
    | reset starting told => exact congrArg Renewal.restores told
    | dropped asked starting told => exact absurd asked drops
    | wrote asked resets => exact absurd asked untouched

variable {node call}

/-- The wait begins when the first value is written. -/
theorem restoreArmedAt_of_writes {value : UInt8}
    (writes : node.Writes call StandardRange.restoreDefaults value) :
    (node.serve call).2.restoreArmedAt =
      if value = 0x55 then some (node.serve call).2.uptime else none := by
  rw [uptime_serve]
  exact congrArg Renewal.armedAt (renewal_of_writes writes)

/-- A call that writes the register restores factory defaults when the wait is confirmed. -/
theorem restoresOnceIff_confirmed {value : UInt8}
    (writes : node.Writes call StandardRange.restoreDefaults value) :
    RestoresOnceIff node (node.serve call).2
      ((node.ticked call).renewal.confirmed value = true) := by
  have told := congrArg Renewal.restores (renewal_of_writes writes)
  change (node.serve call).2.restoresTold = (node.ticked call).restoresTold +
    ((node.ticked call).renewal.confirmed value).toNat at told
  rw [restoresTold_ticked] at told
  unfold RestoresOnceIff
  cases confirmed : (node.ticked call).renewal.confirmed value with
  | true =>
      rw [confirmed] at told
      exact .inl ⟨rfl, told⟩
  | false =>
      rw [confirmed] at told
      exact .inr ⟨Bool.false_ne_true, told⟩

end Calls

section History

variable {acts between : List (HostAct Clock App)} {act : HostAct Clock App}
  {node : Node Clock App} {call : HostCall}

/-- Before these last acts of the host the first value was written to the register. The register has
not been written since, and no reset was told of. -/
def ArmedSince (acts between : List (HostAct Clock App)) (node : Node Clock App) : Prop :=
  ∃ earlier call, acts = earlier ++ .call call :: between ∧
    (undergoAll earlier node).Writes call StandardRange.restoreDefaults 0x55 ∧
    let armed := ((undergoAll earlier node).serve call).2
    ¬Occurs Touches between armed ∧ (undergoAll between armed).resetsTold = armed.resetsTold

/-- The instant at which the wait began, if it still lasts. -/
def ArmedAt (acts : List (HostAct Clock App)) (node : Node Clock App) (instant : Nat) : Prop :=
  ∃ between, ArmedSince acts between node ∧
    instant + HostAct.total between = HostAct.total acts

theorem undergoAll_call (earlier between : List (HostAct Clock App)) (call : HostCall)
    (node : Node Clock App) : undergoAll (earlier ++ .call call :: between) node =
      undergoAll between ((undergoAll earlier node).serve call).2 := by
  rw [undergoAll, List.foldl_append]
  rfl

/-- The count of the resets that were told of never falls. -/
theorem resetsTold_undergo_le (node : Node Clock App) (act : HostAct Clock App) :
    node.resetsTold ≤ (node.undergo act).resetsTold := by
  cases act with
  | surround => exact Nat.le_refl _
  | call call =>
      change node.resetsTold ≤ (node.serve call).2.resetsTold
      rcases node.tellsReset_serve call with same | ⟨-, more⟩ <;> omega

theorem resetsTold_le_undergoAll (acts : List (HostAct Clock App)) (node : Node Clock App) :
    node.resetsTold ≤ (undergoAll acts node).resetsTold := by
  induction acts generalizing node with
  | nil => exact Nat.le_refl _
  | cons act rest ih => exact Nat.le_trans (node.resetsTold_undergo_le act) (ih _)

theorem ArmedSince.begin
    (writes : (undergoAll acts node).Writes call StandardRange.restoreDefaults 0x55) :
    ArmedSince (acts ++ [.call call]) [] node := by
  refine ⟨acts, call, rfl, writes, ?_, rfl⟩
  rintro ⟨earlier, call, later, split, -⟩
  simp at split

theorem ArmedSince.concat (since : ArmedSince acts between node)
    (untouched : ∀ call, act = .call call → ¬(undergoAll acts node).Touches call)
    (settled : ((undergoAll acts node).undergo act).resetsTold =
      (undergoAll acts node).resetsTold) :
    ArmedSince (acts ++ [act]) (between ++ [act]) node := by
  obtain ⟨earlier, call, rfl, writes, quiet, kept⟩ := since
  rw [undergoAll_call] at untouched settled
  refine ⟨earlier, call, by simp, writes, fun touched => ?_, ?_⟩
  · rcases touched.of_concat with before | ⟨last, same, touches⟩
    · exact quiet before
    · exact untouched last same touches
  · rw [undergoAll_concat]
    exact settled.trans kept

/-- The last act writes the first value, or it leaves the register alone and tells of no reset. -/
theorem ArmedSince.of_concat (since : ArmedSince (acts ++ [act]) between node) :
    (between = [] ∧ ∃ call, act = .call call ∧
      (undergoAll acts node).Writes call StandardRange.restoreDefaults 0x55) ∨
    ∃ middle, between = middle ++ [act] ∧ ArmedSince acts middle node ∧
      (∀ call, act = .call call → ¬(undergoAll acts node).Touches call) ∧
      ((undergoAll acts node).undergo act).resetsTold = (undergoAll acts node).resetsTold := by
  obtain ⟨earlier, call, split, writes, quiet, kept⟩ := since
  rcases concat_eq_split_iff.mp split with ⟨rfl, same, rfl⟩ | ⟨middle, rfl, rfl⟩
  · exact .inl ⟨rfl, call, same, writes⟩
  · rw [undergoAll_concat] at kept
    rw [undergoAll_call]
    generalize armed : ((undergoAll earlier node).serve call).2 = begun at quiet kept ⊢
    -- the count rose neither before the last act nor with it
    have rising := resetsTold_le_undergoAll middle begun
    have onward := (undergoAll middle begun).resetsTold_undergo_le act
    refine .inr ⟨middle, rfl, ⟨earlier, call, rfl, writes, ?_, ?_⟩, ?_,
      by omega⟩
    · rw [armed]
      exact fun touched => quiet (touched.concat act)
    · rw [armed]
      omega
    · rintro next rfl touches
      exact quiet (Occurs.last touches)

theorem ArmedSince.total_le (since : ArmedSince acts between node) :
    HostAct.total between ≤ HostAct.total acts := by
  obtain ⟨earlier, call, rfl, -⟩ := since
  rw [HostAct.total_append, HostAct.total]
  omega

/-- An act that leaves the register alone and tells of no reset goes on with the wait. -/
theorem armedAt_concat_iff
    (untouched : ∀ call, act = .call call → ¬(undergoAll acts node).Touches call)
    (settled : ((undergoAll acts node).undergo act).resetsTold =
      (undergoAll acts node).resetsTold) {instant : Nat} :
    ArmedAt (acts ++ [act]) node instant ↔ ArmedAt acts node instant := by
  unfold ArmedAt
  rw [HostAct.total_concat]
  constructor
  · rintro ⟨between, since, total⟩
    rcases since.of_concat with ⟨-, call, same, writes⟩ | ⟨middle, rfl, since, -, -⟩
    · exact absurd ⟨_, writes⟩ (untouched call same)
    · rw [HostAct.total_concat] at total
      exact ⟨middle, since, by omega⟩
  · rintro ⟨between, since, total⟩
    refine ⟨between ++ [act], since.concat untouched settled, ?_⟩
    rw [HostAct.total_concat, ← total, Nat.add_assoc]

/-- A reset ends the wait. -/
theorem not_armedAt_of_reset (untouched : ¬(undergoAll acts node).Touches call)
    (told : ((undergoAll acts node).serve call).2.resetsTold ≠ (undergoAll acts node).resetsTold)
    (instant : Nat) : ¬ArmedAt (acts ++ [.call call]) node instant := by
  rintro ⟨between, since, -⟩
  rcases since.of_concat with ⟨-, next, same, writes⟩ | ⟨middle, -, -, -, settled⟩
  · cases same
    exact untouched ⟨_, writes⟩
  · exact told settled

/-- A write ends the wait, and begins it anew if it writes the first value. -/
theorem armedAt_of_touches (touches : (undergoAll acts node).Touches call) {instant : Nat} :
    ArmedAt (acts ++ [.call call]) node instant ↔
      (undergoAll acts node).Writes call StandardRange.restoreDefaults 0x55 ∧
        instant = HostAct.total (acts ++ [.call call]) := by
  constructor
  · rintro ⟨between, since, total⟩
    rcases since.of_concat with ⟨rfl, next, same, writes⟩ | ⟨middle, -, -, untouched, -⟩
    · cases same
      exact ⟨writes, total⟩
    · exact absurd touches (untouched call rfl)
  · rintro ⟨writes, rfl⟩
    exact ⟨[], .begin writes, rfl⟩

/-- A write makes the node wait exactly if it writes the first value. -/
theorem restoreArmedAt_serve_of_touches (touches : (undergoAll acts node).Touches call)
    (passed : ((undergoAll acts node).serve call).2.uptime = HostAct.total (acts ++ [.call call]))
    (instant : Nat) :
    ((undergoAll acts node).serve call).2.restoreArmedAt = some instant ↔
      ArmedAt (acts ++ [.call call]) node instant := by
  rw [armedAt_of_touches touches]
  constructor
  · intro waits
    obtain ⟨value, writes⟩ := touches
    rw [restoreArmedAt_of_writes writes, passed] at waits
    obtain ⟨rfl, total⟩ := Option.ite_none_right_eq_some.mp waits
    exact ⟨writes, (Option.some.inj total).symm⟩
  · rintro ⟨writes, rfl⟩
    rw [restoreArmedAt_of_writes writes, passed, if_pos rfl]

/-- Any other call lets the node go on with its wait, or resets it. -/
theorem restoreArmedAt_serve_of_not_touches (untouched : ¬(undergoAll acts node).Touches call)
    {instant : Nat} (before : (undergoAll acts node).restoreArmedAt = some instant ↔
      ArmedAt acts node instant) :
    ((undergoAll acts node).serve call).2.restoreArmedAt = some instant ↔
      ArmedAt (acts ++ [.call call]) node instant := by
  rcases (undergoAll acts node).restoreArmedAt_serve call untouched with
    ⟨same, settled⟩ | ⟨ended, told⟩
  · have spared (next : HostCall) (last : (.call call : HostAct Clock App) = .call next) :
        ¬(undergoAll acts node).Touches next := by
      cases last
      exact untouched
    rw [same, before]
    exact (armedAt_concat_iff spared settled).symm
  · rw [ended]
    refine iff_of_false (by simp) (not_armedAt_of_reset untouched ?_ instant)
    omega

end History

section Built

variable {config : Config} {store : Store} {transport : Transport} {clock : Clock} {app : App}
  {node : Node Clock App} (built : build config store transport clock app = .ok node)

include built

/-- A new node waits for nothing. -/
theorem renewal_build : node.restoreArmedAt = none ∧ node.uptime = 0 := by
  obtain ⟨_, -, rfl⟩ := map_eq_ok_iff.mp built
  generalize TimerBank.createMany 4 clock = created
  dsimp only
  split <;> exact ⟨rfl, rfl⟩

theorem uptime_undergoAll (acts : List (HostAct Clock App))
    (short : HostAct.total acts ≤ longestUptime) :
    (undergoAll acts node).uptime = HostAct.total acts := by
  induction acts using List.reverseRecOn with
  | nil => exact (renewal_build built).2
  | append_singleton acts act ih =>
      rw [HostAct.total_concat] at short ⊢
      have before := ih (by omega)
      rw [undergoAll_concat, ← before]
      rw [← before] at short
      cases act with
      | surround => rfl
      | call call => exact (uptime_serve _ call).trans (uptime_ticked _ call short)

/-- While the uptime counts every millisecond, the node waits for the second value exactly since the
first one was written. -/
theorem restoreArmedAt_iff (acts : List (HostAct Clock App))
    (short : HostAct.total acts ≤ longestUptime) (instant : Nat) :
    (undergoAll acts node).restoreArmedAt = some instant ↔ ArmedAt acts node instant := by
  induction acts using List.reverseRecOn with
  | nil =>
      have new : (undergoAll [] node).restoreArmedAt = none := (renewal_build built).1
      rw [new]
      constructor
      · intro armed
        cases armed
      · rintro ⟨between, ⟨earlier, call, split, -⟩, -⟩
        simp at split
  | append_singleton acts act ih =>
      have passed := uptime_undergoAll built _ short
      rw [HostAct.total_concat] at short
      have before := ih (by omega)
      rw [undergoAll_concat] at passed ⊢
      cases act with
      | surround => exact before.trans (armedAt_concat_iff (by simp) rfl).symm
      | call call =>
          by_cases touches : (undergoAll acts node).Touches call
          · exact restoreArmedAt_serve_of_touches touches passed instant
          · exact restoreArmedAt_serve_of_not_touches touches before

/-- A value confirms the wait if it is the second one and the first one was written before, within
a second and without another write or a reset in between. -/
theorem confirmed_iff (acts : List (HostAct Clock App)) (call : HostCall)
    (short : HostAct.total (acts ++ [.call call]) ≤ longestUptime) {value : UInt8} :
    ((undergoAll acts node).ticked call).renewal.confirmed value = true ↔
      value = 0xAA ∧ ∃ between, ArmedSince acts between node ∧
        HostAct.total (between ++ [.call call]) ≤ 1000 := by
  rw [HostAct.total_concat] at short
  have before := uptime_undergoAll built acts (by omega)
  have now : ((undergoAll acts node).ticked call).uptime =
      HostAct.total acts + call.elapsed := by
    rw [← before] at short ⊢
    exact uptime_ticked _ call short
  have armed := restoreArmedAt_iff built acts (by omega)
  rw [renewal_ticked]
  simp only [Renewal.confirmed, now, Bool.and_eq_true, beq_iff_eq, Option.any_eq_true,
    decide_eq_true_eq]
  refine and_congr_right fun _ => ?_
  constructor
  · rintro ⟨instant, waits, soon⟩
    obtain ⟨between, since, total⟩ := (armed instant).mp waits
    refine ⟨between, since, ?_⟩
    rw [HostAct.total_concat, HostAct.elapsed]
    omega
  · rintro ⟨between, since, soon⟩
    rw [HostAct.total_concat, HostAct.elapsed] at soon
    obtain ⟨instant, total⟩ : ∃ instant, instant + HostAct.total between = HostAct.total acts :=
      ⟨HostAct.total acts - HostAct.total between, Nat.sub_add_cancel since.total_le⟩
    exact ⟨instant, (armed instant).mpr ⟨between, since, total⟩, by omega⟩

/-- While the uptime counts every millisecond, a call that writes to the register for factory
defaults restores them exactly when it writes 0xAA, the write before it wrote 0x55, no reset was
told of in between and no more than a second has passed. Any other call restores them exactly on a
command to drop the nickname for them. -/
theorem factory_defaults_need_both_writes (acts : List (HostAct Clock App)) (call : HostCall)
    (short : HostAct.total (acts ++ [.call call]) ≤ longestUptime) :
    let reached := undergoAll acts node
    let after := (reached.serve call).2
    (∀ value, reached.Writes call StandardRange.restoreDefaults value →
      RestoresOnceIff reached after (value = 0xAA ∧ ∃ between, ArmedSince acts between node ∧
        HostAct.total (between ++ [.call call]) ≤ 1000)) ∧
    (¬reached.Touches call → RestoresOnceIff reached after (reached.DropsToDefaults call)) := by
  intro reached after
  refine ⟨fun value writes => ?_, reached.restoresOnceIff_drops call⟩
  have confirmed := restoresOnceIff_confirmed writes
  rwa [confirmed_iff built acts call short] at confirmed

end Built

/-- A run of writes from a register that takes none on to the one for factory defaults. -/
def confirmingEvent : Event :=
  { Event.new 0 25 0 with data := [0x10, 0xA1, 1, 0xAA], dataWithin := by decide }

def confirmingActs : List (HostAct SoftTimers SilentApplication) :=
  [.call .process, .call (.writeRegister 7 StandardRange.restoreDefaults 0x55), .call (.tick 1000),
    .call (.receive confirmingEvent)]

/-- The host writes the first value, and a second later a command writes the other one. -/
theorem confirmed_defaults_restored :
    (undergoAll confirmingActs droppingNode).Writes .process StandardRange.restoreDefaults 0xAA ∧
      ((undergoAll confirmingActs droppingNode).serve .process).2.restoresTold =
        (undergoAll confirmingActs droppingNode).restoresTold + 1 := by
  have built : build {} ((Store.erased 256).write Layout.nickname 0x10) .open (SoftTimers.empty 4)
      SilentApplication.mk = .ok droppingNode := rfl
  have takes : (undergoAll confirmingActs droppingNode).Takes .process confirmingEvent
      (undergoAll confirmingActs droppingNode).serviceTimers :=
    ⟨rfl, .inr (.inl (by decide +kernel)), by decide +kernel⟩
  have ordered : (undergoAll confirmingActs droppingNode).serviceTimers.OrderedBy confirmingEvent
      StandardRange.restoreDefaults 0xAA :=
    ⟨.pageWrite, [0xA1, 1, 0xAA], ⟨rfl, rfl⟩, ⟨by decide +kernel, by decide +kernel⟩,
      .page (by decide)⟩
  have writes := Writes.commanded takes (by decide +kernel) ordered
  have armed : ArmedSince confirmingActs [.call (.tick 1000), .call (.receive confirmingEvent)]
      droppingNode := by
    refine ⟨[.call .process], _, rfl, .asked 7 rfl, ?_, by decide +kernel⟩
    rintro ⟨earlier, call, later, split, value, touches⟩
    -- neither the tick nor the receipt processes anything
    have idle : call = .tick 1000 ∨ call = .receive confirmingEvent := by
      rcases earlier with _ | ⟨_, _ | ⟨_, _⟩⟩ <;> simp_all
    cases touches with
    | asked page asks =>
        subst asks
        simp at idle
    | commanded taken =>
        have processes := taken.processes
        rcases idle with rfl | rfl <;> cases processes
  obtain ⟨sequence, -⟩ :=
    factory_defaults_need_both_writes built confirmingActs .process (by decide)
  refine ⟨writes, ?_⟩
  rcases sequence 0xAA writes with ⟨-, told⟩ | ⟨missed, -⟩
  · exact told
  · exact absurd ⟨rfl, _, armed, by decide⟩ missed

end Node

end Vscp
