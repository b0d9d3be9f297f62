/-
This file tallies what happens to a node, and says what the counters of the node show of it.
-/

import Vscp.Proofs.Account.Call

namespace Vscp

/-- The counters stop at their largest value as the count that they show goes on. -/
theorem Counters.increased_min (count : Nat) :
    increased (min count 65535) 1 = min (count + 1) 65535 := by
  unfold increased
  omega

def Effect.refused? : Effect → Option Event
  | .frame event false => some event
  | _ => none

namespace Note

def fired? : Note → Option Firing
  | .fired row => some row
  | _ => none

def hit? : Note → Option RuleHit
  | .hit rule => some rule
  | _ => none

def fault? : Note → Option RuleFault
  | .faulted cause => some cause
  | _ => none

end Note

/-- What the counters count: the events that the node takes, the frames that the segment takes and
refuses, the rows and rules that fire, the faults of the rules, the answers of other nodes under the
nickname of the node, and the searches that begin. -/
@[ext] structure Tally where
  received : List Event := []
  sent : List Event := []
  refused : List Event := []
  fired : List Firing := []
  hits : List RuleHit := []
  faults : List RuleFault := []
  collisions : Nat := 0
  searches : Nat := 0
  deriving DecidableEq, Repr

namespace Tally

def append (earlier later : Tally) : Tally where
  received := earlier.received ++ later.received
  sent := earlier.sent ++ later.sent
  refused := earlier.refused ++ later.refused
  fired := earlier.fired ++ later.fired
  hits := earlier.hits ++ later.hits
  faults := earlier.faults ++ later.faults
  collisions := earlier.collisions + later.collisions
  searches := earlier.searches + later.searches

instance : Append Tally :=
  ⟨append⟩

theorem append_def (earlier later : Tally) : earlier ++ later = earlier.append later := rfl

theorem append_assoc (first second third : Tally) :
    first ++ second ++ third = first ++ (second ++ third) := by
  simp [append_def, append, Nat.add_assoc]

@[simp] theorem append_empty (tally : Tally) : tally ++ ({} : Tally) = tally := by
  simp [append_def, append]

@[simp] theorem empty_append (tally : Tally) : ({} : Tally) ++ tally = tally := by
  simp [append_def, append]

/-- The counters that show the tally. -/
def counters (tally : Tally) (protocolEvents : Nat) : Counters where
  rxEvents := min tally.received.length 65535
  txEvents := min tally.sent.length 65535
  txDropped := min tally.refused.length 65535
  protocolEvents
  matrixActions := min tally.fired.length 65535
  ruleActions := min tally.hits.length 65535
  ruleFaults := min tally.faults.length 65535
  nicknameCollisions := min tally.collisions 65535
  discoveryRestarts := min tally.searches 65535
  lastRuleFault := tally.faults.getLast?

theorem capped_counters (tally : Tally) (protocolEvents : Nat) :
    (tally.counters protocolEvents).Capped :=
  Nat.min_le_right ..

/-- What is noted besides frames. -/
def ofNotes (notes : List Note) : Tally where
  fired := notes.filterMap Note.fired?
  hits := notes.filterMap Note.hit?
  faults := notes.filterMap Note.fault?
  collisions := notes.count .collided
  searches := notes.count .searched

theorem ofNotes_append (earlier later : List Note) :
    ofNotes (earlier ++ later) = ofNotes earlier ++ ofNotes later := by
  simp [append_def, append, ofNotes]

/-- What the effects of a node show. -/
def ofEffects (effects : List Effect) : Tally :=
  { ofNotes (effects.filterMap Effect.note?) with
    sent := effects.filterMap Effect.taken?
    refused := effects.filterMap Effect.refused? }

theorem ofEffects_append (earlier later : List Effect) :
    ofEffects (earlier ++ later) = ofEffects earlier ++ ofEffects later := by
  simp [append_def, append, ofEffects, ofNotes]

theorem ofNotes_ofFrame? (classId : UInt16) (typeId origin : UInt8) (data : List UInt8) :
    ofNotes (Note.ofFrame? classId typeId origin data).toList = {} := by
  unfold Note.ofFrame?
  split
  · rfl
  · split <;> rfl

/-- Frames are tallied as they are taken or refused, whatever is noted of them. -/
theorem ofEffects_frame (event : Event) (accepted : Bool) :
    ofEffects [.frame event accepted] =
      if accepted then { sent := [event] } else { refused := [event] } := by
  have noted : [Effect.frame event accepted].filterMap Effect.note? =
      (Note.ofFrame? event.classId event.typeId event.origin event.data).toList := by
    rw [List.filterMap_cons, Effect.note?]
    cases Note.ofFrame? event.classId event.typeId event.origin event.data <;> rfl
  unfold ofEffects
  rw [noted, ofNotes_ofFrame?]
  cases accepted <;> rfl

/-- The counters go on to show the tally with every effect. -/
theorem record_counters (tally : Tally) (protocolEvents : Nat) (effect : Effect) :
    (tally.counters protocolEvents).record effect =
      (tally ++ ofEffects [effect]).counters protocolEvents := by
  have uncounted (none : ofEffects [effect] = {})
      (same : (tally.counters protocolEvents).record effect = tally.counters protocolEvents) :
      (tally.counters protocolEvents).record effect =
        (tally ++ ofEffects [effect]).counters protocolEvents := by
    rw [same, none, append_empty]
  cases effect with
  | frame event accepted =>
      rw [ofEffects_frame]
      cases accepted <;>
        simp [append_def, append, counters, Counters.record, Counters.recordFrame,
          Counters.increased_min]
  | called call => cases call <;> exact uncounted rfl rfl
  | logged notice =>
      -- a notice is told by its kind, so both sides compute before they are compared
      have counted {shown : Tally} (seen : ofEffects [.logged notice] = shown)
          (same : (tally.counters protocolEvents).recordNotice notice =
            (tally ++ shown).counters protocolEvents) :
          (tally.counters protocolEvents).record (.logged notice) =
            (tally ++ ofEffects [.logged notice]).counters protocolEvents := by
        rw [seen, ← same]
        rfl
      cases notice with
      | rowFires firing =>
          refine counted (show _ = { fired := [firing] } from rfl) ?_
          change { tally.counters protocolEvents with
            matrixActions := Counters.increased (min tally.fired.length 65535) 1 } = _
          simp [append_def, append, counters, Counters.increased_min]
      | ruleFires rule =>
          refine counted (show _ = { hits := [rule] } from rfl) ?_
          change { tally.counters protocolEvents with
            ruleActions := Counters.increased (min tally.hits.length 65535) 1 } = _
          simp [append_def, append, counters, Counters.increased_min]
      | ruleFault fault =>
          refine counted (show _ = { faults := [fault] } from rfl) ?_
          change (tally.counters protocolEvents).recordRuleFault fault = _
          simp [append_def, append, counters, Counters.recordRuleFault, Counters.increased_min]
      | collision nickname =>
          refine counted (show _ = { collisions := 1 } from rfl) ?_
          change { tally.counters protocolEvents with
            nicknameCollisions := Counters.increased (min tally.collisions 65535) 1 } = _
          simp [append_def, append, counters, Counters.increased_min]
      | discoveryStarted =>
          refine counted (show _ = { searches := 1 } from rfl) ?_
          change { tally.counters protocolEvents with
            discoveryRestarts := Counters.increased (min tally.searches 65535) 1 } = _
          simp [append_def, append, counters, Counters.increased_min]
      | _ => exact uncounted rfl rfl
  | _ => exact uncounted rfl rfl

theorem foldl_record_counters (effects : List Effect) (tally : Tally) (protocolEvents : Nat) :
    effects.foldl Counters.record (tally.counters protocolEvents) =
      (tally ++ ofEffects effects).counters protocolEvents := by
  induction effects generalizing tally with
  | nil => rw [List.foldl_nil, show ofEffects [] = {} from rfl, append_empty]
  | cons effect rest ih =>
      rw [List.foldl_cons, record_counters, ih, append_assoc, ← ofEffects_append]
      rfl

end Tally

end Vscp
