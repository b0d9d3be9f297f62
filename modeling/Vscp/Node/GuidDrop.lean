/-
This file assembles the frames by which other nodes withdraw a nickname through its identity.
-/

import Vscp.Timer.Slot

namespace Vscp

/-- Two senders may be in progress at a time. -/
inductive SessionSlot where
  | first
  | second
  deriving DecidableEq, Repr

namespace SessionSlot

def all : List SessionSlot :=
  [first, second]

def index : SessionSlot → Nat
  | first => 0
  | second => 1

def ofIndex? (index : Nat) : Option SessionSlot :=
  all[index]?

/-- The timer that ends a session between its frames. -/
def timer : SessionSlot → TimerSlot
  | first => .multiFrame1
  | second => .multiFrame2

end SessionSlot

/-- A session awaits the frame of one index from one sender. -/
structure GuidDropSession where
  origin : UInt8
  awaited : Fin 4
  deriving DecidableEq, Repr

inductive FrameOutcome where
  | progress (slot : SessionSlot)
  | complete (slot : SessionSlot)
  /-- A frame that fits no session discards none. -/
  | dropped (slot? : Option SessionSlot)
  deriving DecidableEq, Repr

structure GuidDropSessions where
  first : Option GuidDropSession
  second : Option GuidDropSession
  deriving DecidableEq, Repr

namespace GuidDropSessions

def empty : GuidDropSessions :=
  ⟨none, none⟩

def get (sessions : GuidDropSessions) : SessionSlot → Option GuidDropSession
  | .first => sessions.first
  | .second => sessions.second

def set (sessions : GuidDropSessions) (slot : SessionSlot) (session? : Option GuidDropSession) :
    GuidDropSessions :=
  match slot with
  | .first => { sessions with first := session? }
  | .second => { sessions with second := session? }

@[simp] theorem get_set (sessions : GuidDropSessions) (slot other : SessionSlot)
    (session? : Option GuidDropSession) :
    (sessions.set slot session?).get other =
      if other = slot then session? else sessions.get other := by
  cases slot <;> cases other <;> rfl

def isOpen (sessions : GuidDropSessions) (slot : SessionSlot) : Bool :=
  (sessions.get slot).isSome

def slotOf? (sessions : GuidDropSessions) (origin : UInt8) : Option SessionSlot :=
  SessionSlot.all.find? fun slot => (sessions.get slot).any (·.origin == origin)

def free? (sessions : GuidDropSessions) : Option SessionSlot :=
  SessionSlot.all.find? fun slot => !sessions.isOpen slot

/-- The four bytes of the identity in the frame of an index. -/
def chunk (guid : List UInt8) (index : Nat) : List UInt8 :=
  (guid.drop (index * 4)).take 4

/-- The slot of a frame; only a first frame opens one. -/
def slotFor? (sessions : GuidDropSessions) (origin index : UInt8) : Option SessionSlot :=
  if index = 0 then (sessions.slotOf? origin).or sessions.free? else sessions.slotOf? origin

/-- The index that a slot awaits; a first frame starts over. -/
def awaited (sessions : GuidDropSessions) (slot : SessionSlot) (index : UInt8) : Nat :=
  if index = 0 then 0 else ((sessions.get slot).map (·.awaited.val)).getD 0

/-- A frame that is not the awaited one discards its session. -/
def accept (sessions : GuidDropSessions) (origin index : UInt8) (bytes guid : List UInt8) :
    FrameOutcome × GuidDropSessions :=
  match sessions.slotFor? origin index with
  | none => (.dropped none, sessions)
  | some slot =>
      let awaited := sessions.awaited slot index
      if index.toNat = awaited ∧ bytes = chunk guid awaited then
        if more : awaited + 1 < 4 then
          (.progress slot, sessions.set slot (some ⟨origin, awaited + 1, more⟩))
        else (.complete slot, sessions.set slot none)
      else (.dropped (some slot), sessions.set slot none)

/-- The session of an expired timer, if there was one, is discarded. -/
def expire (sessions : GuidDropSessions) (slot : SessionSlot) : Bool × GuidDropSessions :=
  (sessions.isOpen slot, sessions.set slot none)

end GuidDropSessions

end Vscp
