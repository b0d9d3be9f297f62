/-
This file defines the decision matrix of fixed rows and the actions that an event fires in it.
-/

import Vscp.Event

namespace Vscp

/-- Where a node lives. -/
structure Zone where
  zone : UInt8
  subZone : UInt8
  deriving DecidableEq, Repr

/-- The zone value that stands for every zone. -/
def Zone.wildcard : UInt8 := 0xFF

/-- A zone in an event meets a wanted zone when they are equal or either is the wildcard. -/
def Zone.meets (received : Option UInt8) (wanted : UInt8) : Bool :=
  received.any fun zone => zone == wanted || zone == Zone.wildcard || wanted == Zone.wildcard

structure MatrixRow where
  origin : UInt8
  flags : UInt8
  classMask : UInt8
  classFilter : UInt8
  typeMask : UInt8
  typeFilter : UInt8
  action : UInt8
  param : UInt8
  deriving DecidableEq, Repr

namespace MatrixRow

/-- The action that defers to the extension row of the same index. -/
def extended : UInt8 := 0xFF

/-- The action that does nothing. -/
def noOperation : UInt8 := 0x00

def ofBytes (bytes : List UInt8) : MatrixRow where
  origin := bytes.getD 0 0
  flags := bytes.getD 1 0
  classMask := bytes.getD 2 0
  classFilter := bytes.getD 3 0
  typeMask := bytes.getD 4 0
  typeFilter := bytes.getD 5 0
  action := bytes.getD 6 0
  param := bytes.getD 7 0

def bytes (row : MatrixRow) : List UInt8 :=
  [row.origin, row.flags, row.classMask, row.classFilter, row.typeMask, row.typeFilter,
    row.action, row.param]

def enabled (row : MatrixRow) : Bool :=
  row.flags &&& 0x80 != 0

def checksOrigin (row : MatrixRow) : Bool :=
  row.flags &&& 0x40 != 0

/-- The row wants events of nodes with a fixed address only. -/
def wantsHardCoded (row : MatrixRow) : Bool :=
  row.flags &&& 0x20 != 0

def checksZone (row : MatrixRow) : Bool :=
  row.flags &&& 0x10 != 0

def checksSubZone (row : MatrixRow) : Bool :=
  row.flags &&& 0x08 != 0

/-- The class mask with its ninth bit from the flags. -/
def fullClassMask (row : MatrixRow) : UInt16 :=
  (if row.flags &&& 0x02 != 0 then 0x100 else 0) ||| row.classMask.toUInt16

/-- The class filter with its ninth bit from the flags. -/
def fullClassFilter (row : MatrixRow) : UInt16 :=
  (if row.flags &&& 0x01 != 0 then 0x100 else 0) ||| row.classFilter.toUInt16

/-- Every condition of the row, the extension apart. -/
def admits (row : MatrixRow) (event : Event) (node : Zone) : Bool :=
  row.enabled &&
    (!row.wantsHardCoded || event.hardCoded) &&
    (!row.checksOrigin || event.origin == row.origin) &&
    event.classId &&& row.fullClassMask == row.fullClassFilter &&& row.fullClassMask &&
    event.typeId &&& row.typeMask == row.typeFilter &&& row.typeMask &&
    (!row.checksZone || Zone.meets (event.byte? 1) node.zone) &&
    (!row.checksSubZone || Zone.meets (event.byte? 2) node.subZone)

end MatrixRow

structure ExtensionRow where
  options : UInt8
  zone : UInt8
  subZone : UInt8
  data0 : UInt8
  data3 : UInt8
  data4 : UInt8
  data5 : UInt8
  action : UInt8
  param : UInt8
  deriving DecidableEq, Repr

namespace ExtensionRow

def ofBytes (bytes : List UInt8) : ExtensionRow where
  options := bytes.getD 0 0
  zone := bytes.getD 1 0
  subZone := bytes.getD 2 0
  data0 := bytes.getD 3 0
  data3 := bytes.getD 4 0
  data4 := bytes.getD 5 0
  data5 := bytes.getD 6 0
  action := bytes.getD 7 0
  param := bytes.getD 8 0

def bytes (row : ExtensionRow) : List UInt8 :=
  [row.options, row.zone, row.subZone, row.data0, row.data3, row.data4, row.data5,
    row.action, row.param]

/-- Option bits 0 to 5 select the checks of zone, sub-zone and payload bytes 0, 3, 4 and 5. -/
def selects (row : ExtensionRow) (bit : UInt8) : Bool :=
  row.options &&& bit != 0

def admits (row : ExtensionRow) (event : Event) : Bool :=
  (!row.selects 0x01 || Zone.meets (event.byte? 1) row.zone) &&
    (!row.selects 0x02 || Zone.meets (event.byte? 2) row.subZone) &&
    (!row.selects 0x04 || event.byte? 0 == some row.data0) &&
    (!row.selects 0x08 || event.byte? 3 == some row.data3) &&
    (!row.selects 0x10 || event.byte? 4 == some row.data4) &&
    (!row.selects 0x20 || event.byte? 5 == some row.data5)

end ExtensionRow

/-- An action of a row together with the index of the row. -/
structure Firing where
  row : Nat
  action : UInt8
  param : UInt8
  deriving DecidableEq, Repr

/-- The action and parameter that a row selects, from itself or from its extension row. -/
def MatrixRow.selected? (row : MatrixRow) (extension? : Option ExtensionRow) (event : Event) :
    Option (UInt8 × UInt8) :=
  if row.action = MatrixRow.extended then
    (extension?.filter (·.admits event)).map fun extension => (extension.action, extension.param)
  else some (row.action, row.param)

def MatrixRow.firing? (row : MatrixRow) (extension? : Option ExtensionRow) (event : Event)
    (node : Zone) (index : Nat) : Option Firing :=
  if row.admits event node then
    ((row.selected? extension? event).filter (·.1 != MatrixRow.noOperation)).map
      fun (action, param) => ⟨index, action, param⟩
  else none

/-- Rows are evaluated in their order from an index on, and each firing is told to the caller and
counted. A byte numbers the rows, so evaluation ends with row 255. -/
def Firing.evaluateFrom {State : Type} (fire : State → Firing → State)
    (extensions : List ExtensionRow) (event : Event) (node : Zone) :
    List MatrixRow → Nat → Nat × State → Nat × State
  | [], _, told => told
  | row :: rows, index, (fired, state) =>
      if index < 256 then
        evaluateFrom fire extensions event node rows (index + 1)
          (match row.firing? extensions[index]? event node index with
          | some firing => (fired + 1, fire state firing)
          | none => (fired, state))
      else (fired, state)

/-- The number of firings, and what the caller makes of them. -/
def Firing.evaluate {State : Type} (fire : State → Firing → State) (rows : List MatrixRow)
    (extensions : List ExtensionRow) (event : Event) (node : Zone) (state : State) : Nat × State :=
  evaluateFrom fire extensions event node rows 0 (0, state)

/-- The firings of the first 256 rows in their order. -/
def Firing.all (rows : List MatrixRow) (extensions : List ExtensionRow) (event : Event)
    (node : Zone) : List Firing :=
  (rows.take 256).zipIdx.filterMap fun (row, index) =>
    row.firing? extensions[index]? event node index

section Evaluation

variable {State : Type} (fire : State → Firing → State) (extensions : List ExtensionRow)
  (event : Event) (node : Zone)

/-- From an index on as many rows are evaluated as there are bytes left to number them. -/
theorem Firing.evaluateFrom_eq {rows : List MatrixRow} {index : Nat} {firings : List Firing}
    (fires : ((rows.take (256 - index)).zipIdx index).filterMap (fun (row, index) =>
      row.firing? extensions[index]? event node index) = firings) (fired : Nat) (state : State) :
    evaluateFrom fire extensions event node rows index (fired, state) =
      (fired + firings.length, firings.foldl fire state) := by
  induction rows generalizing index firings fired state with
  | nil =>
      rw [List.take_nil] at fires
      subst fires
      rfl
  | cons row rows ih =>
      rw [evaluateFrom]
      split
      · have more : 256 - index = 256 - (index + 1) + 1 := by omega
        rw [more, List.take_succ_cons, List.zipIdx_cons, List.filterMap_cons] at fires
        cases own : row.firing? extensions[index]? event node index with
        | none =>
            simp only [own] at fires
            exact ih fires fired state
        | some firing =>
            simp only [own] at fires
            subst fires
            rw [List.length_cons, List.foldl_cons, ← Nat.add_assoc, Nat.add_right_comm fired]
            exact ih rfl (fired + 1) (fire state firing)
      · have unnumbered : 256 - index = 0 := by omega
        rw [unnumbered, List.take_zero] at fires
        subst fires
        rfl

/-- The caller is told every firing in its order, and they are counted. -/
theorem Firing.evaluate_eq (rows : List MatrixRow) (state : State) :
    evaluate fire rows extensions event node state =
      ((all rows extensions event node).length,
        (all rows extensions event node).foldl fire state) := by
  unfold evaluate
  rw [evaluateFrom_eq fire extensions event node rfl, Nat.zero_add]
  rfl

end Evaluation

end Vscp
