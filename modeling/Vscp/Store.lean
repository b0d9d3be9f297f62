/-
This file defines the non-volatile byte store of a node and the layout of what it holds.
-/

namespace Vscp

/-- The areas of the store follow each other in the order of these definitions. -/
structure Layout where
  rows : UInt8
  capacity : UInt8
  deriving DecidableEq, Repr

def Layout.guid : Nat := 0x00

def Layout.guidLength : Nat := 16

def Layout.nickname : Nat := 0x10

def Layout.nodeControl : Nat := 0x11

def Layout.segmentCrc : Nat := 0x12

/-- The user identity has five bytes. -/
def Layout.userId : Nat := 0x13

def Layout.matrixBase : Nat := 0x18

def Layout.rowLength : Nat := 8

def Layout.extensionRowLength : Nat := 9

def Layout.row (index : Nat) : Nat :=
  Layout.matrixBase + index * Layout.rowLength

def Layout.extensionBase (layout : Layout) : Nat :=
  Layout.row layout.rows.toNat

def Layout.extensionRow (layout : Layout) (index : Nat) : Nat :=
  layout.extensionBase + index * Layout.extensionRowLength

def Layout.rulesetBase (layout : Layout) : Nat :=
  layout.extensionRow layout.rows.toNat

/-- The first address past every area. -/
def Layout.stop (layout : Layout) : Nat :=
  layout.rulesetBase + layout.capacity.toNat

/-- Addresses have sixteen bits and need not all be backed by a byte. -/
structure Store where
  bytes : Array UInt8
  deriving DecidableEq, Repr

def Store.addresses : Nat := 65536

def Store.size (store : Store) : Nat :=
  store.bytes.size

/-- Erased storage holds `0xFF` everywhere. -/
def Store.erased (size : Nat) : Store where
  bytes := Array.replicate size 0xFF

def Store.zeroed (size : Nat) : Store where
  bytes := Array.replicate size 0

/-- An address without a byte reads as erased. -/
def Store.read (store : Store) (address : Nat) : UInt8 :=
  store.bytes.getD address 0xFF

/-- A write to an address without a byte is lost. -/
def Store.write (store : Store) (address : Nat) (value : UInt8) : Store where
  bytes := store.bytes.setIfInBounds address value

/-- The address after the last one is zero. -/
def Store.after (address steps : Nat) : Nat :=
  (address + steps) % Store.addresses

def Store.readMany (store : Store) (address : Nat) : Nat → List UInt8
  | 0 => []
  | count + 1 => store.read address :: store.readMany (Store.after address 1) count

def Store.writeMany (store : Store) (address : Nat) : List UInt8 → Store
  | [] => store
  | value :: rest => (store.write address value).writeMany (Store.after address 1) rest

/-- A store for a layout holds its identity and empty matrix rows. -/
def Store.forLayout (layout : Layout) (guid : List UInt8) : Store :=
  ((Store.erased layout.stop).writeMany Layout.guid guid).writeMany Layout.matrixBase
    (List.replicate (layout.rulesetBase - Layout.matrixBase) 0)

end Vscp
