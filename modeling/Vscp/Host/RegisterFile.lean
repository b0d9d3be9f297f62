/-
This file gives applications that keep registers and ones that do nothing.
-/

import Vscp.Node.Application

namespace Vscp

/-- An application without registers that no call moves. -/
structure SilentApplication where
  deriving DecidableEq, Repr

instance : Application SilentApplication where

/-- An application that stores what is written. One that inverts answers the complement. -/
structure RegisterFile where
  cells : List ((UInt16 × UInt8) × UInt8)
  inverts : Bool
  deriving DecidableEq, Repr

namespace RegisterFile

def empty (inverts : Bool) : RegisterFile :=
  ⟨[], inverts⟩

/-- A register that was never written tells its place. -/
def initial (page : UInt16) (offset : UInt8) : UInt8 :=
  offset ^^^ page.toUInt8

def read (file : RegisterFile) (page : UInt16) (offset : UInt8) : UInt8 :=
  (file.cells.lookup (page, offset)).getD (initial page offset)

def write (file : RegisterFile) (page : UInt16) (offset value : UInt8) : RegisterFile :=
  { file with
    cells := ((page, offset), value) :: file.cells.filter fun cell => cell.1 != (page, offset) }

def answer (file : RegisterFile) (value : UInt8) : UInt8 :=
  if file.inverts then ~~~value else value

instance : Application RegisterFile where
  readRegister := fun file page offset => (file.read page offset, file)
  writeRegister := fun file page offset value => (file.answer value, file.write page offset value)

end RegisterFile

end Vscp
