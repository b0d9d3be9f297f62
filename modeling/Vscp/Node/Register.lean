/-
This file reads and writes the registers of a node.
-/

import Vscp.Node.Basic
import Vscp.Register.Page

namespace Vscp

/-- The registers that restore factory defaults take this value first. -/
def Node.restoreArm : UInt8 := 0x55

/-- The registers that restore factory defaults take this value within the window. -/
def Node.restoreConfirm : UInt8 := 0xAA

namespace Node

variable {Clock App : Type}

/-- The value of a standard register byte; nothing changes by looking at it. -/
def peekStandard (node : Node Clock App) (slot : StandardSlot) : UInt8 :=
  let config := node.config
  let index := slot.index
  match slot.register with
  | .alarmStatus => node.alarm
  | .versionMajor => 1
  | .versionMinor => 6
  | .nodeControl => node.store.read Layout.nodeControl
  | .userId => node.store.read (Layout.userId + index)
  | .manufacturerDeviceId => Bytes.byteOf config.manufacturerDeviceId 4 index
  | .manufacturerSubDeviceId => Bytes.byteOf config.manufacturerSubDeviceId 4 index
  | .nickname => node.nickname
  | .pageSelectMsb => UInt8.ofNat (node.pageSelect.toNat / 256)
  | .pageSelectLsb => UInt8.ofNat node.pageSelect.toNat
  | .firmwareMajor => config.firmwareMajor
  | .firmwareMinor => config.firmwareMinor
  | .firmwareSubMinor => config.firmwareSubMinor
  | .bootLoaderAlgorithm => config.bootLoaderAlgorithm
  | .bufferSize => 8
  | .pagesUsed => config.pagesUsed
  | .familyCode => Bytes.byteOf config.familyCode 4 index
  | .deviceType => Bytes.byteOf config.deviceType 4 index
  | .firmwareDeviceCode => Bytes.byteOf config.firmwareDeviceCode.toUInt32 2 index
  | .restoreDefaults | .reserved => 0
  | .guid => node.store.read (Layout.guid + index)
  | .mdfUrl => config.mdfBytes.getD index 0

variable [Application App]

/-- The value behind a target; only an application may notice that it was looked at. -/
def peek (node : Node Clock App) (target : RegisterTarget) (page : UInt16) (offset : UInt8) :
    UInt8 × Node Clock App :=
  match target with
  | .standard slot => (node.peekStandard slot, node)
  | .decisionMatrix index => (node.store.read (Layout.matrixBase + index), node)
  | .ruleset index => (node.store.read (node.layout.rulesetBase + index), node)
  | .application =>
      let (value, app) := Application.readRegister node.app page offset
      (value, { node with app }.emit (.registerRead page offset))
  | .unmapped => (0, node)

/-- Reading the alarm register clears the alarm. -/
def afterRead (node : Node Clock App) : RegisterTarget → Node Clock App
  | .standard ⟨.alarmStatus, _, _⟩ => { node with alarm := 0 }
  | _ => node

def readRegister (node : Node Clock App) (page : UInt16) (offset : UInt8) :
    UInt8 × Node Clock App :=
  let target := node.registerMap.resolve page offset
  let (value, node) := node.peek target page offset
  (value, node.afterRead target)

/-- Two writes within the window restore factory defaults; every write ends the wait for the
second one, and the first value begins it. -/
def writeRestore (node : Node Clock App) (value : UInt8) : Node Clock App :=
  let disarmed := { node with restoreArmedAt := none }
  if value = restoreArm then
    { disarmed.log .restoreArmed with restoreArmedAt := some node.uptime }
  else if value = restoreConfirm ∧
      node.restoreArmedAt.any (node.uptime - · ≤ Config.restoreWindow) then
    (disarmed.log .restoring).call .restoreFactoryDefaults
  else disarmed

def writeStandard (node : Node Clock App) (slot : StandardSlot) (value : UInt8) :
    Node Clock App :=
  match slot.register with
  | .nodeControl => node.writeStore Layout.nodeControl value
  | .userId => node.writeStore (Layout.userId + slot.index) value
  | .pageSelectMsb =>
      { node with
        pageSelect := UInt16.ofNat (value.toNat * 256 + node.pageSelect.toNat % 256) }
  | .pageSelectLsb =>
      { node with
        pageSelect := UInt16.ofNat (node.pageSelect.toNat / 256 * 256 + value.toNat) }
  | .restoreDefaults => node.writeRestore value
  | _ => node

/-- The read-back of a write; it does not clear the alarm. A register that takes no writes keeps
its value. -/
def writeRegister (node : Node Clock App) (page : UInt16) (offset value : UInt8) :
    UInt8 × Node Clock App :=
  let target := node.registerMap.resolve page offset
  match target with
  | .standard slot =>
      let written := if slot.access.writable then node.writeStandard slot value else node
      written.peek target page offset
  | .decisionMatrix index =>
      (node.writeStore (Layout.matrixBase + index) value).peek target page offset
  | .ruleset index =>
      (node.writeStore (node.layout.rulesetBase + index) value).peek target page offset
  | .application =>
      let (answer, app) := Application.writeRegister node.app page offset value
      (answer, { node with app }.emit (.registerWritten page offset value))
  | .unmapped => node.peek target page offset

/-- The values of registers that are read one after the other. -/
def readEach (page : UInt16) : List UInt8 → Node Clock App → List UInt8 × Node Clock App
  | [], node => ([], node)
  | register :: rest, node =>
      let (value, node) := node.readRegister page register
      let (values, node) := readEach page rest node
      (value :: values, node)

/-- The read-backs of registers that are written one after the other. -/
def writeEach (page : UInt16) :
    List (UInt8 × UInt8) → Node Clock App → List UInt8 × Node Clock App
  | [], node => ([], node)
  | (register, value) :: rest, node =>
      let (answer, node) := node.writeRegister page register value
      let (answers, node) := writeEach page rest node
      (answer :: answers, node)

def readSpan (node : Node Clock App) (page : UInt16) (offset : UInt8) (count : Nat) :
    List UInt8 × Node Clock App :=
  readEach page ((Page.span offset count).map (·.2)) node

def writeSpan (node : Node Clock App) (page : UInt16) (offset : UInt8) (values : List UInt8) :
    List UInt8 × Node Clock App :=
  writeEach page (((Page.span offset values.length).map (·.2)).zip values) node

end Node

end Vscp
