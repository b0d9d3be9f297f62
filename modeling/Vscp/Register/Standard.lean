/-
This file describes the standard registers, which every page shows at its upper half.
-/

namespace Vscp

inductive Access where
  | readOnly
  | writeOnly
  | readWrite
  deriving DecidableEq, Repr

def Access.readable : Access → Bool
  | .writeOnly => false
  | _ => true

def Access.writable : Access → Bool
  | .readOnly => false
  | _ => true

inductive StandardRegister where
  | alarmStatus
  | versionMajor
  | versionMinor
  | nodeControl
  | userId
  | manufacturerDeviceId
  | manufacturerSubDeviceId
  | nickname
  | pageSelectMsb
  | pageSelectLsb
  | firmwareMajor
  | firmwareMinor
  | firmwareSubMinor
  | bootLoaderAlgorithm
  | bufferSize
  | pagesUsed
  | familyCode
  | deviceType
  | restoreDefaults
  | firmwareDeviceCode
  | reserved
  | guid
  | mdfUrl
  deriving DecidableEq, Repr

/-- A register takes a range of offsets, its most significant byte first. -/
structure StandardRange where
  register : StandardRegister
  first : UInt8
  last : UInt8
  access : Access
  deriving DecidableEq, Repr

def StandardRange.start : UInt8 := 0x80

/-- The ranges follow each other from `StandardRange.start` to the end of the page. -/
def StandardRange.all : List StandardRange :=
  [⟨.alarmStatus, 0x80, 0x80, .readOnly⟩,
    ⟨.versionMajor, 0x81, 0x81, .readOnly⟩,
    ⟨.versionMinor, 0x82, 0x82, .readOnly⟩,
    ⟨.nodeControl, 0x83, 0x83, .readWrite⟩,
    ⟨.userId, 0x84, 0x88, .readWrite⟩,
    ⟨.manufacturerDeviceId, 0x89, 0x8C, .readOnly⟩,
    ⟨.manufacturerSubDeviceId, 0x8D, 0x90, .readOnly⟩,
    ⟨.nickname, 0x91, 0x91, .readOnly⟩,
    ⟨.pageSelectMsb, 0x92, 0x92, .readWrite⟩,
    ⟨.pageSelectLsb, 0x93, 0x93, .readWrite⟩,
    ⟨.firmwareMajor, 0x94, 0x94, .readOnly⟩,
    ⟨.firmwareMinor, 0x95, 0x95, .readOnly⟩,
    ⟨.firmwareSubMinor, 0x96, 0x96, .readOnly⟩,
    ⟨.bootLoaderAlgorithm, 0x97, 0x97, .readOnly⟩,
    ⟨.bufferSize, 0x98, 0x98, .readOnly⟩,
    ⟨.pagesUsed, 0x99, 0x99, .readOnly⟩,
    ⟨.familyCode, 0x9A, 0x9D, .readOnly⟩,
    ⟨.deviceType, 0x9E, 0xA1, .readOnly⟩,
    ⟨.restoreDefaults, 0xA2, 0xA2, .writeOnly⟩,
    ⟨.firmwareDeviceCode, 0xA3, 0xA4, .readOnly⟩,
    ⟨.reserved, 0xA5, 0xCF, .readOnly⟩,
    ⟨.guid, 0xD0, 0xDF, .readOnly⟩,
    ⟨.mdfUrl, 0xE0, 0xFF, .readOnly⟩]

/-- One byte of a standard register. -/
structure StandardSlot where
  register : StandardRegister
  index : Nat
  access : Access
  deriving DecidableEq, Repr

def StandardSlot.at? (offset : UInt8) : Option StandardSlot :=
  (StandardRange.all.find? fun range => range.first ≤ offset && offset ≤ range.last).map
    fun range => ⟨range.register, offset.toNat - range.first.toNat, range.access⟩

end Vscp
