/-
This file defines the settings of a node and the rule that makes them usable.
-/

import Vscp.Event
import Vscp.Store

namespace Vscp

/-- Bytes of a page below the standard registers. -/
def Config.windowLength : Nat := 128

/-- Bytes of the standard registers that hold the address of the module description file. -/
def Config.urlLength : Nat := 32

/-- The boot loader algorithm of a node without boot loader. -/
def Config.noBootLoader : UInt8 := 0xFF

/-- The longest time between the two writes that restore factory defaults, in milliseconds. -/
def Config.restoreWindow : Nat := 1000

structure Config where
  manufacturerDeviceId : UInt32 := 0
  manufacturerSubDeviceId : UInt32 := 0
  firmwareMajor : UInt8 := 1
  firmwareMinor : UInt8 := 0
  firmwareSubMinor : UInt8 := 0
  bootLoaderAlgorithm : UInt8 := Config.noBootLoader
  familyCode : UInt32 := 0
  deviceType : UInt32 := 0
  firmwareDeviceCode : UInt16 := 0
  pagesUsed : UInt8 := 3
  mdfUrl : String := ""
  zone : UInt8 := 0
  subZone : UInt8 := 0
  matrixRows : UInt8 := 6
  matrixPage : UInt16 := 1
  rulesEnabled : Bool := false
  rulesetPage : UInt16 := 2
  rulesetCapacity : UInt8 := 64
  /-- Without a period the node sends no heartbeats. -/
  heartbeatPeriod : Nat := 1000
  probeTimeout : Nat := 500
  assignmentTimeout : Nat := 5000
  multiFrameTimeout : Nat := 1000
  hardCoded : Bool := false
  priority : UInt8 := 3
  deriving DecidableEq, Repr

/-- The two areas that are placed on pages of their own. -/
inductive PageTenant where
  | decisionMatrix
  | ruleset
  deriving DecidableEq, Repr

def PageTenant.name : PageTenant → String
  | .decisionMatrix => "decision matrix"
  | .ruleset => "dm-ng ruleset"

inductive ConfigError where
  | mdfUrlTooLong (length : Nat)
  | pageConflict (page : UInt16) (tenant : PageTenant)
  | tooManyRows (rows : UInt8) (bytes : Nat)
  | rulesetTooLarge (capacity : UInt8)
  | invalidPriority (priority : UInt8)
  | zeroProbeTimeout
  deriving DecidableEq, Repr

def ConfigError.message : ConfigError → String
  | .mdfUrlTooLong length =>
      "mdf url is " ++ Numeral.decimal length ++ " bytes, at most 32 fit the register window"
  | .pageConflict page tenant =>
      "page " ++ Numeral.decimal page.toNat ++ " cannot host the " ++ tenant.name
  | .tooManyRows rows bytes =>
      Numeral.decimal rows.toNat ++ " decision matrix rows need " ++ Numeral.decimal bytes ++
        " bytes, the page window holds 128"
  | .rulesetTooLarge capacity =>
      "dm-ng capacity " ++ Numeral.decimal capacity.toNat ++ " exceeds the 128 byte page window"
  | .invalidPriority priority => (EventError.invalidPriority priority).message
  | .zeroProbeTimeout => "nickname probe timeout must be non-zero"

/-- Bytes of the matrix page that rows and extension rows take. -/
def Config.matrixLength (config : Config) : Nat :=
  config.matrixRows.toNat * (Layout.rowLength + Layout.extensionRowLength)

/-- The first unusable setting, in the order of the conditions. -/
def Config.check (config : Config) : Except ConfigError Unit :=
  if Config.urlLength < config.mdfUrl.utf8ByteSize then
    .error (.mdfUrlTooLong config.mdfUrl.utf8ByteSize)
  else if config.matrixPage = 0 then
    .error (.pageConflict 0 .decisionMatrix)
  else if config.rulesetPage = 0 ∨ config.rulesetPage = config.matrixPage then
    .error (.pageConflict config.rulesetPage .ruleset)
  else if Config.windowLength < config.matrixLength then
    .error (.tooManyRows config.matrixRows config.matrixLength)
  else if Config.windowLength < config.rulesetCapacity.toNat then
    .error (.rulesetTooLarge config.rulesetCapacity)
  else if 7 < config.priority then
    .error (.invalidPriority config.priority)
  else if config.probeTimeout = 0 then
    .error .zeroProbeTimeout
  else .ok ()

/-- The address of the module description file, cut or filled with zeros to its registers. -/
def Config.mdfBytes (config : Config) : List UInt8 :=
  (config.mdfUrl.toUTF8.data.toList.take Config.urlLength).rightpad Config.urlLength 0

def Config.layout (config : Config) : Layout where
  rows := config.matrixRows
  capacity := config.rulesetCapacity

end Vscp
