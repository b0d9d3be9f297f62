/-
This file names the class and type numbers that a node acts on.
-/

namespace Vscp.Protocol

/-- Node management events have this class. -/
def managementClass : UInt16 := 0

def informationClass : UInt16 := 20

/-- The type of the node heartbeat within the information class. -/
def nodeHeartbeatType : UInt8 := 9

/-- The nickname of a node that has none. -/
def unassigned : UInt8 := 0xFF

/-- The nickname of the segment master. -/
def segmentMaster : UInt8 := 0

/-- The highest nickname a node may hold. -/
def highestNickname : UInt8 := 254

end Vscp.Protocol

namespace Vscp

/-- The management events known to a node. -/
inductive Management where
  | segmentControllerHeartbeat
  | newNodeOnline
  | probeAck
  | setNicknameId
  | nicknameIdAccepted
  | dropNickname
  | readRegister
  | rwResponse
  | writeRegister
  | enterBootLoader
  | ackBootLoader
  | nackBootLoader
  | guidDropNickname
  | pageRead
  | pageWrite
  | rwPageResponse
  | incrementRegister
  | decrementRegister
  | whoIsThere
  | whoIsThereResponse
  | getDmInfo
  | dmInfoResponse
  | extendedPageRead
  | extendedPageWrite
  | extendedPageResponse
  deriving DecidableEq, Repr

def Management.typeId : Management → UInt8
  | .segmentControllerHeartbeat => 1
  | .newNodeOnline => 2
  | .probeAck => 3
  | .setNicknameId => 6
  | .nicknameIdAccepted => 7
  | .dropNickname => 8
  | .readRegister => 9
  | .rwResponse => 10
  | .writeRegister => 11
  | .enterBootLoader => 12
  | .ackBootLoader => 13
  | .nackBootLoader => 14
  | .guidDropNickname => 23
  | .pageRead => 24
  | .pageWrite => 25
  | .rwPageResponse => 26
  | .incrementRegister => 29
  | .decrementRegister => 30
  | .whoIsThere => 31
  | .whoIsThereResponse => 32
  | .getDmInfo => 33
  | .dmInfoResponse => 34
  | .extendedPageRead => 37
  | .extendedPageWrite => 38
  | .extendedPageResponse => 39

def Management.all : List Management :=
  [.segmentControllerHeartbeat, .newNodeOnline, .probeAck, .setNicknameId, .nicknameIdAccepted,
    .dropNickname, .readRegister, .rwResponse, .writeRegister, .enterBootLoader, .ackBootLoader,
    .nackBootLoader, .guidDropNickname, .pageRead, .pageWrite, .rwPageResponse,
    .incrementRegister, .decrementRegister, .whoIsThere, .whoIsThereResponse, .getDmInfo,
    .dmInfoResponse, .extendedPageRead, .extendedPageWrite, .extendedPageResponse]

def Management.ofTypeId? (typeId : UInt8) : Option Management :=
  Management.all.find? (·.typeId == typeId)

end Vscp
