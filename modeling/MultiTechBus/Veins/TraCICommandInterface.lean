import MultiTechBus.Veins.TraCIConnection

/-! # Commands of TraCI

A command is sent and its status is checked; the answers are read from the rest of the
message. The commands that were sent are recorded.
-/

namespace MultiTechBus.Veins

open MultiTechBus.Library

namespace TraCIConstants

def CMD_GETVERSION : BitVec 8 := 0x00
def CMD_SIMSTEP2 : BitVec 8 := 0x02
def CMD_FILE_SEND : BitVec 8 := 0x75
def CMD_GET_VEHICLE_VARIABLE : BitVec 8 := 0xa4
def CMD_GET_POLYGON_VARIABLE : BitVec 8 := 0xa8
def CMD_GET_SIM_VARIABLE : BitVec 8 := 0xab
def CMD_SUBSCRIBE_VEHICLE_VARIABLE : BitVec 8 := 0xd4
def CMD_SUBSCRIBE_SIM_VARIABLE : BitVec 8 := 0xdb
def RESPONSE_GET_VEHICLE_VARIABLE : BitVec 8 := 0xb4
def RESPONSE_GET_POLYGON_VARIABLE : BitVec 8 := 0xb8
def RESPONSE_GET_SIM_VARIABLE : BitVec 8 := 0xbb
def RESPONSE_SUBSCRIBE_TL_VARIABLE : BitVec 8 := 0xe2
def RESPONSE_SUBSCRIBE_VEHICLE_VARIABLE : BitVec 8 := 0xe4
def RESPONSE_SUBSCRIBE_SIM_VARIABLE : BitVec 8 := 0xeb
def RTYPE_OK : BitVec 8 := 0x00
def RTYPE_NOTIMPLEMENTED : BitVec 8 := 0x01
def POSITION_2D : BitVec 8 := 0x01
def TYPE_BOUNDINGBOX : BitVec 8 := 0x05
def TYPE_POLYGON : BitVec 8 := 0x06
def TYPE_INTEGER : BitVec 8 := 0x09
def TYPE_DOUBLE : BitVec 8 := 0x0b
def TYPE_STRING : BitVec 8 := 0x0c
def TYPE_STRINGLIST : BitVec 8 := 0x0e
def ID_LIST : BitVec 8 := 0x00
def VAR_SPEED : BitVec 8 := 0x40
def VAR_POSITION : BitVec 8 := 0x42
def VAR_ANGLE : BitVec 8 := 0x43
def VAR_LENGTH : BitVec 8 := 0x44
def VAR_WIDTH : BitVec 8 := 0x4d
def VAR_SHAPE : BitVec 8 := 0x4e
def VAR_TYPE : BitVec 8 := 0x4f
def VAR_ROAD_ID : BitVec 8 := 0x50
def VAR_SIGNALS : BitVec 8 := 0x5b
def VAR_TIME : BitVec 8 := 0x66
def VAR_PARKING_STARTING_VEHICLES_IDS : BitVec 8 := 0x6d
def VAR_PARKING_ENDING_VEHICLES_IDS : BitVec 8 := 0x6f
def VAR_TIME_STEP : BitVec 8 := 0x70
def VAR_DEPARTED_VEHICLES_IDS : BitVec 8 := 0x74
def VAR_TELEPORT_STARTING_VEHICLES_IDS : BitVec 8 := 0x76
def VAR_TELEPORT_ENDING_VEHICLES_IDS : BitVec 8 := 0x78
def VAR_ARRIVED_VEHICLES_IDS : BitVec 8 := 0x7a
def VAR_NET_BOUNDING_BOX : BitVec 8 := 0x7c
def VAR_COLLIDING_VEHICLES_IDS : BitVec 8 := 0x81
def VAR_HEIGHT : BitVec 8 := 0xbc

end TraCIConstants

open TraCIConstants

structure TraCIConnection where
  incoming : List Received
  outgoing : List (BitVec 8) := []
  /-- The bounds that `coordinateTransformation` was made with. -/
  coordinateTransformation : Option (TraCICoord × TraCICoord) := none
  /-- The commands that were sent. -/
  sent : List (BitVec 8 × TraCIBuffer) := []
deriving DecidableEq, Repr

/-- Two digits at least, as `%2x` prints them. -/
def hex (byte : BitVec 8) : String :=
  String.ofList (List.leftpad 2 ' ' (Nat.toDigits 16 byte.toNat))

def assert (holds : Bool) (condition : String) : Except Halt Unit :=
  if holds then .ok ()
  else .error (.cRuntimeError ("ASSERT: condition '" ++ condition ++ "' false"))

namespace TraCIConnection

abbrev Commands := StateT TraCIConnection (Except Halt)

def sendMessage (buf : Str) : Commands Unit :=
  modify fun c => { c with outgoing := c.outgoing ++ message buf }

def receiveMessage : Commands Str := fun c =>
  (Received.receiveMessage c.incoming).map fun x => (x.1, { c with incoming := x.2 })

def sendCommand (commandId : BitVec 8) (buf : TraCIBuffer) : Commands Unit := do
  sendMessage (makeTraCICommand commandId buf)
  modify fun c => { c with sent := c.sent ++ [(commandId, buf)] }

structure Result where
  success : Bool := false
  notImpl : Bool := false
  message : Str := []
deriving DecidableEq, Repr

/-- `query` up to the test of `result`. -/
def exchange (commandId : BitVec 8) (buf : TraCIBuffer) :
    Commands (BitVec 8 × Str × TraCIBuffer) := do
  sendCommand commandId buf
  let obuf ← receiveMessage
  let (_cmdLength, obuf) ← TraCIBuffer.readU8 obuf
  let (commandResp, obuf) ← TraCIBuffer.readU8 obuf
  assert (commandResp = commandId) "commandResp == commandId"
  let (resultCode, obuf) ← TraCIBuffer.readU8 obuf
  let (description, obuf) ← TraCIBuffer.readString obuf
  pure (resultCode, description, obuf)

/-- `query` with a `result` to fill. -/
def queryResult (commandId : BitVec 8) (buf : TraCIBuffer) :
    Commands (Result × TraCIBuffer) := do
  let (resultCode, description, obuf) ← exchange commandId buf
  pure (⟨resultCode = RTYPE_OK, resultCode = RTYPE_NOTIMPLEMENTED, description⟩, obuf)

/-- `query` without a `result`: every status but `RTYPE_OK` is an error. -/
def query (commandId : BitVec 8) (buf : TraCIBuffer) : Commands TraCIBuffer := do
  let (resultCode, description, obuf) ← exchange commandId buf
  if resultCode = RTYPE_NOTIMPLEMENTED then
    throw (.cRuntimeError ("TraCI server reported command 0x" ++ hex commandId ++
      " not implemented (\"" ++ description.text ++ "\"). Might need newer version."))
  if resultCode ≠ RTYPE_OK then
    throw (.cRuntimeError ("TraCI server reported status " ++ toString resultCode.toNat ++
      " executing command 0x" ++ hex commandId ++ " (\"" ++ description.text ++ "\")."))
  pure obuf

end TraCIConnection

namespace TraCICommandInterface

open TraCIConnection

structure VersionConfig where
  version : BitVec 32 := 0
  timeType : BitVec 8 := 0
  netBoundaryType : BitVec 8 := 0
  timeStepCmd : BitVec 8 := 0
deriving DecidableEq, Repr

def versionConfigs : List VersionConfig :=
  [⟨20, TYPE_DOUBLE, TYPE_POLYGON, VAR_TIME⟩, ⟨19, TYPE_DOUBLE, TYPE_POLYGON, VAR_TIME⟩,
    ⟨18, TYPE_DOUBLE, TYPE_POLYGON, VAR_TIME⟩,
    ⟨17, TYPE_INTEGER, TYPE_BOUNDINGBOX, VAR_TIME_STEP⟩,
    ⟨16, TYPE_INTEGER, TYPE_BOUNDINGBOX, VAR_TIME_STEP⟩,
    ⟨15, TYPE_INTEGER, TYPE_BOUNDINGBOX, VAR_TIME_STEP⟩]

def setApiVersion (apiVersion : BitVec 32) : Except Halt VersionConfig :=
  match versionConfigs.find? fun config => config.version = apiVersion with
  | some config => .ok config
  | none => .error (.cRuntimeError ("TraCI server reports unsupported TraCI API version: " ++
      toString apiVersion.toNat ++ ". We recommend using Sumo version 1.0.1 or 0.32.0"))

def getVersion : Commands (BitVec 32 × Str) := do
  let (result, buf) ← queryResult CMD_GETVERSION []
  if result.success = false then
    assert buf.isEmpty "buf.eof()"
    return (0, "(unknown)".toList.map fun c => BitVec.ofNat 8 c.toNat)
  let (_cmdLength, buf) ← TraCIBuffer.readU8 buf
  let (commandResp, buf) ← TraCIBuffer.readU8 buf
  assert (commandResp = CMD_GETVERSION) "commandResp == CMD_GETVERSION"
  let (apiVersion, buf) ← TraCIBuffer.readU32 buf
  let (serverVersion, buf) ← TraCIBuffer.readString buf
  assert buf.isEmpty "buf.eof()"
  pure (apiVersion, serverVersion)

def sim0 : Str := "sim0".toList.map fun c => BitVec.ofNat 8 c.toNat

/-- Polygons tell how many points they have. -/
def readNpoints (netBoundaryType : BitVec 8) : TraCIBuffer.Read Unit := do
  if netBoundaryType = TYPE_POLYGON then
    let npoints ← TraCIBuffer.readU8
    assert (npoints = 2) "npoints == 2"

def initNetworkBoundaries (versionConfig : VersionConfig) : Commands Unit := do
  let buf ← query CMD_GET_SIM_VARIABLE
    (TraCIBuffer.writeU8 VAR_NET_BOUNDING_BOX ++ TraCIBuffer.writeString sim0)
  let (_cmdLength, buf) ← TraCIBuffer.readU8 buf
  let (commandId, buf) ← TraCIBuffer.readU8 buf
  assert (commandId = RESPONSE_GET_SIM_VARIABLE) "commandId_resp == RESPONSE_GET_SIM_VARIABLE"
  let (variableId, buf) ← TraCIBuffer.readU8 buf
  assert (variableId = VAR_NET_BOUNDING_BOX) "variableId_resp == VAR_NET_BOUNDING_BOX"
  let (_simId, buf) ← TraCIBuffer.readString buf
  let (typeId, buf) ← TraCIBuffer.readU8 buf
  assert (typeId = versionConfig.netBoundaryType) "typeId_resp == getNetBoundaryType()"
  let ((), buf) ← readNpoints versionConfig.netBoundaryType buf
  let (nb1, buf) ← TraCIBuffer.readCoord buf
  let (nb2, buf) ← TraCIBuffer.readCoord buf
  assert buf.isEmpty "buf.eof()"
  modify fun c => { c with coordinateTransformation := some (nb1, nb2) }

variable {α : Type}

/-- The length of an answer, which takes four more bytes if the first one is zero. -/
def readCmdLength : TraCIBuffer.Read Unit := do
  let cmdLength ← TraCIBuffer.readU8
  if cmdLength = 0 then
    let _cmdLengthX ← TraCIBuffer.readU32

/-- What the `genericGet` functions share: the answer repeats the request and has the
expected type. -/
def genericGet (resultTypeId : BitVec 8) (readResult : TraCIBuffer.Read α) (commandId : BitVec 8)
    (objectId : Str) (variableId responseId : BitVec 8) : Commands α := do
  let buf ← query commandId (TraCIBuffer.writeU8 variableId ++ TraCIBuffer.writeString objectId)
  let ((), buf) ← readCmdLength buf
  let (commandIdR, buf) ← TraCIBuffer.readU8 buf
  assert (commandIdR = responseId) "commandId_r == responseId"
  let (varId, buf) ← TraCIBuffer.readU8 buf
  assert (varId = variableId) "varId == variableId"
  let (objectIdR, buf) ← TraCIBuffer.readString buf
  assert (objectIdR = objectId) "objectId_r == objectId"
  let (resTypeR, buf) ← TraCIBuffer.readU8 buf
  assert (resTypeR = resultTypeId) "resType_r == resultTypeId"
  let (res, buf) ← readResult buf
  assert buf.isEmpty "buf.eof()"
  pure res

def genericGetString : BitVec 8 → Str → BitVec 8 → BitVec 8 → Commands Str :=
  genericGet TYPE_STRING TraCIBuffer.readString

def genericGetStringList : BitVec 8 → Str → BitVec 8 → BitVec 8 → Commands (List Str) :=
  genericGet TYPE_STRINGLIST do
    let count ← TraCIBuffer.readU32
    many TraCIBuffer.readString count.toNat

def genericGetCoordList : BitVec 8 → Str → BitVec 8 → BitVec 8 → Commands (List TraCICoord) :=
  genericGet TYPE_POLYGON do
    let count ← TraCIBuffer.readByteOrFull
    many TraCIBuffer.readCoord count.toNat

/-- `Vehicle::getTypeId`. -/
def getVehicleTypeId (nodeId : Str) : Commands Str :=
  genericGetString CMD_GET_VEHICLE_VARIABLE nodeId VAR_TYPE RESPONSE_GET_VEHICLE_VARIABLE

def getPolygonIds : Commands (List Str) :=
  genericGetStringList CMD_GET_POLYGON_VARIABLE [] ID_LIST RESPONSE_GET_POLYGON_VARIABLE

/-- `Polygon::getTypeId`. -/
def getPolygonTypeId (polyId : Str) : Commands Str :=
  genericGetString CMD_GET_POLYGON_VARIABLE polyId VAR_TYPE RESPONSE_GET_POLYGON_VARIABLE

/-- `Polygon::getShape`. -/
def getShape (polyId : Str) : Commands (List TraCICoord) :=
  genericGetCoordList CMD_GET_POLYGON_VARIABLE polyId VAR_SHAPE RESPONSE_GET_POLYGON_VARIABLE

end TraCICommandInterface

end MultiTechBus.Veins
