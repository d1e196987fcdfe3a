import Mathlib.Data.List.Lex
import MultiTechBus.Library.OrderedMap
import MultiTechBus.Veins.TraCICommandInterface

/-! # The scenario manager

The manager connects to the traffic simulator, advances it step by step, and creates, moves
and deletes the nodes of the vehicles by what the simulator reports. A node is one of the
buses of the scenario: it has a `VeinsInetMobility` and no other mobility module. There are
no traffic light modules and no vehicle obstacles in the scenario.
-/

namespace MultiTechBus.Veins

open MultiTechBus.Library TraCIConstants TraCIConnection TraCICommandInterface

/-- Velocity and orientation follow from the speed and the heading. -/
structure VeinsInetMobility where
  externalId : Str
  lastPosition : TraCICoord
  speed : Double
  heading : Double
deriving DecidableEq, Repr

structure Node where
  nodeVectorIndex : Nat
  type : Str
  name : Str
  displayString : Str
  mobility : VeinsInetMobility
deriving DecidableEq, Repr

inductive Emitted
  | traciInitialized
  | traciModulePreInit (nodeVectorIndex : Nat)
  | traciModuleAdded (nodeId : Str) (nodeVectorIndex : Nat)
  | traciModuleRemoved (nodeId : Str) (nodeVectorIndex : Nat)
  | traciTimestepBegin (targetTime : Int)
  | traciTimestepEnd (targetTime : Int)
deriving DecidableEq, Repr

/-- The parameters of the manager, and the computations with floating point numbers that it
rests on. Times are in picoseconds. -/
structure Setup where
  connectAt : Int
  /-- `connectAt + updateInterval` if the parameter is `-1`. -/
  firstStepAt : Int
  updateInterval : Int
  autoShutdown : Bool
  launchConfig : Str
  moduleType : OrderedMap Str Str
  moduleName : OrderedMap Str Str
  moduleDisplayString : OrderedMap Str Str
  roiRoads : OrderedMap Str Unit
  hasRectangles : Bool
  onAnyRectangle : TraCICoord → Bool
  /-- With so many nodes and so many vehicles without a node, the next vehicle gets none. -/
  leavesUnequipped : Nat → Nat → Bool
  hasObstacles : Bool
  isTypeSupported : Str → Bool
  traci2omnet : TraCICoord × TraCICoord → TraCICoord → TraCICoord
  traci2omnetHeading : Double → Double
  toDouble : Int → Double
  ofDouble : Double → Int
  maxTime : Int
  /-- A double as `%.2f` prints it. -/
  fixed : Double → String

structure TraCIScenarioManager where
  connected : Bool := false
  connection : TraCIConnection
  versionConfig : VersionConfig := {}
  timeAsDouble : Bool := true
  traciInitialized : Bool := false
  hosts : OrderedMap Str Node := ∅
  unEquippedHosts : OrderedMap Str Unit := ∅
  subscribedVehicles : OrderedMap Str Unit := ∅
  nextNodeVectorIndex : Nat := 0
  activeVehicleCount : BitVec 32 := 0
  parkingVehicleCount : BitVec 32 := 0
  drivingVehicleCount : BitVec 32 := 0
  autoShutdownTriggered : Bool := false
  connectAndStartTrigger : Option Int := none
  executeOneTimestepTrigger : Option Int := none
  simTime : Int := 0
  emitted : List Emitted := []
deriving DecidableEq

abbrev Scenario := StateT TraCIScenarioManager (Except Halt)

def onConnection {α : Type} (commands : Commands α) : Scenario α := fun s =>
  (commands s.connection).map fun x => (x.1, { s with connection := x.2 })

def loop {β : Type} (body : β → Scenario β) : Nat → β → Scenario β
  | 0, b => pure b
  | n + 1, b => do
      let b' ← body b
      loop body n b'

namespace TraCIScenarioManager

variable (setup : Setup)

/-! ### Times -/

def writeTime (timeAsDouble : Bool) (o : Int) : TraCIBuffer :=
  if timeAsDouble then TraCIBuffer.writeDouble (setup.toDouble o)
  else TraCIBuffer.writeU32 (BitVec.ofInt 32 (o.tdiv 1000000000))

def readTime (timeAsDouble : Bool) : TraCIBuffer.Read Int :=
  if timeAsDouble then setup.ofDouble <$> TraCIBuffer.readDouble
  else (fun ms => (ms.toNat : Int) * 1000000000) <$> TraCIBuffer.readU32

/-! ### Nodes -/

def emit (signal : Emitted) : Scenario Unit :=
  modify fun s => { s with emitted := s.emitted ++ [signal] }

def addModule (nodeId type name displayString : Str) (position : TraCICoord)
    (speed heading : Double) : Scenario Unit := do
  let s ← get
  if (s.hosts.find? nodeId).isSome then
    throw (.cRuntimeError "tried adding duplicate module")
  if setup.leavesUnequipped s.hosts.entries.length s.unEquippedHosts.entries.length then
    set { s with unEquippedHosts := s.unEquippedHosts.insert nodeId () }
  else
    let nodeVectorIndex := s.nextNodeVectorIndex
    set { s with nextNodeVectorIndex := s.nextNodeVectorIndex + 1 }
    -- `preInitializeModule`
    let mod : Node := ⟨nodeVectorIndex, type, name, displayString,
      ⟨nodeId, position, speed, heading⟩⟩
    emit (.traciModulePreInit nodeVectorIndex)
    modify fun s => { s with hosts := s.hosts.insert nodeId mod }
    emit (.traciModuleAdded nodeId nodeVectorIndex)

def deleteManagedModule (nodeId : Str) : Scenario Unit := do
  let s ← get
  match s.hosts.find? nodeId with
  | none => throw (.cRuntimeError ("no vehicle with Id \"" ++ nodeId.text ++ "\" found"))
  | some mod =>
      emit (.traciModuleRemoved nodeId mod.nodeVectorIndex)
      modify fun s => { s with hosts := s.hosts.erase nodeId }

/-- A vehicle that is gone loses its node, or its entry as a vehicle without one. -/
def removeVehicle (idstring : Str) : Scenario Unit := do
  let s ← get
  if (s.hosts.find? idstring).isSome then deleteManagedModule idstring
  modify fun s => { s with unEquippedHosts := s.unEquippedHosts.erase idstring }

def updateModulePosition (nodeId : Str) (mod : Node) (p : TraCICoord) (speed heading : Double) :
    Scenario Unit :=
  modify fun s => { s with
    hosts := s.hosts.insert nodeId { mod with
      mobility := { mod.mobility with lastPosition := p, speed := speed, heading := heading } } }

/-- The entry for a type of vehicles, or else the one for all types. -/
def findMapping (mapping : OrderedMap Str Str) (vType : Str) : Option Str :=
  (mapping.find? vType).or (mapping.find? [0x2a])

/-! ### Subscriptions to vehicles -/

def vehicleVariables : List (BitVec 8) :=
  [VAR_POSITION, VAR_ROAD_ID, VAR_SPEED, VAR_ANGLE, VAR_SIGNALS, VAR_LENGTH, VAR_HEIGHT, VAR_WIDTH]

/-- The parameters of a command to subscribe to variables. -/
def subscription (timeAsDouble : Bool) (objectId : Str) (vars : List (BitVec 8)) :
    TraCIBuffer :=
  writeTime setup timeAsDouble 0 ++ writeTime setup timeAsDouble setup.maxTime ++
    TraCIBuffer.writeString objectId ++ TraCIBuffer.writeU8 (BitVec.ofNat 8 vars.length) ++
    vars.flatMap TraCIBuffer.writeU8

/-- Send a subscription and process what comes with the answer. -/
def subscribe (processSubcriptionResult : TraCIBuffer → Scenario TraCIBuffer)
    (commandId : BitVec 8) (objectId : Str) (vars : List (BitVec 8)) : Scenario Unit := do
  let s ← get
  let buf ← onConnection (query commandId (subscription setup s.timeAsDouble objectId vars))
  let buf ← processSubcriptionResult buf
  assert buf.isEmpty "buf.eof()"

def subscribeToVehicleVariables (processSubcriptionResult : TraCIBuffer → Scenario TraCIBuffer)
    (vehicleId : Str) : Scenario Unit :=
  subscribe setup processSubcriptionResult CMD_SUBSCRIBE_VEHICLE_VARIABLE vehicleId vehicleVariables

def unsubscribeFromVehicleVariables (vehicleId : Str) : Scenario Unit := do
  let s ← get
  let buf ← onConnection
    (query CMD_SUBSCRIBE_VEHICLE_VARIABLE (subscription setup s.timeAsDouble vehicleId []))
  assert buf.isEmpty "buf.eof()"

/-! ### What the simulation reports -/

/-- A list of ids, each of which is handled when it has been read. -/
def forIds (handle : Str → Scenario Unit) (buf : TraCIBuffer) :
    Scenario (BitVec 32 × TraCIBuffer) := do
  let (varType, buf) ← TraCIBuffer.readU8 buf
  assert (varType = TYPE_STRINGLIST) "varType == TYPE_STRINGLIST"
  let (count, buf) ← TraCIBuffer.readU32 buf
  let buf ← loop (fun buf => do
    let (idstring, buf) ← TraCIBuffer.readString buf
    handle idstring
    pure buf) count.toNat buf
  pure (count, buf)

/-- The error for a variable that the server could not deliver. -/
def subscriptionError (what : String) (var isokay : BitVec 8) (description : Str) : Halt :=
  if isokay = RTYPE_NOTIMPLEMENTED then
    .cRuntimeError ("TraCI server reported subscribing to " ++ what ++ "0x" ++ hex var ++
      " not implemented (\"" ++ description.text ++ "\"). Might need newer version.")
  else
    .cRuntimeError ("TraCI server reported error subscribing to " ++ what ++ "0x" ++
      hex var ++ " (\"" ++ description.text ++ "\").")

def departed (buf : TraCIBuffer) : Scenario TraCIBuffer := do
  let (count, buf) ← forIds (fun _ => pure ()) buf
  modify fun s => { s with
    activeVehicleCount := s.activeVehicleCount + count
    drivingVehicleCount := s.drivingVehicleCount + count }
  pure buf

def arrived (buf : TraCIBuffer) : Scenario TraCIBuffer := do
  let (count, buf) ← forIds (fun idstring => do
    modify fun s => { s with subscribedVehicles := s.subscribedVehicles.erase idstring }
    removeVehicle idstring) buf
  modify fun s => { s with
    autoShutdownTriggered := s.autoShutdownTriggered ||
      (decide (count > 0) && decide (count ≥ s.activeVehicleCount) && setup.autoShutdown)
    activeVehicleCount := s.activeVehicleCount - count
    drivingVehicleCount := s.drivingVehicleCount - count }
  pure buf

def teleportStarting (buf : TraCIBuffer) : Scenario TraCIBuffer := do
  let (count, buf) ← forIds removeVehicle buf
  modify fun s => { s with
    activeVehicleCount := s.activeVehicleCount - count
    drivingVehicleCount := s.drivingVehicleCount - count }
  pure buf

/-- The mobility modules of the node are asked for, whether there is a node or not; those of
a bus are of another type. -/
def changeParkingState (idstring : Str) : Scenario Unit := do
  let s ← get
  if (s.hosts.find? idstring).isNone then throw .nullPointer

def parkingStarting (buf : TraCIBuffer) : Scenario TraCIBuffer := do
  let (count, buf) ← forIds changeParkingState buf
  modify fun s => { s with
    parkingVehicleCount := s.parkingVehicleCount + count
    drivingVehicleCount := s.drivingVehicleCount - count }
  pure buf

def parkingEnding (buf : TraCIBuffer) : Scenario TraCIBuffer := do
  let (count, buf) ← forIds changeParkingState buf
  modify fun s => { s with
    parkingVehicleCount := s.parkingVehicleCount - count
    drivingVehicleCount := s.drivingVehicleCount + count }
  pure buf

def timeStep (buf : TraCIBuffer) : Scenario TraCIBuffer := do
  let s ← get
  let (varType, buf) ← TraCIBuffer.readU8 buf
  assert (varType = s.versionConfig.timeType) "varType == getCommandInterface()->getTimeType()"
  let (serverTimestep, buf) ← readTime setup s.timeAsDouble buf
  assert (s.simTime = serverTimestep) "omnetTimestep == serverTimestep"
  pure buf

def processSimVariable (buf : TraCIBuffer) : Scenario TraCIBuffer := do
  let s ← get
  let (variable1, buf) ← TraCIBuffer.readU8 buf
  let (isokay, buf) ← TraCIBuffer.readU8 buf
  if isokay ≠ RTYPE_OK then
    let (varType, buf) ← TraCIBuffer.readU8 buf
    assert (varType = TYPE_STRING) "varType == TYPE_STRING"
    let (description, _) ← TraCIBuffer.readString buf
    throw (subscriptionError "variable " variable1 isokay description)
  else if variable1 = VAR_DEPARTED_VEHICLES_IDS then departed buf
  else if variable1 = VAR_ARRIVED_VEHICLES_IDS then arrived setup buf
  else if variable1 = VAR_TELEPORT_STARTING_VEHICLES_IDS then teleportStarting buf
  else if variable1 = VAR_TELEPORT_ENDING_VEHICLES_IDS then departed buf
  else if variable1 = VAR_PARKING_STARTING_VEHICLES_IDS then parkingStarting buf
  else if variable1 = VAR_PARKING_ENDING_VEHICLES_IDS then parkingEnding buf
  else if variable1 = s.versionConfig.timeStepCmd then timeStep setup buf
  else if variable1 = VAR_COLLIDING_VEHICLES_IDS then Prod.snd <$> forIds (fun _ => pure ()) buf
  else throw (.cRuntimeError "Received unhandled sim subscription result")

def processSimSubscription (buf : TraCIBuffer) : Scenario TraCIBuffer := do
  let (variableNumber, buf) ← TraCIBuffer.readU8 buf
  loop (processSimVariable setup) variableNumber.toNat buf

/-! ### What is reported about vehicles -/

/-- What was read about a vehicle so far. -/
structure VehicleValues where
  position : TraCICoord := ⟨0, 0⟩
  edge : Str := []
  speed : Double := 0
  angle : Double := 0
  signals : BitVec 32 := 0
  length : Double := 0
  height : Double := 0
  width : Double := 0
  numRead : Nat := 0
deriving DecidableEq, Repr

/-- A value with its type before it. -/
def typed {α : Type} (type : BitVec 8) (condition : String) (read : TraCIBuffer.Read α)
    (buf : TraCIBuffer) : Scenario (α × TraCIBuffer) := do
  let (varType, buf) ← TraCIBuffer.readU8 buf
  assert (varType = type) condition
  read buf

/-- The list of the vehicles: subscribe to those that are new and unsubscribe from those that
are gone. -/
def idList (processSubcriptionResult : TraCIBuffer → Scenario TraCIBuffer) (buf : TraCIBuffer) :
    Scenario TraCIBuffer := do
  let (varType, buf) ← TraCIBuffer.readU8 buf
  assert (varType = TYPE_STRINGLIST) "varType == TYPE_STRINGLIST"
  let (count, buf) ← TraCIBuffer.readU32 buf
  let s ← get
  assert (count = s.activeVehicleCount) "count == activeVehicleCount"
  let (ids, buf) ← many TraCIBuffer.readString count.toNat buf
  let drivingVehicles : OrderedMap Str Unit := ids.foldl (fun m id => m.insert id ()) ∅
  let needSubscribe := drivingVehicles.filter fun id _ => (s.subscribedVehicles.find? id).isNone
  (needSubscribe.entries.map Prod.fst).forM fun id => do
    modify fun s => { s with subscribedVehicles := s.subscribedVehicles.insert id () }
    subscribeToVehicleVariables setup processSubcriptionResult id
  let s ← get
  let needUnsubscribe := s.subscribedVehicles.filter fun id _ => (drivingVehicles.find? id).isNone
  (needUnsubscribe.entries.map Prod.fst).forM fun id => do
    modify fun s => { s with subscribedVehicles := s.subscribedVehicles.erase id }
    unsubscribeFromVehicleVariables setup id
  pure buf

def processVehicleVariable (processSubcriptionResult : TraCIBuffer → Scenario TraCIBuffer)
    (isSubscribed : Bool) (x : VehicleValues × TraCIBuffer) :
    Scenario (VehicleValues × TraCIBuffer) := do
  let (v, buf) := x
  let (variable1, buf) ← TraCIBuffer.readU8 buf
  let (isokay, buf) ← TraCIBuffer.readU8 buf
  if isokay ≠ RTYPE_OK then
    let (errormsg, buf) ← typed TYPE_STRING "varType == TYPE_STRING" TraCIBuffer.readString buf
    if isSubscribed then throw (subscriptionError "vehicle variable " variable1 isokay errormsg)
    pure (v, buf)
  else if variable1 = ID_LIST then Prod.mk v <$> idList setup processSubcriptionResult buf
  else if variable1 = VAR_POSITION then
    let (p, buf) ← typed POSITION_2D "varType == POSITION_2D" TraCIBuffer.readCoord buf
    pure ({ v with position := p, numRead := v.numRead + 1 }, buf)
  else if variable1 = VAR_ROAD_ID then
    let (edge, buf) ← typed TYPE_STRING "varType == TYPE_STRING" TraCIBuffer.readString buf
    pure ({ v with edge := edge, numRead := v.numRead + 1 }, buf)
  else if variable1 = VAR_SPEED then
    let (speed, buf) ← typed TYPE_DOUBLE "varType == TYPE_DOUBLE" TraCIBuffer.readDouble buf
    pure ({ v with speed := speed, numRead := v.numRead + 1 }, buf)
  else if variable1 = VAR_ANGLE then
    let (angle, buf) ← typed TYPE_DOUBLE "varType == TYPE_DOUBLE" TraCIBuffer.readDouble buf
    pure ({ v with angle := angle, numRead := v.numRead + 1 }, buf)
  else if variable1 = VAR_SIGNALS then
    let (signals, buf) ← typed TYPE_INTEGER "varType == TYPE_INTEGER" TraCIBuffer.readU32 buf
    pure ({ v with signals := signals, numRead := v.numRead + 1 }, buf)
  else if variable1 = VAR_LENGTH then
    let (length, buf) ← typed TYPE_DOUBLE "varType == TYPE_DOUBLE" TraCIBuffer.readDouble buf
    pure ({ v with length := length, numRead := v.numRead + 1 }, buf)
  else if variable1 = VAR_HEIGHT then
    let (height, buf) ← typed TYPE_DOUBLE "varType == TYPE_DOUBLE" TraCIBuffer.readDouble buf
    pure ({ v with height := height, numRead := v.numRead + 1 }, buf)
  else if variable1 = VAR_WIDTH then
    let (width, buf) ← typed TYPE_DOUBLE "varType == TYPE_DOUBLE" TraCIBuffer.readDouble buf
    pure ({ v with width := width, numRead := v.numRead + 1 }, buf)
  else throw (.cRuntimeError "Received unhandled vehicle subscription result")

def createNode (objectId : Str) (p : TraCICoord) (speed heading : Double) : Scenario Unit := do
  let vType ← onConnection (getVehicleTypeId objectId)
  let some mType := findMapping setup.moduleType vType
    | throw (.cRuntimeError ("cannot find a module type for vehicle type \"" ++ vType.text ++ "\""))
  let some mName := findMapping setup.moduleName vType
    | throw (.cRuntimeError ("cannot find a module name for vehicle type \"" ++ vType.text ++ "\""))
  let mDisplayString ← if setup.moduleDisplayString.entries.isEmpty then pure []
    else match findMapping setup.moduleDisplayString vType with
      | some mDisplayString => pure mDisplayString
      | none => throw (.cRuntimeError
          ("cannot find a module display string for vehicle type \"" ++ vType.text ++ "\""))
  if mType ≠ [0x30] then addModule setup objectId mType mName mDisplayString p speed heading

/-- The rest of `processVehicleSubscription`, once everything about the vehicle is known. -/
def updateVehicle (objectId : Str) (v : VehicleValues) : Scenario Unit := do
  let s ← get
  let some bounds := s.connection.coordinateTransformation
    | throw (.cRuntimeError "ASSERT: condition 'coordinateTransformation.get()' false")
  let p := setup.traci2omnet bounds v.position
  if p.x.isNegative || p.y.isNegative then
    throw (.cRuntimeError ("received bad node position (" ++ setup.fixed v.position.x ++ ", " ++
      setup.fixed v.position.y ++ "), translated to (" ++ setup.fixed p.x ++ ", " ++
      setup.fixed p.y ++ ")"))
  let heading := setup.traci2omnetHeading v.angle
  let inRoi := !(setup.hasRectangles || !setup.roiRoads.entries.isEmpty) ||
    (setup.onAnyRectangle v.position || (setup.roiRoads.find? v.edge).isSome)
  if !inRoi then
    if (s.hosts.find? objectId).isSome then deleteManagedModule objectId
    else modify fun s => { s with unEquippedHosts := s.unEquippedHosts.erase objectId }
  else if (s.unEquippedHosts.find? objectId).isSome then pure ()
  else match s.hosts.find? objectId with
    | none => createNode setup objectId p v.speed heading
    | some mod => updateModulePosition objectId mod p v.speed heading

def processVehicleSubscription (processSubcriptionResult : TraCIBuffer → Scenario TraCIBuffer)
    (objectId : Str) (buf : TraCIBuffer) : Scenario TraCIBuffer := do
  let s ← get
  let isSubscribed := (s.subscribedVehicles.find? objectId).isSome
  let (variableNumber, buf) ← TraCIBuffer.readU8 buf
  let (v, buf) ← loop (processVehicleVariable setup processSubcriptionResult isSubscribed)
    variableNumber.toNat ({}, buf)
  if isSubscribed && v.numRead == 8 then updateVehicle setup objectId v
  pure buf

/-- `processSubcriptionResult`. The bound on the depth to which answers to subscriptions can
be nested is never reached where it is above the number of bytes to come. -/
def processSubcriptionResult : Nat → TraCIBuffer → Scenario TraCIBuffer
  | 0, _ => throw .notEnabled
  | depth + 1, buf => do
      let (_cmdLength, buf) ← TraCIBuffer.readU8 buf
      let (_cmdLengthExt, buf) ← TraCIBuffer.readU32 buf
      let (commandId, buf) ← TraCIBuffer.readU8 buf
      let (objectId, buf) ← TraCIBuffer.readString buf
      if commandId = RESPONSE_SUBSCRIBE_VEHICLE_VARIABLE then
        processVehicleSubscription setup (processSubcriptionResult depth) objectId buf
      else if commandId = RESPONSE_SUBSCRIBE_SIM_VARIABLE then processSimSubscription setup buf
      -- no traffic light was created
      else if commandId = RESPONSE_SUBSCRIBE_TL_VARIABLE then throw .nullPointer
      else throw (.cRuntimeError "Received unhandled subscription result")

/-! ### Events -/

def simVariables (apiVersion : BitVec 32) (timeStepCmd : BitVec 8) : List (BitVec 8) :=
  [VAR_DEPARTED_VEHICLES_IDS, VAR_ARRIVED_VEHICLES_IDS, timeStepCmd] ++
    (if apiVersion ≥ 18 then [VAR_COLLIDING_VEHICLES_IDS] else []) ++
    [VAR_TELEPORT_STARTING_VEHICLES_IDS, VAR_TELEPORT_ENDING_VEHICLES_IDS,
      VAR_PARKING_STARTING_VEHICLES_IDS, VAR_PARKING_ENDING_VEHICLES_IDS]

/-- `TraCIScenarioManagerLaunchd::init_traci`, up to the call of the one that it extends. -/
def launch : Commands Unit := do
  let (apiVersion, serverVersion) ← getVersion
  if apiVersion ≠ 1 then
    throw (.cRuntimeError ("TraCI server \"" ++ serverVersion.text ++ "\" reports API version " ++
      toString apiVersion.toInt ++ ", which is unsupported. We recommend using the version of " ++
      "sumo-launchd that ships with Veins."))
  sendCommand CMD_FILE_SEND (TraCIBuffer.writeString
    ("sumo-launchd.launch.xml".toList.map fun c => BitVec.ofNat 8 c.toNat) ++
      TraCIBuffer.writeString setup.launchConfig)
  let obuf ← TraCIConnection.receiveMessage
  let (_cmdLength, obuf) ← TraCIBuffer.readU8 obuf
  let (commandResp, obuf) ← TraCIBuffer.readU8 obuf
  if commandResp ≠ CMD_FILE_SEND then
    throw (.cRuntimeError ("Expected response to command " ++ toString CMD_FILE_SEND.toNat ++
      ", but got one for command " ++ toString commandResp.toNat))
  let (_result, obuf) ← TraCIBuffer.readU8 obuf
  let (_description, _obuf) ← TraCIBuffer.readString obuf

/-- The polygons that are obstacles to radio. -/
def readPolygons : Commands Unit := do
  if setup.hasObstacles then
    let ids ← getPolygonIds
    ids.forM fun id => do
      let typeId ← getPolygonTypeId id
      if setup.isTypeSupported typeId then
        let _shape ← getShape id

def initTraci (depth : Nat) : Scenario Unit := do
  onConnection (launch setup)
  let (apiVersion, _serverVersion) ← onConnection getVersion
  let versionConfig ← setApiVersion apiVersion
  modify fun s => { s with
    versionConfig := versionConfig, timeAsDouble := versionConfig.timeType = TYPE_DOUBLE }
  onConnection (initNetworkBoundaries versionConfig)
  subscribe setup (processSubcriptionResult setup depth) CMD_SUBSCRIBE_SIM_VARIABLE []
    (simVariables versionConfig.version versionConfig.timeStepCmd)
  subscribe setup (processSubcriptionResult setup depth) CMD_SUBSCRIBE_VEHICLE_VARIABLE []
    [ID_LIST]
  onConnection (readPolygons setup)
  modify fun s => { s with traciInitialized := true }
  emit .traciInitialized

def executeOneTimestep (depth : Nat) : Scenario Unit := do
  let s ← get
  emit (.traciTimestepBegin s.simTime)
  if s.connected then
    let buf ← onConnection (query CMD_SIMSTEP2 (writeTime setup s.timeAsDouble s.simTime))
    let (count, buf) ← TraCIBuffer.readU32 buf
    let _buf ← loop (processSubcriptionResult setup depth) count.toNat buf
  emit (.traciTimestepEnd s.simTime)
  modify fun s' => { s' with
    executeOneTimestepTrigger :=
      if s'.autoShutdownTriggered then none else some (s'.simTime + setup.updateInterval) }

/-- The loop of `preNetworkFinish`, which always deletes the first node. -/
def deleteAll : Nat → Scenario Unit
  | 0 => pure ()
  | n + 1 => do
      let s ← get
      match s.hosts.entries with
      | [] => pure ()
      | host :: _ =>
          deleteManagedModule host.1
          deleteAll n

def preNetworkFinish : Scenario Unit := do
  let s ← get
  deleteAll s.hosts.entries.length
  -- no event is handled any more
  modify fun s => { s with connectAndStartTrigger := none, executeOneTimestepTrigger := none }

inductive Event
  | connectAndStartTrigger
  | executeOneTimestepTrigger
  | preNetworkFinish
deriving DecidableEq, Repr

/-- A bound on the depth of nested answers: every message takes bytes that are to come. -/
def depthBound (s : TraCIScenarioManager) : Nat := (Received.stream s.connection.incoming).length + 1

/-- Handle an event; a trigger is handled at its time, the earlier one first. -/
def handle (e : Event) : Scenario Unit := do
  let s ← get
  match e with
  | .connectAndStartTrigger =>
      match s.connectAndStartTrigger with
      | none => throw .notEnabled
      | some t =>
          if s.executeOneTimestepTrigger.any (decide <| · < t) then throw .notEnabled
          set { s with connectAndStartTrigger := none, simTime := t, connected := true }
          initTraci setup s.depthBound
  | .executeOneTimestepTrigger =>
      match s.executeOneTimestepTrigger with
      | none => throw .notEnabled
      | some t =>
          if s.connectAndStartTrigger.any (decide <| · ≤ t) then throw .notEnabled
          set { s with executeOneTimestepTrigger := none, simTime := t }
          executeOneTimestep setup s.depthBound
  | .preNetworkFinish => TraCIScenarioManager.preNetworkFinish

/-- The manager after it was initialized, with what the server is going to send. -/
def initial (incoming : List Received) : Except Halt TraCIScenarioManager := do
  assert (setup.firstStepAt > setup.connectAt) "firstStepAt > connectAt"
  pure { connection := { incoming := incoming }
         connectAndStartTrigger := some setup.connectAt
         executeOneTimestepTrigger := some setup.firstStepAt }

def step (s : TraCIScenarioManager) (e : Event) : Except Halt TraCIScenarioManager :=
  (handle setup e s).map Prod.snd

end TraCIScenarioManager

end MultiTechBus.Veins
