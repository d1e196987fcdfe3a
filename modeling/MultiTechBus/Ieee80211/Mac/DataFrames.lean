import MultiTechBus.Halt
import MultiTechBus.Ieee80211.MgmtAp

/-! # Data frames

How `Ieee80211MacM` and `Ds` write the addresses of a packet into a data frame, relay the
frame at an access point, and read the addresses back. Channel access lies between the MAC
and the air: a frame that the MAC hands over may be transmitted at any time, any number of
times or never, and may be taken up by any MAC.
-/

namespace MultiTechBus.Ieee80211

namespace MacAddress

/-- The least significant bit of the first byte. -/
def isMulticast (address : MacAddress) : Bool := address.getLsbD 40

end MacAddress

/-! ## The management information base -/

inductive Mode
  | INFRASTRUCTURE | INDEPENDENT | MESH
deriving DecidableEq, Repr

inductive BssStationType
  | ACCESS_POINT | STATION
deriving DecidableEq, Repr

/-- What the MAC and the distribution system read; mode and type have no value until they
are set. -/
structure Ieee80211Mib where
  address : MacAddress
  mode : Option Mode := none
  stationType : Option BssStationType := none
  isAssociated : Bool := false
  bssid : MacAddress := MacAddress.UNSPECIFIED_ADDRESS
  stations : MacAddress → Option BssMemberStatus := fun _ => none

/-! ## Packets and frames -/

def ST_DATA : BitVec 8 := 0x20#8

def ST_DATA_WITH_QOS : BitVec 8 := 0x28#8

structure Ieee80211DataHeader where
  type : BitVec 8 := ST_DATA
  toDS : Bool := false
  fromDS : Bool := false
  receiverAddress : MacAddress := MacAddress.UNSPECIFIED_ADDRESS
  transmitterAddress : MacAddress := MacAddress.UNSPECIFIED_ADDRESS
  address3 : MacAddress := MacAddress.UNSPECIFIED_ADDRESS
  tid : BitVec 8 := 0#8
deriving DecidableEq, Repr

structure DataFrame (α : Type*) where
  header : Ieee80211DataHeader
  payload : α
deriving DecidableEq, Repr

/-- A packet from above, with `MacAddressReq` and `UserPriorityReq`. `encapsulate` does not read
the source address of the former. -/
structure UpperPacket (α : Type*) where
  destAddress : MacAddress
  userPriority : Option Int := none
  payload : α
deriving DecidableEq, Repr

/-- A decapsulated packet, with `MacAddressInd` and `UserPriorityInd`. -/
structure Indication (α : Type*) where
  srcAddress : MacAddress
  destAddress : MacAddress
  userPriority : Option Int := none
  payload : α
deriving DecidableEq, Repr

/-- Where a packet goes from the MAC; a packet that is dropped goes nowhere. -/
inductive MacOut (α : Type*)
  /-- To channel access, `dcf` or `hcf`. -/
  | processUpperFrame (frame : DataFrame α)
  | sendUp (packet : Indication α)
  | mgmtOut (packet : Indication α)
deriving DecidableEq, Repr

namespace Ieee80211Mib

variable {α : Type*}

/-! ## Down -/

def processUpperFrame (frame : DataFrame α) : Except Halt (List (MacOut α)) :=
  if frame.header.receiverAddress.isUnspecified then
    .error (.cRuntimeError
      "ASSERT: condition '!header->getReceiverAddress().isUnspecified()' false")
  else .ok [.processUpperFrame frame]

/-- A user priority makes the frame a QoS frame. -/
def setUserPriority (header : Ieee80211DataHeader) (userPriority : Option Int) :
    Ieee80211DataHeader :=
  match userPriority with
  | none => header
  | some priority =>
      { header with type := ST_DATA_WITH_QOS, tid := BitVec.ofInt 8 priority }

def encapsulate (mib : Ieee80211Mib) (packet : UpperPacket α) : Except Halt (DataFrame α) :=
  let header : Ieee80211DataHeader := { transmitterAddress := mib.address }
  match mib.mode with
  | some .INDEPENDENT =>
      .ok ⟨setUserPriority { header with receiverAddress := packet.destAddress }
        packet.userPriority, packet.payload⟩
  | some .INFRASTRUCTURE =>
      match mib.stationType with
      | some .ACCESS_POINT =>
          .ok ⟨setUserPriority
            { header with
              fromDS := true, address3 := mib.address, receiverAddress := packet.destAddress }
            packet.userPriority, packet.payload⟩
      | some .STATION =>
          .ok ⟨setUserPriority
            { header with
              toDS := true, receiverAddress := mib.bssid, address3 := packet.destAddress }
            packet.userPriority, packet.payload⟩
      | none => .error (.cRuntimeError "Unknown station type")
  | _ => .error (.cRuntimeError "Unknown mode")

def handleUpperPacket (mib : Ieee80211Mib) (packet : UpperPacket α) :
    Except Halt (List (MacOut α)) :=
  if mib.mode = some .INFRASTRUCTURE ∧ mib.stationType = some .STATION ∧
      mib.isAssociated = false then .ok []
  else
    match mib.encapsulate packet with
    | .error k => .error k
    | .ok frame =>
        if mib.mode = some .INFRASTRUCTURE ∧ mib.stationType = some .ACCESS_POINT ∧
            frame.header.receiverAddress.isMulticast = false ∧
            mib.stations frame.header.receiverAddress ≠ some .ASSOCIATED then .ok []
        else processUpperFrame frame

/-- `Tx::transmitFrame`. -/
def transmitFrame (mib : Ieee80211Mib) (frame : DataFrame α) : DataFrame α :=
  { frame with header := { frame.header with transmitterAddress := mib.address } }

/-! ## Up -/

/-- A TID below 8 is a user priority. -/
def userPriorityInd (header : Ieee80211DataHeader) : Option Int :=
  if header.type = ST_DATA_WITH_QOS ∧ header.tid.toNat < 8 then some header.tid.toNat else none

def decapsulate (mib : Ieee80211Mib) (frame : DataFrame α) : Except Halt (Indication α) :=
  let indication (srcAddress destAddress : MacAddress) : Indication α :=
    { srcAddress := srcAddress
      destAddress := destAddress
      userPriority := userPriorityInd frame.header
      payload := frame.payload }
  match mib.mode with
  | some .INDEPENDENT =>
      .ok (indication frame.header.transmitterAddress frame.header.receiverAddress)
  | some .INFRASTRUCTURE =>
      match mib.stationType with
      | some .ACCESS_POINT =>
          .ok (indication frame.header.transmitterAddress frame.header.address3)
      | some .STATION => .ok (indication frame.header.address3 frame.header.receiverAddress)
      | none => .error (.cRuntimeError "Unknown station type")
  | _ => .error (.cRuntimeError "Unknown mode")

/-- `Ds::distributeDataFrame`: the packet goes out again under the incoming header with its
addresses shuffled. -/
def distributeDataFrame (packet : Indication α) (incomingHeader : Ieee80211DataHeader) :
    Except Halt (List (MacOut α)) :=
  if incomingHeader.address3.isUnspecified then
    .error (.cRuntimeError
      "ASSERT: condition '!outgoingHeader->getAddress3().isUnspecified()' false")
  else
    processUpperFrame
      { header :=
          { incomingHeader with
            toDS := false
            fromDS := true
            receiverAddress := incomingHeader.address3
            address3 := incomingHeader.transmitterAddress }
        payload := packet.payload }

/-- `Ds::processDataFrame`. -/
def processDataFrame (mib : Ieee80211Mib) (packet : Indication α) (header : Ieee80211DataHeader) :
    Except Halt (List (MacOut α)) :=
  match mib.mode with
  | some .INDEPENDENT => .ok [.sendUp packet]
  | some .INFRASTRUCTURE =>
      match mib.stationType with
      | some .ACCESS_POINT =>
          if header.toDS = false then .ok []
          else if header.address3.isMulticast then
            (distributeDataFrame packet header).map fun outs => outs ++ [.sendUp packet]
          else
            match mib.stations header.address3 with
            | none => .ok [.sendUp packet]
            | some .ASSOCIATED => distributeDataFrame packet header
            | some _ => .ok []
      | some .STATION =>
          if mib.isAssociated = false then .ok []
          else if mib.bssid ≠ header.transmitterAddress then .ok []
          else .ok [.sendUp packet]
      | none => .error (.cRuntimeError "Unknown station type")
  | _ => .error (.cRuntimeError "Unknown mode")

def sendUpFrame (mib : Ieee80211Mib) (frame : DataFrame α) : Except Halt (List (MacOut α)) :=
  match mib.decapsulate frame with
  | .error k => .error k
  | .ok packet =>
      if frame.header.type &&& 0x30#8 = 0#8 then .ok [.mgmtOut packet]
      else mib.processDataFrame packet frame.header

end Ieee80211Mib

/-! ## Nodes and the air -/

/-- Something at a node, with the packet that it comes from as it was requested. -/
structure Carried (ι β α : Type*) where
  node : ι
  item : β
  original : Indication α
deriving DecidableEq, Repr

/-- The nodes, the frames that they hold for transmission, the frames in the air with their
transmitters, and what upper layers got. -/
structure DataNet (ι α : Type*) where
  mib : ι → Ieee80211Mib
  queued : List (Carried ι (DataFrame α) α) := []
  air : List (Carried ι (DataFrame α) α) := []
  delivered : List (Carried ι (Indication α) α) := []

inductive DataEvent (ι α : Type*)
  /-- An upper layer of node `n` sends a packet. -/
  | request (n : ι) (packet : UpperPacket α)
  | transmit (i : Nat)
  /-- Node `n` takes up a frame from the air. -/
  | receive (n : ι) (i : Nat)
  /-- Management changes what it keeps for the BSS. -/
  | manage (n : ι) (isAssociated : Bool) (bssid : MacAddress)
      (stations : MacAddress → Option BssMemberStatus)

/-- The packet as its receivers should see it, if it is sent by a node with this address. -/
def UpperPacket.original {α : Type*} (packet : UpperPacket α) (address : MacAddress) :
    Indication α :=
  { srcAddress := address
    destAddress := packet.destAddress
    userPriority := packet.userPriority
    payload := packet.payload }

namespace MacOut

variable {α : Type*}

def frame? : MacOut α → Option (DataFrame α)
  | processUpperFrame frame => some frame
  | _ => none

def delivery? : MacOut α → Option (Indication α)
  | sendUp packet => some packet
  | _ => none

end MacOut

namespace DataNet

variable {ι α : Type*}

/-- Node `n` has handled a packet that comes from `original`. -/
def after (s : DataNet ι α) (n : ι) (original : Indication α) (outs : List (MacOut α)) :
    DataNet ι α :=
  { s with
    queued := s.queued ++ (outs.filterMap MacOut.frame?).map fun frame => ⟨n, frame, original⟩
    delivered :=
      s.delivered ++ (outs.filterMap MacOut.delivery?).map fun packet => ⟨n, packet, original⟩ }

variable [DecidableEq ι]

def step (s : DataNet ι α) : DataEvent ι α → Except Halt (DataNet ι α)
  | .request n packet =>
      ((s.mib n).handleUpperPacket packet).map (s.after n (packet.original (s.mib n).address))
  | .transmit i =>
      match s.queued[i]? with
      | none => .error .notEnabled
      | some c =>
          .ok { s with air := s.air ++ [{ c with item := (s.mib c.node).transmitFrame c.item }] }
  | .receive n i =>
      match s.air[i]? with
      | none => .error .notEnabled
      | some c => ((s.mib n).sendUpFrame c.item).map (s.after n c.original)
  | .manage n isAssociated bssid stations =>
      .ok
        { s with
          mib := Function.update s.mib n
            { s.mib n with isAssociated := isAssociated, bssid := bssid, stations := stations } }

end DataNet

end MultiTechBus.Ieee80211
