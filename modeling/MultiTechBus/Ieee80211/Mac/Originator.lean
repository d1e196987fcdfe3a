import MultiTechBus.Ieee80211.Mac.Dcf
import MultiTechBus.Ieee80211.Mac.Fragmentation

/-! # The originator of frames

`OriginatorMacDataService`, `InProgressFrames`, `AckHandler`, `NonQosRecoveryProcedure` and the
frame sequences of `DcfFs` as `Dcf` runs them: frames leave the pending queue, are numbered
and broken into packets, and every packet is sent until it is acknowledged or given up.
-/

namespace MultiTechBus.Ieee80211

open MultiTechBus.Library

variable {β : Type*}

structure SequenceControlField where
  sequenceNumber : BitVec 12
  fragmentNumber : Nat
deriving DecidableEq, Repr

instance : LinearOrder SequenceControlField :=
  LinearOrder.lift' (fun id => toLex (id.sequenceNumber, id.fragmentNumber)) <| by
    intro id id' h
    simp only [toLex_inj, Prod.mk.injEq] at h
    obtain ⟨hnumber, hfragment⟩ := h
    cases id
    cases id'
    cases hnumber
    cases hfragment
    rfl

namespace Mpdu

def sequenceControl (frame : Mpdu β) : SequenceControlField :=
  ⟨frame.sequenceNumber, frame.fragmentNumber⟩

def ofUpper (frame : DataFrame (List β)) : Mpdu β := { header := frame.header, body := frame.payload }

/-- `Tx` puts the address of the station in. -/
def sentBy (address : MacAddress) (frame : Mpdu β) : Mpdu β :=
  { frame with header := { frame.header with transmitterAddress := address } }

end Mpdu

/-- A packet in progress. Its pointer is the number of the frame that it carries or is a
fragment of, and the number of the fragment. -/
structure Packet (β : Type*) where
  msdu : Nat
  frame : Mpdu β
deriving DecidableEq, Repr

/-- Pointers to the same packet. -/
def Packet.same (packet packet' : Packet β) : Bool :=
  packet.msdu = packet'.msdu ∧ packet.frame.fragmentNumber = packet'.frame.fragmentNumber

namespace AckHandler

inductive Status
  | FRAME_NOT_YET_TRANSMITTED | NO_ACK_REQUIRED | WAITING_FOR_ACK | ACK_NOT_ARRIVED | ACK_ARRIVED
deriving DecidableEq, Repr

end AckHandler

structure DcfParams where
  address : MacAddress
  packetCapacity : Option Nat := some 100
  fragmentationThreshold : Nat := 1500
  rtsThreshold : Nat := 2346
  shortRetryLimit : Nat := 7
  longRetryLimit : Nat := 4
  cwMin : Nat := 15
  cwMax : Nat := 1023

/-- Where the frame sequence is: it transmits an RTS frame, a frame to a group, or a packet
that may be the last of its sequence, or it receives the answer. -/
inductive FrameSequenceStep (β : Type*)
  | none
  | rts (protectedFrame : Packet β)
  | cts (protectedFrame : Packet β)
  | group (packet : Packet β)
  | data (packet : Packet β) (last : Bool)
  | ack (packet : Packet β) (last : Bool)
deriving DecidableEq, Repr

/-- How a packet ceases to be in progress. -/
inductive Outcome
  | acknowledged | retryLimitReached | multicast
deriving DecidableEq, Repr

structure Originator (β : Type*) where
  pendingQueue : List (Mpdu β) := []
  lastSeqNum : BitVec 12 := 0
  lastSentSeqNums : OrderedMap MacAddress (BitVec 12) := ∅
  inProgressFrames : List (Packet β) := []
  ackStatuses : OrderedMap SequenceControlField AckHandler.Status := ∅
  shortRetryCounter : OrderedMap SequenceControlField Nat := ∅
  longRetryCounter : OrderedMap SequenceControlField Nat := ∅
  stationShortRetryCount : Nat := 0
  stationLongRetryCount : Nat := 0
  cw : Nat
  frameSequence : FrameSequenceStep β := .none
  /-- `startRxTimer` is scheduled. -/
  startRxTimer : Bool := false
  /-- The frames taken from the queue, with the sizes of their fragments. -/
  extracted : List (Mpdu β × List Nat) := []
  /-- The packets that are no longer in progress. -/
  finished : List (Packet β × Outcome) := []
  /-- The packets that were transmitted, time after time. -/
  transmitted : List (Packet β) := []
deriving DecidableEq

namespace Originator

/-! ## Statuses of packets -/

def getAckStatus (o : Originator β) (frame : Mpdu β) : AckHandler.Status :=
  (o.ackStatuses.find? frame.sequenceControl).getD .FRAME_NOT_YET_TRANSMITTED

def setAckStatus (o : Originator β) (frame : Mpdu β) (status : AckHandler.Status) : Originator β :=
  { o with ackStatuses := o.ackStatuses.insert frame.sequenceControl status }

def isEligibleToTransmit (o : Originator β) (frame : Mpdu β) : Bool :=
  match o.getAckStatus frame with
  | .NO_ACK_REQUIRED | .ACK_NOT_ARRIVED | .FRAME_NOT_YET_TRANSMITTED => true
  | .WAITING_FOR_ACK | .ACK_ARRIVED => false

def frameGotInProgress (o : Originator β) (packet : Packet β) : Except Halt (Originator β) :=
  if o.getAckStatus packet.frame = .WAITING_FOR_ACK then
    .error (.cRuntimeError "ASSERT: status != Status::WAITING_FOR_ACK")
  else
    .ok { o.setAckStatus packet.frame .FRAME_NOT_YET_TRANSMITTED with
      inProgressFrames := o.inProgressFrames ++ [packet] }

/-- `processTransmittedDataOrMgmtFrame`; the acknowledgement policy of a data frame is
`NORMAL_ACK`. -/
def processTransmittedDataOrMgmtFrame (o : Originator β) (frame : Mpdu β) : Originator β :=
  o.setAckStatus frame (if frame.isMgmt then .NO_ACK_REQUIRED else .WAITING_FOR_ACK)

def processReceivedAck (o : Originator β) (frame : Mpdu β) : Except Halt (Originator β) :=
  if o.getAckStatus frame = .FRAME_NOT_YET_TRANSMITTED then
    .error (.cRuntimeError "ackedFrame is not yet transmitted")
  else .ok (o.setAckStatus frame .ACK_ARRIVED)

def processFailedFrame (o : Originator β) (frame : Mpdu β) : Except Halt (Originator β) :=
  if frame.isMgmt then .ok o
  else if o.getAckStatus frame = .WAITING_FOR_ACK then .ok (o.setAckStatus frame .ACK_NOT_ARRIVED)
  else .error
    (.cRuntimeError "ASSERT: getAckStatus(dataOrMgmtHeader) == Status::WAITING_FOR_ACK")

/-! ## Packets in progress -/

/-- `NonQoSSequenceNumberAssignment::assignSequenceNumber`. -/
def assignSequenceNumber (o : Originator β) (frame : Mpdu β) :
    Except Halt (Originator β × Mpdu β) :=
  if frame.header.type = ST_DATA_WITH_QOS then
    .error (.cRuntimeError "ASSERT: header->getType() != ST_DATA_WITH_QOS")
  else
    let lastSeqNum := o.lastSeqNum + 1
    -- make it different from the last sequence number sent to that receiver
    let lastSeqNum :=
      if o.lastSentSeqNums.find? frame.header.receiverAddress = some lastSeqNum then lastSeqNum + 1
      else lastSeqNum
    .ok ({ o with
      lastSeqNum := lastSeqNum
      lastSentSeqNums := o.lastSentSeqNums.insert frame.header.receiverAddress lastSeqNum },
      { frame with sequenceNumber := lastSeqNum })

/-- `OriginatorMacDataService::extractFramesToTransmit`; no packets if the queue is empty. -/
def extractFramesToTransmit (p : DcfParams) (o : Originator β) :
    Except Halt (Originator β × List (Packet β)) :=
  match o.pendingQueue with
  | [] => .ok (o, [])
  | frame :: rest =>
      (({ o with pendingQueue := rest } : Originator β).assignSequenceNumber frame).bind
        fun (o, frame) =>
          (computeFragmentSizes p.fragmentationThreshold frame).map fun fragmentSizes =>
            ({ o with extracted := o.extracted ++ [(frame, fragmentSizes)] },
              (fragments frame fragmentSizes).map (Packet.mk o.extracted.length))

def insertFrames (o : Originator β) : List (Packet β) → Except Halt (Originator β)
  | [] => .ok o
  | packet :: packets => (o.frameGotInProgress packet).bind fun o => o.insertFrames packets

/-- The packets of the next frame get in progress. -/
def extract (p : DcfParams) (o : Originator β) : Except Halt (Originator β) :=
  (o.extractFramesToTransmit p).bind fun (o, packets) => o.insertFrames packets

def hasEligibleFrameToTransmit (o : Originator β) : Bool :=
  o.inProgressFrames.any fun packet => o.isEligibleToTransmit packet.frame

def ensureHasFrameToTransmit (p : DcfParams) (o : Originator β) : Except Halt (Originator β) :=
  if o.hasEligibleFrameToTransmit then .ok o else o.extract p

def getFrameToTransmit (p : DcfParams) (o : Originator β) :
    Except Halt (Originator β × Option (Packet β)) :=
  (o.ensureHasFrameToTransmit p).map fun o =>
    (o, o.inProgressFrames.find? fun packet => o.isEligibleToTransmit packet.frame)

/-- `getPendingFrameFor` a packet that is transmitted; the packet it answers only goes into
the duration field. -/
def getPendingFrameFor (p : DcfParams) (o : Originator β) : Except Halt (Originator β) :=
  (o.getFrameToTransmit p).bind fun (o, frameToTransmit) =>
    if o.inProgressFrames.any fun packet =>
        o.isEligibleToTransmit packet.frame && !frameToTransmit.any packet.same then .ok o
    else o.extract p

/-- `InProgressFrames::dropFrame`. -/
def dropFrame (o : Originator β) (packet : Packet β) (outcome : Outcome) : Originator β :=
  { o with
    inProgressFrames := o.inProgressFrames.filter fun packet' => !packet'.same packet
    finished := o.finished ++ [(packet, outcome)] }

/-- `AckHandler::dropFrame`. -/
def dropAckStatus (o : Originator β) (frame : Mpdu β) : Originator β :=
  { o with ackStatuses := o.ackStatuses.erase frame.sequenceControl }

def setRetry (o : Originator β) (packet : Packet β) : Originator β :=
  { o with
    inProgressFrames := o.inProgressFrames.map fun packet' =>
      if packet'.same packet then { packet' with frame := { packet'.frame with retry := true } }
      else packet' }

/-! ## Recovery -/

def incrementCw (p : DcfParams) (o : Originator β) : Originator β :=
  { o with cw := if p.cwMax < 2 * o.cw + 1 then p.cwMax else 2 * o.cw + 1 }

def resetCw (p : DcfParams) (o : Originator β) : Originator β := { o with cw := p.cwMin }

def incrementStationSrc (p : DcfParams) (o : Originator β) : Originator β :=
  let o := { o with stationShortRetryCount := o.stationShortRetryCount + 1 }
  if o.stationShortRetryCount = p.shortRetryLimit then o.resetCw p else o.incrementCw p

def incrementStationLrc (p : DcfParams) (o : Originator β) : Originator β :=
  let o := { o with stationLongRetryCount := o.stationLongRetryCount + 1 }
  if o.stationLongRetryCount = p.longRetryLimit then o.resetCw p else o.incrementCw p

def getRc (frame : Mpdu β) (retryCounter : OrderedMap SequenceControlField Nat) : Nat :=
  (retryCounter.find? frame.sequenceControl).getD 0

def incrementCounter (frame : Mpdu β) (retryCounter : OrderedMap SequenceControlField Nat) :
    OrderedMap SequenceControlField Nat :=
  retryCounter.insert frame.sequenceControl (getRc frame retryCounter + 1)

/-- The counter that counts the failures of a packet. -/
def isLong (p : DcfParams) (frame : Mpdu β) : Bool := p.rtsThreshold ≤ frame.byteLength

def eraseCounter (p : DcfParams) (o : Originator β) (frame : Mpdu β) : Originator β :=
  if isLong p frame then { o with longRetryCounter := o.longRetryCounter.erase frame.sequenceControl }
  else { o with shortRetryCounter := o.shortRetryCounter.erase frame.sequenceControl }

def ackFrameReceived (p : DcfParams) (o : Originator β) (frame : Mpdu β) : Originator β :=
  let o :=
    if isLong p frame then { o with stationLongRetryCount := 0 }
    else { o with stationShortRetryCount := 0 }
  (o.eraseCounter p frame).resetCw p

def dataOrMgmtFrameTransmissionFailed (p : DcfParams) (o : Originator β) (frame : Mpdu β) :
    Originator β :=
  if isLong p frame then
    let o := o.incrementStationLrc p
    { o with longRetryCounter := incrementCounter frame o.longRetryCounter }
  else
    let o := o.incrementStationSrc p
    { o with shortRetryCounter := incrementCounter frame o.shortRetryCounter }

def rtsFrameTransmissionFailed (p : DcfParams) (o : Originator β) (frame : Mpdu β) : Originator β :=
  let o := o.incrementStationSrc p
  { o with shortRetryCounter := incrementCounter frame o.shortRetryCounter }

def isRetryLimitReached (p : DcfParams) (o : Originator β) (frame : Mpdu β) : Bool :=
  if isLong p frame then p.longRetryLimit ≤ getRc frame o.longRetryCounter
  else p.shortRetryLimit ≤ getRc frame o.shortRetryCounter

def isRtsFrameRetryLimitReached (p : DcfParams) (o : Originator β) (frame : Mpdu β) : Bool :=
  p.shortRetryLimit ≤ getRc frame o.shortRetryCounter

/-! ## Frame sequences -/

def isSequenceRunning (o : Originator β) : Bool :=
  match o.frameSequence with
  | .none => false
  | _ => true

/-- The packet that is transmitted. -/
def onAir (o : Originator β) : Option (Packet β) :=
  match o.frameSequence with
  | .group packet => some packet
  | .data packet _ => some packet
  | _ => none

/-- `originatorProcessTransmittedFrame` for a data or management frame. -/
def originatorProcessTransmittedFrame (o : Originator β) (packet : Packet β) : Originator β :=
  if packet.frame.header.receiverAddress.isMulticast then
    { o.dropFrame packet .multicast with
      stationShortRetryCount := 0
      stationLongRetryCount := 0 }
  else o.processTransmittedDataOrMgmtFrame packet.frame

def originatorProcessFailedFrame (p : DcfParams) (o : Originator β) (packet : Packet β) :
    Except Halt (Originator β) :=
  if packet.frame.header.type = ST_DATA_WITH_QOS then
    .error (.cRuntimeError "ASSERT: failedHeader->getType() != ST_DATA_WITH_QOS")
  else if o.getAckStatus packet.frame = .WAITING_FOR_ACK ∨
      o.getAckStatus packet.frame = .NO_ACK_REQUIRED then
    let o := o.dataOrMgmtFrameTransmissionFailed p packet.frame
    let retryLimitReached := o.isRetryLimitReached p packet.frame
    (o.processFailedFrame packet.frame).map fun o =>
      if retryLimitReached then
        ((o.eraseCounter p packet.frame).dropFrame packet .retryLimitReached).dropAckStatus
          packet.frame
      else o.setRetry packet
  else .error (.cRuntimeError "ASSERT: ackHandler->getAckStatus(failedHeader)")

def originatorProcessRtsProtectionFailed (p : DcfParams) (o : Originator β) (packet : Packet β) :
    Originator β :=
  let o := o.rtsFrameTransmissionFailed p packet.frame
  if o.isRtsFrameRetryLimitReached p packet.frame then
    ((o.eraseCounter p packet.frame).dropFrame packet .retryLimitReached).dropAckStatus packet.frame
  else o

/-- `originatorProcessReceivedFrame` for an acknowledgement. -/
def originatorProcessReceivedAck (p : DcfParams) (o : Originator β) (packet : Packet β) :
    Except Halt (Originator β) :=
  ((o.ackFrameReceived p packet.frame).processReceivedAck packet.frame).map fun o =>
    (o.dropFrame packet .acknowledged).dropAckStatus packet.frame

/-- A transmit step for a packet that needs an acknowledgement; `hasMoreFragments` tells if
another one follows it. -/
def transmitData (p : DcfParams) (o : Originator β) : Except Halt (Originator β) :=
  (o.getFrameToTransmit p).bind fun (o, frameToTransmit) =>
    match frameToTransmit with
    | none => .error .nullPointer
    | some packet =>
        (o.getPendingFrameFor p).map fun o =>
          { o with frameSequence := .data packet !packet.frame.moreFragments }

/-- `Dcf::channelGranted`: the first step of `DcfFs`. -/
def channelGranted (p : DcfParams) (o : Originator β) : Except Halt (Originator β) :=
  match o.frameSequence with
  | .none =>
      (o.getFrameToTransmit p).bind fun (o, frameToTransmit) =>
        match frameToTransmit with
        | none => .error (.cRuntimeError "One alternative must be chosen")
        | some packet =>
            if packet.frame.header.receiverAddress.isMulticast then
              (o.getPendingFrameFor p).map fun o => { o with frameSequence := .group packet }
            else if isLong p packet.frame then .ok { o with frameSequence := .rts packet }
            else o.transmitData p
  | _ => .ok o

/-- `FrameSequenceHandler::abortFrameSequence`. -/
def abortFrameSequence (p : DcfParams) (o : Originator β) : Except Halt (Originator β) :=
  match o.frameSequence with
  | .cts packet =>
      .ok { o.originatorProcessRtsProtectionFailed p packet with frameSequence := .none }
  | .ack packet _ =>
      (o.originatorProcessFailedFrame p packet).map fun o => { o with frameSequence := .none }
  | _ => .error .notEnabled

/-- `FrameSequenceHandler::transmissionComplete`. -/
def transmissionComplete (p : DcfParams) (o : Originator β) : Except Halt (Originator β) :=
  match o.frameSequence with
  | .rts packet =>
      (o.getFrameToTransmit p).map fun (o, _) =>
        { o with frameSequence := .cts packet, startRxTimer := true }
  | .group packet =>
      .ok { o.originatorProcessTransmittedFrame packet with
        frameSequence := .none
        transmitted := o.transmitted ++ [packet] }
  | .data packet last =>
      .ok { o.originatorProcessTransmittedFrame packet with
        frameSequence := .ack packet last
        startRxTimer := true
        transmitted := o.transmitted ++ [packet] }
  | _ => .error .notEnabled

/-- What a received frame is to a running sequence. -/
inductive Response
  | CTS | ACK | other
deriving DecidableEq, Repr

/-- `FrameSequenceHandler::processResponse`. -/
def processResponse (p : DcfParams) (o : Originator β) (isForUs : Bool) (response : Response) :
    Except Halt (Originator β) :=
  match o.frameSequence with
  | .none => .ok o
  | .cts _ =>
      if isForUs ∧ response = .CTS then ({ o with stationShortRetryCount := 0 }).transmitData p
      else o.abortFrameSequence p
  | .ack packet last =>
      if isForUs ∧ response = .ACK then
        (o.originatorProcessReceivedAck p packet).bind fun o =>
          if last then .ok { o with frameSequence := .none } else o.transmitData p
      else o.abortFrameSequence p
  | _ => .error (.cRuntimeError "Received frame while current step is transmit")

/-- `Dcf::processLowerFrame`: a frame for others is taken for the response once the timer
has expired, and before that it makes the timer stop. At rest a frame for the station goes to
the recipient, which takes no acknowledgement and no CTS frame. -/
def processLowerFrame (p : DcfParams) (o : Originator β) (isForUs : Bool) (response : Response) :
    Except Halt (Originator β) :=
  if o.isSequenceRunning then
    (if isForUs ∨ o.startRxTimer = false then o.processResponse p isForUs response else .ok o).map
      fun o => { o with startRxTimer := false }
  else if isForUs ∧ response ≠ .other then .error (.cRuntimeError "Unknown control frame")
  else .ok o

/-- `FrameSequenceHandler::handleStartRxTimeout`. -/
def handleStartRxTimeout (p : DcfParams) (o : Originator β) : Except Halt (Originator β) :=
  match o.frameSequence with
  | .cts _ => o.abortFrameSequence p
  | .ack _ _ => o.abortFrameSequence p
  | .none => .error .nullPointer
  | _ => .error (.cRuntimeError "Received timeout while in transmit step")

def startRxTimeout (p : DcfParams) (o : Originator β) (isReceptionInProgress : Bool) :
    Except Halt (Originator β) :=
  if o.startRxTimer then
    let o := { o with startRxTimer := false }
    if isReceptionInProgress then .ok o else o.handleStartRxTimeout p
  else .error .notEnabled

def corruptedFrameReceived (p : DcfParams) (o : Originator β) : Except Halt (Originator β) :=
  if o.isSequenceRunning ∧ o.startRxTimer = false then o.handleStartRxTimeout p else .ok o

/-- `Dcf::processUpperFrame`. -/
def processUpperFrame (p : DcfParams) (o : Originator β) (frame : DataFrame (List β)) :
    Originator β :=
  let queue := Mac.insertPacket Mpdu.isMgmt (Mpdu.ofUpper frame) o.pendingQueue
  { o with
    pendingQueue :=
      match p.packetCapacity with
      | none => queue
      | some capacity => queue.take capacity }

/-! ## Events -/

inductive Event (β : Type*)
  | upperFrame (frame : DataFrame (List β))
  | channelGranted
  | transmissionComplete
  | lowerFrame (isForUs : Bool) (response : Response)
  | startRxTimeout (isReceptionInProgress : Bool)
  | corruptedFrame
deriving DecidableEq, Repr

def step (p : DcfParams) (o : Originator β) : Event β → Except Halt (Originator β)
  | .upperFrame frame => .ok (o.processUpperFrame p frame)
  | .channelGranted => o.channelGranted p
  | .transmissionComplete => o.transmissionComplete p
  | .lowerFrame isForUs response => o.processLowerFrame p isForUs response
  | .startRxTimeout isReceptionInProgress => o.startRxTimeout p isReceptionInProgress
  | .corruptedFrame => o.corruptedFrameReceived p

end Originator

end MultiTechBus.Ieee80211
