import MultiTechBus.Library.FutureEvents
import MultiTechBus.Ieee80211.Nic

/-! # The timers of a card in the future event set

What each handler of the management entity schedules and cancels, and a card in
simulated time. A timer message is scheduled under its kind and its context pointer; an
epoch of the future event set ends when the AP list is cleared, so that an entry is told
apart from a later one with the same address.
-/

namespace MultiTechBus.Ieee80211

open MultiTechBus.Library

/-- The kinds of timer messages, with the entry of the AP list that the context pointer
refers to, if it refers to one. -/
inductive TimerKind
  | MK_AUTH_TIMEOUT (ap : MacAddress)
  | MK_ASSOC_TIMEOUT (ap : MacAddress)
  | scan (kind : ScanTimerKind)
  | MK_BEACON_TIMEOUT
deriving DecidableEq, Repr

namespace TimerKind

def context? : TimerKind → Option MacAddress
  | MK_AUTH_TIMEOUT ap => some ap
  | MK_ASSOC_TIMEOUT ap => some ap
  | scan _ => none
  | MK_BEACON_TIMEOUT => none

def isScan : TimerKind → Bool
  | scan _ => true
  | _ => false

end TimerKind

abbrev TimerOp := QueueOp TimerKind

/-- `cancelAndDelete(msg)` for the message of this kind that a pointer refers to: one that was
delivered is not in the future event set any more. -/
def cancelAndDelete (msg : Option TimerMsg) (kind : TimerKind) : List TimerOp :=
  if msg.any TimerMsg.isScheduled then [.cancel kind] else []

def cancelAuthTimeout (ap : ApInfo) : List TimerOp :=
  cancelAndDelete ap.authTimeoutMsg (.MK_AUTH_TIMEOUT ap.address)

namespace MgmtSta

def cancelAssocTimeout (m : MgmtSta) : List TimerOp :=
  match m.assocTimeoutMsg with
  | none => []
  | some x => cancelAndDelete (some x.msg) (.MK_ASSOC_TIMEOUT x.contextPointer)

def cancelBeaconTimeout (m : MgmtSta) : List TimerOp :=
  cancelAndDelete m.assocAP.beaconTimeoutMsg .MK_BEACON_TIMEOUT

/-! ## Commands -/

/-- The timers of `clearAPList`. -/
def clearAPListTimers (m : MgmtSta) : List TimerOp :=
  m.apList.flatMap cancelAuthTimeout ++ [.newEpoch]

def scanNextChannelTimers (m : MgmtSta) : List TimerOp :=
  if m.scanning.currentChannelIndex = (m.scanning.channelList.length : Int) - 1 then []
  else [.schedule m.channelTimer.delay (.scan m.channelTimer.kind)]

def processScanCommandTimers (m : MgmtSta) (ctrl : ScanRequest) : List TimerOp :=
  (if m.mib.isAssociated then m.cancelBeaconTimeout else m.cancelAssocTimeout) ++
    m.clearAPListTimers ++ (m.endAssociation.startScanning ctrl).scanNextChannelTimers

def processDeauthenticateCommandTimers (m : MgmtSta) (address : MacAddress) : List TimerOp :=
  match m.lookupAP address with
  | none => []
  | some ap =>
      (if m.mib.isAssociated ∧ m.assocAP.address = address then m.cancelBeaconTimeout else []) ++
        cancelAuthTimeout ap

def processDisassociateCommandTimers (m : MgmtSta) (address : MacAddress) : List TimerOp :=
  if m.mib.isAssociated ∧ address = m.assocAP.address then m.cancelBeaconTimeout
  else m.cancelAssocTimeout

def handleCommandTimers (m : MgmtSta) : Request → List TimerOp
  | .scan ctrl => m.processScanCommandTimers ctrl
  | .authenticate address timeout => [.schedule timeout (.MK_AUTH_TIMEOUT address)]
  | .deauthenticate address _ => m.processDeauthenticateCommandTimers address
  | .associate address timeout => [.schedule timeout (.MK_ASSOC_TIMEOUT address)]
  | .reassociate address timeout => [.schedule timeout (.MK_ASSOC_TIMEOUT address)]
  | .disassociate address _ => m.processDisassociateCommandTimers address

/-! ## Received frames -/

def handleAuthenticationFrameTimers (m : MgmtSta) (address : MacAddress)
    (sequenceNumber : BitVec 16) (statusCode : Int) (isLast : Bool) : List TimerOp :=
  match m.lookupAP address with
  | none => []
  | some ap =>
      if ap.isAuthenticated then []
      else if ap.authTimeoutMsg = none then []
      else if (sequenceNumber.toNat : Int) ≠ ap.authSeqExpected then cancelAuthTimeout ap
      else if statusCode = SC_SUCCESSFUL ∧ isLast = false then []
      else cancelAuthTimeout ap

def handleDeauthenticationFrameTimers (m : MgmtSta) (address : MacAddress) : List TimerOp :=
  match m.lookupAP address with
  | none => []
  | some ap => if !ap.isAuthenticated then [] else cancelAuthTimeout ap

def handleAssociationResponseFrameTimers (m : MgmtSta) (address : MacAddress)
    (statusCode : Int) : List TimerOp :=
  match m.assocTimeoutMsg, m.lookupAP address with
  | some _, some ap =>
      (if m.mib.isAssociated then m.cancelBeaconTimeout else []) ++ m.cancelAssocTimeout ++
        if statusCode ≠ SC_SUCCESSFUL then []
        else [.schedule (MAX_BEACONS_MISSED ap.beaconInterval) .MK_BEACON_TIMEOUT]
  | _, _ => []

def handleDisassociationFrameTimers (m : MgmtSta) (address : MacAddress) : List TimerOp :=
  m.cancelAssocTimeout ++
    if !m.mib.isAssociated || address != m.assocAP.address then [] else m.cancelBeaconTimeout

/-- The beacon timer is rescheduled. -/
def handleBeaconFrameTimers (m : MgmtSta) (f : MgmtFrame) : List TimerOp :=
  if m.mib.isAssociated ∧ f.transmitterAddress = m.assocAP.address then
    m.cancelBeaconTimeout ++
      [.schedule (MAX_BEACONS_MISSED m.assocAP.beaconInterval) .MK_BEACON_TIMEOUT]
  else []

def processFrameTimers (m : MgmtSta) (f : MgmtFrame) : List TimerOp :=
  match f.body with
  | .authentication sequenceNumber statusCode isLast =>
      m.handleAuthenticationFrameTimers f.transmitterAddress sequenceNumber statusCode isLast
  | .deauthentication _ => m.handleDeauthenticationFrameTimers f.address3
  | .associationRequest => []
  | .associationResponse statusCode =>
      m.handleAssociationResponseFrameTimers f.transmitterAddress statusCode
  | .reassociationRequest => []
  | .reassociationResponse _ => []
  | .disassociation _ => m.handleDisassociationFrameTimers f.address3
  | .beacon _ => m.handleBeaconFrameTimers f
  | .probeRequest _ => []
  | .probeResponse _ => []

/-! ## Timers -/

def handleScanTimerTimers (m : MgmtSta) (i : Nat) : List TimerOp :=
  match m.scanTimers[i]? with
  | none => []
  | some timer =>
      match timer.kind with
      | .MK_SCAN_MAXCHANNELTIME => m.scanNextChannelTimers
      | .MK_SCAN_SENDPROBE => [.schedule m.scanning.minChannelTime (.scan .MK_SCAN_MINCHANNELTIME)]
      | .MK_SCAN_MINCHANNELTIME =>
          if m.scanning.busyChannelDetected then
            [.schedule (m.scanning.maxChannelTime - m.scanning.minChannelTime)
              (.scan .MK_SCAN_MAXCHANNELTIME)]
          else m.scanNextChannelTimers

end MgmtSta

namespace Nic

/-- What a card that handles an event without an error schedules and cancels. -/
def timerOps (n : Nic) : Event → List TimerOp
  | .deliverRequest =>
      match n.toMgmt with
      | [] => []
      | req :: _ => n.mgmt.handleCommandTimers req
  | .frame f => n.mgmt.processFrameTimers f
  | .scanTimer i => n.mgmt.handleScanTimerTimers i
  | _ => []

end Nic

/-! ## A card in simulated time -/

structure TimedNic where
  nic : Nic
  events : FutureEvents TimerKind := {}
deriving DecidableEq, Repr

inductive TimedEvent
  /-- Time goes on. -/
  | advance (d : SimTime)
  /-- An event that is no timer of the management entity. -/
  | untimed (e : Event)
  /-- The timer message at position `i` of the future event set is delivered. -/
  | timer (i : Nat)
deriving DecidableEq, Repr

def Event.isTimer : Event → Bool
  | authTimeout _ => true
  | assocTimeout => true
  | scanTimer _ => true
  | beaconTimeout => true
  | _ => false

namespace TimedNic

def initial (numChannels : Nat) : TimedNic := { nic := Nic.initial numChannels }

/-- A message whose context pointer, if it has one, refers to an entry of the AP list. -/
def isLive (t : TimedNic) (s : Message TimerKind) : Bool :=
  match s.kind.context? with
  | none => true
  | some ap => s.epoch = t.events.epoch && (t.nic.mgmt.lookupAP ap).isSome

/-- The event that the delivery of a timer message is. -/
def delivery (t : TimedNic) : TimerKind → Event
  | .MK_AUTH_TIMEOUT ap => .authTimeout ap
  | .MK_ASSOC_TIMEOUT _ => .assocTimeout
  | .scan kind => .scanTimer (t.nic.mgmt.scanTimers.findIdx fun timer => timer.kind = kind)
  | .MK_BEACON_TIMEOUT => .beaconTimeout

def handle (p : AgentParams) (t : TimedNic) (events : FutureEvents TimerKind) (e : Event) :
    Except Halt TimedNic :=
  (t.nic.next p e).map fun nic => { nic := nic, events := events.applyAll (t.nic.timerOps e) }

/-- Time does not go on while a primitive is in flight, and a scan timer is not delivered
before its time. Nothing else is assumed about the times of events. -/
def step (p : AgentParams) (t : TimedNic) : TimedEvent → Except Halt TimedNic
  | .advance d =>
      if t.nic.toMgmt = [] ∧ t.nic.toAgent = [] then
        .ok { t with events := { t.events with now := t.events.now + d } }
      else .error .notEnabled
  | .untimed e => if e.isTimer then .error .notEnabled else t.handle p t.events e
  | .timer i =>
      match t.events.messages[i]? with
      | none => .error .notEnabled
      | some s =>
          if s.kind.isScan ∧ t.events.now < s.due then .error .notEnabled
          else if t.isLive s then t.handle p (t.events.remove i) (t.delivery s.kind)
          else .error .nullPointer

end TimedNic

end MultiTechBus.Ieee80211
