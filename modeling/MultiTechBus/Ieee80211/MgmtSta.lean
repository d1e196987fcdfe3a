import MultiTechBus.Halt
import MultiTechBus.Library.Keyed
import MultiTechBus.Ieee80211.Frames

/-! # The management entity of a station

`Ieee80211MgmtSta`: scanning, authentication, association and beacon supervision.
A pointer to a timer message that stays set after the message was delivered is
kept apart from one whose message is still scheduled, since the code tests the
pointer only. Pointers to entries of the AP list are the addresses of the entries.
-/

namespace MultiTechBus.Ieee80211

open MultiTechBus.Library

/-- A timer message that some pointer refers to. -/
inductive TimerMsg
  | scheduled (delay : SimTime)
  | fired
deriving DecidableEq, Repr

namespace TimerMsg

def isScheduled : TimerMsg → Bool
  | scheduled _ => true
  | fired => false

theorem any_isScheduled_iff {timer : Option TimerMsg} :
    timer.any isScheduled = true ↔ ∃ delay, timer = some (scheduled delay) := by
  cases timer with
  | none => simp
  | some t => cases t <;> simp [isScheduled]

end TimerMsg

/-- The message kinds of the scan timers, which no pointer refers to. -/
inductive ScanTimerKind
  | MK_SCAN_SENDPROBE | MK_SCAN_MINCHANNELTIME | MK_SCAN_MAXCHANNELTIME
deriving DecidableEq, Repr

structure ScanTimer where
  kind : ScanTimerKind
  delay : SimTime
deriving DecidableEq, Repr

structure ScanningInfo where
  bssid : MacAddress := MacAddress.UNSPECIFIED_ADDRESS
  ssid : String := ""
  activeScan : Bool := false
  probeDelay : SimTime := 0
  channelList : List Int := []
  currentChannelIndex : Int := -1
  busyChannelDetected : Bool := false
  minChannelTime : SimTime := 0
  maxChannelTime : SimTime := 0
deriving DecidableEq, Repr

structure ApInfo where
  channel : Int := -1
  address : MacAddress := MacAddress.UNSPECIFIED_ADDRESS
  ssid : String := ""
  beaconInterval : SimTime := 0
  rxPower : Rat := 0
  isAuthenticated : Bool := false
  authSeqExpected : Int := -1
  authTimeoutMsg : Option TimerMsg := none
deriving DecidableEq, Repr

structure AssociatedApInfo extends ApInfo where
  beaconTimeoutMsg : Option TimerMsg := none
deriving DecidableEq, Repr

/-- `assocTimeoutMsg` with its context pointer. -/
structure AssocTimeout where
  contextPointer : MacAddress
  msg : TimerMsg
deriving DecidableEq, Repr

/-- What the management entity keeps in `Ieee80211Mib`. -/
structure Mib where
  isAssociated : Bool := false
  ssid : String := ""
  bssid : MacAddress := MacAddress.UNSPECIFIED_ADDRESS
deriving DecidableEq, Repr

structure MgmtSta where
  numChannels : Nat := 1
  isScanning : Bool := false
  scanning : ScanningInfo := {}
  /-- The scheduled scan timers. -/
  scanTimers : List ScanTimer := []
  apList : List ApInfo := []
  assocTimeoutMsg : Option AssocTimeout := none
  assocAP : AssociatedApInfo := {}
  mib : Mib := {}
  /-- Subscriptions to `receptionStateChangedSignal`, of which only one can exist. -/
  subscribed : Bool := false
deriving DecidableEq, Repr

inductive MgmtOut
  | changeChannel (channelNum : Int)
  | sendManagementFrame (name : String) (body : FrameBody) (address : MacAddress)
  | sendConfirm (confirm : Confirm)
  | l2BeaconLost
  | l2Associated (address : MacAddress)
deriving DecidableEq, Repr

/-- `3.5` beacon intervals. -/
def MAX_BEACONS_MISSED (beaconInterval : SimTime) : SimTime := 7 * beaconInterval / 2

def statusCodeToPrimResultCode (statusCode : Int) : PrimResultCode :=
  if statusCode = SC_SUCCESSFUL then .PRC_SUCCESS else .PRC_REFUSED

namespace MgmtSta

def lookupAP (m : MgmtSta) (address : MacAddress) : Option ApInfo :=
  lookupKey ApInfo.address address m.apList

/-- Write through the pointer to the entry for `address`. -/
def updateAP (m : MgmtSta) (address : MacAddress) (f : ApInfo → ApInfo) : MgmtSta :=
  { m with apList := updateKey ApInfo.address address f m.apList }

def clearAPList (m : MgmtSta) : MgmtSta := { m with apList := [] }

def sendAuthenticationConfirm (ap : MacAddress) (resultCode : PrimResultCode) : MgmtOut :=
  .sendConfirm (.authenticate resultCode ap)

/-- The address of the confirm is left unset. -/
def sendAssociationConfirm (resultCode : PrimResultCode) : MgmtOut :=
  .sendConfirm (.associate resultCode MacAddress.UNSPECIFIED_ADDRESS)

def bssDescription (ap : ApInfo) : BssDescription :=
  { channelNumber := ap.channel
    BSSID := ap.address
    SSID := ap.ssid
    beaconInterval := ap.beaconInterval
    rxPower := ap.rxPower }

def sendScanConfirm (m : MgmtSta) : MgmtOut :=
  .sendConfirm (.scan .PRC_SUCCESS (m.apList.map bssDescription))

def sendProbeRequest (m : MgmtSta) : MgmtOut :=
  .sendManagementFrame "ProbeReq" (.probeRequest m.scanning.ssid) m.scanning.bssid

/-! ## Scanning -/

/-- The timer that a channel starts with: the probe delay of an active scan, the
dwell time of a passive one. -/
def channelTimer (m : MgmtSta) : ScanTimer :=
  if m.scanning.activeScan then ⟨.MK_SCAN_SENDPROBE, m.scanning.probeDelay⟩
  else ⟨.MK_SCAN_MAXCHANNELTIME, m.scanning.maxChannelTime⟩

/-- After the last channel. -/
def finishScan (m : MgmtSta) : MgmtSta :=
  { m with
    isScanning := false
    subscribed := if m.scanning.activeScan then false else m.subscribed }

/-- On the next channel, its timer scheduled. -/
def tuneToNext (m : MgmtSta) : MgmtSta :=
  { m with
    scanning :=
      { m.scanning with
        currentChannelIndex := m.scanning.currentChannelIndex + 1
        busyChannelDetected := false }
    scanTimers := m.scanTimers ++ [m.channelTimer] }

/-- Returns true when there was no channel left; reading past the channel list
is an error. -/
def scanNextChannel (m : MgmtSta) : Except Halt (Bool × MgmtSta × List MgmtOut) :=
  if m.scanning.currentChannelIndex = (m.scanning.channelList.length : Int) - 1 then
    .ok (true, m.finishScan, [])
  else
    match m.scanning.channelList[(m.scanning.currentChannelIndex + 1).toNat]? with
    | none => .error .nullPointer
    | some newChannel => .ok (false, m.tuneToNext, [.changeChannel newChannel])

/-- Go on to the next channel, and confirm the scan when there is none. -/
def scanNextChannelOrConfirm (m : MgmtSta) : Except Halt (MgmtSta × List MgmtOut) :=
  match m.scanNextChannel with
  | .error k => .error k
  | .ok (true, m, outs) => .ok (m, outs ++ [m.sendScanConfirm])
  | .ok (false, m, outs) => .ok (m, outs)

/-- Called only while associated, which the source asserts. -/
def disassociate (m : MgmtSta) : MgmtSta :=
  { m with mib := { m.mib with isAssociated := false }, assocAP := {} }

/-- The channels that a request asks for; an empty list stands for all. -/
def channelsOf (m : MgmtSta) (ctrl : ScanRequest) : List Int :=
  if ctrl.channelList = [] then (List.range m.numChannels).map Int.ofNat
  else ctrl.channelList

/-- The state in which `processScanCommand` starts on the first channel. -/
def startScanning (m : MgmtSta) (ctrl : ScanRequest) : MgmtSta :=
  { m.clearAPList with
    scanning :=
      { bssid :=
          if ctrl.BSSID.isUnspecified then MacAddress.BROADCAST_ADDRESS else ctrl.BSSID
        ssid := ctrl.SSID
        activeScan := ctrl.activeScan
        probeDelay := ctrl.probeDelay
        channelList := m.channelsOf ctrl
        currentChannelIndex := -1
        busyChannelDetected := m.scanning.busyChannelDetected
        minChannelTime := ctrl.minChannelTime
        maxChannelTime := ctrl.maxChannelTime }
    isScanning := true
    subscribed := if ctrl.activeScan then true else m.subscribed }

/-- What a scan command ends: an association, else a pending one. -/
def endAssociation (m : MgmtSta) : MgmtSta :=
  if m.mib.isAssociated then m.disassociate else { m with assocTimeoutMsg := none }

def processScanCommand (m : MgmtSta) (ctrl : ScanRequest) : Except Halt (MgmtSta × List MgmtOut) :=
  if m.isScanning then
    .error (.cRuntimeError "processScanCommand: scanning already in progress")
  else if ctrl.BSSType ≠ .BSSTYPE_INFRASTRUCTURE then
    .error (.cRuntimeError "ASSERT: condition 'ctrl->getBSSType() == BSSTYPE_INFRASTRUCTURE' false")
  else if ctrl.maxChannelTime < ctrl.minChannelTime then
    .error (.cRuntimeError
      "ASSERT: condition 'scanning.minChannelTime <= scanning.maxChannelTime' false")
  else
    match (m.endAssociation.startScanning ctrl).scanNextChannel with
    | .error k => .error k
    | .ok (_, m, outs) => .ok (m, outs)

/-! ## Authentication and association -/

def startAuthentication (m : MgmtSta) (ap : ApInfo) (timeout : SimTime) :
    Except Halt (MgmtSta × List MgmtOut) :=
  if ap.authTimeoutMsg ≠ none then
    .error (.cRuntimeError
      ("startAuthentication: authentication currently in progress with AP address='" ++
        ap.address.str ++ "'"))
  else if ap.isAuthenticated then
    .error (.cRuntimeError
      ("startAuthentication: already authenticated with AP address='" ++ ap.address.str ++ "'"))
  else
    .ok
      (m.updateAP ap.address fun ap =>
        { ap with authSeqExpected := 2, authTimeoutMsg := some (.scheduled timeout) },
        [.changeChannel ap.channel,
          .sendManagementFrame "Auth" (.authentication 1 statusCodeUnset false) ap.address])

def startAssociation (m : MgmtSta) (ap : ApInfo) (timeout : SimTime) :
    Except Halt (MgmtSta × List MgmtOut) :=
  if m.mib.isAssociated ∨ m.assocTimeoutMsg ≠ none then
    .error (.cRuntimeError
      "startAssociation: already associated or association currently in progress")
  else if !ap.isAuthenticated then
    .error (.cRuntimeError
      ("startAssociation: not yet authenticated with AP address='" ++ ap.address.str ++ "'"))
  else
    .ok
      ({ m with
          assocTimeoutMsg := some { contextPointer := ap.address, msg := .scheduled timeout } },
        [.changeChannel ap.channel, .sendManagementFrame "Assoc" .associationRequest ap.address])

def processAuthenticateCommand (m : MgmtSta) (address : MacAddress) (timeout : SimTime) :
    Except Halt (MgmtSta × List MgmtOut) :=
  match m.lookupAP address with
  | none =>
      .error (.cRuntimeError
        ("processAuthenticateCommand: AP not known: address = " ++ address.str))
  | some ap => m.startAuthentication ap timeout

def processDeauthenticateCommand (m : MgmtSta) (address : MacAddress) (reasonCode : Int) :
    Except Halt (MgmtSta × List MgmtOut) :=
  match m.lookupAP address with
  | none =>
      .error (.cRuntimeError
        ("processDeauthenticateCommand: AP not known: address = " ++ address.str))
  | some _ =>
      let m := if m.mib.isAssociated ∧ m.assocAP.address = address then m.disassociate else m
      .ok
        (m.updateAP address fun ap => { ap with isAuthenticated := false, authTimeoutMsg := none },
          [.sendManagementFrame "Deauth" (.deauthentication reasonCode) address])

def processAssociateCommand (m : MgmtSta) (address : MacAddress) (timeout : SimTime) :
    Except Halt (MgmtSta × List MgmtOut) :=
  match m.lookupAP address with
  | none =>
      .error (.cRuntimeError ("processAssociateCommand: AP not known: address = " ++ address.str))
  | some ap => m.startAssociation ap timeout

def processReassociateCommand (m : MgmtSta) (address : MacAddress) (timeout : SimTime) :
    Except Halt (MgmtSta × List MgmtOut) :=
  m.processAssociateCommand address timeout

def processDisassociateCommand (m : MgmtSta) (address : MacAddress) (reasonCode : Int) :
    MgmtSta × List MgmtOut :=
  let m :=
    if m.mib.isAssociated ∧ address = m.assocAP.address then m.disassociate
    else { m with assocTimeoutMsg := none }
  (m, [.sendManagementFrame "Disass" (.disassociation reasonCode) address])

def handleCommand (m : MgmtSta) : Request → Except Halt (MgmtSta × List MgmtOut)
  | .scan ctrl => m.processScanCommand ctrl
  | .authenticate address timeout => m.processAuthenticateCommand address timeout
  | .deauthenticate address reasonCode => m.processDeauthenticateCommand address reasonCode
  | .associate address timeout => m.processAssociateCommand address timeout
  | .reassociate address timeout => m.processReassociateCommand address timeout
  | .disassociate address reasonCode => .ok (m.processDisassociateCommand address reasonCode)

/-! ## Received frames -/

def handleAuthenticationFrame (m : MgmtSta) (address : MacAddress) (sequenceNumber : BitVec 16)
    (statusCode : Int) (isLast : Bool) : MgmtSta × List MgmtOut :=
  match m.lookupAP address with
  | none => (m, [])
  | some ap =>
      if ap.isAuthenticated then (m, [])
      else if ap.authTimeoutMsg = none then (m, [])
      else if (sequenceNumber.toNat : Int) ≠ ap.authSeqExpected then
        (m.updateAP address fun ap => { ap with authTimeoutMsg := none },
          [.sendManagementFrame "Auth-ERROR" (.authentication 0 SC_AUTH_OUT_OF_SEQ false) address,
            sendAuthenticationConfirm address .PRC_REFUSED])
      else if statusCode = SC_SUCCESSFUL ∧ isLast = false then
        (m.updateAP address fun ap => { ap with authSeqExpected := ap.authSeqExpected + 2 },
          [.sendManagementFrame "Auth" (.authentication (sequenceNumber + 1) SC_SUCCESSFUL false)
            address])
      else
        (m.updateAP address fun ap =>
          { ap with isAuthenticated := statusCode = SC_SUCCESSFUL, authTimeoutMsg := none },
          [sendAuthenticationConfirm address (statusCodeToPrimResultCode statusCode)])

def handleDeauthenticationFrame (m : MgmtSta) (address : MacAddress) : MgmtSta × List MgmtOut :=
  match m.lookupAP address with
  | none => (m, [])
  | some ap =>
      if !ap.isAuthenticated then (m, [])
      else if ap.authTimeoutMsg ≠ none then
        (m.updateAP address fun ap => { ap with authTimeoutMsg := none }, [])
      else (m.updateAP address fun ap => { ap with isAuthenticated := false }, [])

/-- The association with `ap`, its beacon timer scheduled. -/
def associated (m : MgmtSta) (ap : ApInfo) : MgmtSta :=
  { m with
    mib := { isAssociated := true, ssid := ap.ssid, bssid := ap.address }
    assocAP :=
      { ap with beaconTimeoutMsg := some (.scheduled (MAX_BEACONS_MISSED ap.beaconInterval)) } }

def handleAssociationResponseFrame (m : MgmtSta) (address : MacAddress) (statusCode : Int) :
    Except Halt (MgmtSta × List MgmtOut) :=
  if m.assocTimeoutMsg = none then .ok (m, [])
  else
    match m.lookupAP address with
    | none =>
        .error (.cRuntimeError
          ("handleAssociationResponseFrame: AP not known: address=" ++ address.str))
    | some ap =>
        let m :=
          if m.mib.isAssociated then
            { m with mib := { m.mib with isAssociated := false }, assocAP := {} }
          else m
        let m := { m with assocTimeoutMsg := none }
        let confirm := sendAssociationConfirm (statusCodeToPrimResultCode statusCode)
        if statusCode ≠ SC_SUCCESSFUL then .ok (m, [confirm])
        else .ok (m.associated ap, [.l2Associated ap.address, confirm])

def handleDisassociationFrame (m : MgmtSta) (address : MacAddress) : MgmtSta × List MgmtOut :=
  let m := { m with assocTimeoutMsg := none }
  if !m.mib.isAssociated || address != m.assocAP.address then (m, [])
  else
    ({ m with
        mib := { m.mib with isAssociated := false }
        assocAP := { m.assocAP with beaconTimeoutMsg := none } }, [])

/-- The list with an entry for `address`, a new one if there was none. -/
def ensureAP (m : MgmtSta) (address : MacAddress) : MgmtSta :=
  match m.lookupAP address with
  | some _ => m
  | none => { m with apList := m.apList ++ [({ address := address } : ApInfo)] }

/-- What a beacon or a probe response writes to the entry of its sender. -/
def refreshed (f : MgmtFrame) (body : BeaconBody) (ap : ApInfo) : ApInfo :=
  { ap with
    channel := body.channelNumber
    address := f.transmitterAddress
    ssid := body.SSID
    beaconInterval := body.beaconInterval
    rxPower := f.signalPower }

def storeAPInfo (m : MgmtSta) (f : MgmtFrame) (body : BeaconBody) : MgmtSta :=
  let address := f.transmitterAddress
  let m := (m.ensureAP address).updateAP address (refreshed f body)
  if address = m.assocAP.address then
    { m with assocAP := { m.assocAP with rxPower := f.signalPower } }
  else m

def handleBeaconFrame (m : MgmtSta) (f : MgmtFrame) (body : BeaconBody) :
    Except Halt (MgmtSta × List MgmtOut) :=
  let m := m.storeAPInfo f body
  if m.mib.isAssociated ∧ f.transmitterAddress = m.assocAP.address then
    if m.assocAP.beaconTimeoutMsg = none then
      .error (.cRuntimeError "ASSERT: condition 'assocAP.beaconTimeoutMsg != nullptr' false")
    else
      .ok
        ({ m with
            assocAP :=
              { m.assocAP with
                beaconTimeoutMsg :=
                  some (.scheduled (MAX_BEACONS_MISSED m.assocAP.beaconInterval)) } }, [])
  else .ok (m, [])

def handleProbeResponseFrame (m : MgmtSta) (f : MgmtFrame) (body : BeaconBody) :
    MgmtSta × List MgmtOut :=
  (m.storeAPInfo f body, [])

/-- Frames that a station drops, and reassociation responses, change nothing. -/
def processFrame (m : MgmtSta) (f : MgmtFrame) : Except Halt (MgmtSta × List MgmtOut) :=
  match f.body with
  | .authentication sequenceNumber statusCode isLast =>
      .ok (m.handleAuthenticationFrame f.transmitterAddress sequenceNumber statusCode isLast)
  | .deauthentication _ => .ok (m.handleDeauthenticationFrame f.address3)
  | .associationRequest => .ok (m, [])
  | .associationResponse statusCode =>
      m.handleAssociationResponseFrame f.transmitterAddress statusCode
  | .reassociationRequest => .ok (m, [])
  | .reassociationResponse _ => .ok (m, [])
  | .disassociation _ => .ok (m.handleDisassociationFrame f.address3)
  | .beacon body => m.handleBeaconFrame f body
  | .probeRequest _ => .ok (m, [])
  | .probeResponse body => .ok (m.handleProbeResponseFrame f body)

/-! ## Timers -/

/-- The authentication timer of the entry for `address` expires. -/
def handleAuthTimeout (m : MgmtSta) (address : MacAddress) : Except Halt (MgmtSta × List MgmtOut) :=
  match m.lookupAP address with
  | none => .error .notEnabled
  | some ap =>
      if ap.authTimeoutMsg.any TimerMsg.isScheduled then
        .ok
          (m.updateAP address fun ap => { ap with authTimeoutMsg := some .fired },
            [sendAuthenticationConfirm address .PRC_TIMEOUT])
      else .error .notEnabled

def handleAssocTimeout (m : MgmtSta) : Except Halt (MgmtSta × List MgmtOut) :=
  match m.assocTimeoutMsg with
  | none => .error .notEnabled
  | some timer =>
      if timer.msg.isScheduled then
        .ok ({ m with assocTimeoutMsg := some { timer with msg := .fired } },
          [sendAssociationConfirm .PRC_TIMEOUT])
      else .error .notEnabled

/-- The scan timer at position `i` of the scheduled ones expires. -/
def handleScanTimer (m : MgmtSta) (i : Nat) : Except Halt (MgmtSta × List MgmtOut) :=
  match m.scanTimers[i]? with
  | none => .error .notEnabled
  | some timer =>
      let m := { m with scanTimers := m.scanTimers.eraseIdx i }
      match timer.kind with
      | .MK_SCAN_MAXCHANNELTIME => m.scanNextChannelOrConfirm
      | .MK_SCAN_SENDPROBE =>
          .ok
            ({ m with
                scanTimers :=
                  m.scanTimers ++ [⟨.MK_SCAN_MINCHANNELTIME, m.scanning.minChannelTime⟩] },
              [m.sendProbeRequest])
      | .MK_SCAN_MINCHANNELTIME =>
          if m.scanning.busyChannelDetected then
            .ok
              ({ m with
                  scanTimers :=
                    m.scanTimers ++
                      [⟨.MK_SCAN_MAXCHANNELTIME,
                        m.scanning.maxChannelTime - m.scanning.minChannelTime⟩] }, [])
          else m.scanNextChannelOrConfirm

/-- The pointer to the beacon timer stays set. -/
def handleBeaconTimeout (m : MgmtSta) : Except Halt (MgmtSta × List MgmtOut) :=
  if m.assocAP.beaconTimeoutMsg.any TimerMsg.isScheduled then
    .ok ({ m with assocAP := { m.assocAP with beaconTimeoutMsg := some .fired } }, [.l2BeaconLost])
  else .error .notEnabled

/-- `receiveSignal` for `receptionStateChangedSignal`; `busy` tells that the new
state is neither undefined nor idle. -/
def receiveReceptionState (m : MgmtSta) (busy : Bool) : MgmtSta :=
  if m.subscribed && busy then
    { m with scanning := { m.scanning with busyChannelDetected := true } }
  else m

end MgmtSta

end MultiTechBus.Ieee80211
