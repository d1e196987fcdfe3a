import MultiTechBus.Halt
import MultiTechBus.Ieee80211.Frames

/-! # The agent of a station

`Ieee80211AgentSta` as modified by the repository: it answers every confirm of the
management entity with the next request, scans again when something fails or the
beacons are lost, and reports its association on `stateAssociationSignal`.
-/

namespace MultiTechBus.Ieee80211

structure AgentParams where
  activeScan : Bool := true
  probeDelay : SimTime := 100
  minChannelTime : SimTime := 150
  maxChannelTime : SimTime := 300
  authenticationTimeout : SimTime := 5000
  associationTimeout : SimTime := 5000
  channelsToScan : List Int := []
  defaultSsid : String := "SSID"
  minChannelTime_le : minChannelTime ≤ maxChannelTime := by decide

structure AgentSta where
  /-- The `startUp` message is scheduled. -/
  startUp : Bool := true
  prevAP : MacAddress := MacAddress.UNSPECIFIED_ADDRESS
deriving DecidableEq, Repr

inductive AgentOut
  | sendRequest (req : Request)
  | l2AssociatedNewAp
  | l2AssociatedOldAp
  | l2Disassociated
  | stateAssociation (l : Bool)
deriving DecidableEq, Repr

namespace AgentParams

def scanRequest (p : AgentParams) : Request :=
  .scan
    { BSSType := .BSSTYPE_INFRASTRUCTURE
      activeScan := p.activeScan
      probeDelay := p.probeDelay
      minChannelTime := p.minChannelTime
      maxChannelTime := p.maxChannelTime
      channelList := p.channelsToScan }

def sendScanRequest (p : AgentParams) : AgentOut := .sendRequest p.scanRequest

def sendAuthenticateRequest (p : AgentParams) (address : MacAddress) : AgentOut :=
  .sendRequest (.authenticate address p.authenticationTimeout)

def sendAssociateRequest (p : AgentParams) (address : MacAddress) : AgentOut :=
  .sendRequest (.associate address p.associationTimeout)

/-- One round of the loop of `chooseBSS`: a strictly stronger signal wins. -/
def stronger (best candidate : BssDescription) : BssDescription :=
  if best.rxPower < candidate.rxPower then candidate else best

/-- The description at the index that `chooseBSS` returns. -/
def chooseBSS : List BssDescription → Option BssDescription
  | [] => none
  | first :: rest => some (rest.foldl stronger first)

def choose (p : AgentParams) (bssList : List BssDescription) : Option BssDescription :=
  if p.defaultSsid = "" then chooseBSS bssList
  else bssList.find? fun bss => bss.SSID = p.defaultSsid

def processScanConfirm (p : AgentParams) (bssList : List BssDescription) : List AgentOut :=
  match p.choose bssList with
  | none => [p.sendScanRequest]
  | some bssDesc => [p.sendAuthenticateRequest bssDesc.BSSID]

def processAuthenticateConfirm (p : AgentParams) (resultCode : PrimResultCode)
    (address : MacAddress) : List AgentOut :=
  if resultCode ≠ .PRC_SUCCESS then [p.sendScanRequest] else [p.sendAssociateRequest address]

end AgentParams

namespace AgentSta

def processAssociateConfirm (p : AgentParams) (agent : AgentSta) (resultCode : PrimResultCode)
    (address : MacAddress) : AgentSta × List AgentOut :=
  if resultCode ≠ .PRC_SUCCESS then (agent, [p.sendScanRequest])
  else if agent.prevAP.isUnspecified || agent.prevAP != address then
    ({ agent with prevAP := address }, [.l2AssociatedNewAp, .stateAssociation true])
  else (agent, [.l2AssociatedOldAp])

/-- `handleTimer` for the start-up message. -/
def handleTimer (p : AgentParams) (agent : AgentSta) : AgentSta × List AgentOut :=
  ({ agent with startUp := false }, [p.sendScanRequest])

/-- A reassociate confirm is an associate confirm, as its class extends that of the other:
`processReassociateConfirm` is never called. -/
def handleResponse (p : AgentParams) (agent : AgentSta) :
    Confirm → Except Halt (AgentSta × List AgentOut)
  | .scan _ bssList => .ok (agent, p.processScanConfirm bssList)
  | .authenticate resultCode address => .ok (agent, p.processAuthenticateConfirm resultCode address)
  | .associate resultCode address => .ok (agent.processAssociateConfirm p resultCode address)
  | .reassociate resultCode address => .ok (agent.processAssociateConfirm p resultCode address)
  | .unrecognized className =>
      .error (.cRuntimeError ("handleResponse(): unrecognized control info class `" ++ className ++ "'"))

/-- `receiveSignal` for `l2BeaconLostSignal`, whichever NIC it is about. -/
def receiveBeaconLost (p : AgentParams) : List AgentOut :=
  [p.sendScanRequest, .l2Disassociated, .stateAssociation false]

end AgentSta

end MultiTechBus.Ieee80211
