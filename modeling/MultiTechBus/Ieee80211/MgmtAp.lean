import Mathlib.Logic.Function.Basic
import MultiTechBus.Ieee80211.Frames

/-! # The management entity of an access point

`Ieee80211MgmtAp`: authentication in two or four steps, association, and answers to
probe requests. The list of stations and the map of their states in `Ieee80211Mib` are
functions of the address; the address that an entry repeats is left out.
-/

namespace MultiTechBus.Ieee80211

inductive BssMemberStatus
  | NOT_AUTHENTICATED | AUTHENTICATED | ASSOCIATED
deriving DecidableEq, Repr

structure StaInfo where
  authSeqExpected : Int
deriving DecidableEq, Repr

structure ApParams where
  address : MacAddress
  ssid : String := "SSID"
  beaconInterval : SimTime := 100
  numAuthSteps : Int := 4
  numAuthSteps_eq : numAuthSteps = 2 ∨ numAuthSteps = 4 := by decide

structure MgmtAp where
  channelNumber : Int := -1
  staList : MacAddress → Option StaInfo := fun _ => none
  /-- `mib->bssAccessPointData.stations`. -/
  stations : MacAddress → Option BssMemberStatus := fun _ => none

inductive ApOut
  | sendManagementFrame (name : String) (body : FrameBody) (destAddr : MacAddress)
  | l2ApAssociated (staAddress : MacAddress)
  | l2ApDisassociated (staAddress : MacAddress)
deriving DecidableEq, Repr

namespace MgmtAp

/-- The entry for an address, or the one that would be made for it. -/
def staInfo (a : MgmtAp) (sta : MacAddress) : StaInfo :=
  (a.staList sta).getD { authSeqExpected := 1 }

def createSTA (a : MgmtAp) (sta : MacAddress) : MgmtAp :=
  match a.staList sta with
  | some _ => a
  | none =>
      { a with
        staList := Function.update a.staList sta (some { authSeqExpected := 1 })
        stations := Function.update a.stations sta (some .NOT_AUTHENTICATED) }

def setAuthSeqExpected (a : MgmtAp) (sta : MacAddress) (authSeqExpected : Int) : MgmtAp :=
  { a with
    staList := Function.update a.staList sta (some { authSeqExpected := authSeqExpected }) }

/-- A station that was associated is reported as it gets another state. -/
def leaveFor (a : MgmtAp) (sta : MacAddress) (status : BssMemberStatus) : MgmtAp × List ApOut :=
  ({ a with stations := Function.update a.stations sta (some status) },
    if a.stations sta = some .ASSOCIATED then [.l2ApDisassociated sta] else [])

def bssBody (p : ApParams) (a : MgmtAp) : BeaconBody :=
  { SSID := p.ssid, beaconInterval := p.beaconInterval, channelNumber := a.channelNumber }

def sendBeacon (p : ApParams) (a : MgmtAp) : ApOut :=
  .sendManagementFrame "Beacon" (.beacon (a.bssBody p)) MacAddress.BROADCAST_ADDRESS

/-- The first frame of an authentication resets the state of the station. -/
def resetAuthentication (a : MgmtAp) (sta : MacAddress) : MgmtAp × List ApOut :=
  let (a, outs) := a.leaveFor sta .NOT_AUTHENTICATED
  (a.setAuthSeqExpected sta 1, outs)

def handleAuthenticationFrame (p : ApParams) (a : MgmtAp) (sta : MacAddress)
    (frameAuthSeq : BitVec 16) : MgmtAp × List ApOut :=
  let a := a.createSTA sta
  let (a, notified) := if frameAuthSeq = 1 then a.resetAuthentication sta else (a, [])
  if (frameAuthSeq.toNat : Int) ≠ (a.staInfo sta).authSeqExpected then
    (a.setAuthSeqExpected sta 1, notified ++
      [.sendManagementFrame "Auth-ERROR" (.authentication 0 SC_AUTH_OUT_OF_SEQ false) sta])
  else if (frameAuthSeq.toNat : Int) + 1 = p.numAuthSteps then
    let (a, outs) := a.leaveFor sta .AUTHENTICATED
    (a, notified ++
      .sendManagementFrame "Auth-OK" (.authentication (frameAuthSeq + 1) SC_SUCCESSFUL true) sta ::
        outs)
  else
    (a.setAuthSeqExpected sta ((a.staInfo sta).authSeqExpected + 2), notified ++
      [.sendManagementFrame "Auth" (.authentication (frameAuthSeq + 1) SC_SUCCESSFUL false) sta])

def handleDeauthenticationFrame (a : MgmtAp) (sta : MacAddress) : MgmtAp × List ApOut :=
  match a.staList sta with
  | none => (a, [])
  | some _ => a.resetAuthentication sta

/-- `Deauth` in answer to a station that is not authenticated. -/
def refuseAssociation (sta : MacAddress) : ApOut :=
  .sendManagementFrame "Deauth" (.deauthentication RC_NONAUTH_ASS_REQUEST) sta

def handleAssociationRequestFrame (a : MgmtAp) (sta : MacAddress) : MgmtAp × List ApOut :=
  if a.staList sta = none ∨ a.stations sta = some .NOT_AUTHENTICATED then
    (a, [refuseAssociation sta])
  else
    ({ a with stations := Function.update a.stations sta (some .ASSOCIATED) },
      (if a.stations sta ≠ some .ASSOCIATED then [.l2ApAssociated sta] else []) ++
        [.sendManagementFrame "AssocResp-OK" (.associationResponse SC_SUCCESSFUL) sta])

/-- As for an association request, but nobody is notified. -/
def handleReassociationRequestFrame (a : MgmtAp) (sta : MacAddress) : MgmtAp × List ApOut :=
  if a.staList sta = none ∨ a.stations sta = some .NOT_AUTHENTICATED then
    (a, [refuseAssociation sta])
  else
    ({ a with stations := Function.update a.stations sta (some .ASSOCIATED) },
      [.sendManagementFrame "ReassocResp-OK" (.reassociationResponse SC_SUCCESSFUL) sta])

/-- A station that disassociates counts as authenticated, whatever it was. -/
def handleDisassociationFrame (a : MgmtAp) (sta : MacAddress) : MgmtAp × List ApOut :=
  match a.staList sta with
  | none => (a, [])
  | some _ => a.leaveFor sta .AUTHENTICATED

def handleProbeRequestFrame (p : ApParams) (a : MgmtAp) (sta : MacAddress) (SSID : String) :
    List ApOut :=
  if SSID ≠ "" ∧ SSID ≠ p.ssid then []
  else [.sendManagementFrame "ProbeResp" (.probeResponse (a.bssBody p)) sta]

/-- Frames that an access point drops change nothing. -/
def processFrame (p : ApParams) (a : MgmtAp) (f : MgmtFrame) : MgmtAp × List ApOut :=
  match f.body with
  | .authentication sequenceNumber _ _ =>
      a.handleAuthenticationFrame p f.transmitterAddress sequenceNumber
  | .deauthentication _ => a.handleDeauthenticationFrame f.transmitterAddress
  | .associationRequest => a.handleAssociationRequestFrame f.transmitterAddress
  | .associationResponse _ => (a, [])
  | .reassociationRequest => a.handleReassociationRequestFrame f.transmitterAddress
  | .reassociationResponse _ => (a, [])
  | .disassociation _ => a.handleDisassociationFrame f.transmitterAddress
  | .beacon _ => (a, [])
  | .probeRequest SSID => (a, a.handleProbeRequestFrame p f.transmitterAddress SSID)
  | .probeResponse _ => (a, [])

end MgmtAp

end MultiTechBus.Ieee80211
