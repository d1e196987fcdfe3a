import MultiTechBus.Ieee80211.AgentSta
import MultiTechBus.Ieee80211.MgmtSta

/-! # A WLAN interface card

The agent and the management entity of one card, with the primitives in flight
between them. An event is a delivery, a received frame or an expiring timer; the
loss of beacons is heard by the agents of the whole host at once.
-/

namespace MultiTechBus.Ieee80211

structure Nic where
  agent : AgentSta := {}
  mgmt : MgmtSta := {}
  /-- Requests in flight, the oldest first. -/
  toMgmt : List Request := []
  /-- Confirms in flight, the oldest first. -/
  toAgent : List Confirm := []
  /-- The address in the most recent AssociateRequest of the agent. -/
  lastAssociateRequest : Option MacAddress := none
deriving DecidableEq, Repr

inductive Event
  | startUp
  | deliverRequest
  | deliverConfirm
  | frame (f : MgmtFrame)
  | authTimeout (address : MacAddress)
  | assocTimeout
  | scanTimer (i : Nat)
  | beaconTimeout
  | receptionState (busy : Bool)
deriving DecidableEq, Repr

inductive NicOut
  | agent (out : AgentOut)
  | mgmt (out : MgmtOut)
deriving DecidableEq, Repr

@[simp] def AgentOut.request? : AgentOut → Option Request
  | sendRequest req => some req
  | l2AssociatedNewAp => none
  | l2AssociatedOldAp => none
  | l2Disassociated => none
  | stateAssociation _ => none

@[simp] def MgmtOut.confirm? : MgmtOut → Option Confirm
  | sendConfirm confirm => some confirm
  | changeChannel _ => none
  | sendManagementFrame _ _ _ => none
  | l2BeaconLost => none
  | l2Associated _ => none

/-- The address that a request names if it is an AssociateRequest. -/
def Request.associate? : Request → Option MacAddress
  | associate address _ => some address
  | _ => none

/-- A request that the agent never sends. -/
def Request.isForeign : Request → Bool
  | scan _ => false
  | authenticate _ _ => false
  | associate _ _ => false
  | _ => true

/-- The values emitted on `stateAssociationSignal`. -/
def NicOut.stateAssociation? : NicOut → Option Bool
  | agent (.stateAssociation l) => some l
  | _ => none

namespace Nic

def absorbAgent (n : Nic) (outs : List AgentOut) : Nic :=
  let reqs := outs.filterMap AgentOut.request?
  { n with
    toMgmt := n.toMgmt ++ reqs
    lastAssociateRequest := ((reqs.filterMap Request.associate?).getLast?).or n.lastAssociateRequest }

def absorbMgmt (n : Nic) (m : MgmtSta) (outs : List MgmtOut) : Nic :=
  { n with mgmt := m, toAgent := n.toAgent ++ outs.filterMap MgmtOut.confirm? }

def ofMgmt (n : Nic) : Except Halt (MgmtSta × List MgmtOut) → Except Halt (Nic × List NicOut)
  | .error k => .error k
  | .ok (m, outs) => .ok (n.absorbMgmt m outs, outs.map .mgmt)

def ofAgent (n : Nic) (agent : AgentSta) (outs : List AgentOut) : Nic × List NicOut :=
  (({ n with agent := agent } : Nic).absorbAgent outs, outs.map .agent)

/-- The card handles an event, apart from what a loss of beacons does to agents. -/
def localStep (p : AgentParams) (n : Nic) : Event → Except Halt (Nic × List NicOut)
  | .startUp =>
      if n.agent.startUp then
        let (agent, outs) := n.agent.handleTimer p
        .ok (n.ofAgent agent outs)
      else .error .notEnabled
  | .deliverRequest =>
      match n.toMgmt with
      | [] => .error .notEnabled
      | req :: rest => ({ n with toMgmt := rest } : Nic).ofMgmt (n.mgmt.handleCommand req)
  | .deliverConfirm =>
      match n.toAgent with
      | [] => .error .notEnabled
      | confirm :: rest =>
          match n.agent.handleResponse p confirm with
          | .error k => .error k
          | .ok (agent, outs) => .ok (({ n with toAgent := rest } : Nic).ofAgent agent outs)
  | .frame f => n.ofMgmt (n.mgmt.processFrame f)
  | .authTimeout address => n.ofMgmt (n.mgmt.handleAuthTimeout address)
  | .assocTimeout => n.ofMgmt n.mgmt.handleAssocTimeout
  | .scanTimer i => n.ofMgmt (n.mgmt.handleScanTimer i)
  | .beaconTimeout => n.ofMgmt n.mgmt.handleBeaconTimeout
  | .receptionState busy => .ok ({ n with mgmt := n.mgmt.receiveReceptionState busy }, [])

/-- The agent hears of lost beacons on the host. -/
def hearBeaconLost (p : AgentParams) (n : Nic) : Nic × List NicOut :=
  n.ofAgent n.agent (AgentSta.receiveBeaconLost p)

/-- An event on the only card of a host. -/
def step (p : AgentParams) (n : Nic) (e : Event) : Except Halt (Nic × List NicOut) :=
  match n.localStep p e with
  | .error k => .error k
  | .ok (n', outs) =>
      if outs.contains (.mgmt .l2BeaconLost) then
        let (n'', outs') := n'.hearBeaconLost p
        .ok (n'', outs ++ outs')
      else .ok (n', outs)

def next (p : AgentParams) (n : Nic) (e : Event) : Except Halt Nic := (n.step p e).map Prod.fst

/-- The card before the start-up timer of its agent. -/
def initial (numChannels : Nat) : Nic := { mgmt := { numChannels := numChannels } }

end Nic

/-! ## Sample runs -/

/-- An agent that scans one channel passively. -/
def sampleParams : AgentParams := { activeScan := false, channelsToScan := [1] }

def frameOf (ap : MacAddress) (body : FrameBody) : Event :=
  .frame { transmitterAddress := ap, address3 := ap, body := body }

def sampleBeacon (ap : MacAddress) : Event :=
  frameOf ap (.beacon { SSID := "SSID", beaconInterval := 100, channelNumber := 1 })

/-- A scan that finds the access point `ap`, up to its confirm. -/
def scanFinding (ap : MacAddress) : List Event := [.deliverRequest, sampleBeacon ap, .scanTimer 0]

/-- The exchange in which the chosen access point authenticates the station, up to
the confirm. -/
def authentication (ap : MacAddress) : List Event :=
  [.deliverConfirm, .deliverRequest, frameOf ap (.authentication 2 SC_SUCCESSFUL true)]

/-- The agent and the management entity start an association. -/
def associationRequest : List Event := [.deliverConfirm, .deliverRequest]

/-- From the start to the moment when the association with `ap` is pending. -/
def untilAssociating (ap : MacAddress) : List Event :=
  .startUp :: (scanFinding ap ++ authentication ap ++ associationRequest)

/-- From the start to the association with `ap`, its confirm delivered. -/
def untilAssociated (ap : MacAddress) : List Event :=
  untilAssociating ap ++ [frameOf ap (.associationResponse SC_SUCCESSFUL), .deliverConfirm]

end MultiTechBus.Ieee80211
