import MultiTechBus.Network.Node

/-! # The host configurators

`HostAutoConfiguratorM` and `HostAutoConfiguratorAP_M` give addresses to the interfaces
that their parameter `interfaces` names, in that order. The parameters stand for what
is read from their texts: the tokens of a list, the address that is written.
-/

namespace MultiTechBus

namespace Network

/-- A new membership, and whether the group is a new one. -/
def Ipv4InterfaceData.joinMulticastGroup (data : Ipv4InterfaceData) (group : Ipv4Address) :
    Ipv4InterfaceData × Bool :=
  if data.joinedMulticastGroups.any fun entry => entry.1 == group then
    ({ data with
      joinedMulticastGroups := data.joinedMulticastGroups.map fun entry =>
        if entry.1 == group then (entry.1, entry.2 + 1) else entry }, false)
  else ({ data with joinedMulticastGroups := data.joinedMulticastGroups ++ [(group, 1)] }, true)

namespace Node

/-- Emit `interfaceIpv4ConfigChangedSignal`; the routing table ignores it in `initialize`. -/
def ipv4ConfigChanged (n : Node) (initializing : Bool) : Node :=
  if initializing then n else { n with rt := (n.rt.updateNetmaskRoutes n.ift).invalidateCache }

/-- Emit `interfaceConfigChangedSignal`. -/
def configChanged (n : Node) (initializing : Bool) : Node :=
  if initializing then n else { n with rt := n.rt.invalidateCache }

def setIpv4Data (n : Node) (initializing : Bool) (entry : Nat) (ie : NetworkInterface)
    (data : Ipv4InterfaceData) : Node :=
  (n.withInterface entry { ie with ipv4Data := some data }).ipv4ConfigChanged initializing

end Node

end Network

namespace Configurator

open Network

/-- The id of a module, a positive `int`. -/
abbrev ModuleId := { id : Nat // 0 < id ∧ id < 2147483648 }

structure HostModule where
  id : ModuleId
  fullPath : String := "host"

/-- The conversion `uint32_t(host->getId())`. -/
def HostModule.getId (host : HostModule) : Ipv4Address := BitVec.ofNat 32 host.id.val

/-- What the loop over the interface names works with. The address `ownAddress` is the
one it starts with, and the one that `ownName` gets; `otherName` gets another
address, and sets another netmask. -/
structure AddressPlan where
  ownName : String
  ownAddress : Ipv4Address
  netmask : Ipv4Address
  otherName : String
  otherAddress : Ipv4Address
  otherNetmask : Ipv4Address
  mcastGroups : List Ipv4Address

/-- The variables that the loop carries from name to name. -/
structure Carried where
  myAddress : Ipv4Address
  netmask : Ipv4Address
deriving DecidableEq, Repr

structure AddressLoop where
  node : Node
  carried : Carried
  loopbackAddr : Ipv4Address := Ipv4Address.LOOPBACK_ADDRESS

/-! ## The loop over the interface names -/

def AddressPlan.start (plan : AddressPlan) : Carried := ⟨plan.ownAddress, plan.netmask⟩

/-- What an interface that is not a loopback interface gets, and hands on. -/
def AddressPlan.next (plan : AddressPlan) (c : Carried) (ifname : String) : Carried :=
  if ifname = plan.ownName then { c with myAddress := plan.ownAddress }
  else if ifname = plan.otherName then ⟨plan.otherAddress, plan.otherNetmask⟩
  else c

def AddressPlan.groups (plan : AddressPlan) : List Ipv4Address :=
  [Ipv4Address.ALL_HOSTS_MCAST, Ipv4Address.ALL_ROUTERS_MCAST] ++ plan.mcastGroups

def joinMulticastGroup (host : HostModule) (initializing : Bool) (entry : Nat) (n : Node)
    (group : Ipv4Address) : Except Halt Node :=
  match n.ift[entry]? with
  | none => .error .nullPointer
  | some ie =>
      match ie.ipv4Data with
      | none => .error .nullPointer
      | some data =>
          if !ie.multicast then
            .error (.cRuntimeError
              ("Ipv4InterfaceData::changeMulticastGroupMembership(): multicast interface expected, received " ++
                host.fullPath ++ "." ++ ie.interfaceName ++ "."))
          else if !Ipv4Address.isMulticast group then
            .error (.cRuntimeError
              ("Ipv4InterfaceData::changeMulticastGroupMembership(): multicast address expected, received " ++
                Ipv4Address.str group ++ "."))
          else
            let joined := data.joinMulticastGroup group
            .ok (n.setIpv4Data (initializing || !joined.2) entry ie joined.1)

def joinMulticastGroups (host : HostModule) (initializing : Bool) (entry : Nat) :
    Node → List Ipv4Address → Except Halt Node
  | n, [] => .ok n
  | n, group :: groups =>
      match joinMulticastGroup host initializing entry n group with
      | .error k => .error k
      | .ok n => joinMulticastGroups host initializing entry n groups

def configureLoopback (initializing : Bool) (n : Node) (entry : Nat) (ie : NetworkInterface)
    (data : Ipv4InterfaceData) (address : Ipv4Address) : Node :=
  let data := { data with inetAddr := address }
  let n := n.setIpv4Data initializing entry ie data
  let data := { data with netmask := Ipv4Address.LOOPBACK_NETMASK }
  let n := n.setIpv4Data initializing entry ie data
  n.setIpv4Data initializing entry ie { data with metric := 1 }

/-- Address and netmask of another interface, which is made a broadcast interface. -/
def configureAddress (initializing : Bool) (n : Node) (entry : Nat) (ie : NetworkInterface)
    (data : Ipv4InterfaceData) (c : Carried) : Node :=
  let data := { data with inetAddr := c.myAddress }
  let n := n.setIpv4Data initializing entry ie data
  let data := { data with netmask := c.netmask }
  let n := n.setIpv4Data initializing entry ie data
  let ie := { ie with ipv4Data := some data }
  if ie.broadcast then n
  else (n.withInterface entry { ie with broadcast := true }).configChanged initializing

def assignInterface (plan : AddressPlan) (host : HostModule) (initializing : Bool) (s : AddressLoop)
    (ifname : String) : Except Halt AddressLoop :=
  match s.node.ift.findInterfaceByName ifname with
  | none => .error (.cRuntimeError ("No such interface '" ++ ifname ++ "'"))
  | some entry =>
      match s.node.ift[entry]? with
      | none => .error .nullPointer
      | some ie =>
          match ie.ipv4Data with
          | none => .error (.cRuntimeError "Tag 'inet::Ipv4InterfaceData' is absent")
          | some data =>
              if ie.loopback then
                .ok { s with
                  node := configureLoopback initializing s.node entry ie data s.loopbackAddr
                  loopbackAddr := s.loopbackAddr + 1 }
              else
                let c := plan.next s.carried ifname
                let n := configureAddress initializing s.node entry ie data c
                match joinMulticastGroups host initializing entry n plan.groups with
                | .error k => .error k
                | .ok n => .ok { s with node := n, carried := c }

def assignInterfaces (plan : AddressPlan) (host : HostModule) (initializing : Bool) :
    AddressLoop → List String → Except Halt AddressLoop
  | s, [] => .ok s
  | s, ifname :: ifnames =>
      match assignInterface plan host initializing s ifname with
      | .error k => .error k
      | .ok s => assignInterfaces plan host initializing s ifnames

/-! ## The configurator of a bus -/

structure HostAutoConfiguratorM where
  interfaces : List String := ["wlan"]
  addressBase : Ipv4Address := Ipv4Address.ofDBytes 10 0 0 0
  netmask : Ipv4Address := Ipv4Address.ofDBytes 255 0 0 0
  addressBaseWlan : Ipv4Address := Ipv4Address.ofDBytes 192 168 0 0
  netmaskWlan : Ipv4Address := Ipv4Address.ofDBytes 255 255 0 0
  mcastGroups : List Ipv4Address := []

namespace HostAutoConfiguratorM

def plan (p : HostAutoConfiguratorM) (host : HostModule) : AddressPlan where
  ownName := "cellular"
  ownAddress := p.addressBase + host.getId
  netmask := p.netmask
  otherName := "wlan0"
  otherAddress := p.addressBaseWlan + host.getId
  otherNetmask := p.netmaskWlan
  mcastGroups := p.mcastGroups

def defaultRoute (wlanInterface : Nat) : RouteData where
  destination := Ipv4Address.ofDBytes 0 0 0 0
  netmask := Ipv4Address.ofDBytes 0 0 0 0
  gateway := Ipv4Address.ofDBytes 192 168 0 1
  interface := some wlanInterface
  sourceType := .MANUAL

def localWlanRoute (wlanInterface : Nat) : RouteData where
  destination := Ipv4Address.ofDBytes 192 168 0 0
  netmask := Ipv4Address.ofDBytes 255 255 0 0
  gateway := Ipv4Address.UNSPECIFIED_ADDRESS
  interface := some wlanInterface
  sourceType := .MANUAL

def setupNetworkLayer (p : HostAutoConfiguratorM) (host : HostModule) (initializing : Bool)
    (n : Node) :
    Except Halt Node :=
  if !Ipv4Address.maskedAddrAreEqual (p.addressBase + host.getId) p.addressBase p.netmask then
    .error (.cRuntimeError "Generated IP address is out of specified address range")
  else if !Ipv4Address.maskedAddrAreEqual (p.addressBaseWlan + host.getId) p.addressBaseWlan
      p.netmaskWlan then
    .error (.cRuntimeError "Generated IP address Wlan is out of specified address range")
  else
    match n.ift.findInterfaceByName "wlan0" with
    | none => .error (.cRuntimeError "No such interface 'wlan0'")
    | some wlanInterface => do
        let rt ← n.rt.addRoute (defaultRoute wlanInterface)
        let rt ← rt.addRoute (localWlanRoute wlanInterface)
        let s ← assignInterfaces (p.plan host) host initializing
          { node := { n with rt := rt }, carried := (p.plan host).start } p.interfaces
        return s.node

end HostAutoConfiguratorM

/-! ## The configurator of an access point -/

structure HostAutoConfiguratorAP_M where
  interfaces : List String := ["wlan"]
  addressBase : Ipv4Address := Ipv4Address.ofDBytes 10 0 0 0
  netmask : Ipv4Address := Ipv4Address.ofDBytes 255 0 0 0
  addressBasePPP : Ipv4Address := Ipv4Address.ofDBytes 15 0 0 0
  netmaskPPP : Ipv4Address := Ipv4Address.ofDBytes 255 255 255 0
  mcastGroups : List Ipv4Address := []

namespace HostAutoConfiguratorAP_M

def plan (p : HostAutoConfiguratorAP_M) (host : HostModule) : AddressPlan where
  ownName := "wlan0"
  ownAddress := p.addressBase
  netmask := p.netmask
  otherName := "ppp0"
  otherAddress := p.addressBasePPP + host.getId
  otherNetmask := p.netmaskPPP
  mcastGroups := p.mcastGroups

def setupNetworkLayer (p : HostAutoConfiguratorAP_M) (host : HostModule) (initializing : Bool)
    (n : Node) :
    Except Halt Node :=
  if !Ipv4Address.maskedAddrAreEqual p.addressBase p.addressBase p.netmask then
    .error (.cRuntimeError "Generated IP address is out of specified address range")
  else if !Ipv4Address.maskedAddrAreEqual (p.addressBasePPP + host.getId) p.addressBasePPP
      p.netmaskPPP then
    .error (.cRuntimeError "Generated IP address PPP is out of specified address range")
  else
    (assignInterfaces (p.plan host) host initializing
      { node := n, carried := (p.plan host).start } p.interfaces).map AddressLoop.node

end HostAutoConfiguratorAP_M

end Configurator

end MultiTechBus
