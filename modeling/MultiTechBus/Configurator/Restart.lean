import MultiTechBus.Configurator.Order
import MultiTechBus.Lifecycle

/-! # Stopping and starting a bus

The interface table, the interfaces, the configurator and the routing table of a bus
each handle a lifecycle operation in their own stages. Going down clears the data
of the interfaces; only `initialize` adds it again.
-/

namespace MultiTechBus

namespace Network

namespace InterfaceTable

def findFirstLoopbackInterface (ift : InterfaceTable) : Option Nat :=
  ift.findIdx? fun ie => ie.loopback

/-- `findInterfaceByAddress`, for addresses of this kind. -/
def findInterfaceByAddress (ift : InterfaceTable) (address : Ipv4Address) : Option Nat :=
  if address.isUnspecified then none
  else ift.findIdx? fun ie => ie.ipv4Data.any fun data => data.inetAddr == address

def resetInterfaces (ift : InterfaceTable) : InterfaceTable :=
  ift.map fun ie => { ie with ipv4Data := none }

end InterfaceTable

namespace Node

/-- Every interface gets a state and a carrier, one after the other. -/
def setInterfaces (n : Node) (s : State) (b : Bool) : Node :=
  (List.range n.ift.length).foldl (fun n entry => (n.setState entry s).setCarrier entry b) n

/-- `handleStartOperation` of the interfaces. -/
def startInterfaces (n : Node) : Node := n.setInterfaces .UP true

/-- `handleStopOperation` and `handleCrashOperation` of the interfaces. -/
def stopInterfaces (n : Node) : Node := n.setInterfaces .DOWN false

end Node

/-- `removeRoute` on the first route while there is one. -/
def RoutingTable.removeRoutes (rt : RoutingTable) : RoutingTable :=
  if rt.routes.isEmpty then rt else invalidateCache { rt with routes := [] }

end Network

namespace Configurator

open Library Network

/-- The parameter `routerId` of the routing table. -/
inductive RouterIdPar
  | unset
  | auto
  | address (routerId : Ipv4Address)
deriving DecidableEq, Repr

structure BusParams where
  configurator : HostAutoConfiguratorM
  host : HostModule
  routerId : RouterIdPar := .auto

structure BusNode where
  status : NodeStatus := .UP
  node : Node
  routerId : Ipv4Address := Ipv4Address.UNSPECIFIED_ADDRESS

namespace BusNode

/-- The highest address of the interfaces that are not loopback interfaces. -/
def highestAddress (ift : InterfaceTable) (routerId : Ipv4Address) : Ipv4Address :=
  ift.foldl (fun routerId ie =>
    if ie.loopback then routerId
    else
      match ie.ipv4Data with
      | some data => if routerId < data.inetAddr then data.inetAddr else routerId
      | none => routerId) routerId

def configureRouterId (b : BusNode) (routerIdPar : RouterIdPar) (initializing : Bool) :
    Except Halt BusNode :=
  if b.routerId.isUnspecified then
    match routerIdPar with
    | .auto => .ok { b with routerId := highestAddress b.node.ift b.routerId }
    | .unset => .ok b
    | .address _ => .ok b
  else
    match b.node.ift.findInterfaceByAddress b.routerId with
    | some _ => .ok b
    | none =>
        match b.node.ift.findFirstLoopbackInterface with
        | none => .error (.cRuntimeError "Expression ift->findFirstLoopbackInterface() returned nullptr")
        | some entry =>
            match b.node.ift[entry]? with
            | none => .error .nullPointer
            | some lo0 =>
                match lo0.ipv4Data with
                | none => .error (.cRuntimeError "Tag 'inet::Ipv4InterfaceData' is absent")
                | some data =>
                    let data := { data with inetAddr := b.routerId }
                    let n := b.node.setIpv4Data initializing entry lo0 data
                    let data := { data with netmask := Ipv4Address.ALLONES_ADDRESS }
                    .ok { b with node := n.setIpv4Data initializing entry lo0 data }

def updateNetmaskRoutes (b : BusNode) : BusNode :=
  { b with node := { b.node with rt := b.node.rt.updateNetmaskRoutes b.node.ift } }

/-- `handleStartOperation(nullptr)` adds the data of every interface before the set-up. -/
def addIpv4Data (n : Node) : Except Halt Node :=
  if n.ift.any fun ie => ie.ipv4Data.isSome then
    .error (.cRuntimeError "Tag 'inet::Ipv4InterfaceData' is present")
  else .ok { n with ift := n.ift.map fun ie => { ie with ipv4Data := some {} } }

/-- The stages of `initialize` on a node that is up. -/
def initializeStages (p : BusParams) (n : Node) : Except Halt BusNode := do
  let n ← addIpv4Data n
  let n ← p.configurator.setupNetworkLayer p.host true n
  let routerId : Ipv4Address :=
    match p.routerId with
    | .address routerId => routerId
    | .unset => Ipv4Address.UNSPECIFIED_ADDRESS
    | .auto => Ipv4Address.UNSPECIFIED_ADDRESS
  let b ← configureRouterId { node := n, routerId := routerId } p.routerId true
  return b.updateNetmaskRoutes

/-- The link, network and transport layers start. -/
def startLayers (p : BusParams) (b : BusNode) : Except Halt BusNode := do
  let n ← p.configurator.setupNetworkLayer p.host false b.node.startInterfaces
  let b ← configureRouterId { b with node := n } p.routerId false
  return b.updateNetmaskRoutes

/-- The network layer stops before the link layer. -/
def stopLayers (b : BusNode) : BusNode :=
  let n := { b.node with rt := b.node.rt.removeRoutes }
  let n := { n with ift := n.ift.resetInterfaces }
  { b with node := n.stopInterfaces }

/-- All modules crash in one stage, the interface table first. -/
def crashLayers (b : BusNode) : BusNode :=
  let n := { b.node with ift := b.node.ift.resetInterfaces }
  let n := n.stopInterfaces
  { b with node := { n with rt := n.rt.removeRoutes } }

def handleOperation (p : BusParams) (b : BusNode) (op : LifecycleOperation) :
    Except Halt BusNode := do
  let status ← b.status.handleFirstStage op
  let b ←
    match op with
    | .ModuleStartOperation => startLayers p { b with status := status }
    | .ModuleStopOperation => .ok (stopLayers { b with status := status })
    | .ModuleCrashOperation => .ok (crashLayers { b with status := status })
  let status ← b.status.handleLastStage op
  return { b with status := status }

end BusNode

end Configurator

/-! ## Interfaces without data -/

namespace Network

namespace InterfaceTable

/-- No interface has IPv4 data. -/
def Cleared (ift : InterfaceTable) : Prop := ∀ ie ∈ ift, ie.ipv4Data = none

/-- The data of every interface is as it is when it is added. -/
def Plain (ift : InterfaceTable) : Prop :=
  ∀ ie ∈ ift, ∀ data, ie.ipv4Data = some data →
    data.inetAddr = Ipv4Address.UNSPECIFIED_ADDRESS ∧ data.netmask = Ipv4Address.ALLONES_ADDRESS

def names (ift : InterfaceTable) : List String := ift.map NetworkInterface.interfaceName

variable {ift : InterfaceTable}

theorem Cleared.plain (h : ift.Cleared) : ift.Plain := by
  intro ie hie data hdata
  rw [h ie hie] at hdata
  cases hdata

theorem cleared_resetInterfaces (ift : InterfaceTable) : ift.resetInterfaces.Cleared := by
  intro ie hie
  obtain ⟨ie', -, rfl⟩ := List.mem_map.mp hie
  rfl

theorem names_resetInterfaces (ift : InterfaceTable) : ift.resetInterfaces.names = ift.names := by
  simp [names, resetInterfaces]

theorem Cleared.set {entry : Nat} {ie : NetworkInterface} (h : ift.Cleared)
    (hie : ie.ipv4Data = none) : Cleared (ift.set entry ie) := by
  intro ie' hmem
  rcases List.mem_or_eq_of_mem_set hmem with hmem | rfl
  · exact h ie' hmem
  · exact hie

theorem names_set {entry : Nat} {ie ie' : NetworkInterface} (hget : ift[entry]? = some ie)
    (hname : ie'.interfaceName = ie.interfaceName) : names (ift.set entry ie') = ift.names := by
  obtain ⟨hlt, rfl⟩ := List.getElem?_eq_some_iff.mp hget
  unfold names
  rw [List.map_set, hname, ← List.getElem_map NetworkInterface.interfaceName (h := by simpa using hlt)]
  exact List.set_getElem_self _

theorem Cleared.named_ipv4Data (h : ift.Cleared) {name : String} {ie : NetworkInterface}
    (hnamed : ift.named name = some ie) : ie.ipv4Data = none :=
  h ie (List.mem_of_find?_eq_some hnamed)

theorem Cleared.findInterfaceByAddress (h : ift.Cleared) (address : Ipv4Address) :
    ift.findInterfaceByAddress address = none := by
  unfold InterfaceTable.findInterfaceByAddress
  by_cases haddress : Ipv4Address.isUnspecified address = true
  · rw [if_pos haddress]
  · rw [if_neg haddress, List.findIdx?_eq_none_iff]
    intro ie hie
    simp [h ie hie]

end InterfaceTable

theorem RoutingTable.configured_of_plain {ift : InterfaceTable} (h : ift.Plain)
    (netmaskRoutes : String → Bool) : configured netmaskRoutes ift = [] := by
  rw [List.eq_nil_iff_forall_not_mem]
  intro r hr
  obtain ⟨i, ie, hget, hroute⟩ := mem_configured.mp hr
  unfold netmaskRoute at hroute
  cases hdata : ie.ipv4Data with
  | none => simp [hdata] at hroute
  | some data =>
      have hmask := (h ie (List.mem_of_getElem? hget) data hdata).2
      simp [hdata, hmask] at hroute

/-- A rebuild with plain interfaces only drops netmask routes. -/
theorem RoutingTable.contents_updateNetmaskRoutes_of_plain {ift : InterfaceTable} (h : ift.Plain)
    (rt : RoutingTable) :
    (rt.updateNetmaskRoutes ift).contents = rt.contents.filter fun r => !r.isNetmaskRoute := by
  rw [contents_updateNetmaskRoutes, configured_of_plain h]
  rfl

theorem RoutingTable.removeRoutes_contents (rt : RoutingTable) : rt.removeRoutes.contents = [] := by
  unfold removeRoutes
  by_cases hempty : rt.routes.isEmpty = true
  · rw [if_pos hempty, contents, List.isEmpty_iff.mp hempty]
    rfl
  · rw [if_neg hempty]
    rfl

namespace Node

/-- What replacing an interface and notifying the routing table preserve, the
lifecycle operations of the interfaces preserve. -/
theorem setInterfaces_induction {P : Node → Prop}
    (hset : ∀ n entry ie s b, n.ift[entry]? = some ie → P n →
      P (n.withInterface entry { ie with state := s, carrier := b }))
    (hchange : ∀ n entry fieldId, P n → P (n.stateChanged entry fieldId))
    {n : Node} (h : P n) (s : State) (b : Bool) : P (n.setInterfaces s b) := by
  unfold setInterfaces
  generalize List.range n.ift.length = entries
  induction entries generalizing n with
  | nil => exact h
  | cons entry entries ih =>
      apply ih
      have hset' := fun n ie s b => hset n entry ie s b
      have hchange' := fun n fieldId => hchange n entry fieldId
      exact setCarrier_induction hset' hchange' (setState_induction hset' hchange' h s) b

theorem setInterfaces_names (n : Node) (s : State) (b : Bool) :
    (n.setInterfaces s b).ift.names = n.ift.names := by
  apply setInterfaces_induction (P := fun m => m.ift.names = n.ift.names)
  · intro m entry ie s b hget h
    refine (InterfaceTable.names_set hget ?_).trans h
    rfl
  · intro m entry fieldId h
    exact h
  · rfl

theorem setInterfaces_cleared {n : Node} (h : n.ift.Cleared) (s : State) (b : Bool) :
    (n.setInterfaces s b).ift.Cleared := by
  apply setInterfaces_induction (P := fun m => m.ift.Cleared)
  · intro m entry ie s b hget h
    exact h.set (h ie (List.mem_of_getElem? hget))
  · intro m entry fieldId h
    exact h
  · exact h

theorem setInterfaces_contents {n : Node} (h : n.ift.Cleared) (hempty : n.rt.contents = [])
    (s : State) (b : Bool) : (n.setInterfaces s b).rt.contents = [] := by
  refine (setInterfaces_induction (P := fun m => m.ift.Cleared ∧ m.rt.contents = []) ?_ ?_
    ⟨h, hempty⟩ s b).2
  · intro m entry ie s b hget h
    exact ⟨h.1.set (h.1 ie (List.mem_of_getElem? hget)), h.2⟩
  · intro m entry fieldId h
    refine ⟨h.1, ?_⟩
    rw [stateChanged_contents, h.2, RoutingTable.notified, RoutingTable.configured_of_plain h.1.plain]
    cases m.ift[entry]? with
    | none => rfl
    | some ie => cases hup : ie.isUp <;> simp [hup, Library.insertAll]

end Node

end Network

namespace Configurator

open Library Network

/-! ## The law of a restart -/

def isLocalWlanRoute (r : RouteData) : Bool :=
  r.sourceType == .MANUAL && r.destination == Ipv4Address.ofDBytes 192 168 0 0 &&
    r.netmask == Ipv4Address.ofDBytes 255 255 0 0

/-- A started bus is configured as it was after `initialize`. -/
structure Restarted (p : BusParams) (b₀ b' : BusNode) : Prop where
  addresses : ∀ name ∈ p.configurator.interfaces,
    addressOf b'.node.ift name = addressOf b₀.node.ift name
  routes : ∃ w, b'.node.ift.findInterfaceByName "wlan0" = some w ∧
    (b'.node.rt.contents.filter fun r => r.isDefault) = [HostAutoConfiguratorM.defaultRoute w] ∧
    b'.node.rt.contents.filter isLocalWlanRoute = [HostAutoConfiguratorM.localWlanRoute w]

/-- Every start among the operations completes, and restarts the bus. -/
def RestartLaw (p : BusParams) (b₀ : BusNode) (ops : List LifecycleOperation) : Prop :=
  ∀ xs ys, ops = xs ++ .ModuleStartOperation :: ys →
    ∃ b b', run (BusNode.handleOperation p) b₀ xs = .ok b ∧
      b.handleOperation p .ModuleStartOperation = .ok b' ∧ Restarted p b₀ b'

namespace BusNode

variable {p : BusParams} {b₀ b b' : BusNode} {op : LifecycleOperation}

/-- A bus that is down, with what it keeps from before. -/
structure Down (b₀ b : BusNode) : Prop where
  status : b.status = .DOWN
  cleared : b.node.ift.Cleared
  contents : b.node.rt.contents = []
  names : b.node.ift.names = b₀.node.ift.names
  routerId : b.routerId = b₀.routerId

/-! ## Going down -/

theorem down_stopLayers (b : BusNode) : Down b { stopLayers b with status := .DOWN } where
  status := rfl
  cleared := Node.setInterfaces_cleared (InterfaceTable.cleared_resetInterfaces _) _ _
  contents := Node.setInterfaces_contents (InterfaceTable.cleared_resetInterfaces _)
    (RoutingTable.removeRoutes_contents _) _ _
  names := (Node.setInterfaces_names _ _ _).trans (InterfaceTable.names_resetInterfaces _)
  routerId := rfl

theorem down_crashLayers (b : BusNode) : Down b { crashLayers b with status := .DOWN } where
  status := rfl
  cleared := Node.setInterfaces_cleared (InterfaceTable.cleared_resetInterfaces _) _ _
  contents := RoutingTable.removeRoutes_contents _
  names := (Node.setInterfaces_names _ _ _).trans (InterfaceTable.names_resetInterfaces _)
  routerId := rfl

theorem Down.trans {b₁ : BusNode} (h : Down b₁ b) (hnames : b₁.node.ift.names = b₀.node.ift.names)
    (hid : b₁.routerId = b₀.routerId) : Down b₀ b :=
  ⟨h.status, h.cleared, h.contents, h.names.trans hnames, h.routerId.trans hid⟩

theorem handleOperation_down (hup : b.status = .UP) (hop : op ≠ .ModuleStartOperation) :
    ∃ b', b.handleOperation p op = .ok b' ∧ Down b b' := by
  cases op with
  | ModuleStartOperation => exact absurd rfl hop
  | ModuleStopOperation =>
      have hok : b.handleOperation p .ModuleStopOperation =
          .ok { stopLayers b with status := .DOWN } := by
        simp [handleOperation, NodeStatus.handleFirstStage, NodeStatus.handleLastStage, hup,
          stopLayers, bind, Except.bind, pure, Except.pure]
      exact ⟨_, hok, down_stopLayers b⟩
  | ModuleCrashOperation =>
      have hok : b.handleOperation p .ModuleCrashOperation =
          .ok { crashLayers b with status := .DOWN } := by
        simp [handleOperation, NodeStatus.handleFirstStage, NodeStatus.handleLastStage, hup,
          crashLayers, bind, Except.bind, pure, Except.pure]
      exact ⟨_, hok, down_crashLayers b⟩

theorem up_of_handleOperation (h : b.handleOperation p op = .ok b')
    (hop : op ≠ .ModuleStartOperation) :
    b.status = .UP := by
  obtain ⟨status, hfirst, -⟩ := bind_ok_inv h
  cases op with
  | ModuleStartOperation => exact absurd rfl hop
  | ModuleStopOperation =>
      by_cases hup : b.status = .UP
      · exact hup
      · simp [NodeStatus.handleFirstStage, hup] at hfirst
  | ModuleCrashOperation =>
      by_cases hup : b.status = .UP
      · exact hup
      · simp [NodeStatus.handleFirstStage, hup] at hfirst

/-! ## Starting -/

theorem startLayers_inv (h : b.handleOperation p .ModuleStartOperation = .ok b') :
    b.status = .DOWN ∧ ∃ b₁, startLayers p { b with status := .GOING_UP } = .ok b₁ := by
  obtain ⟨status, hfirst, hrest⟩ := bind_ok_inv h
  obtain ⟨b₁, hlayers, -⟩ := bind_ok_inv hrest
  by_cases hdown : b.status = .DOWN
  · simp only [NodeStatus.handleFirstStage, hdown, if_true, Except.ok.injEq] at hfirst
    subst hfirst
    exact ⟨hdown, b₁, hlayers⟩
  · simp [NodeStatus.handleFirstStage, hdown] at hfirst

/-- The first interface that is listed has no data on a bus that was down, and there is
none to take a router id either. -/
theorem Down.start_inv (hdown : Down b₀ b)
    (h : b.handleOperation p .ModuleStartOperation = .ok b') :
    p.configurator.interfaces = [] ∧ b₀.routerId.isUnspecified = true := by
  obtain ⟨-, b₁, hlayers⟩ := startLayers_inv h
  obtain ⟨n, hsetup, hlayers⟩ := bind_ok_inv hlayers
  obtain ⟨b₂, hrouter, -⟩ := bind_ok_inv hlayers
  have hcleared : b.node.startInterfaces.ift.Cleared :=
    Node.setInterfaces_cleared hdown.cleared _ _
  obtain ⟨-, -, rt, hloop⟩ := HostAutoConfiguratorM.setupNetworkLayer_inv hsetup
  have hall := hloop p.configurator.interfaces
  rw [hsetup] at hall
  obtain ⟨s, hassign, hnode⟩ := map_ok_inv hall.symm
  have hnone : p.configurator.interfaces = [] := by
    rw [List.eq_nil_iff_forall_not_mem]
    intro name hmem
    obtain ⟨ie, hnamed, hdata, -⟩ := ready_of_assignInterfaces hassign name hmem
    exact hdata (hcleared.named_ipv4Data hnamed)
  refine ⟨hnone, ?_⟩
  rw [hnone] at hassign
  obtain rfl := Except.ok.inj hassign
  subst hnode
  by_cases hunspecified : b.routerId.isUnspecified = true
  · rw [← hdown.routerId]
    exact hunspecified
  · have hfind : InterfaceTable.findInterfaceByAddress b.node.startInterfaces.ift b.routerId = none :=
      hcleared.findInterfaceByAddress _
    unfold configureRouterId at hrouter
    simp only [hunspecified, hfind, Bool.false_eq_true, if_false] at hrouter
    cases hlo : InterfaceTable.findFirstLoopbackInterface b.node.startInterfaces.ift with
    | none => simp [hlo] at hrouter
    | some entry =>
        simp only [hlo] at hrouter
        cases hget : b.node.startInterfaces.ift[entry]? with
        | none => simp [hget] at hrouter
        | some lo0 =>
            have hdata := hcleared lo0 (List.mem_of_getElem? hget)
            simp [hget, hdata] at hrouter

theorem addRoutes_of_empty {rt : RoutingTable} (hempty : rt.contents = []) (w : Nat) :
    ∃ rt₁ rt₂, rt.addRoute (HostAutoConfiguratorM.defaultRoute w) = .ok rt₁ ∧
      rt₁.addRoute (HostAutoConfiguratorM.localWlanRoute w) = .ok rt₂ ∧
      rt₂.contents =
        [HostAutoConfiguratorM.localWlanRoute w, HostAutoConfiguratorM.defaultRoute w] := by
  have hroutes : rt.routes = [] := List.map_eq_nil_iff.mp hempty
  refine ⟨rt.insertRoute (HostAutoConfiguratorM.defaultRoute w),
    (rt.insertRoute (HostAutoConfiguratorM.defaultRoute w)).insertRoute
      (HostAutoConfiguratorM.localWlanRoute w), ?_, ?_, ?_⟩
  · have hnone : rt.getDefaultRoute = none := by simp [RoutingTable.getDefaultRoute, hroutes]
    have hzero : Ipv4Address.ofDBytes 0 0 0 0 = 0#32 := by decide
    have hmask : Ipv4Address.isValidNetmask 0#32 = true := by decide
    have hunspec : Ipv4Address.isUnspecified 0#32 = true := rfl
    simp [RoutingTable.addRoute, RoutingTable.internalAddRoute, hnone,
      HostAutoConfiguratorM.defaultRoute, hzero, hmask, hunspec]
  · have hmask : Ipv4Address.isValidNetmask (Ipv4Address.ofDBytes 255 255 0 0) = true := by
      decide +kernel
    have hdest : Ipv4Address.ofDBytes 192 168 0 0 &&& Ipv4Address.ofDBytes 255 255 0 0 ≠ 0#32 := by
      decide
    have hhost : Ipv4Address.ofDBytes 192 168 0 0 &&& ~~~Ipv4Address.ofDBytes 255 255 0 0 = 0#32 := by
      decide
    have hunspec : Ipv4Address.isUnspecified (Ipv4Address.ofDBytes 255 255 0 0) = false := by decide
    simp [RoutingTable.addRoute, RoutingTable.internalAddRoute,
      HostAutoConfiguratorM.localWlanRoute, hmask, hdest, hhost, hunspec]
  · rw [RoutingTable.contents_insertRoute, RoutingTable.contents_insertRoute, hempty]
    rfl

theorem highestAddress_of_cleared {ift : InterfaceTable} (h : ift.Cleared)
    (routerId : Ipv4Address) :
    highestAddress ift routerId = routerId := by
  unfold highestAddress
  induction ift with
  | nil => rfl
  | cons ie ift ih =>
      have hie := h ie List.mem_cons_self
      have hstep : (if ie.loopback then routerId
          else
            match ie.ipv4Data with
            | some data => if routerId < data.inetAddr then data.inetAddr else routerId
            | none => routerId) = routerId := by
        rw [hie]
        cases ie.loopback <;> rfl
      rw [List.foldl_cons, hstep]
      exact ih fun ie' hmem => h ie' (List.mem_cons_of_mem _ hmem)

/-- What the set-up needs besides the interfaces that are listed. -/
structure Acceptable (p : BusParams) (b : BusNode) : Prop where
  range : Ipv4Address.maskedAddrAreEqual (p.configurator.addressBase + p.host.getId)
    p.configurator.addressBase p.configurator.netmask = true
  rangeWlan : Ipv4Address.maskedAddrAreEqual (p.configurator.addressBaseWlan + p.host.getId)
    p.configurator.addressBaseWlan p.configurator.netmaskWlan = true
  wlan : ∃ w, b.node.ift.findInterfaceByName "wlan0" = some w

/-- A bus without listed interfaces and without a router id starts again. -/
theorem Down.start (hdown : Down b₀ b) (haccept : Acceptable p b₀)
    (hnone : p.configurator.interfaces = []) (hunspecified : b₀.routerId.isUnspecified = true) :
    ∃ b', b.handleOperation p .ModuleStartOperation = .ok b' ∧ Restarted p b₀ b' ∧
      b'.status = .UP ∧ b'.node.ift.names = b₀.node.ift.names ∧ b'.routerId = b₀.routerId := by
  obtain ⟨w, hw⟩ := haccept.wlan
  have hnames : b.node.startInterfaces.ift.names = b₀.node.ift.names :=
    (Node.setInterfaces_names _ _ _).trans hdown.names
  have hcleared : b.node.startInterfaces.ift.Cleared := Node.setInterfaces_cleared hdown.cleared _ _
  have hwlan : InterfaceTable.findInterfaceByName b.node.startInterfaces.ift "wlan0" = some w := by
    rw [InterfaceTable.findInterfaceByName_of_names hnames, hw]
  obtain ⟨rt₁, rt₂, hdefault, hlocal, hcontents⟩ := addRoutes_of_empty
    (Node.setInterfaces_contents hdown.cleared hdown.contents .UP true) w
  have hsetup : p.configurator.setupNetworkLayer p.host false b.node.startInterfaces =
      .ok { b.node.startInterfaces with rt := rt₂ } := by
    unfold HostAutoConfiguratorM.setupNetworkLayer
    simp only [haccept.range, haccept.rangeWlan, Bool.not_true, Bool.false_eq_true, if_false, hwlan,
      hnone, assignInterfaces]
    rw [show b.node.startInterfaces.rt.addRoute (HostAutoConfiguratorM.defaultRoute w) = .ok rt₁ from
      hdefault]
    simp [hlocal, bind, Except.bind, pure, Except.pure]
  have hrouter : ∀ status, configureRouterId
      { b with status := status, node := { b.node.startInterfaces with rt := rt₂ } } p.routerId false =
        .ok { b with status := status, node := { b.node.startInterfaces with rt := rt₂ } } := by
    intro status
    have hid : b.routerId.isUnspecified = true := by
      rw [hdown.routerId]
      exact hunspecified
    unfold configureRouterId
    simp only [hid, if_true]
    cases p.routerId with
    | unset => rfl
    | address routerId => rfl
    | auto => rw [highestAddress_of_cleared hcleared]
  have hok : b.handleOperation p .ModuleStartOperation =
      .ok { (updateNetmaskRoutes
        { b with node := { b.node.startInterfaces with rt := rt₂ } }) with status := .UP } := by
    simp [handleOperation, startLayers, NodeStatus.handleFirstStage, NodeStatus.handleLastStage,
      hdown.status, hsetup, hrouter, updateNetmaskRoutes, bind, Except.bind, pure, Except.pure]
  have hroutes : (rt₂.updateNetmaskRoutes b.node.startInterfaces.ift).contents =
      [HostAutoConfiguratorM.localWlanRoute w, HostAutoConfiguratorM.defaultRoute w] := by
    rw [RoutingTable.contents_updateNetmaskRoutes_of_plain hcleared.plain, hcontents]
    rfl
  refine ⟨_, hok, ⟨?_, w, hwlan, ?_, ?_⟩, rfl, hnames, hdown.routerId⟩
  · intro name hmem
    rw [hnone] at hmem
    cases hmem
  · exact (congrArg (List.filter _) hroutes).trans rfl
  · exact (congrArg (List.filter _) hroutes).trans rfl

/-! ## Runs -/

/-- A bus between two operations. -/
def Between (b₀ b : BusNode) : Prop :=
  (b.status = .UP ∧ b.node.ift.names = b₀.node.ift.names ∧ b.routerId = b₀.routerId) ∨ Down b₀ b

/-- Where starts complete, every admitted sequence that a start comes after takes the bus
down. -/
theorem Between.run (haccept : Acceptable p b₀) (hnone : p.configurator.interfaces = [])
    (hunspecified : b₀.routerId.isUnspecified = true) {xs ys : List LifecycleOperation}
    (hadmits : NodeStatus.admits b.status (xs ++ .ModuleStartOperation :: ys) = true)
    (h : Between b₀ b) : ∃ b', Library.run (handleOperation p) b xs = .ok b' ∧ Down b₀ b' := by
  induction xs generalizing b with
  | nil =>
      rcases h with ⟨hup, -, -⟩ | hdown
      · rw [List.nil_append, hup] at hadmits
        cases hadmits
      · exact ⟨b, rfl, hdown⟩
  | cons op xs ih =>
      have hstep : ∃ b₁, b.handleOperation p op = .ok b₁ ∧ Between b₀ b₁ ∧
          NodeStatus.admits b₁.status (xs ++ .ModuleStartOperation :: ys) = true := by
        by_cases hop : op = .ModuleStartOperation
        · subst hop
          rcases h with ⟨hup, -, -⟩ | hdown
          · rw [hup] at hadmits
            cases hadmits
          · obtain ⟨b₁, hok, -, hup, hnames, hid⟩ := hdown.start haccept hnone hunspecified
            rw [hdown.status] at hadmits
            exact ⟨b₁, hok, .inl ⟨hup, hnames, hid⟩, by rw [hup]; exact hadmits⟩
        · rcases h with ⟨hup, hnames, hid⟩ | hdown
          · obtain ⟨b₁, hok, hdown⟩ := handleOperation_down (p := p) hup hop
            have hadmits' : NodeStatus.admits .DOWN (xs ++ .ModuleStartOperation :: ys) = true := by
              rw [hup] at hadmits
              cases op with
              | ModuleStartOperation => exact absurd rfl hop
              | ModuleStopOperation => exact hadmits
              | ModuleCrashOperation => exact hadmits
            exact ⟨b₁, hok, .inr (hdown.trans hnames hid), by rw [hdown.status]; exact hadmits'⟩
          · rw [hdown.status] at hadmits
            cases op with
            | ModuleStartOperation => exact absurd rfl hop
            | ModuleStopOperation => cases hadmits
            | ModuleCrashOperation => cases hadmits
      obtain ⟨b₁, hok, hbetween, hrest⟩ := hstep
      obtain ⟨b', hrun, hdown⟩ := ih hrest hbetween
      exact ⟨b', by rw [run_cons_ok _ hok, hrun], hdown⟩

/-- A bus that was up and has run operations without a start is down, or where it was. -/
theorem down_of_run {xs : List LifecycleOperation} (hup : b₀.status = .UP)
    (hrun : Library.run (handleOperation p) b₀ xs = .ok b) (hxs : .ModuleStartOperation ∉ xs) :
    b = b₀ ∨ Down b₀ b := by
  cases xs with
  | nil => exact .inl (Except.ok.inj hrun).symm
  | cons op xs =>
      rw [List.mem_cons, not_or] at hxs
      obtain ⟨b₁, hfirst, hrest⟩ := run_cons_inv hrun
      obtain ⟨b₁', hfirst', hdown⟩ := handleOperation_down (p := p) hup (Ne.symm hxs.1)
      obtain rfl := Except.ok.inj (hfirst.symm.trans hfirst')
      cases xs with
      | nil =>
          obtain rfl := Except.ok.inj hrest
          exact .inr hdown
      | cons op' xs =>
          rw [List.mem_cons, not_or] at hxs
          obtain ⟨b₂, hsecond, -⟩ := run_cons_inv hrest
          have hstatus := up_of_handleOperation hsecond (Ne.symm hxs.2.1)
          rw [hdown.status] at hstatus
          cases hstatus

/-! ## After `initialize` -/

theorem configureRouterId_inv {initializing : Bool} {par : RouterIdPar}
    (h : b.configureRouterId par initializing = .ok b') :
    b'.status = b.status ∧ (b'.routerId.isUnspecified = true → b'.node = b.node) := by
  unfold configureRouterId at h
  by_cases hunspecified : b.routerId.isUnspecified = true
  · simp only [hunspecified, if_true] at h
    cases par with
    | auto => obtain rfl := Except.ok.inj h; exact ⟨rfl, fun _ => rfl⟩
    | unset => obtain rfl := Except.ok.inj h; exact ⟨rfl, fun _ => rfl⟩
    | address routerId => obtain rfl := Except.ok.inj h; exact ⟨rfl, fun _ => rfl⟩
  · simp only [hunspecified, Bool.false_eq_true, if_false] at h
    split at h
    · obtain rfl := Except.ok.inj h
      exact ⟨rfl, fun _ => rfl⟩
    · split at h
      · cases h
      · split at h
        · cases h
        · split at h
          · cases h
          · obtain rfl := Except.ok.inj h
            exact ⟨rfl, fun hid => absurd hid hunspecified⟩

theorem wlan_of_setup {p : HostAutoConfiguratorM} {host : HostModule} {initializing : Bool}
    {n n' : Node} (h : p.setupNetworkLayer host initializing n = .ok n') :
    ∃ w, n.ift.findInterfaceByName "wlan0" = some w := by
  obtain ⟨hrange, hrangeWlan, -⟩ := HostAutoConfiguratorM.setupNetworkLayer_inv h
  cases hwlan : n.ift.findInterfaceByName "wlan0" with
  | none => simp [HostAutoConfiguratorM.setupNetworkLayer, hrange, hrangeWlan, hwlan] at h
  | some w => exact ⟨w, rfl⟩

/-- What `initialize` leaves on a bus without listed interfaces and without a router id. -/
theorem acceptable_of_initializeStages {n : Node} (h : initializeStages p n = .ok b₀)
    (hnone : p.configurator.interfaces = []) (hunspecified : b₀.routerId.isUnspecified = true) :
    Acceptable p b₀ := by
  obtain ⟨n₁, -, hrest⟩ := bind_ok_inv h
  obtain ⟨n₂, hsetup, hrest⟩ := bind_ok_inv hrest
  obtain ⟨b₁, hrouter, hlast⟩ := bind_ok_inv hrest
  obtain rfl := Except.ok.inj hlast
  obtain ⟨hrange, hrangeWlan, rt, hloop⟩ := HostAutoConfiguratorM.setupNetworkLayer_inv hsetup
  have hall := hloop p.configurator.interfaces
  rw [hsetup, hnone] at hall
  have hnode : n₂ = { n₁ with rt := rt } := Except.ok.inj hall
  have hb₁ : b₁.node = n₂ := (configureRouterId_inv hrouter).2 hunspecified
  refine ⟨hrange, hrangeWlan, ?_⟩
  obtain ⟨w, hw⟩ := wlan_of_setup hsetup
  refine ⟨w, ?_⟩
  change InterfaceTable.findInterfaceByName b₁.node.ift "wlan0" = some w
  rw [hb₁, hnode]
  exact hw

theorem status_of_initializeStages {n : Node} (h : initializeStages p n = .ok b₀) :
    b₀.status = .UP := by
  obtain ⟨n₁, -, hrest⟩ := bind_ok_inv h
  obtain ⟨n₂, -, hrest⟩ := bind_ok_inv hrest
  obtain ⟨b₁, hrouter, hlast⟩ := bind_ok_inv hrest
  obtain rfl := Except.ok.inj hlast
  exact (configureRouterId_inv hrouter).1

end BusNode

/-- A bus comes back as it was exactly if it is never started again, or if no interface
is listed and there is no router id. -/
theorem restartLaw_iff {p : BusParams} {n : Node} {b₀ : BusNode} {ops : List LifecycleOperation}
    (hinit : BusNode.initializeStages p n = .ok b₀) (hadmits : NodeStatus.admits .UP ops = true) :
    RestartLaw p b₀ ops ↔
      .ModuleStartOperation ∉ ops ∨
        (p.configurator.interfaces = [] ∧ b₀.routerId.isUnspecified = true) := by
  have hup := BusNode.status_of_initializeStages hinit
  constructor
  · intro hlaw
    by_cases hstart : LifecycleOperation.ModuleStartOperation ∈ ops
    · obtain ⟨xs, ys, hsplit, hxs⟩ := List.eq_append_cons_of_mem hstart
      obtain ⟨b, b', hrun, hok, -⟩ := hlaw xs ys hsplit
      rcases BusNode.down_of_run hup hrun hxs with rfl | hdown
      · have hdown := (BusNode.startLayers_inv hok).1
        rw [hup] at hdown
        cases hdown
      · exact .inr (hdown.start_inv hok)
    · exact .inl hstart
  · rintro (hnever | ⟨hnone, hunspecified⟩) xs ys rfl
    · exact absurd (by simp) hnever
    · have haccept := BusNode.acceptable_of_initializeStages hinit hnone hunspecified
      rw [← hup] at hadmits
      obtain ⟨b, hrun, hdown⟩ := BusNode.Between.run haccept hnone hunspecified hadmits
        (.inl ⟨hup, rfl, rfl⟩)
      obtain ⟨b', hok, hrestarted, -⟩ := hdown.start haccept hnone hunspecified
      exact ⟨b, b', hrun, hok, hrestarted⟩

/-! ## A bus that is stopped and started -/

def sampleBusParams : BusParams := { configurator := sampleBusConfigurator, host := sampleHost }

def freshNode : Node where
  ift := (sampleNode ["cellular", "wlan0"]).ift.resetInterfaces
  rt := {}

theorem sampleBusParams_initializeStages :
    ∃ b₀, BusNode.initializeStages sampleBusParams freshNode = .ok b₀ :=
  ⟨_, rfl⟩

theorem restartLaw_sample :
    ∃ b₀, BusNode.initializeStages sampleBusParams freshNode = .ok b₀ ∧
      (RestartLaw sampleBusParams b₀
          [.ModuleStopOperation, .ModuleStartOperation, .ModuleCrashOperation] ↔
        LifecycleOperation.ModuleStartOperation ∉
            [.ModuleStopOperation, .ModuleStartOperation, .ModuleCrashOperation] ∨
          (sampleBusParams.configurator.interfaces = [] ∧ b₀.routerId.isUnspecified = true)) := by
  obtain ⟨b₀, hinit⟩ := sampleBusParams_initializeStages
  exact ⟨b₀, hinit, restartLaw_iff hinit rfl⟩

/-- The interfaces of a bus that was stopped have no data when it starts again. -/
theorem not_restartLaw_after_stop :
    ∃ b₀, BusNode.initializeStages sampleBusParams freshNode = .ok b₀ ∧
      ¬ RestartLaw sampleBusParams b₀ [.ModuleStopOperation, .ModuleStartOperation] := by
  obtain ⟨b₀, hinit⟩ := sampleBusParams_initializeStages
  refine ⟨b₀, hinit, ?_⟩
  intro hlaw
  obtain ⟨b, b', hrun, hok, -⟩ := hlaw [.ModuleStopOperation] [] rfl
  have hup := BusNode.status_of_initializeStages hinit
  rcases BusNode.down_of_run hup hrun (by decide) with rfl | hdown
  · have hdown := (BusNode.startLayers_inv hok).1
    rw [hup] at hdown
    cases hdown
  · exact absurd (hdown.start_inv hok).1 (by decide)

end Configurator

end MultiTechBus
