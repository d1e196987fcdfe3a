import MultiTechBus.Network.Node

/-! # The data collection application of a bus

The control function of `AppBusDataCollection` subscribes to the WLAN agent on its
first call and, on a bus, points the default route at the WLAN or the cellular
interface, as the last association signal says.
-/

namespace MultiTechBus.App

open MultiTechBus.Library MultiTechBus.Network

structure AppBusDataCollection where
  /-- The vehicle id that the mobility module reports. -/
  externalId : String
  /-- The module path of the WLAN agent leads to a module. -/
  wlanAgentFound : Bool := true
  ConnectionToAP : Bool := false
  haveForwarded : Bool := false
deriving DecidableEq, Repr

namespace AppBusDataCollection

/-- `vehicle.rfind("buses_cosenza.", 0) == 0`. -/
def isBus (app : AppBusDataCollection) : Bool :=
  "buses_cosenza.".toList.isPrefixOf app.externalId.toList

/-- `receiveSignal(long)` for `stateAssociationSignal`. -/
def receiveSignal (app : AppBusDataCollection) (l : Int) : AppBusDataCollection :=
  { app with ConnectionToAP := l ≠ 0 }

/-- The first part of `controlInterface`: subscribe unless that was done. -/
def subscribeToAgent (app : AppBusDataCollection) : AppBusDataCollection :=
  if !app.haveForwarded && app.wlanAgentFound then { app with haveForwarded := true } else app

end AppBusDataCollection

/-- The backward loop that deletes the routes with an unspecified destination,
called with the number of routes. -/
def clearDefaultRoutes : Nat → RoutingTable → Except Halt RoutingTable
  | 0, rt => .ok rt
  | i + 1, rt =>
      match rt.getRoute i with
      | none => .error .nullPointer
      | some route =>
          clearDefaultRoutes i
            (if route.destination.isUnspecified then rt.deleteRoute route else rt)

/-- The route object that a branch of `controlInterface` creates. -/
def defaultRoute (interface : Option Nat) (gateway : Ipv4Address) : RouteData :=
  { sourceType := .MANUAL
    destination := Ipv4Address.ofDBytes 0 0 0 0
    netmask := Ipv4Address.ofDBytes 0 0 0 0
    gateway := gateway
    interface := interface }

def wlanGateway : Ipv4Address := Ipv4Address.ofDBytes 192 168 0 1

def cellularGateway : Ipv4Address := Ipv4Address.ofDBytes 10 0 0 1

/-- What the two branches of `controlInterface` do with their own values: set the
state of the cellular interface, drop the default routes, add a new one. -/
def switchPath (n : Node) (celularState : State) (name : String) (gateway : Ipv4Address) :
    Except Halt Node :=
  match n.ift.findInterfaceByName "cellular" with
  | none => .error .nullPointer
  | some celular => do
      let n := n.setState celular celularState
      let rt ← clearDefaultRoutes n.rt.getNumRoutes n.rt
      let rt ← rt.addRoute (defaultRoute (n.ift.findInterfaceByName name) gateway)
      return { n with rt := rt }

/-- `controlInterface`, up to the packet it sends at the end. -/
def controlInterface (app : AppBusDataCollection) (n : Node) :
    Except Halt (AppBusDataCollection × Node) :=
  let app := app.subscribeToAgent
  if app.isBus then
    if app.ConnectionToAP then do
      let n ← switchPath n .DOWN "wlan0" wlanGateway
      return (app, n)
    else do
      let n ← switchPath n .UP "cellular" cellularGateway
      return (app, n)
  else .ok (app, n)

/-! ## The deletion loop -/

/-- The route leads somewhere in particular. -/
def specified (r : RouteData) : Bool := !r.destination.isUnspecified

private theorem deleteRoute_routes {rt : RoutingTable} (h : rt.WellFormed) {i : Nat} {route : Route}
    (hget : rt.routes[i]? = some route) :
    (rt.deleteRoute route).routes = rt.routes.eraseIdx i := by
  obtain ⟨hlt, rfl⟩ := List.getElem?_eq_some_iff.mp hget
  have hany : rt.routes.any (fun e => e.id == rt.routes[i].id) = true :=
    List.any_eq_true.mpr ⟨_, List.getElem_mem hlt, by simp⟩
  unfold RoutingTable.deleteRoute RoutingTable.internalRemoveRoute
  rw [if_pos hany]
  refine List.eraseP_eq_eraseIdx.trans ?_
  have hfind : rt.routes.findIdx? (fun e => e.id == rt.routes[i].id) = some i := by
    rw [List.findIdx?_eq_some_iff_getElem]
    refine ⟨hlt, by simp, fun j hj => ?_⟩
    have hne := List.pairwise_iff_getElem.mp h.nodup j i (by simp; omega) (by simpa using hlt) hj
    simpa using hne
  simp [hfind]

theorem clearDefaultRoutes_ok (i : Nat) {rt : RoutingTable} (h : rt.WellFormed)
    (hi : i ≤ rt.routes.length) :
    ∃ rt', clearDefaultRoutes i rt = .ok rt' ∧ rt'.WellFormed ∧
      rt'.useAdminDist = rt.useAdminDist ∧ rt'.netmaskRoutes = rt.netmaskRoutes ∧
      rt'.routes = (rt.routes.take i).filter (fun r => specified r.toRouteData) ++
        rt.routes.drop i := by
  induction i generalizing rt with
  | zero => exact ⟨rt, rfl, h, rfl, rfl, by simp⟩
  | succ i ih =>
      have hlt : i < rt.routes.length := hi
      have hget : rt.routes[i]? = some rt.routes[i] := List.getElem?_eq_getElem hlt
      have htake : rt.routes.take (i + 1) = rt.routes.take i ++ [rt.routes[i]] :=
        List.take_succ_eq_append_getElem hlt
      unfold clearDefaultRoutes RoutingTable.getRoute
      rw [hget]
      by_cases hdest : rt.routes[i].destination.isUnspecified = true
      · -- the loop goes on below the erased index, so the shift above it does not matter
        have herase := deleteRoute_routes h hget
        have hlen := List.length_eraseIdx_of_lt hlt
        obtain ⟨rt', hok, hwf, hdist, hnames, hroutes⟩ :=
          ih (h.deleteRoute rt.routes[i]) (by rw [herase]; omega)
        refine ⟨rt', by simpa [hdest] using hok, hwf, by simpa using hdist, by simpa using hnames, ?_⟩
        rw [hroutes, herase, htake, List.eraseIdx_eq_take_drop_succ,
          List.take_append_of_le_length (by simp; omega), List.take_take, Nat.min_self,
          List.drop_left' (by simp; omega), List.filter_append]
        simp [specified, hdest]
      · obtain ⟨rt', hok, hwf, hdist, hnames, hroutes⟩ := ih h (Nat.le_of_lt hlt)
        refine ⟨rt', by simpa [hdest] using hok, hwf, hdist, hnames, ?_⟩
        rw [hroutes, htake, List.filter_append, List.drop_eq_getElem_cons hlt]
        simp [specified, hdest]

/-- The loop of `controlInterface` keeps the routes with a specified destination. -/
theorem clearDefaultRoutes_spec {rt : RoutingTable} (h : rt.WellFormed) :
    ∃ rt', clearDefaultRoutes rt.getNumRoutes rt = .ok rt' ∧ rt'.WellFormed ∧
      rt'.useAdminDist = rt.useAdminDist ∧ rt'.netmaskRoutes = rt.netmaskRoutes ∧
      rt'.contents = rt.contents.filter specified := by
  obtain ⟨rt', hok, hwf, hdist, hnames, hroutes⟩ := clearDefaultRoutes_ok rt.routes.length h le_rfl
  refine ⟨rt', hok, hwf, hdist, hnames, ?_⟩
  unfold RoutingTable.contents
  rw [hroutes, List.filter_map]
  simp [Function.comp_def]

/-! ## The new default route -/

@[simp] theorem defaultRoute_netmask (interface : Option Nat) (gateway : Ipv4Address) :
    (defaultRoute interface gateway).netmask = 0#32 := rfl

@[simp] theorem defaultRoute_destination (interface : Option Nat) (gateway : Ipv4Address) :
    (defaultRoute interface gateway).destination = 0#32 := rfl

theorem defaultRoute_masked (interface : Option Nat) (gateway : Ipv4Address) :
    (defaultRoute interface gateway).Masked := by
  simp [RouteData.Masked]

theorem defaultRoute_isDefault (interface : Option Nat) (gateway : Ipv4Address) :
    (defaultRoute interface gateway).isDefault = true := rfl

theorem defaultRoute_not_specified (interface : Option Nat) (gateway : Ipv4Address) :
    specified (defaultRoute interface gateway) = false := rfl

/-- A default route is better than no route that leads somewhere in particular. -/
theorem not_routeLT_of_isDefault {u : Bool} {r b : RouteData} (hr : r.isDefault = true)
    (hb : b.Masked) (hspec : specified b = true) : ¬ RouteLT u r b := by
  rw [RouteData.isDefault, Ipv4Address.isUnspecified_iff] at hr
  rw [routeLT_iff, hr]
  rintro (hlt | ⟨hmask, -⟩)
  · exact absurd hlt (BitVec.not_lt_zero)
  · have hdef : b.isDefault = true := Ipv4Address.isUnspecified_iff.mpr hmask.symm
    simp [specified, hb.destination_of_isDefault hdef] at hspec

theorem getDefaultRoute_eq_none {rt : RoutingTable} (h : rt.WellFormed)
    (hspec : ∀ r ∈ rt.contents, specified r = true) : rt.getDefaultRoute = none := by
  unfold RoutingTable.getDefaultRoute
  rw [List.find?_eq_none]
  intro e he
  have hmem : e.toRouteData ∈ rt.contents :=
    List.mem_map_of_mem (List.mem_reverse.mp ((List.takeWhile_sublist _).subset he))
  have hdef := List.all_eq_true.mp List.all_takeWhile e he
  have hdest := (h.masked _ hmem).destination_of_isDefault hdef
  have hlead := hspec _ hmem
  simp [specified, hdest] at hlead

/-- Where no default route is left, a new one over an interface goes last. -/
theorem addRoute_defaultRoute {rt : RoutingTable} (h : rt.WellFormed)
    (hspec : ∀ r ∈ rt.contents, specified r = true) (i : Nat) (gateway : Ipv4Address) :
    rt.addRoute (defaultRoute (some i) gateway) =
        .ok (rt.insertRoute (defaultRoute (some i) gateway)) ∧
      (rt.insertRoute (defaultRoute (some i) gateway)).contents =
        rt.contents ++ [defaultRoute (some i) gateway] := by
  refine ⟨?_, ?_⟩
  · unfold RoutingTable.addRoute RoutingTable.internalAddRoute
    rw [getDefaultRoute_eq_none h hspec]
    have hmask : Ipv4Address.isValidNetmask 0#32 = true := by decide
    have hunspec : Ipv4Address.isUnspecified 0#32 = true := rfl
    have hie : (defaultRoute (some i) gateway).interface = some i := rfl
    simp [hmask, hunspec, hie]
  · rw [RoutingTable.contents_insertRoute]
    exact orderedInsert_of_forall_not_lt fun b hb =>
      not_routeLT_of_isDefault (defaultRoute_isDefault _ _) (h.masked b hb) (hspec b hb)

theorem getDefaultRoute_of_last {rt : RoutingTable} {l : List RouteData} {r : RouteData}
    (hcontents : rt.contents = l ++ [r]) (hr : r.isDefault = true) :
    ∃ route, rt.getDefaultRoute = some route ∧ route.toRouteData = r := by
  obtain ⟨routes, last, hroutes, -, hlast⟩ := List.map_eq_append_iff.mp hcontents
  obtain ⟨route, rfl, rfl⟩ := List.map_eq_singleton_iff.mp hlast
  refine ⟨route, ?_, rfl⟩
  unfold RoutingTable.getDefaultRoute
  simp [hroutes, hr, RouteData.isValid]

end MultiTechBus.App
