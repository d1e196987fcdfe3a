import MultiTechBus.App.DataCollection
import MultiTechBus.Library.Run

/-! # Control ticks

One tick of the control timer with a given association flag, described by what it
does to the interfaces and to the contents of the routing table. The contents
after a switch of the cellular interface do not depend on how often its change
was reported.
-/

namespace MultiTechBus.App

open MultiTechBus.Library MultiTechBus.Network

structure Bus where
  app : AppBusDataCollection
  node : Node

/-- The control timer fires while the association flag is `b`. -/
def controlTick (bus : Bus) (b : Bool) : Except Halt Bus := do
  let (app, node) ← controlInterface { bus.app with ConnectionToAP := b } bus.node
  return { app := app, node := node }

/-- The positions of the two interfaces that the application asks for by name. -/
structure BusInterfaces (ift : InterfaceTable) (w c : Nat) : Prop where
  wlan0 : ift.findInterfaceByName "wlan0" = some w
  cellular : ift.findInterfaceByName "cellular" = some c

/-- The default route that a tick with flag `b` installs. -/
def installed (w c : Nat) (b : Bool) : RouteData :=
  if b then defaultRoute (some w) wlanGateway else defaultRoute (some c) cellularGateway

def celularState (b : Bool) : State := if b then .DOWN else .UP

theorem installed_isDefault (w c : Nat) (b : Bool) : (installed w c b).isDefault = true := by
  cases b <;> rfl

theorem installed_isValidNetmask (w c : Nat) (b : Bool) :
    Ipv4Address.isValidNetmask (installed w c b).netmask = true := by
  rw [Ipv4Address.isUnspecified_iff.mp (installed_isDefault w c b)]
  decide

/-! ## Interfaces by name -/

theorem findInterfaceByName_congr {ift ift' : InterfaceTable} (h : ift.SameConfig ift')
    (name : String) : ift.findInterfaceByName name = ift'.findInterfaceByName name := by
  have hnames := congrArg (List.map Prod.fst) h
  simp only [List.map_map, Function.comp_def] at hnames
  exact InterfaceTable.findInterfaceByName_of_names hnames name

theorem BusInterfaces.congr {ift ift' : InterfaceTable} {w c : Nat} (h : BusInterfaces ift w c)
    (hsame : ift.SameConfig ift') : BusInterfaces ift' w c :=
  ⟨by rw [← findInterfaceByName_congr hsame, h.wlan0],
    by rw [← findInterfaceByName_congr hsame, h.cellular]⟩

theorem findInterfaceByName_name {ift : InterfaceTable} {name : String} {i : Nat}
    (h : ift.findInterfaceByName name = some i) :
    ∃ ie, ift[i]? = some ie ∧ ie.interfaceName = name := by
  obtain ⟨hlt, hname, _⟩ := List.findIdx?_eq_some_iff_getElem.mp h
  exact ⟨ift[i], List.getElem?_eq_getElem hlt, by simpa using hname⟩

theorem BusInterfaces.ne {ift : InterfaceTable} {w c : Nat}
    (h : BusInterfaces ift w c) : w ≠ c := by
  obtain ⟨ie, hw, hwname⟩ := findInterfaceByName_name h.wlan0
  obtain ⟨ie', hc, hcname⟩ := findInterfaceByName_name h.cellular
  rintro rfl
  rw [hw] at hc
  obtain rfl := Option.some.inj hc
  rw [hwname] at hcname
  exact absurd hcname (by decide)

/-! ## One tick -/

theorem switchPath_ok {n : Node} (hwf : n.rt.WellFormed) {c i : Nat} (s : State) {name : String}
    (gateway : Ipv4Address) (hc : n.ift.findInterfaceByName "cellular" = some c)
    (hi : n.ift.findInterfaceByName name = some i) :
    ∃ n', switchPath n s name gateway = .ok n' ∧ n'.ift = (n.setState c s).ift ∧
      n.SameConfig n' ∧ n'.rt.WellFormed ∧
      n'.rt.contents = (n.setState c s).rt.contents.filter specified ++
        [defaultRoute (some i) gateway] := by
  have hconfig := n.setState_sameConfig c s
  obtain ⟨rt, hclear, hrt, hdist, hnames, hcontents⟩ :=
    clearDefaultRoutes_spec (Node.setState_wellFormed hwf c s)
  have hspec : ∀ r ∈ rt.contents, specified r = true := by
    intro r hr
    rw [hcontents] at hr
    exact (List.mem_filter.mp hr).2
  obtain ⟨hadd, hlast⟩ := addRoute_defaultRoute hrt hspec i gateway
  have hi' : (n.setState c s).ift.findInterfaceByName name = some i := by
    rw [← findInterfaceByName_congr hconfig.ift, hi]
  refine ⟨{ ift := (n.setState c s).ift, rt := rt.insertRoute (defaultRoute (some i) gateway) },
    ?_, rfl, ?_, hrt.insertRoute (defaultRoute_masked _ _), ?_⟩
  · unfold switchPath
    simp [hc, hclear, hi', hadd, Bind.bind, Except.bind, Pure.pure, Except.pure]
  · refine ⟨hconfig.ift, ?_, ?_⟩
    · simp [hdist, hconfig.useAdminDist]
    · simp [hnames, hconfig.netmaskRoutes]
  · rw [hlast, hcontents]

@[simp] theorem subscribeToAgent_isBus (app : AppBusDataCollection) :
    app.subscribeToAgent.isBus = app.isBus := by
  unfold AppBusDataCollection.subscribeToAgent
  split <;> rfl

@[simp] theorem subscribeToAgent_ConnectionToAP (app : AppBusDataCollection) :
    app.subscribeToAgent.ConnectionToAP = app.ConnectionToAP := by
  unfold AppBusDataCollection.subscribeToAgent
  split <;> rfl

theorem controlTick_eq {bus : Bus} (hbus : bus.app.isBus = true) (b : Bool) :
    controlTick bus b =
      (switchPath bus.node (celularState b) (if b then "wlan0" else "cellular")
        (if b then wlanGateway else cellularGateway)).map fun node =>
          { app := ({ bus.app with ConnectionToAP := b } : AppBusDataCollection).subscribeToAgent
            node := node } := by
  have hflagged : ({ bus.app with ConnectionToAP := b } : AppBusDataCollection).isBus = true := hbus
  unfold controlTick controlInterface
  cases b with
  | true =>
      cases h : switchPath bus.node .DOWN "wlan0" wlanGateway <;>
        simp [hflagged, celularState, h, Bind.bind, Except.bind, Pure.pure, Except.pure, Except.map]
  | false =>
      cases h : switchPath bus.node .UP "cellular" cellularGateway <;>
        simp [hflagged, celularState, h, Bind.bind, Except.bind, Pure.pure, Except.pure, Except.map]

/-- A tick on a bus sets the state of the cellular interface, drops the routes
with an unspecified destination and appends its default route. -/
theorem controlTick_ok {bus : Bus} (hbus : bus.app.isBus = true) (hwf : bus.node.rt.WellFormed)
    {w c : Nat} (hi : BusInterfaces bus.node.ift w c) (b : Bool) :
    ∃ bus', controlTick bus b = .ok bus' ∧ bus'.app.isBus = true ∧
      bus'.node.ift = (bus.node.setState c (celularState b)).ift ∧
      bus.node.SameConfig bus'.node ∧ bus'.node.rt.WellFormed ∧
      bus'.node.rt.contents =
        (bus.node.setState c (celularState b)).rt.contents.filter specified ++
          [installed w c b] := by
  have hi' : bus.node.ift.findInterfaceByName (if b then "wlan0" else "cellular") =
      some (if b then w else c) := by
    cases b with
    | true => exact hi.wlan0
    | false => exact hi.cellular
  obtain ⟨n', hok, hift, hconfig, hrt, hcontents⟩ := switchPath_ok hwf (celularState b)
    (if b then wlanGateway else cellularGateway) hi.cellular hi'
  have hinstalled : installed w c b = defaultRoute (some (if b then w else c))
      (if b then wlanGateway else cellularGateway) := by
    cases b <;> rfl
  refine ⟨⟨({ bus.app with ConnectionToAP := b } : AppBusDataCollection).subscribeToAgent, n'⟩,
    ?_, ?_, hift, hconfig, hrt, ?_⟩
  · rw [controlTick_eq hbus, hok]
    rfl
  · rw [subscribeToAgent_isBus]
    exact hbus
  · rw [hcontents, hinstalled]

/-! ## A bus -/

def sampleBus : Bus :=
  let ift : InterfaceTable :=
    [{ interfaceName := "wlan0", fullName := "wlan[0]", state := .UP, carrier := true,
       ipv4Data := some { inetAddr := Ipv4Address.ofDBytes 192 168 0 7,
                          netmask := Ipv4Address.ofDBytes 255 255 255 0 } },
     { interfaceName := "cellular", fullName := "cellular", state := .UP, carrier := true,
       ipv4Data := some { inetAddr := Ipv4Address.ofDBytes 10 0 0 7,
                          netmask := Ipv4Address.ofDBytes 255 0 0 0 } }]
  { app := { externalId := "buses_cosenza.7" }
    node := { ift := ift, rt := RoutingTable.updateNetmaskRoutes {} ift } }

theorem sampleBus_wellFormed : sampleBus.node.rt.WellFormed :=
  (RoutingTable.wellFormed_empty _ _).updateNetmaskRoutes _

theorem sampleBus_interfaces : BusInterfaces sampleBus.node.ift 0 1 :=
  ⟨by decide, by decide⟩

theorem sampleBus_contiguous : sampleBus.node.ift.Contiguous := by
  intro ie hie data hdata
  simp only [sampleBus, List.mem_cons, List.not_mem_nil, or_false] at hie
  rcases hie with rfl | rfl
  · obtain rfl := Option.some.inj hdata
    decide
  · obtain rfl := Option.some.inj hdata
    decide

end MultiTechBus.App
