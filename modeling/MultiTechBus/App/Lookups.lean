import MultiTechBus.App.Tick
import MultiTechBus.Network.Lookup

/-! # Lookups between control ticks

Control ticks and lookups in any order keep the routing table of a bus well formed
and its cache current, so that every lookup finds a best match in the present
table, and the default route of the latest tick where nothing else matches.
-/

namespace MultiTechBus.App

open MultiTechBus.Library MultiTechBus.Network

inductive BusOp
  | tick (ConnectionToAP : Bool)
  | lookup (dest : Ipv4Address)
deriving DecidableEq, Repr

namespace BusOp

def step (bus : Bus) : BusOp → Except Halt Bus
  | tick b => controlTick bus b
  | lookup dest =>
      .ok { bus with node := { bus.node with rt := (bus.node.rt.findBestMatchingRoute dest).2 } }

/-- The flag of the latest tick, given that of the ticks before. -/
def latest : Option Bool → BusOp → Option Bool
  | _, tick b => some b
  | last, lookup _ => last

end BusOp

/-- A table built through `addRoute`, `updateNetmaskRoutes` over contiguous interface
netmasks, and lookups. -/
inductive Built (useAdminDist : Bool) (netmaskRoutes : String → Bool) : RoutingTable → Prop
  | empty : Built useAdminDist netmaskRoutes { useAdminDist, netmaskRoutes }
  | addRoute {rt rt' : RoutingTable} {entry : RouteData} :
      Built useAdminDist netmaskRoutes rt → rt.addRoute entry = .ok rt' →
        Built useAdminDist netmaskRoutes rt'
  | updateNetmaskRoutes {rt : RoutingTable} {ift : InterfaceTable} :
      Built useAdminDist netmaskRoutes rt → ift.Contiguous →
        Built useAdminDist netmaskRoutes (rt.updateNetmaskRoutes ift)
  | lookup {rt : RoutingTable} (dest : Ipv4Address) :
      Built useAdminDist netmaskRoutes rt →
        Built useAdminDist netmaskRoutes (rt.findBestMatchingRoute dest).2

/-- The answer of a lookup is that of a scan of the whole table, a best match if
there is a match, and the default route of the latest tick if only default routes
match. -/
structure Answers (w c : Nat) (latest : Option Bool) (rt : RoutingTable) (dest : Ipv4Address) :
    Prop where
  scan : (rt.findBestMatchingRoute dest).1 = RoutingTable.scanRoutes rt.routes dest
  best : ∀ r, (rt.findBestMatchingRoute dest).1 = some r → rt.BestMatch dest r
  none : (rt.findBestMatchingRoute dest).1 = none → ∀ r ∈ rt.routes, r.isMatch dest = false
  default : ∀ b, latest = some b →
    (∀ r ∈ rt.routes, r.isMatch dest = true → r.isDefault = true) →
      ∃ r, (rt.findBestMatchingRoute dest).1 = some r ∧ r.toRouteData = installed w c b

/-! ## Built tables -/

/-- What `addRoute` accepts has a valid netmask and a masked destination, and the
result is the table, perhaps without its default route, with the entry inserted. -/
theorem addRoute_inv {rt rt' : RoutingTable} {entry : RouteData}
    (h : rt.addRoute entry = .ok rt') :
    Ipv4Address.isValidNetmask entry.netmask = true ∧ entry.Masked ∧
      (rt' = rt.insertRoute entry ∨
        ∃ old, rt.getDefaultRoute = some old ∧ rt' = (rt.deleteRoute old).insertRoute entry) := by
  unfold RoutingTable.addRoute RoutingTable.internalAddRoute at h
  split at h
  · cases h
  · rename_i hvalid
    split at h
    · cases h
    · split at h
      · cases h
      · rename_i hmasked
        split at h
        · cases h
        · refine ⟨by simpa using hvalid, not_ne_iff.mp hmasked, ?_⟩
          split at h
          · split at h
            · rename_i old hold
              exact Or.inr ⟨old, hold, (Except.ok.inj h).symm⟩
            · exact Or.inl (Except.ok.inj h).symm
          · exact Or.inl (Except.ok.inj h).symm

theorem deleteRoute_prefixed {rt : RoutingTable} (h : rt.Prefixed) (entry : Route) :
    (rt.deleteRoute entry).Prefixed := by
  unfold RoutingTable.deleteRoute RoutingTable.internalRemoveRoute
  split
  · intro r hr
    exact h r ((List.eraseP_sublist.map Route.toRouteData).subset hr)
  · exact h

theorem insertRoute_prefixed {rt : RoutingTable} (h : rt.Prefixed) {entry : RouteData}
    (hentry : Ipv4Address.isValidNetmask entry.netmask = true) :
    (rt.insertRoute entry).Prefixed := by
  intro r hr
  rw [RoutingTable.contents_insertRoute] at hr
  rcases (List.mem_orderedInsert _).mp hr with rfl | hr
  · exact hentry
  · exact h r hr

theorem updateNetmaskRoutes_prefixed {rt : RoutingTable} (h : rt.Prefixed) {ift : InterfaceTable}
    (hift : ift.Contiguous) : (rt.updateNetmaskRoutes ift).Prefixed := by
  intro r hr
  rw [RoutingTable.contents_updateNetmaskRoutes] at hr
  rcases mem_insertAll.mp hr with hr | hr
  · exact RoutingTable.isValidNetmask_of_mem_configured hift hr
  · exact h r (List.mem_of_mem_filter hr)

theorem Built.wellFormed_prefixed {u : Bool} {m : String → Bool} {rt : RoutingTable}
    (h : Built u m rt) : rt.WellFormed ∧ rt.Prefixed := by
  induction h with
  | empty =>
      refine ⟨RoutingTable.wellFormed_empty u m, ?_⟩
      simp [RoutingTable.Prefixed, RoutingTable.contents]
  | addRoute _ hadd ih =>
      obtain ⟨hvalid, hmasked, rfl | ⟨old, -, rfl⟩⟩ := addRoute_inv hadd
      · exact ⟨ih.1.insertRoute hmasked, insertRoute_prefixed ih.2 hvalid⟩
      · exact ⟨(ih.1.deleteRoute old).insertRoute hmasked,
          insertRoute_prefixed (deleteRoute_prefixed ih.2 old) hvalid⟩
  | updateNetmaskRoutes _ hift ih =>
      exact ⟨ih.1.updateNetmaskRoutes _, updateNetmaskRoutes_prefixed ih.2 hift⟩
  | lookup dest _ ih => exact ⟨ih.1.findBestMatchingRoute dest, ih.2⟩

/-! ## Ticks and lookups -/

/-- A bus whose latest tick, if there was one, had flag `last`. -/
structure InService (w c : Nat) (last : Option Bool) (bus : Bus) : Prop where
  isBus : bus.app.isBus = true
  wellFormed : bus.node.rt.WellFormed
  interfaces : BusInterfaces bus.node.ift w c
  contiguous : bus.node.ift.Contiguous
  prefixed : bus.node.rt.Prefixed
  latest : ∀ b, last = some b → ∃ l, bus.node.rt.contents = l ++ [installed w c b] ∧
    ∀ r ∈ l, specified r = true

theorem InService.step {w c : Nat} {last : Option Bool} {bus : Bus} (h : InService w c last bus)
    (op : BusOp) :
    ∃ bus', BusOp.step bus op = .ok bus' ∧ InService w c (BusOp.latest last op) bus' := by
  cases op with
  | tick b =>
      obtain ⟨bus', hok, hbus, hift, hconfig, hwf, hcontents⟩ :=
        controlTick_ok h.isBus h.wellFormed h.interfaces b
      have hprefixed := Node.setState_prefixed h.contiguous h.prefixed c (celularState b)
      refine ⟨bus', hok, hbus, hwf, h.interfaces.congr hconfig.ift,
        h.contiguous.congr hconfig.ift, ?_, ?_⟩
      · intro r hr
        rw [hcontents] at hr
        rcases List.mem_append.mp hr with hr | hr
        · exact hprefixed r (List.mem_of_mem_filter hr)
        · rw [List.mem_singleton.mp hr]
          exact installed_isValidNetmask w c b
      · intro b' hb'
        obtain rfl := Option.some.inj hb'
        exact ⟨_, hcontents, fun r hr => (List.mem_filter.mp hr).2⟩
  | lookup dest =>
      exact ⟨_, rfl, h.isBus, h.wellFormed.findBestMatchingRoute dest, h.interfaces, h.contiguous,
        h.prefixed, h.latest⟩

theorem InService.run {w c : Nat} {last : Option Bool} {bus : Bus} (h : InService w c last bus)
    (ops : List BusOp) : ∃ bus', Library.run BusOp.step bus ops = .ok bus' ∧
      InService w c (ops.foldl BusOp.latest last) bus' := by
  induction ops generalizing last bus with
  | nil => exact ⟨bus, rfl, h⟩
  | cons op ops ih =>
      obtain ⟨mid, hok, hmid⟩ := h.step op
      obtain ⟨bus', hrun, hbus'⟩ := ih hmid
      exact ⟨bus', by rw [run_cons_ok ops hok, hrun], hbus'⟩

/-- Where only default routes match, the scan finds that of the latest tick. -/
theorem InService.scanRoutes_default {w c : Nat} {b : Bool} {bus : Bus}
    (h : InService w c (some b) bus) {dest : Ipv4Address}
    (honly : ∀ r ∈ bus.node.rt.routes, r.isMatch dest = true → r.isDefault = true) :
    ∃ r, RoutingTable.scanRoutes bus.node.rt.routes dest = some r ∧
      r.toRouteData = installed w c b := by
  obtain ⟨l, hcontents, hspec⟩ := h.latest b rfl
  have hnone : ∀ r ∈ l, r.isMatch dest = false := by
    intro r hr
    have hmem : r ∈ bus.node.rt.contents := by simp [hcontents, hr]
    obtain ⟨route, hroute, rfl⟩ := List.mem_map.mp hmem
    rw [← Bool.not_eq_true]
    intro hmatch
    have hdest := (h.wellFormed.masked _ hmem).destination_of_isDefault (honly route hroute hmatch)
    have hlead := hspec _ hr
    simp [specified, hdest] at hlead
  have hfind : bus.node.rt.contents.find? (fun r => r.isValid && r.isMatch dest) =
      some (installed w c b) := by
    have hmatch := RouteData.isMatch_of_isDefault (installed_isDefault w c b) dest
    rw [hcontents, List.find?_append,
      List.find?_eq_none.mpr (by simpa [RouteData.isValid] using hnone)]
    simp [RouteData.isValid, hmatch]
  rw [← RoutingTable.scanRoutes_map] at hfind
  exact Option.map_eq_some_iff.mp hfind

/-- Lookups on a bus find a best match in the present table. -/
theorem findBestMatchingRoute_correct {u : Bool} {m : String → Bool} {rt : RoutingTable}
    (hbuilt : Built u m rt) {app : AppBusDataCollection} (hbus : app.isBus = true)
    {ift : InterfaceTable} {w c : Nat} (hi : BusInterfaces ift w c) (hift : ift.Contiguous)
    (ops : List BusOp) :
    ∃ bus', Library.run BusOp.step { app := app, node := { ift := ift, rt := rt } } ops = .ok bus' ∧
      ∀ dest, Answers w c (ops.foldl BusOp.latest none) bus'.node.rt dest := by
  obtain ⟨hwf, hprefixed⟩ := hbuilt.wellFormed_prefixed
  have hstart : InService w c none { app := app, node := { ift := ift, rt := rt } } :=
    ⟨hbus, hwf, hi, hift, hprefixed, by simp⟩
  obtain ⟨bus', hrun, h⟩ := hstart.run ops
  refine ⟨bus', hrun, fun dest => ?_⟩
  have hscan := h.wellFormed.findBestMatchingRoute_eq_scanRoutes dest
  refine ⟨hscan, ?_, ?_, ?_⟩
  · intro r hr
    exact h.wellFormed.bestMatch_of_scanRoutes h.prefixed (hscan.symm.trans hr)
  · intro hnone
    exact RoutingTable.scanRoutes_eq_none.mp (hscan.symm.trans hnone)
  · intro b hb honly
    rw [hb] at h
    rw [hscan]
    exact h.scanRoutes_default honly

theorem findBestMatchingRoute_correct_sample :
    ∃ bus', Library.run BusOp.step sampleBus
        [.lookup (Ipv4Address.ofDBytes 15 0 0 1), .tick true,
          .lookup (Ipv4Address.ofDBytes 15 0 0 1)] = .ok bus' ∧
      ∀ dest, Answers 0 1 (some true) bus'.node.rt dest :=
  findBestMatchingRoute_correct (.updateNetmaskRoutes .empty sampleBus_contiguous) (by decide)
    sampleBus_interfaces sampleBus_contiguous _

end MultiTechBus.App
