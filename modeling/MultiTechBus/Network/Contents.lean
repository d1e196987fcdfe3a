import MultiTechBus.Network.RoutingTable

/-! # What a routing table says

Two tables with different route objects say the same when their routes carry the
same data in the same order. Every operation on a table is described here by
what it does to these contents, and shown to keep the table well formed.
-/

namespace MultiTechBus.Network

open MultiTechBus.Library

namespace RoutingTable

/-- The data of the routes, in table order. -/
def contents (rt : RoutingTable) : List RouteData := rt.routes.map Route.toRouteData

/-- A table that its own operations could have produced: ordered, with masked
routes that are distinct objects, and with a cache of current answers. -/
structure WellFormed (rt : RoutingTable) : Prop where
  ranked : Ranked (RouteLT rt.useAdminDist) rt.contents
  masked : ∀ r ∈ rt.contents, r.Masked
  nodup : (rt.routes.map Route.id).Nodup
  fresh : ∀ r ∈ rt.routes, r.id < rt.nextId
  current : rt.routingCache.Current (scanRoutes rt.routes)

/-- Every route has a contiguous netmask. -/
def Prefixed (rt : RoutingTable) : Prop :=
  ∀ r ∈ rt.contents, Ipv4Address.isValidNetmask r.netmask = true

theorem wellFormed_empty (useAdminDist : Bool) (netmaskRoutes : String → Bool) :
    WellFormed { useAdminDist, netmaskRoutes } where
  ranked := ranked_nil
  masked := by simp [contents]
  nodup := by simp
  fresh := by simp
  current := Memo.current_nil _

/-! ## Parameters -/

@[simp] theorem invalidateCache_contents (rt : RoutingTable) :
    rt.invalidateCache.contents = rt.contents := rfl

@[simp] theorem invalidateCache_useAdminDist (rt : RoutingTable) :
    rt.invalidateCache.useAdminDist = rt.useAdminDist := rfl

@[simp] theorem invalidateCache_netmaskRoutes (rt : RoutingTable) :
    rt.invalidateCache.netmaskRoutes = rt.netmaskRoutes := rfl

@[simp] theorem insertRoute_useAdminDist (rt : RoutingTable) (d : RouteData) :
    (rt.insertRoute d).useAdminDist = rt.useAdminDist := rfl

@[simp] theorem insertRoute_netmaskRoutes (rt : RoutingTable) (d : RouteData) :
    (rt.insertRoute d).netmaskRoutes = rt.netmaskRoutes := rfl

/-! ## Shrinking a table -/

theorem WellFormed.restrict {rt : RoutingTable} (h : rt.WellFormed) {routes : List Route}
    (hsub : routes.Sublist rt.routes) :
    (invalidateCache { rt with routes := routes }).WellFormed where
  ranked := h.ranked.sublist (hsub.map _)
  masked := fun r hr => h.masked r ((hsub.map _).subset hr)
  nodup := h.nodup.sublist (hsub.map _)
  fresh := fun r hr => h.fresh r (hsub.subset hr)
  current := Memo.current_nil _

theorem WellFormed.invalidateCache {rt : RoutingTable} (h : rt.WellFormed) :
    rt.invalidateCache.WellFormed :=
  h.restrict (List.Sublist.refl _)

theorem WellFormed.deleteRoute {rt : RoutingTable} (h : rt.WellFormed) (entry : Route) :
    (rt.deleteRoute entry).WellFormed := by
  unfold RoutingTable.deleteRoute internalRemoveRoute
  split
  · exact h.restrict List.eraseP_sublist
  · exact h

@[simp] theorem deleteRoute_useAdminDist (rt : RoutingTable) (entry : Route) :
    (rt.deleteRoute entry).useAdminDist = rt.useAdminDist := by
  unfold deleteRoute internalRemoveRoute
  split <;> rfl

@[simp] theorem deleteRoute_netmaskRoutes (rt : RoutingTable) (entry : Route) :
    (rt.deleteRoute entry).netmaskRoutes = rt.netmaskRoutes := by
  unfold deleteRoute internalRemoveRoute
  split <;> rfl

theorem WellFormed.deleteInterfaceRoutes {rt : RoutingTable} (h : rt.WellFormed) (entry : Nat) :
    (rt.deleteInterfaceRoutes entry).WellFormed := by
  unfold RoutingTable.deleteInterfaceRoutes
  split
  · exact h.restrict List.filter_sublist
  · exact h

@[simp] theorem deleteInterfaceRoutes_useAdminDist (rt : RoutingTable) (entry : Nat) :
    (rt.deleteInterfaceRoutes entry).useAdminDist = rt.useAdminDist := by
  unfold deleteInterfaceRoutes
  split <;> rfl

@[simp] theorem deleteInterfaceRoutes_netmaskRoutes (rt : RoutingTable) (entry : Nat) :
    (rt.deleteInterfaceRoutes entry).netmaskRoutes = rt.netmaskRoutes := by
  unfold deleteInterfaceRoutes
  split <;> rfl

theorem contents_deleteInterfaceRoutes (rt : RoutingTable) (entry : Nat) :
    (rt.deleteInterfaceRoutes entry).contents =
      rt.contents.filter fun r => r.interface != some entry := by
  unfold deleteInterfaceRoutes contents
  split
  · rw [List.filter_map]
    rfl
  · rename_i h
    refine (List.filter_eq_self.mpr ?_).symm
    simpa using h

/-! ## The netmask routes -/

theorem WellFormed.deleteNetmaskRoutes {rt : RoutingTable} (h : rt.WellFormed) (fuel k : Nat) :
    (RoutingTable.deleteNetmaskRoutes fuel k rt).WellFormed := by
  induction fuel generalizing k rt with
  | zero => exact h
  | succ fuel ih =>
      unfold RoutingTable.deleteNetmaskRoutes
      split
      · exact h
      · split
        · exact ih (h.restrict (List.eraseIdx_sublist _ _)) k
        · exact ih h (k + 1)

theorem deleteNetmaskRoutes_params (fuel k : Nat) (rt : RoutingTable) :
    (deleteNetmaskRoutes fuel k rt).useAdminDist = rt.useAdminDist ∧
      (deleteNetmaskRoutes fuel k rt).netmaskRoutes = rt.netmaskRoutes := by
  induction fuel generalizing k rt with
  | zero => exact ⟨rfl, rfl⟩
  | succ fuel ih =>
      unfold deleteNetmaskRoutes
      split
      · exact ⟨rfl, rfl⟩
      · split
        · exact ih k _
        · exact ih (k + 1) rt

/-- The loop leaves what stands before its index and drops the netmask routes after it. -/
theorem routes_deleteNetmaskRoutes (fuel k : Nat) (rt : RoutingTable)
    (hfuel : rt.routes.length ≤ k + fuel) :
    (deleteNetmaskRoutes fuel k rt).routes =
      rt.routes.take k ++ (rt.routes.drop k).filter fun r => !r.isNetmaskRoute := by
  induction fuel generalizing k rt with
  | zero =>
      rw [List.drop_eq_nil_of_le (by simpa using hfuel), List.take_of_length_le (by simpa using hfuel)]
      simp [deleteNetmaskRoutes]
  | succ fuel ih =>
      unfold deleteNetmaskRoutes
      cases hk : rt.routes[k]? with
      | none =>
          have hlen := List.getElem?_eq_none_iff.mp hk
          simp [List.drop_eq_nil_of_le hlen, List.take_of_length_le hlen]
      | some route =>
          obtain ⟨hlt, hroute⟩ := List.getElem?_eq_some_iff.mp hk
          rw [List.drop_eq_getElem_cons hlt, hroute]
          by_cases hmask : route.isNetmaskRoute = true
          · -- the erased index is visited again, now holding the next route
            have hlen := List.length_eraseIdx_of_lt hlt
            simp only [hmask, if_true]
            rw [ih k _ (by simp only [invalidateCache]; omega)]
            have htake : (rt.routes.eraseIdx k).take k = rt.routes.take k := by
              rw [List.eraseIdx_eq_take_drop_succ, List.take_append_of_le_length (by simp; omega),
                List.take_take, Nat.min_self]
            have hdrop : (rt.routes.eraseIdx k).drop k = rt.routes.drop (k + 1) := by
              rw [List.eraseIdx_eq_take_drop_succ]
              exact List.drop_left' (by simp; omega)
            simp [invalidateCache, htake, hdrop, hmask]
          · simp only [hmask]
            rw [if_neg (by simp), ih (k + 1) rt (by omega), List.take_add_one, hk]
            simp [hmask]

/-- The loop of `updateNetmaskRoutes` drops exactly the netmask routes. -/
theorem contents_deleteNetmaskRoutes (rt : RoutingTable) :
    (deleteNetmaskRoutes rt.getNumRoutes 0 rt).contents =
      rt.contents.filter fun r => !r.isNetmaskRoute := by
  unfold contents
  rw [routes_deleteNetmaskRoutes _ 0 rt (by simp [getNumRoutes]), List.filter_map]
  simp [Function.comp_def]

/-! ## Growing a table -/

theorem contents_insertRoute (rt : RoutingTable) (d : RouteData) :
    (rt.insertRoute d).contents = rt.contents.orderedInsert (RouteLT rt.useAdminDist) d := by
  unfold contents insertRoute
  exact List.map_orderedInsert _ (RouteLT rt.useAdminDist) _ _ _ (fun _ _ => Iff.rfl)
    (fun _ _ => Iff.rfl)

theorem WellFormed.insertRoute {rt : RoutingTable} (h : rt.WellFormed) {d : RouteData}
    (hd : d.Masked) : (rt.insertRoute d).WellFormed where
  ranked := by
    rw [contents_insertRoute]
    exact h.ranked.orderedInsert d
  masked := by
    intro r hr
    rw [contents_insertRoute] at hr
    rcases (List.mem_orderedInsert _).mp hr with rfl | hr
    · exact hd
    · exact h.masked r hr
  nodup := by
    have hperm := (List.perm_orderedInsert rt.Better
      { d with id := rt.nextId } rt.routes).map Route.id
    refine hperm.nodup_iff.mpr ?_
    rw [List.map_cons, List.nodup_cons]
    refine ⟨?_, h.nodup⟩
    intro hmem
    obtain ⟨r, hr, hid⟩ := List.mem_map.mp hmem
    have hlt := h.fresh r hr
    simp only at hid
    omega
  fresh := by
    intro r hr
    simp only [RoutingTable.insertRoute, RoutingTable.invalidateCache] at hr ⊢
    rcases (List.mem_orderedInsert _).mp hr with rfl | hr
    · simp
    · exact Nat.lt_succ_of_lt (h.fresh r hr)
  current := Memo.current_nil _

/-- The routes that the interface configuration asks for. -/
def configured (netmaskRoutes : String → Bool) (ift : InterfaceTable) : List RouteData :=
  ift.zipIdx.filterMap fun entry => netmaskRoute netmaskRoutes entry.1 entry.2

theorem insertAll_useAdminDist (batch : List RouteData) (rt : RoutingTable) :
    (batch.foldl insertRoute rt).useAdminDist = rt.useAdminDist := by
  induction batch generalizing rt with
  | nil => rfl
  | cons d batch ih => exact (ih _).trans rfl

theorem insertAll_netmaskRoutes (batch : List RouteData) (rt : RoutingTable) :
    (batch.foldl insertRoute rt).netmaskRoutes = rt.netmaskRoutes := by
  induction batch generalizing rt with
  | nil => rfl
  | cons d batch ih => exact (ih _).trans rfl

theorem contents_insertAll (batch : List RouteData) (rt : RoutingTable) :
    (batch.foldl insertRoute rt).contents =
      insertAll (RouteLT rt.useAdminDist) batch rt.contents := by
  induction batch generalizing rt with
  | nil => rfl
  | cons d batch ih =>
      rw [List.foldl_cons, ih, contents_insertRoute]
      rfl

theorem WellFormed.insertAll {rt : RoutingTable} (h : rt.WellFormed) {batch : List RouteData}
    (hbatch : ∀ d ∈ batch, d.Masked) : (batch.foldl RoutingTable.insertRoute rt).WellFormed := by
  induction batch generalizing rt with
  | nil => exact h
  | cons d batch ih =>
      exact ih (h.insertRoute (hbatch d (by simp))) fun d' hd' => hbatch d' (by simp [hd'])

/-- What a netmask route says follows from its interface. -/
theorem netmaskRoute_eq_some {m : String → Bool} {ie : NetworkInterface} {i : Nat} {d : RouteData}
    (h : netmaskRoute m ie i = some d) :
    ie.isUp = true ∧ d.isNetmaskRoute = true ∧ d.interface = some i ∧
      ∃ data, ie.ipv4Data = some data ∧ d.netmask = data.netmask ∧
        d.destination = data.inetAddr &&& data.netmask := by
  unfold netmaskRoute at h
  split at h
  · rename_i hup
    split at h
    · rename_i data hdata
      split at h
      · obtain rfl := Option.some.inj h
        simp only [Bool.and_eq_true] at hup
        exact ⟨hup.1, rfl, rfl, data, hdata, rfl, rfl⟩
      · cases h
    · cases h
  · cases h

theorem mem_configured {m : String → Bool} {ift : InterfaceTable} {d : RouteData} :
    d ∈ configured m ift ↔ ∃ i ie, ift[i]? = some ie ∧ netmaskRoute m ie i = some d := by
  simp only [configured, List.mem_filterMap, Prod.exists]
  constructor
  · rintro ⟨ie, i, hmem, hd⟩
    exact ⟨i, ie, List.mem_zipIdx_iff_getElem?.mp hmem, hd⟩
  · rintro ⟨i, ie, hget, hd⟩
    exact ⟨ie, i, List.mem_zipIdx_iff_getElem?.mpr hget, hd⟩

theorem isNetmaskRoute_of_mem_configured {m : String → Bool} {ift : InterfaceTable}
    {d : RouteData} (h : d ∈ configured m ift) : d.isNetmaskRoute = true := by
  obtain ⟨i, ie, _, hd⟩ := mem_configured.mp h
  exact (netmaskRoute_eq_some hd).2.1

theorem masked_of_mem_configured {m : String → Bool} {ift : InterfaceTable} {d : RouteData}
    (h : d ∈ configured m ift) : d.Masked := by
  obtain ⟨i, ie, _, hd⟩ := mem_configured.mp h
  obtain ⟨-, -, -, data, -, hmask, hdest⟩ := netmaskRoute_eq_some hd
  unfold RouteData.Masked
  rw [hmask, hdest]
  exact Ipv4Address.and_and_not _ _

theorem isValidNetmask_of_mem_configured {m : String → Bool} {ift : InterfaceTable}
    (hift : ift.Contiguous) {d : RouteData} (h : d ∈ configured m ift) :
    Ipv4Address.isValidNetmask d.netmask = true := by
  obtain ⟨i, ie, hget, hd⟩ := mem_configured.mp h
  obtain ⟨-, -, -, data, hdata, hmask, -⟩ := netmaskRoute_eq_some hd
  rw [hmask]
  exact hift ie (List.mem_of_getElem? hget) data hdata

theorem updateNetmaskRoutes_useAdminDist (rt : RoutingTable) (ift : InterfaceTable) :
    (rt.updateNetmaskRoutes ift).useAdminDist = rt.useAdminDist :=
  (insertAll_useAdminDist _ _).trans (deleteNetmaskRoutes_params _ _ _).1

theorem updateNetmaskRoutes_netmaskRoutes (rt : RoutingTable) (ift : InterfaceTable) :
    (rt.updateNetmaskRoutes ift).netmaskRoutes = rt.netmaskRoutes :=
  (insertAll_netmaskRoutes _ _).trans (deleteNetmaskRoutes_params _ _ _).2

/-- A rebuild replaces the netmask routes by the configured ones. -/
theorem contents_updateNetmaskRoutes (rt : RoutingTable) (ift : InterfaceTable) :
    (rt.updateNetmaskRoutes ift).contents =
      insertAll (RouteLT rt.useAdminDist) (configured rt.netmaskRoutes ift)
        (rt.contents.filter fun r => !r.isNetmaskRoute) := by
  obtain ⟨hdist, hnames⟩ := deleteNetmaskRoutes_params rt.getNumRoutes 0 rt
  unfold updateNetmaskRoutes addNetmaskRoutes
  rw [contents_insertAll, hdist, hnames, contents_deleteNetmaskRoutes]
  rfl

theorem WellFormed.updateNetmaskRoutes {rt : RoutingTable} (h : rt.WellFormed)
    (ift : InterfaceTable) : (rt.updateNetmaskRoutes ift).WellFormed := by
  unfold RoutingTable.updateNetmaskRoutes addNetmaskRoutes
  exact (h.deleteNetmaskRoutes _ _).insertAll fun d hd => masked_of_mem_configured hd

/-! ## Notifications -/

/-- What the table says after an interface reported a change. -/
def notified (useAdminDist : Bool) (netmaskRoutes : String → Bool) (ift : InterfaceTable)
    (entry : Nat) (l : List RouteData) : List RouteData :=
  let l := insertAll (RouteLT useAdminDist) (configured netmaskRoutes ift)
    (l.filter fun r => !r.isNetmaskRoute)
  match ift[entry]? with
  | some ie => if ie.isUp then l else l.filter fun r => r.interface != some entry
  | none => l

theorem mem_notified {u : Bool} {m : String → Bool} {ift : InterfaceTable} {entry : Nat}
    {l : List RouteData} {r : RouteData} (h : r ∈ notified u m ift entry l) :
    r ∈ configured m ift ∨ r ∈ l := by
  have hrebuild : r ∈ insertAll (RouteLT u) (configured m ift)
      (l.filter fun r => !r.isNetmaskRoute) → r ∈ configured m ift ∨ r ∈ l := by
    intro hr
    rcases mem_insertAll.mp hr with hr | hr
    · exact Or.inl hr
    · exact Or.inr (List.mem_of_mem_filter hr)
  unfold notified at h
  split at h
  · split at h
    · exact hrebuild h
    · exact hrebuild (List.mem_of_mem_filter h)
  · exact hrebuild h

theorem interfaceStateChanged_params (rt : RoutingTable) (ift : InterfaceTable) (entry : Nat)
    (fieldId : FieldId) :
    (rt.interfaceStateChanged ift entry fieldId).useAdminDist = rt.useAdminDist ∧
      (rt.interfaceStateChanged ift entry fieldId).netmaskRoutes = rt.netmaskRoutes := by
  have hdist := updateNetmaskRoutes_useAdminDist rt.invalidateCache ift
  have hnames := updateNetmaskRoutes_netmaskRoutes rt.invalidateCache ift
  unfold interfaceStateChanged
  split
  · split
    · split <;> simp [hdist, hnames]
    · simp [hdist, hnames]
  · exact ⟨rfl, rfl⟩

theorem contents_interfaceStateChanged (rt : RoutingTable) (ift : InterfaceTable) (entry : Nat)
    (fieldId : FieldId) :
    (rt.interfaceStateChanged ift entry fieldId).contents =
      notified rt.useAdminDist rt.netmaskRoutes ift entry rt.contents := by
  have hupdate : (rt.invalidateCache.updateNetmaskRoutes ift).contents =
      insertAll (RouteLT rt.useAdminDist) (configured rt.netmaskRoutes ift)
        (rt.contents.filter fun r => !r.isNetmaskRoute) :=
    contents_updateNetmaskRoutes rt.invalidateCache ift
  have hfield : fieldId = .F_STATE ∨ fieldId = .F_CARRIER := by cases fieldId <;> simp
  unfold interfaceStateChanged notified
  rw [if_pos hfield]
  cases ift[entry]? with
  | none => exact hupdate
  | some ie =>
      cases hup : ie.isUp with
      | true => simpa [hup] using hupdate
      | false =>
          have hpurge :=
            contents_deleteInterfaceRoutes (rt.invalidateCache.updateNetmaskRoutes ift) entry
          rw [hupdate] at hpurge
          simpa [hup] using hpurge

theorem WellFormed.interfaceStateChanged {rt : RoutingTable} (h : rt.WellFormed)
    (ift : InterfaceTable) (entry : Nat) (fieldId : FieldId) :
    (rt.interfaceStateChanged ift entry fieldId).WellFormed := by
  have hupdate := h.invalidateCache.updateNetmaskRoutes ift
  unfold RoutingTable.interfaceStateChanged
  split
  · refine WellFormed.invalidateCache ?_
    split
    · split
      · exact hupdate.deleteInterfaceRoutes entry
      · exact hupdate
    · exact hupdate
  · exact h.invalidateCache

end RoutingTable

end MultiTechBus.Network
