import MultiTechBus.Network.Contents

/-! # Best-match lookup

In a well-formed table the cached lookup answers like a scan of the vector, and
the scan answers with a route that no other matching route beats.
-/

namespace MultiTechBus.Network

open MultiTechBus.Library

namespace RoutingTable

/-- `r` is in the table, matches `dest`, has the longest prefix of all matching
routes, and the least distance and metric of those with an equal prefix. -/
structure BestMatch (rt : RoutingTable) (dest : Ipv4Address) (r : Route) : Prop where
  present : r ∈ rt.routes
  isMatch : r.isMatch dest = true
  longest : ∀ s ∈ rt.routes, s.isMatch dest = true →
    Ipv4Address.getNetmaskLength s.netmask ≤ Ipv4Address.getNetmaskLength r.netmask
  leastDist : rt.useAdminDist = true → ∀ s ∈ rt.routes, s.isMatch dest = true →
    Ipv4Address.getNetmaskLength s.netmask = Ipv4Address.getNetmaskLength r.netmask →
      r.adminDist ≤ s.adminDist
  leastMetric : ∀ s ∈ rt.routes, s.isMatch dest = true →
    Ipv4Address.getNetmaskLength s.netmask = Ipv4Address.getNetmaskLength r.netmask →
      (rt.useAdminDist = true → s.adminDist = r.adminDist) → r.metric ≤ s.metric

/-! ## The cache -/

theorem WellFormed.findBestMatchingRoute_eq_scanRoutes {rt : RoutingTable} (h : rt.WellFormed)
    (dest : Ipv4Address) : (rt.findBestMatchingRoute dest).1 = scanRoutes rt.routes dest :=
  h.current.recall_fst _ dest

theorem WellFormed.findBestMatchingRoute {rt : RoutingTable} (h : rt.WellFormed)
    (dest : Ipv4Address) : (rt.findBestMatchingRoute dest).2.WellFormed where
  ranked := h.ranked
  masked := h.masked
  nodup := h.nodup
  fresh := h.fresh
  current := h.current.recall_snd _ dest

@[simp] theorem findBestMatchingRoute_routes (rt : RoutingTable) (dest : Ipv4Address) :
    (rt.findBestMatchingRoute dest).2.routes = rt.routes := rfl

@[simp] theorem findBestMatchingRoute_contents (rt : RoutingTable) (dest : Ipv4Address) :
    (rt.findBestMatchingRoute dest).2.contents = rt.contents := rfl

/-! ## The scan -/

theorem WellFormed.ranked_routes {rt : RoutingTable} (h : rt.WellFormed) :
    Ranked rt.Better rt.routes :=
  List.pairwise_map.mp h.ranked

theorem scanRoutes_map (rt : RoutingTable) (dest : Ipv4Address) :
    (scanRoutes rt.routes dest).map Route.toRouteData =
      rt.contents.find? fun r => r.isValid && r.isMatch dest := by
  unfold scanRoutes contents
  rw [List.find?_map]
  rfl

theorem scanRoutes_eq_none {routes : List Route} {dest : Ipv4Address} :
    scanRoutes routes dest = none ↔ ∀ r ∈ routes, r.isMatch dest = false := by
  simp [scanRoutes, RouteData.isValid]

theorem scanRoutes_some {routes : List Route} {dest : Ipv4Address} {r : Route}
    (h : scanRoutes routes dest = some r) : r ∈ routes ∧ r.isMatch dest = true := by
  refine ⟨List.mem_of_find?_eq_some h, ?_⟩
  simpa [RouteData.isValid] using List.find?_some h

/-- A scan of a well-formed table with contiguous netmasks finds a best match. -/
theorem WellFormed.bestMatch_of_scanRoutes {rt : RoutingTable} (h : rt.WellFormed)
    (hprefixed : rt.Prefixed) {dest : Ipv4Address} {r : Route}
    (hscan : scanRoutes rt.routes dest = some r) : rt.BestMatch dest r := by
  obtain ⟨hpresent, hmatch⟩ := scanRoutes_some hscan
  have hdata : ∀ s ∈ rt.routes, s.toRouteData ∈ rt.contents := fun s hs =>
    List.mem_map_of_mem hs
  have hvalid : ∀ s ∈ rt.routes, Ipv4Address.isValidNetmask s.netmask = true := fun s hs =>
    hprefixed _ (hdata s hs)
  -- no matching route is better, and between matching routes that is a matter of three keys
  have hbest : ∀ s ∈ rt.routes, s.isMatch dest = true →
      ¬ (r.netmask < s.netmask ∨ s.netmask = r.netmask ∧
        (rt.useAdminDist = true ∧ s.adminDist < r.adminDist ∨
          (rt.useAdminDist = false ∨ s.adminDist = r.adminDist) ∧ s.metric < r.metric)) := by
    intro s hs hsmatch
    have hnot := h.ranked_routes.find_best (fun a => irrefl_of (RouteLT rt.useAdminDist) _) hscan
      s hs (by simpa [RouteData.isValid] using hsmatch)
    rwa [Better, routeLT_of_match (h.masked _ (hdata s hs)) (h.masked _ (hdata r hpresent))
      hsmatch hmatch] at hnot
  have hsame : ∀ s ∈ rt.routes, Ipv4Address.getNetmaskLength s.netmask =
      Ipv4Address.getNetmaskLength r.netmask → s.netmask = r.netmask := fun s hs hlen =>
    Ipv4Address.eq_of_getNetmaskLength_eq (hvalid s hs) (hvalid r hpresent) hlen
  refine ⟨hpresent, hmatch, ?_, ?_, ?_⟩
  · intro s hs hsmatch
    rw [← Ipv4Address.le_iff_getNetmaskLength_le (hvalid s hs) (hvalid r hpresent)]
    exact BitVec.not_lt.mp fun hlt => hbest s hs hsmatch (Or.inl hlt)
  · intro huse s hs hsmatch hlen
    by_contra hlt
    exact hbest s hs hsmatch (Or.inr ⟨hsame s hs hlen, Or.inl ⟨huse, by omega⟩⟩)
  · intro s hs hsmatch hlen hdist
    by_contra hlt
    refine hbest s hs hsmatch (Or.inr ⟨hsame s hs hlen, Or.inr ⟨?_, by omega⟩⟩)
    cases huse : rt.useAdminDist with
    | false => exact Or.inl rfl
    | true => exact Or.inr (hdist huse)

end RoutingTable

end MultiTechBus.Network
