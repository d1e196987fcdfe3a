import Mathlib.Data.List.Induction
import MultiTechBus.App.History
import MultiTechBus.Network.Lookup

/-! # The path in use

After a tick the default route is usable if the interface it names is up. The
fall-back to the cellular interface is usable exactly as long as no tick has taken
that interface down, and two histories with the same last flag end alike exactly
if both or neither of them took it down.
-/

namespace MultiTechBus.App

open MultiTechBus.Library MultiTechBus.Network

/-- The default route is the one for flag `b`, and a packet routed over it passes
the interface. -/
def DefaultUsable (w c : Nat) (b : Bool) (n : Node) : Prop :=
  ∃ r i ie, n.rt.getDefaultRoute = some r ∧ r.toRouteData = installed w c b ∧
    r.interface = some i ∧ n.ift[i]? = some ie ∧ ie.isUp = true ∧
      ie.pushPacket = .pushOrSendPacket

/-- The next hop that a lookup gives: interface and gateway of the route. -/
def nextHop (n : Node) (dest : Ipv4Address) : Option (Option Nat × Ipv4Address) :=
  (n.rt.findBestMatchingRoute dest).1.map fun r => (r.interface, r.gateway)

/-- The same state and carrier of both interfaces, the same routes, and the same
next hop for every destination. -/
structure SamePath (w c : Nat) (n n' : Node) : Prop where
  wlan0 : n.ift[w]?.map (fun ie => (ie.state, ie.carrier)) =
    n'.ift[w]?.map fun ie => (ie.state, ie.carrier)
  cellular : n.ift[c]?.map (fun ie => (ie.state, ie.carrier)) =
    n'.ift[c]?.map fun ie => (ie.state, ie.carrier)
  routes : n.rt.contents.Perm n'.rt.contents
  lookups : ∀ dest, nextHop n dest = nextHop n' dest

theorem sampleBus_wlan0_up : UpWithCarrier sampleBus.node 0 := ⟨_, rfl, rfl, rfl⟩

theorem sampleBus_cellular_up : UpWithCarrier sampleBus.node 1 := ⟨_, rfl, rfl, rfl⟩

section Path

variable {n₀ n n' : Node} {c w : Nat} {cell : NetworkInterface}

/-! ## Usable default routes -/

theorem Tracks.wlan0_get {switched last : Bool} (h : Tracks n₀ c cell switched last n)
    (hne : w ≠ c) : n.ift[w]? = n₀.ift[w]? := by
  rw [h.ift, List.getElem?_set_ne hne.symm]

theorem Tracks.cellular_get {switched last : Bool} (h : Tracks n₀ c cell switched last n)
    (hget : n₀.ift[c]? = some cell) : n.ift[c]? = some (cellularAfter cell switched last) := by
  rw [h.ift]
  exact List.getElem?_set_self (List.getElem?_eq_some_iff.mp hget).1

/-- The route of the last tick is usable unless it is a fall-back after a switch. -/
theorem Tracks.defaultUsable_iff {switched b : Bool} (h : Tracks n₀ c cell switched b n)
    (hne : w ≠ c) (hw : UpWithCarrier n₀ w) (hget : n₀.ift[c]? = some cell)
    {l : List RouteData} (hcontents : n.rt.contents = l ++ [installed w c b]) :
    DefaultUsable w c b n ↔ (switched = true → b = true) := by
  obtain ⟨route, hroute, hdata⟩ := getDefaultRoute_of_last hcontents (installed_isDefault w c b)
  constructor
  · rintro ⟨r, i, ie, hr, hrdata, hri, hie, hup, -⟩ hswitched
    cases b with
    | true => rfl
    | false =>
        have hi : r.toRouteData.interface = some c := by rw [hrdata]; rfl
        obtain rfl := Option.some.inj (hri.symm.trans hi)
        rw [h.cellular_get hget] at hie
        obtain rfl := Option.some.inj hie
        simp [NetworkInterface.isUp_iff, cellularAfter, hswitched] at hup
  · intro hsw
    have hup : ∃ ie, n.ift[if b then w else c]? = some ie ∧ ie.isUp = true := by
      cases b with
      | true =>
          obtain ⟨ie, hie, hstate, hcarrier⟩ := hw
          exact ⟨ie, by simpa [h.wlan0_get hne] using hie,
            NetworkInterface.isUp_iff.mpr ⟨hstate, hcarrier⟩⟩
      | false =>
          have hunswitched : switched = false := by simpa using hsw
          refine ⟨_, h.cellular_get hget, ?_⟩
          simp [NetworkInterface.isUp_iff, cellularAfter, celularState, hunswitched]
    obtain ⟨ie, hie, hup⟩ := hup
    have hri : route.toRouteData.interface = some (if b then w else c) := by
      rw [hdata]
      cases b <;> rfl
    exact ⟨route, _, ie, hroute, hdata, hri, hie, hup,
      NetworkInterface.pushPacket_eq_pushOrSendPacket_iff.mpr hup⟩

/-- After every tick the installed default route is usable, exactly if no tick with
a false flag follows a tick with a true flag. -/
theorem defaultUsable_after_every_tick_iff {bus : Bus} (hbus : bus.app.isBus = true)
    (hwf : bus.node.rt.WellFormed) (hi : BusInterfaces bus.node.ift w c)
    (hw : UpWithCarrier bus.node w) (hc : UpWithCarrier bus.node c) (flags : List Bool) :
    (∀ xs b, xs ++ [b] <+: flags → ∃ bus', Library.run controlTick bus (xs ++ [b]) = .ok bus' ∧
        DefaultUsable w c b bus'.node) ↔
      flags.Pairwise fun a b => a = true → b = true := by
  obtain ⟨cell, hget, hup, hcarrier⟩ := hc
  have htick : ∀ xs b, (∃ bus', Library.run controlTick bus (xs ++ [b]) = .ok bus' ∧
      DefaultUsable w c b bus'.node) ↔ ∀ a ∈ xs, a = true → b = true := by
    intro xs b
    obtain ⟨bus', hrun, -, htracks, hcontents⟩ :=
      (Tracks.start hwf hget hup hcarrier).run hwf hi hbus (xs ++ [b])
    have hlast : (xs ++ [b]).getLastD false = b := by simp
    rw [hlast] at htracks hcontents
    have hiff := htracks.defaultUsable_iff hi.ne hw hget (hcontents (by simp))
    rw [hrun]
    simp only [Except.ok.injEq, exists_eq_left']
    rw [hiff]
    cases b <;> simp
  induction flags using List.reverseRecOn with
  | nil => simp
  | append_singleton flags b ih =>
      rw [List.pairwise_append]
      constructor
      · intro h
        refine ⟨ih.mp fun xs b' hp => h xs b' (hp.trans (List.prefix_append _ _)),
          List.pairwise_singleton _ _, ?_⟩
        intro a ha b' hb'
        obtain rfl := List.mem_singleton.mp hb'
        exact (htick flags b').mp (h flags b' List.prefix_rfl) a ha
      · rintro ⟨hprev, -, hlast⟩ xs b' hp
        rcases List.prefix_concat_iff.mp hp with heq | hp
        · obtain ⟨rfl, hb⟩ := List.append_inj' heq rfl
          obtain rfl := List.singleton_inj.mp hb
          exact (htick xs b').mpr fun a ha => hlast a ha b' (by simp)
        · exact ih.mpr hprev xs b' hp

/-- On a bus that found an access point after a while and kept it, every tick
leaves a usable path. -/
theorem defaultUsable_sample :
    (∀ xs b, xs ++ [b] <+: [false, true, true] →
      ∃ bus', Library.run controlTick sampleBus (xs ++ [b]) = .ok bus' ∧
        DefaultUsable 0 1 b bus'.node) ↔
      [false, true, true].Pairwise fun a b => a = true → b = true :=
  defaultUsable_after_every_tick_iff (by decide) sampleBus_wellFormed sampleBus_interfaces
    sampleBus_wlan0_up sampleBus_cellular_up [false, true, true]

/-- The fall-back after a switch to the access point leads to an interface
without a carrier. -/
theorem not_defaultUsable_after_fallback :
    ¬ ∀ xs b, xs ++ [b] <+: [true, false] →
      ∃ bus', Library.run controlTick sampleBus (xs ++ [b]) = .ok bus' ∧
        DefaultUsable 0 1 b bus'.node := by
  intro h
  obtain ⟨bus', hrun, r, i, ie, -, hr, hri, hie, hup, -⟩ := h [true] false (by decide)
  have hend : (Library.run controlTick sampleBus [true, false]).toOption.map
      (fun bus => bus.node.ift.map NetworkInterface.isUp) = some [true, false] := by decide
  have hi : r.toRouteData.interface = some 1 := by rw [hr]; rfl
  obtain rfl := Option.some.inj (hri.symm.trans hi)
  rw [List.singleton_append] at hrun
  rw [hrun] at hend
  have hups : bus'.node.ift.map NetworkInterface.isUp = [true, false] := Option.some.inj hend
  have hcell := congrArg (fun l => l[1]?) hups
  simp [hie, hup] at hcell

/-! ## Equal histories -/

theorem nextHop_eq {n : Node} (h : n.rt.WellFormed) (dest : Ipv4Address) :
    nextHop n dest = (n.rt.contents.find? fun r => r.isValid && r.isMatch dest).map fun r =>
      (r.interface, r.gateway) := by
  unfold nextHop
  rw [h.findBestMatchingRoute_eq_scanRoutes, ← RoutingTable.scanRoutes_map, Option.map_map]
  rfl

/-- Two histories with the same last flag end alike exactly if both or neither of
them found the station associated. -/
theorem samePath_iff {bus : Bus} (hbus : bus.app.isBus = true)
    (hwf : bus.node.rt.WellFormed) (hi : BusInterfaces bus.node.ift w c)
    (hc : UpWithCarrier bus.node c) {xs ys : List Bool}
    (hxs : xs ≠ []) (hys : ys ≠ []) (hlast : xs.getLast? = ys.getLast?) :
    ∃ busx busy, Library.run controlTick bus xs = .ok busx ∧
      Library.run controlTick bus ys = .ok busy ∧
        (SamePath w c busx.node busy.node ↔ (true ∈ xs ↔ true ∈ ys)) := by
  obtain ⟨cell, hget, hup, hcarrier⟩ := hc
  have hstart := Tracks.start hwf hget hup hcarrier
  obtain ⟨busx, hrunx, -, hx, hcontentsx⟩ := hstart.run hwf hi hbus xs
  obtain ⟨busy, hruny, -, hy, hcontentsy⟩ := hstart.run hwf hi hbus ys
  refine ⟨busx, busy, hrunx, hruny, ?_⟩
  have hlastD : ys.getLastD false = xs.getLastD false := by
    rw [List.getLastD_eq_getLast?, List.getLastD_eq_getLast?, hlast]
  rw [hlastD] at hy hcontentsy
  constructor
  · -- the carrier of the cellular interface remembers the switch
    intro h
    have hcell := h.cellular
    rw [hx.cellular_get hget, hy.cellular_get hget] at hcell
    simpa [cellularAfter] using hcell
  · intro h
    have hswitched : xs.contains true = ys.contains true := by
      simp [h]
    rw [Bool.false_or, ← hswitched] at hy
    rw [Bool.false_or] at hx
    have hcontents : busx.node.rt.contents = busy.node.rt.contents := by
      rw [hcontentsx hxs, hcontentsy hys, hx.specified, hy.specified]
    have hift : busx.node.ift = busy.node.ift := hx.ift.trans hy.ift.symm
    refine ⟨by rw [hift], by rw [hift], by rw [hcontents], fun dest => ?_⟩
    rw [nextHop_eq hx.wellFormed, nextHop_eq hy.wellFormed, hcontents]

/-- Losing the access point twice ends like losing it once. -/
theorem samePath_sample : ∃ busx busy,
    Library.run controlTick sampleBus [true, false] = .ok busx ∧
      Library.run controlTick sampleBus [false, true, false, true, false] = .ok busy ∧
        (SamePath 0 1 busx.node busy.node ↔
          (true ∈ [true, false] ↔ true ∈ [false, true, false, true, false])) :=
  samePath_iff (by decide) sampleBus_wellFormed sampleBus_interfaces sampleBus_cellular_up
    (by decide) (by decide) (by decide)

/-- A bus that lost its access point differs from one that never found it. -/
theorem not_samePath_after_fallback :
    ¬ ∃ busx busy, Library.run controlTick sampleBus [true, false] = .ok busx ∧
      Library.run controlTick sampleBus [false] = .ok busy ∧ SamePath 0 1 busx.node busy.node := by
  rintro ⟨busx, busy, hx, hy, hsame⟩
  have hendx : (Library.run controlTick sampleBus [true, false]).toOption.map
      (fun bus => bus.node.ift[1]?.map fun ie => (ie.state, ie.carrier)) =
        some (some (.UP, false)) := by decide
  have hendy : (Library.run controlTick sampleBus [false]).toOption.map
      (fun bus => bus.node.ift[1]?.map fun ie => (ie.state, ie.carrier)) =
        some (some (.UP, true)) := by decide
  rw [hx] at hendx
  rw [hy] at hendy
  have hcell := (Option.some.inj hendx).symm.trans (hsame.cellular.trans (Option.some.inj hendy))
  exact absurd hcell (by decide)

end Path

end MultiTechBus.App
