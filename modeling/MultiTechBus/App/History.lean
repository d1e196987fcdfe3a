import MultiTechBus.App.Settled

/-! # Histories of control ticks

What a bus is like after a sequence of ticks depends on two facts about the
sequence: whether some tick found the station associated, and what the last tick
found. Whether the path in use is usable, and whether two histories end alike,
are read off these two facts.
-/

namespace MultiTechBus.App

open MultiTechBus.Library MultiTechBus.Network

/-- The cellular interface after ticks of which some (`switched`) took it down
and the last had flag `last`. -/
def cellularAfter (cell : NetworkInterface) (switched last : Bool) : NetworkInterface :=
  { cell with state := celularState last, carrier := !switched }

/-- The host after ticks of which some (`switched`) had a true flag and the last
had flag `last`, in terms of the host before them. -/
structure Tracks (n₀ : Node) (c : Nat) (cell : NetworkInterface) (switched last : Bool) (n : Node) :
    Prop where
  switched_of_last : last = true → switched = true
  config : n₀.SameConfig n
  wellFormed : n.rt.WellFormed
  ift : n.ift = n₀.ift.set c (cellularAfter cell switched last)
  specified : n.rt.contents.filter specified =
    if switched then settled n₀.rt.useAdminDist n₀.rt.netmaskRoutes n₀.ift c n₀.rt.contents
    else n₀.rt.contents.filter specified

/-- Interface `i` of the host is `UP` and has its carrier. -/
def UpWithCarrier (n : Node) (i : Nat) : Prop :=
  ∃ ie, n.ift[i]? = some ie ∧ ie.state = .UP ∧ ie.carrier = true

section Ticks

variable {n₀ : Node} {c w : Nat} {cell : NetworkInterface}

theorem Tracks.start (hwf : n₀.rt.WellFormed) (hget : n₀.ift[c]? = some cell)
    (hup : cell.state = .UP) (hcarrier : cell.carrier = true) :
    Tracks n₀ c cell false false n₀ where
  switched_of_last := by simp
  config := Node.SameConfig.refl n₀
  wellFormed := hwf
  ift := by
    have hself : cellularAfter cell false false = cell := by
      cases cell
      simp_all [cellularAfter, celularState]
    obtain ⟨hlt, rfl⟩ := List.getElem?_eq_some_iff.mp hget
    rw [hself, List.set_getElem_self]
  specified := by simp

/-- Before the tick's own insertion: what its state change leaves. -/
private theorem Tracks.setState {switched last : Bool} {n : Node}
    (hranked₀ : Ranked (RouteLT n₀.rt.useAdminDist) n₀.rt.contents)
    (h : Tracks n₀ c cell switched last n) (hc : c < n₀.ift.length) (b : Bool) :
    (n.setState c (celularState b)).ift = n₀.ift.set c (cellularAfter cell (switched || b) b) ∧
      (n.setState c (celularState b)).rt.contents.filter App.specified =
        if switched || b then
          settled n₀.rt.useAdminDist n₀.rt.netmaskRoutes n₀.ift c n₀.rt.contents
        else n₀.rt.contents.filter App.specified := by
  have hget : n.ift[c]? = some (cellularAfter cell switched last) := by
    rw [h.ift]
    exact List.getElem?_set_self hc
  by_cases hsame : last = b
  · -- the state is already the one asked for
    subst hsame
    have hsw : (switched || last) = switched := by
      cases last with
      | true => simp [h.switched_of_last rfl]
      | false => simp
    have hnoop : n.setState c (celularState last) = n := Node.setState_same hget
    rw [hnoop, hsw]
    exact ⟨h.ift, h.specified⟩
  · have hne : (cellularAfter cell switched last).state ≠ celularState b := by
      cases last <;> cases b <;> simp_all [cellularAfter, celularState]
    have hsw : (switched || b) = true := by
      cases b with
      | true => simp
      | false => simp [h.switched_of_last (by simpa using hsame)]
    have hloses : Loses (cellularAfter cell switched last) (celularState b) := by
      cases b with
      | true => exact Or.inl rfl
      | false => exact Or.inr (by simp [cellularAfter, h.switched_of_last (by simpa using hsame)])
    obtain ⟨hift, hspec⟩ := setState_settles h.wellFormed hget hne hloses
    rw [hsw, if_pos rfl]
    refine ⟨?_, ?_⟩
    · rw [hift, h.ift, List.set_set]
      rfl
    · rw [hspec, ← h.config.useAdminDist, ← h.config.netmaskRoutes, h.ift, settled_set,
        ← settled_filter_specified, h.specified]
      split
      · exact settled_settled hranked₀
      · exact settled_filter_specified

theorem Tracks.tick {switched last : Bool} {bus : Bus} (h : Tracks n₀ c cell switched last bus.node)
    (hwf : n₀.rt.WellFormed) (hi : BusInterfaces n₀.ift w c) (hbus : bus.app.isBus = true)
    (b : Bool) :
    ∃ bus', controlTick bus b = .ok bus' ∧ bus'.app.isBus = true ∧
      Tracks n₀ c cell (switched || b) b bus'.node ∧
      bus'.node.rt.contents = bus'.node.rt.contents.filter App.specified ++ [installed w c b] := by
  obtain ⟨ie, hget, -⟩ := findInterfaceByName_name hi.cellular
  have hlt := (List.getElem?_eq_some_iff.mp hget).1
  obtain ⟨bus', hok, hbus', hift, hconfig, hwf', hcontents⟩ :=
    controlTick_ok hbus h.wellFormed (hi.congr h.config.ift) b
  obtain ⟨hift', hspec⟩ := h.setState hwf.ranked hlt b
  have hinstalled : App.specified (installed w c b) = false := by
    cases b <;> exact defaultRoute_not_specified _ _
  have hfilter : bus'.node.rt.contents.filter App.specified =
      (bus.node.setState c (celularState b)).rt.contents.filter App.specified := by
    rw [hcontents, List.filter_append, List.filter_filter]
    simp [hinstalled]
  refine ⟨bus', hok, hbus', ?_, ?_⟩
  · exact ⟨by simp +contextual, h.config.trans hconfig, hwf', hift.trans hift', hfilter.trans hspec⟩
  · rw [hfilter]
    exact hcontents

/-- A run of ticks adds its flags to what is known about the history, and leaves
the default route of its last tick in last place. -/
theorem Tracks.run {switched last : Bool} {bus : Bus} (h : Tracks n₀ c cell switched last bus.node)
    (hwf : n₀.rt.WellFormed) (hi : BusInterfaces n₀.ift w c) (hbus : bus.app.isBus = true)
    (flags : List Bool) :
    ∃ bus', Library.run controlTick bus flags = .ok bus' ∧ bus'.app.isBus = true ∧
      Tracks n₀ c cell (switched || flags.contains true) (flags.getLastD last) bus'.node ∧
      (flags ≠ [] → bus'.node.rt.contents =
        bus'.node.rt.contents.filter App.specified ++ [installed w c (flags.getLastD last)]) := by
  induction flags generalizing switched last bus with
  | nil => exact ⟨bus, rfl, hbus, by simpa using h, by simp⟩
  | cons b flags ih =>
      obtain ⟨mid, hok, hmid, htracks, hmidcontents⟩ := h.tick hwf hi hbus b
      obtain ⟨bus', hrun, hbus', htracks', hcontents⟩ := ih htracks hmid
      refine ⟨bus', ?_, hbus', ?_, ?_⟩
      · rw [run_cons_ok flags hok, hrun]
      · have hany : (switched || (b :: flags).contains true) =
            ((switched || b) || flags.contains true) := by
          cases b <;> simp
        rw [hany, List.getLastD_cons]
        exact htracks'
      · intro _
        rw [List.getLastD_cons]
        cases flags with
        | nil =>
            obtain rfl : mid = bus' := by simpa using hrun
            exact hmidcontents
        | cons b' flags => exact hcontents (by simp)

end Ticks

end MultiTechBus.App
