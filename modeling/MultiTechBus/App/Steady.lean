import MultiTechBus.App.Settled

/-! # What a tick leaves in the routing table

A tick keeps the routes that neither a rebuild of the netmask routes nor the loss of
the cellular interface removes, replaces every route with an unspecified
destination by its own, and finds nothing left to do when it is repeated.
-/

namespace MultiTechBus.App

open MultiTechBus.Library MultiTechBus.Network

/-! ## Setting a state -/

theorem setState_state {n : Node} {c : Nat} {ie : NetworkInterface} (hget : n.ift[c]? = some ie)
    (s : State) : ∃ ie', (n.setState c s).ift[c]? = some ie' ∧ ie'.state = s := by
  have hset := Node.withInterface_get hget
  by_cases hsame : ie.state = s
  · subst hsame
    rw [Node.setState_same hget]
    exact ⟨ie, hget, rfl⟩
  · by_cases hs : s = .DOWN
    · subst hs
      refine ⟨{ ie with state := .DOWN, carrier := false }, ?_, rfl⟩
      rw [Node.setState_down hget hsame]
      simp only []
      split <;> exact hset _
    · refine ⟨{ ie with state := s }, ?_, rfl⟩
      rw [Node.setState_of_ne_down hget hsame hs]
      exact hset _

theorem setState_filter_lasting {n : Node} (hwf : n.rt.WellFormed) (c : Nat) (s : State) :
    (n.setState c s).rt.contents.filter (lasting c) = n.rt.contents.filter (lasting c) := by
  have hkept : (n.setState c s).rt.WellFormed ∧
      (n.setState c s).rt.contents.filter (lasting c) = n.rt.contents.filter (lasting c) := by
    refine Node.setState_induction (P := fun n' => n'.rt.WellFormed ∧
      n'.rt.contents.filter (lasting c) = n.rt.contents.filter (lasting c)) ?_ ?_ ⟨hwf, rfl⟩ s
    · intro n' ie s b _ h
      exact h
    · intro n' fieldId h
      refine ⟨h.1.interfaceStateChanged n'.ift c fieldId, ?_⟩
      rw [Node.stateChanged_contents, notified_filter_lasting h.1.ranked]
      exact h.2
  exact hkept.2

/-! ## One tick and another -/

theorem installed_not_specified (w c : Nat) (b : Bool) : specified (installed w c b) = false := by
  cases b <;> rfl

/-- Among the specified routes and a default route, only the latter has an unspecified
destination. -/
theorem filter_unspecified {l : List RouteData} {r : RouteData} (hr : specified r = false) :
    ((l.filter specified ++ [r]).filter fun r => r.destination.isUnspecified) = [r] := by
  have hnil : ((l.filter specified).filter fun r => r.destination.isUnspecified) = [] := by
    rw [List.filter_eq_nil_iff]
    intro r' hr'
    simpa [specified] using (List.mem_filter.mp hr').2
  have hdest : r.destination.isUnspecified = true := by
    simpa [specified] using hr
  rw [List.filter_append, hnil]
  simp [hdest]

theorem filter_lasting {l : List RouteData} {r : RouteData} (hr : specified r = false) (c : Nat) :
    (l.filter specified ++ [r]).filter (lasting c) = l.filter (lasting c) := by
  rw [List.filter_append, List.filter_filter]
  have hpred : (fun r => lasting c r && specified r) = lasting c := by
    funext r'
    cases h : specified r' <;> simp [lasting, elsewhere, h]
  rw [hpred]
  simp [lasting, elsewhere, hr]

/-- A tick on a bus leaves an ordered table with its own route as the only one with an
unspecified destination. The other routes that lead neither through the cellular
interface nor to the subnet of an interface are the ones from before, in their
order, and a second tick with the same flag leaves the same table. -/
theorem controlTick_table {bus : Bus} (hbus : bus.app.isBus = true) (hwf : bus.node.rt.WellFormed)
    {w c : Nat} (hi : BusInterfaces bus.node.ift w c) (b : Bool) :
    ∃ bus', controlTick bus b = .ok bus' ∧
      Ranked (RouteLT bus'.node.rt.useAdminDist) bus'.node.rt.contents ∧
      (bus'.node.rt.contents.filter fun r => r.destination.isUnspecified) = [installed w c b] ∧
      bus'.node.rt.contents.filter (lasting c) = bus.node.rt.contents.filter (lasting c) ∧
      ∃ bus'', controlTick bus' b = .ok bus'' ∧
        bus''.node.rt.contents = bus'.node.rt.contents := by
  obtain ⟨bus', hok, hbus', hift, hconfig, hwf', hcontents⟩ := controlTick_ok hbus hwf hi b
  obtain ⟨bus'', hok', -, -, -, -, hcontents'⟩ :=
    controlTick_ok hbus' hwf' (hi.congr hconfig.ift) b
  have hinstalled := installed_not_specified w c b
  refine ⟨bus', hok, hwf'.ranked, ?_, ?_, bus'', hok', ?_⟩
  · rw [hcontents]
    exact filter_unspecified hinstalled
  · rw [hcontents, filter_lasting hinstalled]
    exact setState_filter_lasting hwf c (celularState b)
  · -- the second tick finds the cellular interface in the state that it asks for
    obtain ⟨cell, hget, -⟩ := findInterfaceByName_name hi.cellular
    obtain ⟨cell', hget', hstate⟩ := setState_state hget (celularState b)
    rw [← hift] at hget'
    have hsame := Node.setState_same hget'
    rw [hstate] at hsame
    rw [hcontents', hsame, hcontents, List.filter_append, List.filter_filter]
    simp [hinstalled]

theorem controlTick_table_sample :
    ∃ bus', controlTick sampleBus true = .ok bus' ∧
      Ranked (RouteLT bus'.node.rt.useAdminDist) bus'.node.rt.contents ∧
      (bus'.node.rt.contents.filter fun r => r.destination.isUnspecified) =
        [installed 0 1 true] ∧
      bus'.node.rt.contents.filter (lasting 1) =
        sampleBus.node.rt.contents.filter (lasting 1) ∧
      ∃ bus'', controlTick bus' true = .ok bus'' ∧
        bus''.node.rt.contents = bus'.node.rt.contents :=
  controlTick_table (by decide) sampleBus_wellFormed sampleBus_interfaces true

end MultiTechBus.App
