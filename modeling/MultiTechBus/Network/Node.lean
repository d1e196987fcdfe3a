import MultiTechBus.Network.Contents

/-! # Interface changes on a host

A host holds its interface table and its routing table. Changing the state or
the carrier of an interface notifies the routing table, once for each field that
really changed.
-/

namespace MultiTechBus.Network

open MultiTechBus.Library

structure Node where
  ift : InterfaceTable
  rt : RoutingTable

namespace Node

/-- Emit `interfaceStateChangedSignal`; the routing table receives it at once. -/
def stateChanged (n : Node) (entry : Nat) (fieldId : FieldId) : Node :=
  { n with rt := n.rt.interfaceStateChanged n.ift entry fieldId }

def setCarrier (n : Node) (entry : Nat) (b : Bool) : Node :=
  match n.ift[entry]? with
  | some ie =>
      if ie.carrier ≠ b then
        stateChanged { n with ift := n.ift.set entry { ie with carrier := b } } entry .F_CARRIER
      else n
  | none => n

def setState (n : Node) (entry : Nat) (s : State) : Node :=
  match n.ift[entry]? with
  | some ie =>
      if ie.state ≠ s then
        let n := { n with ift := n.ift.set entry { ie with state := s } }
        let n := if s = .DOWN then n.setCarrier entry false else n
        n.stateChanged entry .F_STATE
      else n
  | none => n

/-! ## Configuration -/

/-- The parameters and the interface configuration that no event changes. -/
structure SameConfig (n n' : Node) : Prop where
  ift : n.ift.SameConfig n'.ift
  useAdminDist : n.rt.useAdminDist = n'.rt.useAdminDist
  netmaskRoutes : n.rt.netmaskRoutes = n'.rt.netmaskRoutes

theorem SameConfig.refl (n : Node) : n.SameConfig n := ⟨rfl, rfl, rfl⟩

theorem SameConfig.trans {n₁ n₂ n₃ : Node} (h : n₁.SameConfig n₂) (h' : n₂.SameConfig n₃) :
    n₁.SameConfig n₃ :=
  ⟨Eq.trans h.ift h'.ift, h.useAdminDist.trans h'.useAdminDist,
    h.netmaskRoutes.trans h'.netmaskRoutes⟩

theorem sameConfig_set {ift : InterfaceTable} {entry : Nat} {ie ie' : NetworkInterface}
    (hget : ift[entry]? = some ie) (hname : ie'.interfaceName = ie.interfaceName)
    (hfull : ie'.fullName = ie.fullName) (hdata : ie'.ipv4Data = ie.ipv4Data) :
    InterfaceTable.SameConfig ift (ift.set entry ie') := by
  obtain ⟨hlt, rfl⟩ := List.getElem?_eq_some_iff.mp hget
  unfold InterfaceTable.SameConfig
  rw [List.map_set, hname, hfull, hdata]
  refine List.ext_getElem (by simp) fun i hi hi' => ?_
  by_cases h : entry = i
  · subst h
    simp
  · simp [List.getElem_set_ne h]

theorem stateChanged_sameConfig (n : Node) (entry : Nat) (fieldId : FieldId) :
    n.SameConfig (n.stateChanged entry fieldId) := by
  obtain ⟨hdist, hnames⟩ := n.rt.interfaceStateChanged_params n.ift entry fieldId
  exact ⟨rfl, hdist.symm, hnames.symm⟩

/-! ## What a change does -/

theorem stateChanged_contents (n : Node) (entry : Nat) (fieldId : FieldId) :
    (n.stateChanged entry fieldId).rt.contents =
      RoutingTable.notified n.rt.useAdminDist n.rt.netmaskRoutes n.ift entry n.rt.contents :=
  n.rt.contents_interfaceStateChanged n.ift entry fieldId

/-- The host with one interface replaced, before any notification. -/
def withInterface (n : Node) (entry : Nat) (ie : NetworkInterface) : Node :=
  { n with ift := n.ift.set entry ie }

theorem withInterface_get {n : Node} {entry : Nat} {ie : NetworkInterface}
    (hget : n.ift[entry]? = some ie) (ie' : NetworkInterface) :
    (n.withInterface entry ie').ift[entry]? = some ie' := by
  obtain ⟨hlt, _⟩ := List.getElem?_eq_some_iff.mp hget
  exact List.getElem?_set_self hlt

@[simp] theorem withInterface_withInterface (n : Node) (entry : Nat) (ie ie' : NetworkInterface) :
    (n.withInterface entry ie).withInterface entry ie' = n.withInterface entry ie' := by
  simp [withInterface]

theorem setCarrier_same {n : Node} {entry : Nat} {ie : NetworkInterface}
    (hget : n.ift[entry]? = some ie) : n.setCarrier entry ie.carrier = n := by
  simp [setCarrier, hget]

theorem setCarrier_of_ne {n : Node} {entry : Nat} {ie : NetworkInterface} {b : Bool}
    (hget : n.ift[entry]? = some ie) (hne : ie.carrier ≠ b) :
    n.setCarrier entry b =
      (n.withInterface entry { ie with carrier := b }).stateChanged entry .F_CARRIER := by
  simp [setCarrier, hget, hne, withInterface]

theorem setState_same {n : Node} {entry : Nat} {ie : NetworkInterface}
    (hget : n.ift[entry]? = some ie) : n.setState entry ie.state = n := by
  simp [setState, hget]

/-- A new state other than `DOWN` leaves the carrier as it is: it does not bring
a lost carrier back. -/
theorem setState_of_ne_down {n : Node} {entry : Nat} {ie : NetworkInterface} {s : State}
    (hget : n.ift[entry]? = some ie) (hne : ie.state ≠ s) (hs : s ≠ .DOWN) :
    n.setState entry s =
      (n.withInterface entry { ie with state := s }).stateChanged entry .F_STATE := by
  simp [setState, hget, hne, hs, withInterface]

/-- Taking an interface down loses its carrier, with a notification of its own. -/
theorem setState_down {n : Node} {entry : Nat} {ie : NetworkInterface}
    (hget : n.ift[entry]? = some ie) (hne : ie.state ≠ .DOWN) :
    n.setState entry .DOWN =
      let down := n.withInterface entry { ie with state := .DOWN, carrier := false }
      if ie.carrier then (down.stateChanged entry .F_CARRIER).stateChanged entry .F_STATE
      else down.stateChanged entry .F_STATE := by
  have hstep : n.setState entry .DOWN =
      ((n.withInterface entry { ie with state := .DOWN }).setCarrier entry false).stateChanged
        entry .F_STATE := by
    simp [setState, hget, hne, withInterface]
  have hdown := withInterface_get hget { ie with state := .DOWN }
  rw [hstep]
  by_cases hc : ie.carrier = true
  · rw [setCarrier_of_ne hdown (by simp [hc]), withInterface_withInterface]
    simp only [if_pos hc]
  · have hlost : ie.carrier = false := by simpa using hc
    have hsame := setCarrier_same hdown
    simp only [hlost] at hsame ⊢
    simp [hsame]

theorem setCarrier_induction {P : Node → Prop} {entry : Nat}
    (hset : ∀ n ie s b, n.ift[entry]? = some ie → P n →
      P (n.withInterface entry { ie with state := s, carrier := b }))
    (hchange : ∀ n fieldId, P n → P (n.stateChanged entry fieldId))
    {n : Node} (h : P n) (b : Bool) : P (n.setCarrier entry b) := by
  cases hget : n.ift[entry]? with
  | none => simpa [setCarrier, hget] using h
  | some ie =>
      by_cases hsame : ie.carrier = b
      · rw [← hsame, setCarrier_same hget]
        exact h
      · rw [setCarrier_of_ne hget hsame]
        exact hchange _ _ (hset n ie ie.state b hget h)

/-- What replacing the interface and notifying the routing table preserve,
`setState` preserves. -/
theorem setState_induction {P : Node → Prop} {entry : Nat}
    (hset : ∀ n ie s b, n.ift[entry]? = some ie → P n →
      P (n.withInterface entry { ie with state := s, carrier := b }))
    (hchange : ∀ n fieldId, P n → P (n.stateChanged entry fieldId))
    {n : Node} (h : P n) (s : State) : P (n.setState entry s) := by
  cases hget : n.ift[entry]? with
  | none => simpa [setState, hget] using h
  | some ie =>
      by_cases hsame : ie.state = s
      · rw [← hsame, setState_same hget]
        exact h
      · by_cases hs : s = .DOWN
        · subst hs
          have hdown := hset n ie .DOWN false hget h
          rw [setState_down hget hsame]
          simp only []
          split
          · exact hchange _ _ (hchange _ _ hdown)
          · exact hchange _ _ hdown
        · rw [setState_of_ne_down hget hsame hs]
          exact hchange _ _ (hset n ie s ie.carrier hget h)

theorem setState_wellFormed {n : Node} (h : n.rt.WellFormed) (entry : Nat) (s : State) :
    (n.setState entry s).rt.WellFormed := by
  refine setState_induction (P := fun n => n.rt.WellFormed) ?_ ?_ h s
  · intro n ie s b _ h
    exact h
  · intro n fieldId h
    exact h.interfaceStateChanged n.ift entry fieldId

theorem setState_sameConfig (n : Node) (entry : Nat) (s : State) :
    n.SameConfig (n.setState entry s) := by
  refine setState_induction (P := fun n' => n.SameConfig n') ?_ ?_ (SameConfig.refl n) s
  · intro n' ie s b hget h
    exact h.trans ⟨sameConfig_set hget rfl rfl rfl, rfl, rfl⟩
  · intro n' fieldId h
    exact h.trans (n'.stateChanged_sameConfig entry fieldId)

theorem setState_prefixed {n : Node} (hift : n.ift.Contiguous) (h : n.rt.Prefixed) (entry : Nat)
    (s : State) : (n.setState entry s).rt.Prefixed := by
  refine (setState_induction (P := fun n => n.ift.Contiguous ∧ n.rt.Prefixed) ?_ ?_
    ⟨hift, h⟩ s).2
  · intro n ie s b hget h
    exact ⟨h.1.congr (sameConfig_set hget rfl rfl rfl), h.2⟩
  · intro n fieldId h
    refine ⟨h.1, fun r hr => ?_⟩
    rw [stateChanged_contents] at hr
    rcases RoutingTable.mem_notified hr with hr | hr
    · exact RoutingTable.isValidNetmask_of_mem_configured h.1 hr
    · exact h.2 r hr

end Node

end MultiTechBus.Network
