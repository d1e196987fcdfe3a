import MultiTechBus.App.Tick

/-! # What a switch of the cellular interface leaves behind

Once the cellular interface has gone down, the routes that remain are the
configured netmask routes of the other interfaces and the other routes that do
not use it. These contents are a function of the table before the switch, which
further switches and notifications do not change.
-/

namespace MultiTechBus.App

open MultiTechBus.Library MultiTechBus.Network

/-- The route leads somewhere in particular and not through interface `c`. -/
def elsewhere (c : Nat) (r : RouteData) : Bool := specified r && r.interface != some c

/-- The route is one that neither a rebuild nor the loss of `c` removes. -/
def lasting (c : Nat) (r : RouteData) : Bool := elsewhere c r && !r.isNetmaskRoute

/-- The specified routes of a table that has lost interface `c`. -/
def settled (u : Bool) (m : String → Bool) (ift : InterfaceTable) (c : Nat) (l : List RouteData) :
    List RouteData :=
  insertAll (RouteLT u) ((RoutingTable.configured m ift).filter (elsewhere c)) (l.filter (lasting c))

section Settled

variable {u : Bool} {m : String → Bool} {ift : InterfaceTable} {c : Nat} {l : List RouteData}

theorem settled_congr_filter {l' : List RouteData}
    (h : l.filter (lasting c) = l'.filter (lasting c)) :
    settled u m ift c l = settled u m ift c l' := by
  unfold settled
  rw [h]

theorem settled_filter_specified : settled u m ift c (l.filter specified) = settled u m ift c l := by
  apply settled_congr_filter
  rw [List.filter_filter]
  congr 1
  funext r
  cases h : specified r <;> simp [lasting, elsewhere, h]

private theorem configured_filter_lasting :
    (RoutingTable.configured m ift).filter (lasting c) = [] := by
  rw [List.filter_eq_nil_iff]
  intro r hr
  simp [lasting, RoutingTable.isNetmaskRoute_of_mem_configured hr]

private theorem rebuild_filter_lasting (hl : Ranked (RouteLT u) l) :
    (insertAll (RouteLT u) (RoutingTable.configured m ift)
      (l.filter fun r => !r.isNetmaskRoute)).filter (lasting c) = l.filter (lasting c) := by
  rw [Ranked.filter_insertAll (hl.sublist List.filter_sublist), configured_filter_lasting,
    List.filter_filter]
  simp only [insertAll, List.foldl_nil]
  congr 1
  funext r
  cases h : r.isNetmaskRoute <;> simp [lasting, h]

theorem notified_ranked (hl : Ranked (RouteLT u) l) :
    Ranked (RouteLT u) (RoutingTable.notified u m ift c l) := by
  have hrebuild : Ranked (RouteLT u) (insertAll (RouteLT u) (RoutingTable.configured m ift)
      (l.filter fun r => !r.isNetmaskRoute)) :=
    Ranked.insertAll (hl.sublist List.filter_sublist)
  unfold RoutingTable.notified
  split
  · split
    · exact hrebuild
    · exact hrebuild.sublist List.filter_sublist
  · exact hrebuild

theorem notified_filter_lasting (hl : Ranked (RouteLT u) l) :
    (RoutingTable.notified u m ift c l).filter (lasting c) = l.filter (lasting c) := by
  unfold RoutingTable.notified
  split
  · split
    · exact rebuild_filter_lasting hl
    · have hpred : (fun r : RouteData => lasting c r && r.interface != some c) = lasting c := by
        funext r
        cases h : (r.interface != some c) <;> simp [lasting, elsewhere, h]
      rw [List.filter_filter, hpred]
      exact rebuild_filter_lasting hl
  · exact rebuild_filter_lasting hl

/-- A notification that finds interface `c` unusable settles the table. -/
theorem notified_filter_specified (hl : Ranked (RouteLT u) l) {ie : NetworkInterface}
    (hget : ift[c]? = some ie) (hdown : ie.isUp = false) :
    (RoutingTable.notified u m ift c l).filter specified = settled u m ift c l := by
  have hpred : (fun r => specified r && r.interface != some c) = elsewhere c := rfl
  unfold RoutingTable.notified settled
  simp only [hget, hdown]
  rw [if_neg (by simp), List.filter_filter, hpred,
    Ranked.filter_insertAll (hl.sublist List.filter_sublist), List.filter_filter]
  rfl

theorem settled_settled (hl : Ranked (RouteLT u) l) :
    settled u m ift c (settled u m ift c l) = settled u m ift c l := by
  apply settled_congr_filter
  have hnil : ((RoutingTable.configured m ift).filter (elsewhere c)).filter (lasting c) = [] := by
    rw [List.filter_comm, configured_filter_lasting, List.filter_nil]
  unfold settled
  rw [Ranked.filter_insertAll (hl.sublist List.filter_sublist), hnil, List.filter_filter]
  simp [insertAll]

theorem settled_notified (hl : Ranked (RouteLT u) l) (ift' : InterfaceTable) :
    settled u m ift c (RoutingTable.notified u m ift' c l) = settled u m ift c l :=
  settled_congr_filter (notified_filter_lasting hl)

private theorem filterMap_zipIdx_set {β : Type*} {g : NetworkInterface × Nat → Option β}
    {ie : NetworkInterface} (k : Nat) (hg : ∀ ie, g (ie, k + c) = none) :
    ((ift.set c ie).zipIdx k).filterMap g = (ift.zipIdx k).filterMap g := by
  induction ift generalizing c k with
  | nil => rfl
  | cons a ift ih =>
      cases c with
      | zero =>
          have hnone : ∀ ie, g (ie, k) = none := hg
          simp [List.zipIdx_cons, hnone]
      | succ c =>
          have htail := ih (k + 1) fun ie => by rw [Nat.add_assoc, Nat.add_comm 1 c]; exact hg ie
          simp [List.zipIdx_cons, List.filterMap_cons, htail]

/-- What interface `c` is like does not matter to a table that has lost it. -/
theorem settled_set (ie : NetworkInterface) :
    settled u m (ift.set c ie) c l = settled u m ift c l := by
  have hnone : ∀ ie, (RoutingTable.netmaskRoute m ie (0 + c)).filter (elsewhere c) = none := by
    intro ie
    rw [Nat.zero_add]
    cases h : RoutingTable.netmaskRoute m ie c with
    | none => rfl
    | some r =>
        have hie := (RoutingTable.netmaskRoute_eq_some h).2.2.1
        simp [elsewhere, hie]
  unfold settled RoutingTable.configured
  rw [List.filter_filterMap, List.filter_filterMap, filterMap_zipIdx_set 0 hnone]

end Settled

/-! ## Setting the state of the cellular interface -/

/-- The interface is not usable after this change of its state. -/
def Loses (ie : NetworkInterface) (s : State) : Prop := s = .DOWN ∨ ie.carrier = false

/-- A change that leaves the interface without its carrier settles the table. -/
theorem setState_settles {n : Node} (hwf : n.rt.WellFormed) {c : Nat} {ie : NetworkInterface}
    (hget : n.ift[c]? = some ie) {s : State} (hne : ie.state ≠ s) (hloses : Loses ie s) :
    (n.setState c s).ift = n.ift.set c { ie with state := s, carrier := false } ∧
      (n.setState c s).rt.contents.filter specified =
        settled n.rt.useAdminDist n.rt.netmaskRoutes n.ift c n.rt.contents := by
  have hset := Node.withInterface_get hget
  by_cases hs : s = .DOWN
  · subst hs
    rw [Node.setState_down hget hne]
    simp only []
    split
    · -- the carrier and the state are reported one after the other
      refine ⟨rfl, ?_⟩
      have hconfig := Node.stateChanged_sameConfig
        (n.withInterface c { ie with state := .DOWN, carrier := false }) c .F_CARRIER
      rw [Node.stateChanged_contents, ← hconfig.useAdminDist, ← hconfig.netmaskRoutes,
        Node.stateChanged_contents]
      refine (notified_filter_specified (notified_ranked hwf.ranked) (hset _) ?_).trans ?_
      · rfl
      · exact (settled_notified hwf.ranked _).trans (settled_set _)
    · refine ⟨rfl, ?_⟩
      rw [Node.stateChanged_contents]
      exact (notified_filter_specified hwf.ranked (hset _) rfl).trans (settled_set _)
  · have hlost : ie.carrier = false := hloses.resolve_left hs
    have hie : ({ ie with state := s } : NetworkInterface) =
        { ie with state := s, carrier := false } := by
      rw [← hlost]
    rw [Node.setState_of_ne_down hget hne hs, hie]
    refine ⟨rfl, ?_⟩
    rw [Node.stateChanged_contents]
    exact (notified_filter_specified hwf.ranked (hset _) (by simp [NetworkInterface.isUp])).trans
      (settled_set _)

end MultiTechBus.App
