import Mathlib.Data.List.Perm.Basic
import MultiTechBus.Configurator.Assignment
import MultiTechBus.Library.Run

/-! # The order of the interface names

The address and the netmask that the loop carries are those of an earlier name. So
what an interface gets may change when the names are listed in another order.
-/

namespace MultiTechBus.Configurator

open Library Network

/-! ## What is carried -/

namespace AddressPlan

variable {plan : AddressPlan}

def own (plan : AddressPlan) : Carried := ⟨plan.ownAddress, plan.netmask⟩

def other (plan : AddressPlan) : Carried := ⟨plan.otherAddress, plan.otherNetmask⟩

theorem next_otherName (hne : plan.ownName ≠ plan.otherName) (c : Carried) :
    plan.next c plan.otherName = plan.other := by
  simp [next, hne.symm, other]

theorem next_ownName (c : Carried) :
    plan.next c plan.ownName = ⟨plan.ownAddress, c.netmask⟩ := by
  simp [next]

theorem next_start {name : String} (hname : name ≠ plan.otherName) :
    plan.next plan.start name = plan.start := by
  by_cases hown : name = plan.ownName
  · rw [hown, next_ownName]
    rfl
  · simp [next, hown, hname]

theorem next_of_unknown {name : String} (hown : name ≠ plan.ownName)
    (hother : name ≠ plan.otherName) (c : Carried) : plan.next c name = c := by
  simp [next, hown, hother]

/-- What an interface gets comes from variables that have what every round keeps. -/
theorem exists_given (plan : AddressPlan) {P : Carried → Prop} {names : List String}
    {name : String} (hmem : name ∈ names)
    {c : Carried} (hc : P c) (hnext : ∀ c, ∀ name ∈ names, P c → P (plan.next c name)) :
    ∃ c', P c' ∧ plan.given c names name = plan.next c' name := by
  induction names generalizing c with
  | nil => cases hmem
  | cons first rest ih =>
      by_cases heq : first = name
      · refine ⟨c, hc, ?_⟩
        rw [given, if_pos heq, heq]
      · have hmem' := List.mem_of_ne_of_mem (Ne.symm heq) hmem
        obtain ⟨c', hc', hgiven⟩ := ih hmem' (hnext c first List.mem_cons_self hc)
          fun c name hname => hnext c name (List.mem_cons_of_mem _ hname)
        refine ⟨c', hc', ?_⟩
        rw [given, if_neg heq]
        exact hgiven

theorem given_otherName (hne : plan.ownName ≠ plan.otherName) {names : List String}
    (hmem : plan.otherName ∈ names) (c : Carried) :
    plan.given c names plan.otherName = plan.other := by
  obtain ⟨c', -, hgiven⟩ := exists_given plan (P := fun _ => True) (c := c) hmem trivial
    fun _ _ _ _ => trivial
  rw [hgiven, next_otherName hne]

theorem given_of_fixed {names : List String} {name : String} (hmem : name ∈ names) {c : Carried}
    (hfixed : ∀ name ∈ names, plan.next c name = c) : plan.given c names name = c := by
  obtain ⟨c', rfl, hgiven⟩ := exists_given plan (P := fun c' => c' = c) hmem rfl
    fun c' name hname hc => by rw [hc, hfixed name hname]
  rw [hgiven, hfixed name hmem]

end AddressPlan

/-! ## Other orders -/

section Orders

variable {plan : AddressPlan} {names : List String}

/-- Every order of the names gives each of them the same, and the two known names what
is meant for them. -/
def AddressPlan.OrderFree (plan : AddressPlan) (names : List String) : Prop :=
  ∀ names' : List String, names'.Perm names →
    (∀ name ∈ names, plan.given plan.start names' name = plan.given plan.start names name) ∧
    (plan.ownName ∈ names → plan.given plan.start names' plan.ownName = plan.own) ∧
    (plan.otherName ∈ names → plan.given plan.start names' plan.otherName = plan.other)

/-- The other name is alone or not there, or what it hands on makes no difference. -/
def AddressPlan.Separate (plan : AddressPlan) (names : List String) : Prop :=
  plan.otherName ∉ names ∨ (∀ name ∈ names, name = plan.otherName) ∨
    (plan.netmask = plan.otherNetmask ∧
      ((∀ name ∈ names, name = plan.ownName ∨ name = plan.otherName) ∨
        plan.ownAddress = plan.otherAddress))

/-- Two names can be brought to the front. -/
theorem exists_perm_front {a b : String} (ha : a ∈ names) (hb : b ∈ names) (hne : a ≠ b) :
    ∃ rest, (a :: b :: rest).Perm names := by
  have hb' : b ∈ names.erase a := (List.mem_erase_of_ne (Ne.symm hne)).mpr hb
  refine ⟨(names.erase a).erase b, ?_⟩
  have hrest := (List.perm_cons_erase hb').symm
  exact (hrest.cons a).trans (List.perm_cons_erase ha).symm

theorem AddressPlan.OrderFree.separate (hne : plan.ownName ≠ plan.otherName)
    (h : plan.OrderFree names) : plan.Separate names := by
  by_cases hother : plan.otherName ∈ names
  · by_cases halone : ∀ name ∈ names, name = plan.otherName
    · exact .inr (.inl halone)
    · have hlate : ∀ name ∈ names, name ≠ plan.otherName →
          plan.start = plan.next plan.other name := by
        -- the name before the other one, and right after it
        intro name hmem hname
        obtain ⟨rest, hperm⟩ := exists_perm_front hmem hother hname
        obtain ⟨rest', hperm'⟩ := exists_perm_front hother hmem (Ne.symm hname)
        have hfirst := (h _ hperm).1 name hmem
        have hsecond := (h _ hperm').1 name hmem
        rw [AddressPlan.given, if_pos rfl, AddressPlan.next_start hname] at hfirst
        rw [AddressPlan.given, if_neg (Ne.symm hname), AddressPlan.next_otherName hne,
          AddressPlan.given, if_pos rfl] at hsecond
        exact hfirst.trans hsecond.symm
      simp only [not_forall] at halone
      obtain ⟨name, hmem, hname⟩ := halone
      have hnetmask : plan.netmask = plan.otherNetmask := by
        have hstart := hlate name hmem hname
        by_cases hown : name = plan.ownName
        · rw [hown, AddressPlan.next_ownName] at hstart
          exact congrArg Carried.netmask hstart
        · rw [AddressPlan.next_of_unknown hown hname] at hstart
          exact congrArg Carried.netmask hstart
      refine .inr (.inr ⟨hnetmask, ?_⟩)
      by_cases hknown : ∀ name ∈ names, name = plan.ownName ∨ name = plan.otherName
      · exact .inl hknown
      · simp only [not_forall, not_or] at hknown
        obtain ⟨name', hmem', hown', hname'⟩ := hknown
        have hstart := hlate name' hmem' hname'
        rw [AddressPlan.next_of_unknown hown' hname'] at hstart
        exact .inr (congrArg Carried.myAddress hstart)
  · exact .inl hother

theorem AddressPlan.orderFree_of_fixed (hne : plan.ownName ≠ plan.otherName)
    (hfixed : ∀ name ∈ names, plan.next plan.start name = plan.start) : plan.OrderFree names := by
  intro names' hperm
  have hfixed' : ∀ name ∈ names', plan.next plan.start name = plan.start :=
    fun name hmem => hfixed name (hperm.mem_iff.mp hmem)
  refine ⟨?_, ?_, ?_⟩
  · intro name hmem
    rw [given_of_fixed (hperm.mem_iff.mpr hmem) hfixed', given_of_fixed hmem hfixed]
  · intro hmem
    exact given_of_fixed (hperm.mem_iff.mpr hmem) hfixed'
  · intro hmem
    exact given_otherName hne (hperm.mem_iff.mpr hmem) _

theorem AddressPlan.Separate.orderFree (hne : plan.ownName ≠ plan.otherName)
    (h : plan.Separate names) : plan.OrderFree names := by
  rcases h with hnone | halone | ⟨hnetmask, hknown | haddress⟩
  · apply orderFree_of_fixed hne
    intro name hmem
    exact next_start fun heq => hnone (heq ▸ hmem)
  · intro names' hperm
    have hgiven : ∀ name ∈ names, ∀ l : List String, l.Perm names →
        plan.given plan.start l name = plan.other := by
      intro name hmem l hl
      rw [halone name hmem]
      exact given_otherName hne (halone name hmem ▸ hl.mem_iff.mpr hmem) _
    refine ⟨?_, ?_, ?_⟩
    · intro name hmem
      rw [hgiven name hmem names' hperm, hgiven name hmem names (List.Perm.refl _)]
    · intro hmem
      exact absurd (halone _ hmem) hne
    · intro hmem
      exact hgiven _ hmem names' hperm
  · -- the netmask never changes, and the address is only handed on to known names
    have hgiven : ∀ name ∈ names, ∀ l : List String, l.Perm names →
        plan.given plan.start l name = if name = plan.ownName then plan.own else plan.other := by
      intro name hmem l hl
      obtain ⟨c', hc', hl'⟩ := exists_given plan (P := fun c => c.netmask = plan.netmask)
        (c := plan.start) (hl.mem_iff.mpr hmem) rfl (by
          intro c name _ hc
          by_cases hown : name = plan.ownName
          · rw [hown, next_ownName]
            exact hc
          · by_cases hother : name = plan.otherName
            · rw [hother, next_otherName hne]
              exact hnetmask.symm
            · rw [next_of_unknown hown hother]
              exact hc)
      rw [hl']
      rcases hknown name hmem with heq | heq
      · rw [heq, next_ownName, hc', if_pos rfl]
        rfl
      · rw [heq, next_otherName hne, if_neg (Ne.symm hne)]
    intro names' hperm
    refine ⟨?_, ?_, ?_⟩
    · intro name hmem
      rw [hgiven name hmem names' hperm, hgiven name hmem names (List.Perm.refl _)]
    · intro hmem
      rw [hgiven _ hmem names' hperm, if_pos rfl]
    · intro hmem
      rw [hgiven _ hmem names' hperm, if_neg (Ne.symm hne)]
  · apply orderFree_of_fixed hne
    intro name _
    by_cases hother : name = plan.otherName
    · rw [hother, next_otherName hne, other, start, hnetmask, haddress]
    · exact next_start hother

theorem AddressPlan.orderFree_iff (hne : plan.ownName ≠ plan.otherName) :
    plan.OrderFree names ↔ plan.Separate names :=
  ⟨AddressPlan.OrderFree.separate hne, AddressPlan.Separate.orderFree hne⟩

end Orders

/-! ## The order of the parameter -/

def AddressPlan.OrderIndependent (plan : AddressPlan) (setup : List String → Except Halt Node)
    (names known : List String) (n' : Node) : Prop :=
  ∀ names' : List String, names'.Perm names → ∃ m, setup names' = .ok m ∧
    (∀ name ∈ known, addressOf m.ift name = addressOf n'.ift name) ∧
    (plan.ownName ∈ known → addressOf m.ift plan.ownName = some plan.own) ∧
    (plan.otherName ∈ known → addressOf m.ift plan.otherName = some plan.other)

section Setup

variable {plan : AddressPlan} {host : HostModule} {initializing : Bool} {s : AddressLoop}
  {names : List String} {n' : Node}

/-- An order of the names that are not those of loopback interfaces is part of an order of
all names. -/
theorem exists_perm_external {ift : InterfaceTable} {known' : List String}
    (h : known'.Perm (external ift names)) :
    ∃ names' : List String, names'.Perm names ∧ external ift names' = known' := by
  refine ⟨known' ++ names.filter fun name => ift.isLoopback name, ?_, ?_⟩
  · have hsplit := List.filter_append_perm (fun name => !ift.isLoopback name) names
    simp only [Bool.not_not] at hsplit
    exact (h.append_right _).trans hsplit
  · have hknown : known'.filter (fun name => !ift.isLoopback name) = known' := by
      rw [List.filter_eq_self]
      intro name hmem
      exact (List.mem_filter.mp (h.mem_iff.mp hmem)).2
    rw [external, List.filter_append, hknown, List.filter_filter]
    simp

/-- What the loop gives, in any order of the names. -/
theorem assignInterfaces_perm (host : HostModule) (initializing : Bool)
    (hready : ∀ name ∈ names, Ready plan s.node.ift name)
    (hnodup : names.Nodup) {names' : List String} (hperm : names'.Perm names) :
    ∃ s', assignInterfaces plan host initializing s names' = .ok s' ∧
      ∀ name ∈ external s.node.ift names, addressOf s'.node.ift name =
        some (plan.given s.carried (external s.node.ift names') name) := by
  obtain ⟨s', hok, hrounds⟩ := assignInterfaces_ok host initializing
    (fun name hmem => hready name (hperm.mem_iff.mp hmem)) (hperm.nodup_iff.mpr hnodup)
  refine ⟨s', hok, ?_⟩
  intro name hmem
  obtain ⟨hname, hnot⟩ := List.mem_filter.mp hmem
  exact hrounds.address name (hperm.mem_iff.mpr hname) (by simpa using hnot)

theorem AddressPlan.orderIndependent_iff_of_loop (hne : plan.ownName ≠ plan.otherName)
    {setup : List String → Except Halt Node}
    (hsetup : ∀ l, setup l = (assignInterfaces plan host initializing s l).map AddressLoop.node)
    (hstart : s.carried = plan.start) (hnodup : names.Nodup) (hok : setup names = .ok n') :
    plan.OrderIndependent setup names (external s.node.ift names) n' ↔
      plan.Separate (external s.node.ift names) := by
  rw [hsetup] at hok
  obtain ⟨s₁, hloop, hn'⟩ := map_ok_inv hok
  have hready := ready_of_assignInterfaces hloop
  obtain ⟨s₁', hloop', hgiven⟩ :=
    assignInterfaces_perm host initializing hready hnodup (List.Perm.refl names)
  obtain rfl := Except.ok.inj (hloop.symm.trans hloop')
  rw [hstart] at hgiven
  rw [← AddressPlan.orderFree_iff hne]
  constructor
  · intro h known' hknown
    obtain ⟨names', hperm, hexternal⟩ := exists_perm_external hknown
    obtain ⟨m, hm, hsame, hown, hother⟩ := h names' hperm
    obtain ⟨s₂, hloop₂, hgiven₂⟩ := assignInterfaces_perm host initializing
      hready hnodup hperm
    rw [hsetup, hloop₂] at hm
    obtain rfl := Except.ok.inj hm
    rw [hstart, hexternal] at hgiven₂
    refine ⟨?_, ?_, ?_⟩
    · intro name hmem
      have heq := hsame name hmem
      rw [hgiven₂ name hmem, ← hn', hgiven name hmem] at heq
      exact Option.some.inj heq
    · intro hmem
      exact Option.some.inj ((hgiven₂ _ hmem).symm.trans (hown hmem))
    · intro hmem
      exact Option.some.inj ((hgiven₂ _ hmem).symm.trans (hother hmem))
  · intro h names' hperm
    obtain ⟨s₂, hloop₂, hgiven₂⟩ := assignInterfaces_perm host initializing
      hready hnodup hperm
    rw [hstart] at hgiven₂
    obtain ⟨hsame, hown, hother⟩ := h _ (hperm.filter fun name => !s.node.ift.isLoopback name)
    refine ⟨s₂.node, ?_, ?_, ?_, ?_⟩
    · rw [hsetup, hloop₂]
      rfl
    · intro name hmem
      rw [hgiven₂ name hmem, ← hn', hgiven name hmem]
      exact congrArg some (hsame name hmem)
    · intro hmem
      rw [hgiven₂ _ hmem]
      exact congrArg some (hown hmem)
    · intro hmem
      rw [hgiven₂ _ hmem]
      exact congrArg some (hother hmem)

end Setup

namespace HostAutoConfiguratorM

variable {p : HostAutoConfiguratorM} {host : HostModule} {initializing : Bool} {n n' : Node}

theorem plan_names (p : HostAutoConfiguratorM) (host : HostModule) :
    (p.plan host).ownName ≠ (p.plan host).otherName := by
  simp [plan]

theorem plan_interfaces (p : HostAutoConfiguratorM) (host : HostModule) (names : List String) :
    ({ p with interfaces := names } : HostAutoConfiguratorM).plan host = p.plan host := rfl

/-- A set-up that gets through: the checks pass, and the rest is the loop. -/
theorem setupNetworkLayer_inv (h : p.setupNetworkLayer host initializing n = .ok n') :
    Ipv4Address.maskedAddrAreEqual (p.addressBase + host.getId) p.addressBase p.netmask = true ∧
      Ipv4Address.maskedAddrAreEqual (p.addressBaseWlan + host.getId) p.addressBaseWlan
        p.netmaskWlan = true ∧
      ∃ rt, ∀ names, ({ p with interfaces := names } : HostAutoConfiguratorM).setupNetworkLayer host
          initializing n =
        (assignInterfaces (p.plan host) host initializing
          { node := { n with rt := rt }, carried := (p.plan host).start } names).map
            AddressLoop.node := by
  unfold setupNetworkLayer at h
  by_cases hrange : Ipv4Address.maskedAddrAreEqual (p.addressBase + host.getId) p.addressBase
      p.netmask = true
  · by_cases hrangeWlan : Ipv4Address.maskedAddrAreEqual (p.addressBaseWlan + host.getId)
        p.addressBaseWlan p.netmaskWlan = true
    · refine ⟨hrange, hrangeWlan, ?_⟩
      simp only [hrange, hrangeWlan, Bool.not_true, Bool.false_eq_true, if_false] at h
      cases hwlan : n.ift.findInterfaceByName "wlan0" with
      | none => simp [hwlan] at h
      | some wlanInterface =>
          simp only [hwlan] at h
          obtain ⟨rt, hrt, h⟩ := bind_ok_inv h
          obtain ⟨rt', hrt', h⟩ := bind_ok_inv h
          refine ⟨rt', ?_⟩
          intro names
          unfold setupNetworkLayer
          simp only [hrange, hrangeWlan, Bool.not_true, Bool.false_eq_true, if_false, hwlan, hrt,
            hrt', bind, Except.bind, plan_interfaces]
          cases assignInterfaces (p.plan host) host initializing
            { node := { n with rt := rt' }, carried := (p.plan host).start } names <;> rfl
    · simp [hrange, hrangeWlan] at h
  · simp [hrange] at h

def OrderIndependent (p : HostAutoConfiguratorM) (host : HostModule) (initializing : Bool)
    (n n' : Node) :
    Prop :=
  (p.plan host).OrderIndependent
    (fun names => ({ p with interfaces := names } : HostAutoConfiguratorM).setupNetworkLayer host
      initializing n)
    p.interfaces (external n.ift p.interfaces) n'

theorem orderIndependent_iff_separate (hnodup : p.interfaces.Nodup)
    (hok : p.setupNetworkLayer host initializing n = .ok n') :
    p.OrderIndependent host initializing n n' ↔
      (p.plan host).Separate (external n.ift p.interfaces) := by
  obtain ⟨-, -, rt, hsetup⟩ := setupNetworkLayer_inv hok
  exact AddressPlan.orderIndependent_iff_of_loop (p.plan_names host) hsetup rfl hnodup hok

end HostAutoConfiguratorM

namespace HostAutoConfiguratorAP_M

variable {p : HostAutoConfiguratorAP_M} {host : HostModule} {initializing : Bool} {n n' : Node}

theorem plan_names (p : HostAutoConfiguratorAP_M) (host : HostModule) :
    (p.plan host).ownName ≠ (p.plan host).otherName := by
  simp [plan]

theorem setupNetworkLayer_inv (h : p.setupNetworkLayer host initializing n = .ok n')
    (names : List String) :
    ({ p with interfaces := names } : HostAutoConfiguratorAP_M).setupNetworkLayer host initializing n =
      (assignInterfaces (p.plan host) host initializing
        { node := n, carried := (p.plan host).start } names).map AddressLoop.node := by
  unfold setupNetworkLayer at h ⊢
  by_cases hrange : Ipv4Address.maskedAddrAreEqual p.addressBase p.addressBase p.netmask = true
  · by_cases hrangePPP : Ipv4Address.maskedAddrAreEqual (p.addressBasePPP + host.getId)
        p.addressBasePPP p.netmaskPPP = true
    · simp only [hrange, hrangePPP, Bool.not_true, Bool.false_eq_true, if_false]
      rfl
    · simp [hrange, hrangePPP] at h
  · simp [hrange] at h

def OrderIndependent (p : HostAutoConfiguratorAP_M) (host : HostModule) (initializing : Bool)
    (n n' : Node) : Prop :=
  (p.plan host).OrderIndependent
    (fun names => ({ p with interfaces := names } : HostAutoConfiguratorAP_M).setupNetworkLayer host
      initializing n)
    p.interfaces (external n.ift p.interfaces) n'

end HostAutoConfiguratorAP_M

/-- For both configurators the order of the names does not matter exactly if `wlan0`, or
`ppp0`, is alone or not listed, or if what it hands on makes no difference. No name is listed
twice, not even that of a loopback interface, which would do no harm. -/
theorem orderIndependent_iff (host : HostModule) (initializing : Bool) :
    (∀ (p : HostAutoConfiguratorM) (n n' : Node),
      p.interfaces.Nodup → p.setupNetworkLayer host initializing n = .ok n' →
        (p.OrderIndependent host initializing n n' ↔
          (p.plan host).Separate (external n.ift p.interfaces))) ∧
    (∀ (p : HostAutoConfiguratorAP_M) (n n' : Node),
      p.interfaces.Nodup → p.setupNetworkLayer host initializing n = .ok n' →
        (p.OrderIndependent host initializing n n' ↔
          (p.plan host).Separate (external n.ift p.interfaces))) := by
  constructor
  · intro p n n' hnodup hok
    exact HostAutoConfiguratorM.orderIndependent_iff_separate hnodup hok
  · intro p n n' hnodup hok
    exact AddressPlan.orderIndependent_iff_of_loop (p.plan_names host)
      (HostAutoConfiguratorAP_M.setupNetworkLayer_inv hok) rfl hnodup hok

/-! ## A bus and an access point -/

def sampleHost : HostModule := { id := ⟨7, by decide⟩, fullPath := "bus[0]" }

def sampleInterface (name : String) (loopback : Bool) : NetworkInterface where
  interfaceName := name
  fullName := name
  loopback := loopback
  multicast := !loopback
  ipv4Data := some {}

def sampleNode (names : List String) : Node where
  ift := sampleInterface "lo0" true :: names.map fun name => sampleInterface name false
  rt := {}

def sampleBusConfigurator : HostAutoConfiguratorM := { interfaces := ["cellular", "lo0", "wlan0"] }

def sampleApConfigurator : HostAutoConfiguratorAP_M := { interfaces := ["wlan0", "ppp0"] }

theorem sampleBusConfigurator_setup :
    ∃ n', sampleBusConfigurator.setupNetworkLayer sampleHost true (sampleNode ["cellular", "wlan0"]) =
      .ok n' :=
  ⟨_, rfl⟩

theorem sampleApConfigurator_setup :
    ∃ n', sampleApConfigurator.setupNetworkLayer sampleHost true (sampleNode ["wlan0", "ppp0"]) =
      .ok n' :=
  ⟨_, rfl⟩

theorem orderIndependent_sample :
    (∃ n', sampleBusConfigurator.setupNetworkLayer sampleHost true (sampleNode ["cellular", "wlan0"]) =
        .ok n' ∧
      (sampleBusConfigurator.OrderIndependent sampleHost true (sampleNode ["cellular", "wlan0"]) n' ↔
        (sampleBusConfigurator.plan sampleHost).Separate
          (external (sampleNode ["cellular", "wlan0"]).ift sampleBusConfigurator.interfaces))) ∧
    (∃ n', sampleApConfigurator.setupNetworkLayer sampleHost true (sampleNode ["wlan0", "ppp0"]) =
        .ok n' ∧
      (sampleApConfigurator.OrderIndependent sampleHost true (sampleNode ["wlan0", "ppp0"]) n' ↔
        (sampleApConfigurator.plan sampleHost).Separate
          (external (sampleNode ["wlan0", "ppp0"]).ift sampleApConfigurator.interfaces))) := by
  obtain ⟨n', hok⟩ := sampleBusConfigurator_setup
  obtain ⟨m', hok'⟩ := sampleApConfigurator_setup
  exact ⟨⟨n', hok, (orderIndependent_iff sampleHost true).1 _ _ _ (by decide) hok⟩,
    ⟨m', hok', (orderIndependent_iff sampleHost true).2 _ _ _ (by decide) hok'⟩⟩

/-- On a bus with the default netmasks, the cellular interface gets another netmask when
it is named after `wlan0`. -/
theorem not_orderIndependent :
    ∃ n', sampleBusConfigurator.setupNetworkLayer sampleHost true (sampleNode ["cellular", "wlan0"]) =
        .ok n' ∧
      ¬ sampleBusConfigurator.OrderIndependent sampleHost true
        (sampleNode ["cellular", "wlan0"]) n' := by
  obtain ⟨n', hok⟩ := sampleBusConfigurator_setup
  refine ⟨n', hok, ?_⟩
  intro h
  have hseparate := (HostAutoConfiguratorM.orderIndependent_iff_separate (by decide) hok).mp h
  rcases hseparate with hnone | halone | hmask
  · exact hnone (by decide)
  · exact absurd (halone "cellular" (by decide)) (by decide)
  · exact absurd hmask.1 (by decide)

end MultiTechBus.Configurator
