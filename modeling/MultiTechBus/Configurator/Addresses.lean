import MultiTechBus.Configurator.Order

/-! # Usable addresses

The set-up of a bus accepts an address that lies in the subnet of its base. Which
addresses of a bus are different, and which of them can be used, depends on the names
that are listed and on how many addresses are left in the subnets.
-/

namespace MultiTechBus.Configurator

open Library Network

/-! ## Which addresses are different -/

namespace AddressPlan

variable {plan : AddressPlan} {names : List String}

theorem given_address (hne : plan.ownName ≠ plan.otherName) {name : String} (hmem : name ∈ names) :
    (plan.given plan.start names name).myAddress = plan.ownAddress ∨
      (plan.given plan.start names name).myAddress = plan.otherAddress := by
  have hkept : ∀ (c : Carried) (name : String),
      c.myAddress = plan.ownAddress ∨ c.myAddress = plan.otherAddress →
      (plan.next c name).myAddress = plan.ownAddress ∨
        (plan.next c name).myAddress = plan.otherAddress := by
    intro c name hc
    by_cases hown : name = plan.ownName
    · rw [hown, next_ownName]
      exact .inl rfl
    · by_cases hother : name = plan.otherName
      · rw [hother, next_otherName hne]
        exact .inr rfl
      · rw [next_of_unknown hown hother]
        exact hc
  obtain ⟨c', hc', hgiven⟩ := exists_given plan
    (P := fun c => c.myAddress = plan.ownAddress ∨ c.myAddress = plan.otherAddress)
    (c := plan.start) hmem (.inl rfl) fun c name _ hc => hkept c name hc
  rw [hgiven]
  exact hkept c' name hc'

def Distinct (plan : AddressPlan) (names : List String) : Prop :=
  ∀ name ∈ names, ∀ name' ∈ names, name ≠ name' →
    (plan.given plan.start names name).myAddress ≠ (plan.given plan.start names name').myAddress

/-- Only known names are listed, or one name, or one name before the other name. -/
def Sparse (plan : AddressPlan) (names : List String) : Prop :=
  (∀ name ∈ names, name = plan.ownName ∨ name = plan.otherName) ∨
    ∃ name, names = [name] ∨ names = [name, plan.otherName]

theorem given_head (c : Carried) (first : String) (rest : List String) :
    plan.given c (first :: rest) first = plan.next c first := by
  rw [given, if_pos rfl]

theorem given_tail {first name : String} (hne : first ≠ name) (c : Carried) (rest : List String) :
    plan.given c (first :: rest) name = plan.given (plan.next c first) rest name := by
  rw [given, if_neg hne]

theorem Distinct.sparse (hne : plan.ownName ≠ plan.otherName) (hnodup : names.Nodup)
    (h : plan.Distinct names) : plan.Sparse names := by
  match names with
  | [] => exact .inl fun name hmem => by cases hmem
  | [a] => exact .inr ⟨a, .inl rfl⟩
  | [a, b] =>
      have hab : a ≠ b := by simpa using hnodup
      have hdiff := h a List.mem_cons_self b (by simp) hab
      rw [given_head, given_tail hab, given_head] at hdiff
      by_cases ha : a = plan.otherName
      · by_cases hb : b = plan.ownName
        · refine .inl ?_
          intro name hmem
          simp only [List.mem_cons, List.not_mem_nil, or_false] at hmem
          rcases hmem with rfl | rfl
          · exact .inr ha
          · exact .inl hb
        · have hb' : b ≠ plan.otherName := fun heq => hab (ha.trans heq.symm)
          rw [next_of_unknown hb hb'] at hdiff
          exact absurd rfl hdiff
      · by_cases hb : b = plan.otherName
        · exact .inr ⟨a, .inr (by rw [hb])⟩
        · rw [next_start ha, next_start hb] at hdiff
          exact absurd rfl hdiff
  | a :: b :: c :: rest =>
      -- three interfaces, and two addresses for them
      have ha : a ∈ a :: b :: c :: rest := by simp
      have hb : b ∈ a :: b :: c :: rest := by simp
      have hc : c ∈ a :: b :: c :: rest := by simp
      simp only [List.nodup_cons, List.mem_cons, not_or] at hnodup
      have hab := h a ha b hb hnodup.1.1
      have hac := h a ha c hc hnodup.1.2.1
      have hbc := h b hb c hc hnodup.2.1.1
      rcases given_address hne ha with ha' | ha' <;>
        rcases given_address hne hb with hb' | hb' <;>
          rcases given_address hne hc with hc' | hc' <;>
            simp [ha', hb', hc'] at hab hac hbc

theorem given_own_address (hmem : plan.ownName ∈ names) :
    (plan.given plan.start names plan.ownName).myAddress = plan.ownAddress := by
  obtain ⟨c', -, hgiven⟩ := exists_given plan (P := fun _ => True) (c := plan.start) hmem
    trivial fun _ _ _ _ => trivial
  rw [hgiven, next_ownName]

theorem Sparse.distinct (hne : plan.ownName ≠ plan.otherName)
    (haddress : plan.ownAddress ≠ plan.otherAddress) (hnodup : names.Nodup)
    (h : plan.Sparse names) :
    plan.Distinct names := by
  intro name hmem name' hmem' hdiff
  rcases h with hknown | ⟨first, rfl | rfl⟩
  · rcases hknown name hmem with rfl | rfl <;> rcases hknown name' hmem' with rfl | rfl
    · exact absurd rfl hdiff
    · rw [given_own_address hmem, given_otherName hne hmem']
      exact haddress
    · rw [given_own_address hmem', given_otherName hne hmem]
      exact haddress.symm
    · exact absurd rfl hdiff
  · simp only [List.mem_singleton] at hmem hmem'
    exact absurd (hmem.trans hmem'.symm) hdiff
  · have hfirst : first ≠ plan.otherName := by simpa using hnodup
    have hown : (plan.given plan.start [first, plan.otherName] first).myAddress = plan.ownAddress := by
      rw [given_head, next_start hfirst]
      rfl
    have hother : plan.given plan.start [first, plan.otherName] plan.otherName = plan.other :=
      given_otherName hne (by simp) _
    simp only [List.mem_cons, List.not_mem_nil, or_false] at hmem hmem'
    rcases hmem with rfl | rfl <;> rcases hmem' with rfl | rfl
    · exact absurd rfl hdiff
    · rw [hown, hother]
      exact haddress
    · rw [hown, hother]
      exact haddress.symm
    · exact absurd rfl hdiff

/-- After the other name, the own name gets the other netmask. -/
theorem given_own_late (hne : plan.ownName ≠ plan.otherName) (hnodup : names.Nodup)
    (hlate : [plan.otherName, plan.ownName].Sublist names) :
    plan.given plan.start names plan.ownName = ⟨plan.ownAddress, plan.otherNetmask⟩ := by
  generalize plan.start = c
  induction names generalizing c with
  | nil => cases hlate
  | cons first rest ih =>
      obtain ⟨hfirst, hrest⟩ := List.nodup_cons.mp hnodup
      cases hlate with
      | cons _ hlate =>
          have hown : plan.ownName ∈ rest := hlate.subset (by simp)
          have hskip : first ≠ plan.ownName := by
            intro heq
            rw [heq] at hfirst
            exact hfirst hown
          rw [given_tail hskip]
          exact ih hrest hlate _
      | cons_cons _ hlate =>
          have hown : plan.ownName ∈ rest := List.singleton_sublist.mp hlate
          rw [given_tail (Ne.symm hne), next_otherName hne]
          obtain ⟨c', hc', hgiven⟩ := exists_given plan
            (P := fun c => c.netmask = plan.otherNetmask) (c := plan.other) hown rfl (by
              intro c name hmem hc
              by_cases hown : name = plan.ownName
              · rw [hown, next_ownName]
                exact hc
              · rw [next_of_unknown hown fun heq => hfirst (heq ▸ hmem)]
                exact hc)
          rw [hgiven, next_ownName, hc']

end AddressPlan

/-! ## Which addresses can be used -/

namespace HostAutoConfiguratorM

variable {p : HostAutoConfiguratorM} {host : HostModule} {initializing : Bool} {n n' : Node}

def DisjointSubnets (p : HostAutoConfiguratorM) : Prop :=
  ∀ a, ¬(Ipv4Address.maskedAddrAreEqual a p.addressBase p.netmask = true ∧
    Ipv4Address.maskedAddrAreEqual a p.addressBaseWlan p.netmaskWlan = true)

/-- The address is that of an interface: it is not the network address or the broadcast
address of its netmask. -/
def IsHostAddress (c : Carried) : Prop :=
  c.myAddress ≠ c.myAddress &&& c.netmask ∧
    c.myAddress ≠ Ipv4Address.makeBroadcastAddress c.myAddress c.netmask

structure Usable (p : HostAutoConfiguratorM) (host : HostModule) (n n' : Node) : Prop where
  distinct : ∀ name ∈ external n.ift p.interfaces, ∀ name' ∈ external n.ift p.interfaces,
    name ≠ name' → ∀ c c', addressOf n'.ift name = some c → addressOf n'.ift name' = some c' →
      c.myAddress ≠ c'.myAddress
  unique : ∀ (host₂ : HostModule) (initializing₂ : Bool) (names₂ : List String) (m m' : Node),
    host₂.id ≠ host.id → names₂.Nodup →
    ({ p with interfaces := names₂ } : HostAutoConfiguratorM).setupNetworkLayer host₂ initializing₂ m =
      .ok m' →
    ∀ name ∈ external n.ift p.interfaces, ∀ name₂ ∈ external m.ift names₂,
      ∀ c c₂, addressOf n'.ift name = some c → addressOf m'.ift name₂ = some c₂ →
        c.myAddress ≠ c₂.myAddress
  host : ∀ name ∈ external n.ift p.interfaces, ∀ c, addressOf n'.ift name = some c →
    IsHostAddress c ∧ c.myAddress ≠ p.addressBase ∧ c.myAddress ≠ p.addressBaseWlan

/-- What makes the addresses usable: no two interfaces share one, and the id does not lead
to the last address of a subnet. A cellular interface that is named after `wlan0` is
judged by the netmask of that one. -/
structure Spared (p : HostAutoConfiguratorM) (host : HostModule) (names : List String) : Prop where
  sparse : (p.plan host).Sparse names
  own : ∀ first, names.head? = some first → first ≠ "wlan0" →
    p.addressBase + host.getId ≠ Ipv4Address.makeBroadcastAddress p.addressBase p.netmask
  wlan : "wlan0" ∈ names →
    p.addressBaseWlan + host.getId ≠ Ipv4Address.makeBroadcastAddress p.addressBaseWlan p.netmaskWlan
  late : ["wlan0", "cellular"].Sublist names →
    IsHostAddress ⟨p.addressBase + host.getId, p.netmaskWlan⟩

theorem netmask_ne_zero (h : p.DisjointSubnets) : p.netmask ≠ 0#32 ∧ p.netmaskWlan ≠ 0#32 := by
  constructor
  · intro hzero
    have heq := Ipv4Address.maskedAddrAreEqual_zero p.addressBaseWlan p.addressBase
    rw [← hzero] at heq
    exact h p.addressBaseWlan ⟨heq, by simp [Ipv4Address.maskedAddrAreEqual]⟩
  · intro hzero
    have heq := Ipv4Address.maskedAddrAreEqual_zero p.addressBase p.addressBaseWlan
    rw [← hzero] at heq
    exact h p.addressBase ⟨by simp [Ipv4Address.maskedAddrAreEqual], heq⟩

/-- In the subnet of its base, an address can be used unless it is the last one. -/
theorem isHostAddress_iff {base m : Ipv4Address} (hm : Ipv4Address.isValidNetmask m = true)
    (hne : m ≠ 0#32) (hrange : Ipv4Address.maskedAddrAreEqual (base + host.getId) base m = true) :
    IsHostAddress ⟨base + host.getId, m⟩ ↔
      base + host.getId ≠ Ipv4Address.makeBroadcastAddress base m := by
  have hpart := Ipv4Address.add_and_not_ne_zero hm hne host.id.property.1 host.id.property.2 hrange
  unfold IsHostAddress
  rw [← Ipv4Address.makeBroadcastAddress_eq hrange]
  constructor
  · intro h
    exact h.2
  · intro h
    refine ⟨?_, h⟩
    intro hnetwork
    exact hpart (Ipv4Address.and_not_eq_zero_iff.mpr hnetwork.symm)

theorem add_getId_ne (base : Ipv4Address) (host : HostModule) : base + host.getId ≠ base := by
  intro heq
  have hid := congrArg BitVec.toNat heq
  have hpos := host.id.property.1
  have hlt := host.id.property.2
  have hbase := base.isLt
  rw [HostModule.getId, BitVec.toNat_add, BitVec.toNat_ofNat] at hid
  omega

theorem addressOf_of_setup (hnodup : p.interfaces.Nodup)
    (hok : p.setupNetworkLayer host initializing n = .ok n') :
    ∀ name ∈ external n.ift p.interfaces, addressOf n'.ift name =
      some ((p.plan host).given (p.plan host).start (external n.ift p.interfaces) name) := by
  obtain ⟨-, -, rt, hsetup⟩ := setupNetworkLayer_inv hok
  have hloop := hsetup p.interfaces
  rw [hok] at hloop
  obtain ⟨s', hs', hn'⟩ := map_ok_inv hloop.symm
  obtain ⟨s'', hs'', hgiven⟩ := assignInterfaces_perm host initializing
    (ready_of_assignInterfaces hs') hnodup (List.Perm.refl _)
  obtain rfl := Except.ok.inj (hs'.symm.trans hs'')
  rw [← hn']
  exact hgiven

section Accepted

variable (hdisjoint : p.DisjointSubnets)
  (hrange : Ipv4Address.maskedAddrAreEqual (p.addressBase + host.getId) p.addressBase p.netmask = true)
  (hrangeWlan : Ipv4Address.maskedAddrAreEqual (p.addressBaseWlan + host.getId) p.addressBaseWlan
    p.netmaskWlan = true)

include hdisjoint hrange in
theorem ownAddress_ne {a : Ipv4Address}
    (ha : Ipv4Address.maskedAddrAreEqual a p.addressBaseWlan p.netmaskWlan = true) :
    p.addressBase + host.getId ≠ a := by
  intro heq
  exact hdisjoint a ⟨heq ▸ hrange, ha⟩

include hdisjoint hrangeWlan in
theorem otherAddress_ne {a : Ipv4Address}
    (ha : Ipv4Address.maskedAddrAreEqual a p.addressBase p.netmask = true) :
    p.addressBaseWlan + host.getId ≠ a := by
  intro heq
  exact hdisjoint a ⟨ha, heq ▸ hrangeWlan⟩

include hdisjoint hrange hrangeWlan in
/-- Two buses with different ids have no address in common. -/
theorem address_ne {host₂ : HostModule} (hid : host₂.id ≠ host.id)
    (hrange₂ : Ipv4Address.maskedAddrAreEqual (p.addressBase + host₂.getId) p.addressBase
      p.netmask = true)
    (hrangeWlan₂ : Ipv4Address.maskedAddrAreEqual (p.addressBaseWlan + host₂.getId) p.addressBaseWlan
      p.netmaskWlan = true)
    {a a₂ : Ipv4Address} (ha : a = p.addressBase + host.getId ∨ a = p.addressBaseWlan + host.getId)
    (ha₂ : a₂ = p.addressBase + host₂.getId ∨ a₂ = p.addressBaseWlan + host₂.getId) : a ≠ a₂ := by
  have hsame : ∀ base : Ipv4Address, base + host.getId ≠ base + host₂.getId := by
    intro base heq
    have hval := Ipv4Address.add_ofNat_inj host.id.property.2 host₂.id.property.2 heq
    exact hid (Subtype.ext hval.symm)
  rcases ha with rfl | rfl <;> rcases ha₂ with rfl | rfl
  · exact hsame p.addressBase
  · exact ownAddress_ne hdisjoint hrange hrangeWlan₂
  · exact otherAddress_ne hdisjoint hrangeWlan hrange₂
  · exact hsame p.addressBaseWlan

include hdisjoint hrange hrangeWlan in
theorem address_ne_base {a : Ipv4Address}
    (ha : a = p.addressBase + host.getId ∨ a = p.addressBaseWlan + host.getId) :
    a ≠ p.addressBase ∧ a ≠ p.addressBaseWlan := by
  have hself : ∀ b m : Ipv4Address, Ipv4Address.maskedAddrAreEqual b b m = true := by
    intro b m
    simp [Ipv4Address.maskedAddrAreEqual]
  rcases ha with rfl | rfl
  · exact ⟨add_getId_ne _ host, ownAddress_ne hdisjoint hrange (hself _ _)⟩
  · exact ⟨otherAddress_ne hdisjoint hrangeWlan (hself _ _), add_getId_ne _ host⟩

end Accepted

/-! ## Usable exactly if spared -/

/-- What an interface gets on a bus whose names are sparse. -/
theorem given_cases {names : List String} (hnodup : names.Nodup) (h : (p.plan host).Sparse names)
    {name : String} (hmem : name ∈ names) :
    (name = "wlan0" ∧ (p.plan host).given (p.plan host).start names name = (p.plan host).other) ∨
    (names.head? = some name ∧ name ≠ "wlan0" ∧
      (p.plan host).given (p.plan host).start names name = (p.plan host).own) ∨
    (["wlan0", "cellular"].Sublist names ∧
      (p.plan host).given (p.plan host).start names name =
        ⟨p.addressBase + host.getId, p.netmaskWlan⟩) := by
  have hne := p.plan_names host
  by_cases hwlan : name = "wlan0"
  · rw [hwlan] at hmem ⊢
    exact .inl ⟨rfl, AddressPlan.given_otherName hne hmem _⟩
  · cases names with
    | nil => cases hmem
    | cons first rest =>
        by_cases hfirst : first = name
        · rw [hfirst, AddressPlan.given_head, AddressPlan.next_start hwlan]
          exact .inr (.inl ⟨rfl, hwlan, rfl⟩)
        · -- a later name that is not `wlan0` is the own name, after `wlan0`
          have hrest : name ∈ rest := List.mem_of_ne_of_mem (Ne.symm hfirst) hmem
          rcases h with hknown | ⟨single, hsingle | hpair⟩
          · have hname : name = "cellular" := (hknown name hmem).resolve_right hwlan
            have hfirst' : first = "wlan0" := by
              refine (hknown first List.mem_cons_self).resolve_left ?_
              rw [← show name = (p.plan host).ownName from hname]
              exact hfirst
            have hlate : ["wlan0", "cellular"].Sublist (first :: rest) := by
              rw [hfirst', ← hname]
              exact (List.singleton_sublist.mpr hrest).cons_cons _
            refine .inr (.inr ⟨hlate, ?_⟩)
            rw [hname]
            exact AddressPlan.given_own_late hne hnodup hlate
          · rw [List.cons.injEq] at hsingle
            rw [hsingle.2] at hrest
            cases hrest
          · rw [List.cons.injEq] at hpair
            rw [hpair.2] at hrest
            exact absurd (List.mem_singleton.mp hrest) hwlan

/-- The addresses of a bus are different and can be used exactly if its names are sparse
and its id does not lead to the last address of a subnet. No name is listed twice, not even
that of a loopback interface, which would do no harm. -/
theorem usable_iff (hmask : Ipv4Address.isValidNetmask p.netmask = true)
    (hmaskWlan : Ipv4Address.isValidNetmask p.netmaskWlan = true) (hdisjoint : p.DisjointSubnets)
    (hnodup : p.interfaces.Nodup) (hok : p.setupNetworkLayer host initializing n = .ok n') :
    p.Usable host n n' ↔ p.Spared host (external n.ift p.interfaces) := by
  obtain ⟨hrange, hrangeWlan, -⟩ := setupNetworkLayer_inv hok
  obtain ⟨hzero, hzeroWlan⟩ := netmask_ne_zero hdisjoint
  have hne := p.plan_names host
  have hgiven := addressOf_of_setup hnodup hok
  have hnames : (external n.ift p.interfaces).Nodup := hnodup.filter _
  have hother : p.addressBase + host.getId ≠ p.addressBaseWlan + host.getId :=
    ownAddress_ne hdisjoint hrange hrangeWlan
  constructor
  · intro h
    have hdistinct : (p.plan host).Distinct (external n.ift p.interfaces) := by
      intro name hmem name' hmem' hdiff
      exact h.distinct name hmem name' hmem' hdiff _ _ (hgiven name hmem) (hgiven name' hmem')
    refine ⟨hdistinct.sparse hne hnames, ?_, ?_, ?_⟩
    · intro first hhead hfirst
      obtain ⟨rest, hrest⟩ := List.head?_eq_some_iff.mp hhead
      have hmem : first ∈ external n.ift p.interfaces := by
        rw [hrest]
        exact List.mem_cons_self
      have hhost := (h.host first hmem _ (hgiven first hmem)).1
      rw [hrest, AddressPlan.given_head, AddressPlan.next_start hfirst] at hhost
      exact (isHostAddress_iff hmask hzero hrange).mp hhost
    · intro hmem
      have hhost := (h.host _ hmem _ (hgiven _ hmem)).1
      have hwlan : (p.plan host).given (p.plan host).start (external n.ift p.interfaces) "wlan0" =
          (p.plan host).other := AddressPlan.given_otherName hne hmem _
      rw [hwlan] at hhost
      exact (isHostAddress_iff hmaskWlan hzeroWlan hrangeWlan).mp hhost
    · intro hlate
      have hmem : "cellular" ∈ external n.ift p.interfaces := hlate.subset (by simp)
      have hhost := (h.host _ hmem _ (hgiven _ hmem)).1
      have hcellular : (p.plan host).given (p.plan host).start (external n.ift p.interfaces)
          "cellular" = ⟨p.addressBase + host.getId, p.netmaskWlan⟩ :=
        AddressPlan.given_own_late hne hnames hlate
      rw [hcellular] at hhost
      exact hhost
  · intro h
    have haddress : ∀ name ∈ external n.ift p.interfaces, ∀ c, addressOf n'.ift name = some c →
        c.myAddress = p.addressBase + host.getId ∨ c.myAddress = p.addressBaseWlan + host.getId := by
      intro name hmem c hc
      obtain rfl := Option.some.inj ((hgiven name hmem).symm.trans hc)
      exact AddressPlan.given_address hne hmem
    refine ⟨?_, ?_, ?_⟩
    · intro name hmem name' hmem' hdiff c c' hc hc'
      obtain rfl := Option.some.inj ((hgiven name hmem).symm.trans hc)
      obtain rfl := Option.some.inj ((hgiven name' hmem').symm.trans hc')
      exact h.sparse.distinct hne hother hnames name hmem name' hmem' hdiff
    · intro host₂ initializing₂ names₂ m m' hid hnodup₂ hok₂ name hmem name₂ hmem₂ c c₂ hc hc₂
      obtain ⟨hrange₂, hrangeWlan₂, -⟩ := setupNetworkLayer_inv hok₂
      have hgiven₂ :=
        addressOf_of_setup (p := { p with interfaces := names₂ }) hnodup₂ hok₂ name₂ hmem₂
      obtain rfl := Option.some.inj (hgiven₂.symm.trans hc₂)
      exact address_ne hdisjoint hrange hrangeWlan hid hrange₂ hrangeWlan₂ (haddress name hmem c hc)
        (AddressPlan.given_address (p.plan_names host₂) hmem₂)
    · intro name hmem c hc
      refine ⟨?_, address_ne_base hdisjoint hrange hrangeWlan (haddress name hmem c hc)⟩
      obtain rfl := Option.some.inj ((hgiven name hmem).symm.trans hc)
      rcases given_cases hnames h.sparse hmem with ⟨hname, heq⟩ | ⟨hhead, hname, heq⟩ | ⟨hlate, heq⟩
      · rw [heq]
        exact (isHostAddress_iff hmaskWlan hzeroWlan hrangeWlan).mpr (h.wlan (hname ▸ hmem))
      · rw [heq]
        exact (isHostAddress_iff hmask hzero hrange).mpr (h.own name hhead hname)
      · rw [heq]
        exact h.late hlate

/-- Subnets whose bases differ under both netmasks have no address in common. -/
theorem disjointSubnets_of_ne
    (h : p.addressBase &&& p.netmask &&& p.netmaskWlan ≠
      p.addressBaseWlan &&& p.netmaskWlan &&& p.netmask) : p.DisjointSubnets := by
  rintro a ⟨hcell, hwlan⟩
  apply h
  rw [← Ipv4Address.maskedAddrAreEqual_iff.mp hcell, ← Ipv4Address.maskedAddrAreEqual_iff.mp hwlan,
    BitVec.and_assoc, BitVec.and_assoc, BitVec.and_comm p.netmask]

theorem usable_sample :
    ∃ n', sampleBusConfigurator.setupNetworkLayer sampleHost true (sampleNode ["cellular", "wlan0"]) =
        .ok n' ∧
      (sampleBusConfigurator.Usable sampleHost (sampleNode ["cellular", "wlan0"]) n' ↔
        sampleBusConfigurator.Spared sampleHost
          (external (sampleNode ["cellular", "wlan0"]).ift sampleBusConfigurator.interfaces)) := by
  have hdisjoint : sampleBusConfigurator.DisjointSubnets := disjointSubnets_of_ne (by decide)
  obtain ⟨n', hok⟩ := sampleBusConfigurator_setup
  exact ⟨n', hok, usable_iff (by decide +kernel) (by decide +kernel) hdisjoint (by decide) hok⟩

def cosenzaConfigurator : HostAutoConfiguratorM where
  interfaces := ["cellular", "lo0", "wlan0"]
  addressBase := Ipv4Address.ofDBytes 10 0 0 1
  netmask := Ipv4Address.ofDBytes 255 255 0 0
  addressBaseWlan := Ipv4Address.ofDBytes 192 168 0 1
  netmaskWlan := Ipv4Address.ofDBytes 255 255 0 0

/-- The bus with the id 65534 gets the broadcast address `10.0.255.255`. -/
theorem not_usable_broadcast :
    ∃ n', cosenzaConfigurator.setupNetworkLayer { id := ⟨65534, by decide⟩ } true
        (sampleNode ["cellular", "wlan0"]) = .ok n' ∧
      ¬ cosenzaConfigurator.Usable { id := ⟨65534, by decide⟩ }
        (sampleNode ["cellular", "wlan0"]) n' := by
  refine ⟨_, rfl, ?_⟩
  intro h
  have hhost := (h.host "cellular" (by decide)
    ⟨Ipv4Address.ofDBytes 10 0 255 255, Ipv4Address.ofDBytes 255 255 0 0⟩ rfl).1.2
  exact absurd hhost (by decide)

end HostAutoConfiguratorM

end MultiTechBus.Configurator
