import MultiTechBus.Configurator.HostAutoConfigurator

/-! # What each interface gets

The loop of a configurator reads and changes the interfaces by their names only, so
the table is seen as a function from names here. A round needs its interface to be
there, with data, and to be fit for the multicast groups.
-/

namespace MultiTechBus

namespace Network.InterfaceTable

def named (ift : InterfaceTable) (name : String) : Option NetworkInterface :=
  ift.find? fun ie => ie.interfaceName == name

def isLoopback (ift : InterfaceTable) (name : String) : Bool :=
  (ift.named name).any fun ie => ie.loopback

theorem named_findInterfaceByName {ift : InterfaceTable} {name : String} {entry : Nat}
    (h : ift.findInterfaceByName name = some entry) :
    ∃ ie, ift[entry]? = some ie ∧ ie.interfaceName = name ∧ ift.named name = some ie := by
  induction ift generalizing entry with
  | nil => cases h
  | cons first rest ih =>
      unfold findInterfaceByName at h
      rw [List.findIdx?_cons] at h
      by_cases hname : first.interfaceName = name
      · simp only [hname, beq_self_eq_true, if_true, Option.some.injEq] at h
        subst h
        exact ⟨first, rfl, hname, by simp [named, hname]⟩
      · simp only [beq_iff_eq, hname, if_false, Option.map_eq_some_iff] at h
        obtain ⟨k, hk, rfl⟩ := h
        obtain ⟨ie, hget, hie, hnamed⟩ := ih hk
        exact ⟨ie, hget, hie, by simpa [named, hname] using hnamed⟩

theorem findInterfaceByName_eq_none {ift : InterfaceTable} {name : String}
    (h : ift.findInterfaceByName name = none) : ift.named name = none := by
  unfold findInterfaceByName at h
  unfold named
  rw [List.findIdx?_eq_none_iff] at h
  rw [List.find?_eq_none]
  intro ie hie
  simpa using h ie hie

/-- Replacing an interface changes what its name stands for, and no other name. -/
theorem named_set {ift : InterfaceTable} {name : String} {entry : Nat} {ie' : NetworkInterface}
    (h : ift.findInterfaceByName name = some entry) (hname : ie'.interfaceName = name)
    (name' : String) :
    named (ift.set entry ie') name' = if name' = name then some ie' else ift.named name' := by
  induction ift generalizing entry with
  | nil => cases h
  | cons first rest ih =>
      unfold findInterfaceByName at h
      rw [List.findIdx?_cons] at h
      by_cases hfirst : first.interfaceName = name
      · simp only [hfirst, beq_self_eq_true, if_true, Option.some.injEq] at h
        subst h
        by_cases heq : name' = name
        · simp [named, hname, heq]
        · simp [named, hname, hfirst, heq, Ne.symm heq]
      · simp only [beq_iff_eq, hfirst, if_false, Option.map_eq_some_iff] at h
        obtain ⟨k, hk, rfl⟩ := h
        have hrest := ih hk
        rw [List.set_cons_succ]
        by_cases hfound : first.interfaceName = name'
        · have hne : name' ≠ name := fun heq => hfirst (hfound.trans heq)
          simp [named, hfound, hne]
        · simpa [named, hfound] using hrest

end Network.InterfaceTable

namespace Configurator

open Network

def addressOf (ift : InterfaceTable) (name : String) : Option Carried :=
  (ift.named name).bind fun ie => ie.ipv4Data.map fun data => ⟨data.inetAddr, data.netmask⟩

/-- The loop gets through the round of this name. -/
def Ready (plan : AddressPlan) (ift : InterfaceTable) (name : String) : Prop :=
  ∃ ie, ift.named name = some ie ∧ ie.ipv4Data ≠ none ∧
    (ie.loopback = false → ie.multicast = true ∧
      ∀ group ∈ plan.groups, Ipv4Address.isMulticast group = true)

/-! ## Joining groups -/

section Join

variable {host : HostModule} {initializing : Bool} {entry : Nat}

theorem ipv4ConfigChanged_ift (n : Node) (initializing : Bool) :
    (n.ipv4ConfigChanged initializing).ift = n.ift := by
  cases initializing <;> rfl

theorem setIpv4Data_ift (n : Node) (initializing : Bool) (entry : Nat) (ie : NetworkInterface)
    (data : Ipv4InterfaceData) :
    (n.setIpv4Data initializing entry ie data).ift =
      n.ift.set entry { ie with ipv4Data := some data } :=
  ipv4ConfigChanged_ift _ _

theorem setIpv4Data_get {n : Node} {ie : NetworkInterface} (hget : n.ift[entry]? = some ie)
    (ie' : NetworkInterface) (data : Ipv4InterfaceData) :
    (n.setIpv4Data initializing entry ie' data).ift[entry]? =
      some { ie' with ipv4Data := some data } := by
  obtain ⟨hlt, -⟩ := List.getElem?_eq_some_iff.mp hget
  rw [setIpv4Data_ift]
  exact List.getElem?_set_self hlt

theorem joinMulticastGroup_address (data : Ipv4InterfaceData) (group : Ipv4Address) :
    (data.joinMulticastGroup group).1.inetAddr = data.inetAddr ∧
      (data.joinMulticastGroup group).1.netmask = data.netmask := by
  unfold Ipv4InterfaceData.joinMulticastGroup
  split <;> exact ⟨rfl, rfl⟩

/-- Multicast groups are joined by a multicast interface, which keeps its address. -/
theorem joinMulticastGroups_ok (host : HostModule) (initializing : Bool)
    {groups : List Ipv4Address} {n : Node} {ie : NetworkInterface}
    {data : Ipv4InterfaceData} (hget : n.ift[entry]? = some ie) (hdata : ie.ipv4Data = some data)
    (hmulticast : ie.multicast = true)
    (hgroups : ∀ group ∈ groups, Ipv4Address.isMulticast group = true) :
    ∃ n' data', joinMulticastGroups host initializing entry n groups = .ok n' ∧
      n'.ift = n.ift.set entry { ie with ipv4Data := some data' } ∧
      data'.inetAddr = data.inetAddr ∧ data'.netmask = data.netmask := by
  induction groups generalizing n ie data with
  | nil =>
      refine ⟨n, data, rfl, ?_, rfl, rfl⟩
      obtain ⟨hlt, rfl⟩ := List.getElem?_eq_some_iff.mp hget
      rw [← hdata]
      exact (List.set_getElem_self hlt).symm
  | cons group groups ih =>
      have hgroup := hgroups group List.mem_cons_self
      have hjoin : joinMulticastGroup host initializing entry n group =
          .ok (n.setIpv4Data (initializing || !(data.joinMulticastGroup group).2) entry ie
            (data.joinMulticastGroup group).1) := by
        simp [joinMulticastGroup, hget, hdata, hmulticast, hgroup]
      obtain ⟨n', data', hok, hift, haddr, hmask⟩ :=
        ih (setIpv4Data_get hget ie (data.joinMulticastGroup group).1) rfl hmulticast
          fun group hg => hgroups group (List.mem_cons_of_mem _ hg)
      obtain ⟨haddr', hmask'⟩ := joinMulticastGroup_address data group
      refine ⟨n', data', ?_, ?_, haddr.trans haddr', hmask.trans hmask'⟩
      · rw [joinMulticastGroups, hjoin]
        exact hok
      · rw [hift, setIpv4Data_ift, List.set_set]

/-- Only a multicast interface gets through, and only with multicast groups. -/
theorem joinMulticastGroups_inv {groups : List Ipv4Address} {n n' : Node} {ie : NetworkInterface}
    (hget : n.ift[entry]? = some ie) (hne : groups ≠ [])
    (h : joinMulticastGroups host initializing entry n groups = .ok n') :
    ie.multicast = true ∧ ∀ group ∈ groups, Ipv4Address.isMulticast group = true := by
  induction groups generalizing n ie with
  | nil => exact absurd rfl hne
  | cons group groups ih =>
      unfold joinMulticastGroups at h
      cases hjoin : joinMulticastGroup host initializing entry n group with
      | error k => simp [hjoin] at h
      | ok m =>
          simp only [hjoin] at h
          unfold joinMulticastGroup at hjoin
          cases hdata : ie.ipv4Data with
          | none => simp [hget, hdata] at hjoin
          | some data =>
              simp only [hget, hdata] at hjoin
              by_cases hmulticast : ie.multicast = true
              · by_cases hgroup : Ipv4Address.isMulticast group = true
                · simp only [hmulticast, hgroup, Bool.not_true, Bool.false_eq_true, if_false,
                    Except.ok.injEq] at hjoin
                  refine ⟨hmulticast, ?_⟩
                  intro group' hg
                  cases hg with
                  | head => exact hgroup
                  | tail _ hg =>
                      subst hjoin
                      exact (ih (setIpv4Data_get hget ie _) (List.ne_nil_of_mem hg) h).2 group' hg
                · simp [hmulticast, hgroup] at hjoin
              · simp [hmulticast] at hjoin

end Join

/-! ## One round -/

section Round

variable {plan : AddressPlan} {host : HostModule} {initializing : Bool} {s s' : AddressLoop}
  {name : String}

/-- The variables after the round of a name. -/
def AddressPlan.handOn (plan : AddressPlan) (ift : InterfaceTable) (c : Carried) (name : String) :
    Carried :=
  if ift.isLoopback name then c else plan.next c name

structure Round (plan : AddressPlan) (s : AddressLoop) (name : String) (s' : AddressLoop) :
    Prop where
  carried : s'.carried = plan.handOn s.node.ift s.carried name
  others : ∀ name', name' ≠ name → s'.node.ift.named name' = s.node.ift.named name'
  loopback : ∀ name', s'.node.ift.isLoopback name' = s.node.ift.isLoopback name'
  ready : ∀ name', Ready plan s'.node.ift name' ↔ Ready plan s.node.ift name'
  address : s.node.ift.isLoopback name = false → addressOf s'.node.ift name = some s'.carried

theorem Round.of_set {entry : Nat} {ie ie' : NetworkInterface} {data' : Ipv4InterfaceData}
    (hfind : s.node.ift.findInterfaceByName name = some entry)
    (hnamed : s.node.ift.named name = some ie) (hdata : ie.ipv4Data ≠ none)
    (hset : s'.node.ift = s.node.ift.set entry ie')
    (hname : ie'.interfaceName = name) (hloopback : ie'.loopback = ie.loopback)
    (hmulticast : ie'.multicast = ie.multicast) (hdata' : ie'.ipv4Data = some data')
    (hcarried : s'.carried = plan.handOn s.node.ift s.carried name)
    (haddress : ie.loopback = false → (⟨data'.inetAddr, data'.netmask⟩ : Carried) = s'.carried) :
    Round plan s name s' := by
  have htable := InterfaceTable.named_set hfind hname
  rw [← hset] at htable
  refine ⟨hcarried, ?_, ?_, ?_, ?_⟩
  · intro name' hne
    rw [htable, if_neg hne]
  · intro name'
    unfold InterfaceTable.isLoopback
    rw [htable]
    by_cases heq : name' = name
    · rw [if_pos heq, heq, hnamed]
      exact hloopback
    · rw [if_neg heq]
  · intro name'
    unfold Ready
    rw [htable]
    by_cases heq : name' = name
    · rw [if_pos heq, heq, hnamed]
      simp [hloopback, hmulticast, hdata, hdata']
    · rw [if_neg heq]
  · intro hnot
    have hie : ie.loopback = false := by simpa [InterfaceTable.isLoopback, hnamed] using hnot
    rw [addressOf, htable, if_pos rfl, ← haddress hie]
    simp [hdata']

theorem configureLoopback_ift (n : Node) (entry : Nat) (ie : NetworkInterface)
    (data : Ipv4InterfaceData) (address : Ipv4Address) :
    (configureLoopback initializing n entry ie data address).ift =
      n.ift.set entry { ie with
        ipv4Data := some { data with
          inetAddr := address, netmask := Ipv4Address.LOOPBACK_NETMASK, metric := 1 } } := by
  simp [configureLoopback, setIpv4Data_ift]

theorem configureAddress_ift (initializing : Bool) (n : Node) (entry : Nat) (ie : NetworkInterface)
    (data : Ipv4InterfaceData) (c : Carried) :
    (configureAddress initializing n entry ie data c).ift =
      n.ift.set entry { ie with
        broadcast := true
        ipv4Data := some { data with inetAddr := c.myAddress, netmask := c.netmask } } := by
  unfold configureAddress
  cases hbroadcast : ie.broadcast with
  | true =>
      simp only [if_true, setIpv4Data_ift, List.set_set]
      rw [← hbroadcast]
  | false => cases initializing <;> simp [Node.configChanged, Node.withInterface, setIpv4Data_ift]

theorem assignInterface_ok (host : HostModule) (initializing : Bool)
    (h : Ready plan s.node.ift name) :
    ∃ s', assignInterface plan host initializing s name = .ok s' ∧ Round plan s name s' := by
  obtain ⟨ie, hnamed, hdata, hgroups⟩ := h
  cases hfind : s.node.ift.findInterfaceByName name with
  | none =>
      rw [InterfaceTable.findInterfaceByName_eq_none hfind] at hnamed
      cases hnamed
  | some entry =>
      obtain ⟨ie', hget, hname, hnamed'⟩ := InterfaceTable.named_findInterfaceByName hfind
      obtain rfl : ie' = ie := Option.some.inj (hnamed'.symm.trans hnamed)
      obtain ⟨data, hsome⟩ := Option.ne_none_iff_exists'.mp hdata
      cases hloopback : ie'.loopback with
      | true =>
          have hround : assignInterface plan host initializing s name =
              .ok { s with
                node := configureLoopback initializing s.node entry ie' data s.loopbackAddr
                loopbackAddr := s.loopbackAddr + 1 } := by
            simp [assignInterface, hfind, hget, hsome, hloopback]
          refine ⟨_, hround, ?_⟩
          refine Round.of_set hfind hnamed hdata (configureLoopback_ift _ _ _ _ _) hname rfl rfl rfl
            ?_ ?_
          · simp [AddressPlan.handOn, InterfaceTable.isLoopback, hnamed, hloopback]
          · intro hnot
            rw [hloopback] at hnot
            cases hnot
      | false =>
          obtain ⟨hmulticast, hall⟩ := hgroups hloopback
          have hift := configureAddress_ift initializing s.node entry ie' data
            (plan.next s.carried name)
          have hlt : entry < s.node.ift.length := (List.getElem?_eq_some_iff.mp hget).1
          have hget' : (configureAddress initializing s.node entry ie' data
              (plan.next s.carried name)).ift[entry]? = some { ie' with
                broadcast := true
                ipv4Data := some { data with
                  inetAddr := (plan.next s.carried name).myAddress
                  netmask := (plan.next s.carried name).netmask } } := by
            rw [hift]
            exact List.getElem?_set_self hlt
          obtain ⟨n', data', hjoin, hset, haddr, hmask⟩ :=
            joinMulticastGroups_ok host initializing hget' rfl hmulticast
              hall
          have hround : assignInterface plan host initializing s name =
              .ok { s with node := n', carried := plan.next s.carried name } := by
            simp [assignInterface, hfind, hget, hsome, hloopback, hjoin]
          refine ⟨_, hround, ?_⟩
          rw [hift, List.set_set] at hset
          refine Round.of_set hfind hnamed hdata hset hname rfl rfl rfl ?_ ?_
          · simp [AddressPlan.handOn, InterfaceTable.isLoopback, hnamed, hloopback]
          · intro _
            simp [haddr, hmask]

theorem groups_ne_nil (plan : AddressPlan) : plan.groups ≠ [] := by simp [AddressPlan.groups]

theorem ready_of_assignInterface (h : assignInterface plan host initializing s name = .ok s') :
    Ready plan s.node.ift name := by
  unfold assignInterface at h
  cases hfind : s.node.ift.findInterfaceByName name with
  | none => simp [hfind] at h
  | some entry =>
      obtain ⟨ie, hget, hname, hnamed⟩ := InterfaceTable.named_findInterfaceByName hfind
      cases hdata : ie.ipv4Data with
      | none => simp [hfind, hget, hdata] at h
      | some data =>
          refine ⟨ie, hnamed, by simp [hdata], ?_⟩
          intro hloopback
          simp only [hfind, hget, hdata, hloopback, Bool.false_eq_true, if_false] at h
          cases hjoin : joinMulticastGroups host initializing entry
              (configureAddress initializing s.node entry ie data (plan.next s.carried name))
              plan.groups with
          | error k => simp [hjoin] at h
          | ok n' =>
              have hlt : entry < s.node.ift.length := (List.getElem?_eq_some_iff.mp hget).1
              have hget' := List.getElem?_set_self (a := { ie with
                broadcast := true
                ipv4Data := some { data with
                  inetAddr := (plan.next s.carried name).myAddress
                  netmask := (plan.next s.carried name).netmask } }) hlt
              rw [← configureAddress_ift initializing] at hget'
              have hfit := joinMulticastGroups_inv hget' (groups_ne_nil plan) hjoin
              exact hfit

end Round

/-! ## All rounds -/

section Rounds

variable {plan : AddressPlan} {host : HostModule} {initializing : Bool} {s s' : AddressLoop}

/-- What the interface `name` gets when the interfaces of the list take their turns. -/
def AddressPlan.given (plan : AddressPlan) (c : Carried) : List String → String → Carried
  | [], _ => c
  | first :: rest, name =>
      if first = name then plan.next c first else plan.given (plan.next c first) rest name

/-- The names of the list that are not those of loopback interfaces. -/
def external (ift : InterfaceTable) (names : List String) : List String :=
  names.filter fun name => !ift.isLoopback name

structure Rounds (plan : AddressPlan) (s : AddressLoop) (names : List String) (s' : AddressLoop) :
    Prop where
  others : ∀ name, name ∉ names → s'.node.ift.named name = s.node.ift.named name
  loopback : ∀ name, s'.node.ift.isLoopback name = s.node.ift.isLoopback name
  address : ∀ name ∈ names, s.node.ift.isLoopback name = false →
    addressOf s'.node.ift name = some (plan.given s.carried (external s.node.ift names) name)

theorem external_congr {ift ift' : InterfaceTable}
    (h : ∀ name, ift'.isLoopback name = ift.isLoopback name) (names : List String) :
    external ift' names = external ift names := by
  unfold external
  simp only [h]

/-- The loop gives every interface its address if all of them are ready. -/
theorem assignInterfaces_ok (host : HostModule) (initializing : Bool) {names : List String}
    (hready : ∀ name ∈ names, Ready plan s.node.ift name)
    (hnodup : names.Nodup) :
    ∃ s', assignInterfaces plan host initializing s names = .ok s' ∧ Rounds plan s names s' := by
  induction names generalizing s with
  | nil => exact ⟨s, rfl, fun _ _ => rfl, fun _ => rfl, fun _ h => by cases h⟩
  | cons first rest ih =>
      obtain ⟨hfirst, hrest⟩ := List.nodup_cons.mp hnodup
      obtain ⟨t, hround, hr⟩ := assignInterface_ok host initializing
        (hready first List.mem_cons_self)
      obtain ⟨s', hok, hrs⟩ := ih
        (fun name hmem => (hr.ready name).mpr (hready name (List.mem_cons_of_mem _ hmem))) hrest
      refine ⟨s', ?_, ?_, fun name => (hrs.loopback name).trans (hr.loopback name), ?_⟩
      · rw [assignInterfaces, hround]
        exact hok
      · intro name hname
        rw [List.mem_cons, not_or] at hname
        rw [hrs.others name hname.2, hr.others name hname.1]
      · intro name hmem hnot
        by_cases heq : name = first
        · subst heq
          have hexternal : external s.node.ift (name :: rest) = name :: external s.node.ift rest := by
            simp [external, hnot]
          have haddr := hr.address hnot
          unfold addressOf at haddr ⊢
          rw [hrs.others name hfirst, haddr, hr.carried, hexternal, AddressPlan.given, if_pos rfl,
            AddressPlan.handOn, hnot]
          rfl
        · have hmem' : name ∈ rest := List.mem_of_ne_of_mem heq hmem
          rw [hrs.address name hmem' ((hr.loopback name).trans hnot), hr.carried,
            external_congr hr.loopback]
          cases hloopback : s.node.ift.isLoopback first with
          | true => simp [external, AddressPlan.handOn, hloopback]
          | false =>
              simp [external, AddressPlan.handOn, hloopback, AddressPlan.given, Ne.symm heq]

theorem ready_of_assignInterfaces {names : List String}
    (h : assignInterfaces plan host initializing s names = .ok s') :
    ∀ name ∈ names, Ready plan s.node.ift name := by
  induction names generalizing s with
  | nil => intro name hmem; cases hmem
  | cons first rest ih =>
      unfold assignInterfaces at h
      cases hround : assignInterface plan host initializing s first with
      | error k => simp [hround] at h
      | ok t =>
          simp only [hround] at h
          have hfirst := ready_of_assignInterface hround
          obtain ⟨t', hround', hr⟩ := assignInterface_ok host initializing
            hfirst
          obtain rfl := Except.ok.inj (hround.symm.trans hround')
          intro name hmem
          cases hmem with
          | head => exact hfirst
          | tail _ hmem => exact (hr.ready name).mp (ih h name hmem)

end Rounds

end Configurator

end MultiTechBus
