import MultiTechBus.Network.Address
import MultiTechBus.Library.Ranked

/-! # IPv4 routes and their order

A route carries the fields of `Ipv4Route` that the table reads, and the identity
of its object. The table order puts longer prefixes first and, for one
destination, smaller distances and metrics.
-/

namespace MultiTechBus.Network

inductive SourceType
  | MANUAL | IFACENETMASK | ROUTER_ADVERTISEMENT | OWN_ADV_PREFIX | ICMP_REDIRECT | RIP | OSPF | BGP
  | ZEBRA | MANET | MANET2 | DYMO | AODV | EIGRP | LISP | BABEL | ODR | UNKNOWN | ISIS
deriving DecidableEq, Repr

/-- The two `IRoute::RouteAdminDist` values that the modelled code uses. -/
def dDirectlyConnected : Nat := 0
def dUnknown : Nat := 255

/-- What an `Ipv4Route` says; the defaults are those of its constructor. The
interface pointer is an index into the interface table. -/
structure RouteData where
  sourceType : SourceType := .MANUAL
  destination : Ipv4Address := Ipv4Address.UNSPECIFIED_ADDRESS
  netmask : Ipv4Address := Ipv4Address.UNSPECIFIED_ADDRESS
  gateway : Ipv4Address := Ipv4Address.UNSPECIFIED_ADDRESS
  adminDist : Nat := dUnknown
  metric : Int := 0
  interface : Option Nat := none
deriving DecidableEq, Repr

/-- A route object: what it says, and which object it is. -/
structure Route extends RouteData where
  id : Nat
deriving DecidableEq, Repr

namespace RouteData

def isValid (_ : RouteData) : Bool := true

/-- The test of `findBestMatchingRoute`. -/
def isMatch (r : RouteData) (dest : Ipv4Address) : Bool :=
  Ipv4Address.maskedAddrAreEqual dest r.destination r.netmask

/-- The destination has no bits outside the netmask. -/
def Masked (r : RouteData) : Prop := r.destination &&& ~~~r.netmask = 0#32

/-- The default route: everything matches it. -/
def isDefault (r : RouteData) : Bool := Ipv4Address.isUnspecified r.netmask

def isNetmaskRoute (r : RouteData) : Bool := r.sourceType == .IFACENETMASK

end RouteData

/-- `a` is better than `b`. -/
def routeLessThan (useAdminDist : Bool) (a b : RouteData) : Bool :=
  if a.netmask ≠ b.netmask then decide (b.netmask < a.netmask)
  else if a.destination ≠ b.destination then decide (a.destination < b.destination)
  else if useAdminDist ∧ a.adminDist ≠ b.adminDist then decide (a.adminDist < b.adminDist)
  else decide (a.metric < b.metric)

/-- The table order as a relation. -/
def RouteLT (useAdminDist : Bool) (a b : RouteData) : Prop := routeLessThan useAdminDist a b = true

instance (useAdminDist : Bool) : DecidableRel (RouteLT useAdminDist) :=
  fun a b => inferInstanceAs (Decidable (routeLessThan useAdminDist a b = true))

/-! ## The order -/

theorem routeLT_iff {u : Bool} {a b : RouteData} :
    RouteLT u a b ↔
      b.netmask < a.netmask ∨ a.netmask = b.netmask ∧ (a.destination < b.destination ∨
        a.destination = b.destination ∧ (u = true ∧ a.adminDist < b.adminDist ∨
          (u = false ∨ a.adminDist = b.adminDist) ∧ a.metric < b.metric)) := by
  unfold RouteLT routeLessThan
  grind

instance (u : Bool) : IsStrictWeakOrder RouteData (RouteLT u) where
  irrefl a := by
    rw [routeLT_iff]
    grind
  trans a b c hab hbc := by
    rw [routeLT_iff] at hab hbc ⊢
    grind
  incomp_trans a b c hab hbc := by
    simp only [routeLT_iff] at hab hbc ⊢
    grind

/-- Between two masked routes that match one address, a better route has a
longer prefix or else wins on distance and metric. -/
theorem routeLT_of_match {u : Bool} {a b : RouteData} {d : Ipv4Address}
    (ha : a.Masked) (hb : b.Masked) (hma : a.isMatch d = true) (hmb : b.isMatch d = true) :
    RouteLT u a b ↔
      b.netmask < a.netmask ∨ a.netmask = b.netmask ∧
        (u = true ∧ a.adminDist < b.adminDist ∨
          (u = false ∨ a.adminDist = b.adminDist) ∧ a.metric < b.metric) := by
  have hda := Ipv4Address.eq_and_of_maskedAddrAreEqual ha hma
  have hdb := Ipv4Address.eq_and_of_maskedAddrAreEqual hb hmb
  have hdest : a.netmask = b.netmask → a.destination = b.destination := by
    intro h
    rw [hda, hdb, h]
  rw [routeLT_iff]
  constructor
  · rintro (h | ⟨hmask, h | ⟨-, h⟩⟩)
    · exact Or.inl h
    · rw [hdest hmask] at h
      exact absurd h (BitVec.lt_irrefl _)
    · exact Or.inr ⟨hmask, h⟩
  · rintro (h | ⟨hmask, h⟩)
    · exact Or.inl h
    · exact Or.inr ⟨hmask, Or.inr ⟨hdest hmask, h⟩⟩

theorem RouteData.isMatch_of_isDefault {r : RouteData} (h : r.isDefault = true) (d : Ipv4Address) :
    r.isMatch d = true := by
  unfold RouteData.isMatch
  rw [Ipv4Address.isUnspecified_iff.mp h]
  exact Ipv4Address.maskedAddrAreEqual_zero _ _

theorem RouteData.Masked.destination_of_isDefault {r : RouteData} (h : r.Masked)
    (hdef : r.isDefault = true) : Ipv4Address.isUnspecified r.destination = true := by
  have hmask := Ipv4Address.and_not_eq_zero_iff.mp h
  rw [Ipv4Address.isUnspecified_iff.mp hdef, BitVec.and_zero] at hmask
  exact Ipv4Address.isUnspecified_iff.mpr hmask.symm

end MultiTechBus.Network
