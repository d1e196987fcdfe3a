import MultiTechBus.Network.Address

/-! # Network interfaces

The requested state and the carrier of an interface are two fields; packets from
above pass only when the state is `UP` and the carrier is present.
-/

namespace MultiTechBus.Network

inductive State
  | UP | DOWN | GOING_UP | GOING_DOWN
deriving DecidableEq, Repr

inductive FieldId
  | F_CARRIER | F_STATE
deriving DecidableEq, Repr

structure Ipv4InterfaceData where
  inetAddr : Ipv4Address := Ipv4Address.UNSPECIFIED_ADDRESS
  netmask : Ipv4Address := Ipv4Address.ALLONES_ADDRESS
  metric : Int := 0
  /-- The groups, each with the number of its memberships. -/
  joinedMulticastGroups : List (Ipv4Address × Nat) := []
deriving DecidableEq, Repr

structure NetworkInterface where
  interfaceName : String
  fullName : String
  state : State := .DOWN
  carrier : Bool := false
  loopback : Bool := false
  multicast : Bool := false
  broadcast : Bool := false
  ipv4Data : Option Ipv4InterfaceData := none
deriving DecidableEq, Repr

namespace NetworkInterface

def isUp (ie : NetworkInterface) : Bool := ie.state == .UP && ie.carrier

def isDown (ie : NetworkInterface) : Bool := ie.state != .UP

inductive PushResult
  | dropInterfaceDown
  | dropNoCarrier
  | pushOrSendPacket
deriving DecidableEq, Repr

/-- `pushPacket` for a packet that comes from the upper layer. -/
def pushPacket (ie : NetworkInterface) : PushResult :=
  if ie.isDown then .dropInterfaceDown
  else if !ie.carrier then .dropNoCarrier
  else .pushOrSendPacket

/-- A packet from above passes exactly through an interface that is up. -/
theorem pushPacket_eq_pushOrSendPacket_iff {ie : NetworkInterface} :
    ie.pushPacket = .pushOrSendPacket ↔ ie.isUp = true := by
  unfold pushPacket isUp isDown
  cases ie.state <;> cases ie.carrier <;> decide

theorem isUp_iff {ie : NetworkInterface} :
    ie.isUp = true ↔ ie.state = .UP ∧ ie.carrier = true := by
  simp [isUp]

end NetworkInterface

/-- The registered interfaces, in the order of their ids; a pointer to an
interface is its position. -/
abbrev InterfaceTable := List NetworkInterface

namespace InterfaceTable

def findInterfaceByName (ift : InterfaceTable) (name : String) : Option Nat :=
  ift.findIdx? fun ie => ie.interfaceName == name

theorem findInterfaceByName_of_names {ift ift' : InterfaceTable}
    (h : ift.map NetworkInterface.interfaceName = ift'.map NetworkInterface.interfaceName)
    (name : String) : ift.findInterfaceByName name = ift'.findInterfaceByName name := by
  have hfind : ∀ t : InterfaceTable, t.findInterfaceByName name =
      (t.map NetworkInterface.interfaceName).findIdx? fun x => x == name := by
    intro t
    rw [List.findIdx?_map]
    rfl
  rw [hfind, hfind, h]

/-- Every interface that has an IPv4 configuration has a prefix as its netmask. -/
def Contiguous (ift : InterfaceTable) : Prop :=
  ∀ ie ∈ ift, ∀ data, ie.ipv4Data = some data → Ipv4Address.isValidNetmask data.netmask = true

/-- Two tables that differ at most in states and carriers. -/
def SameConfig (ift ift' : InterfaceTable) : Prop :=
  ift.map (fun ie => (ie.interfaceName, ie.fullName, ie.ipv4Data)) =
    ift'.map fun ie => (ie.interfaceName, ie.fullName, ie.ipv4Data)

theorem Contiguous.congr {ift ift' : InterfaceTable} (h : ift.Contiguous)
    (hsame : ift.SameConfig ift') : ift'.Contiguous := by
  intro ie hie data hdata
  have hmem : (ie.interfaceName, ie.fullName, ie.ipv4Data) ∈
      ift'.map fun ie => (ie.interfaceName, ie.fullName, ie.ipv4Data) :=
    List.mem_map_of_mem hie
  rw [← hsame] at hmem
  obtain ⟨ie', hie', heq⟩ := List.mem_map.mp hmem
  simp only [Prod.mk.injEq] at heq
  exact h ie' hie' data (heq.2.2.trans hdata)

end InterfaceTable

end MultiTechBus.Network
