import Mathlib.Data.List.Basic
import Mathlib.Order.Basic

/-! # IPv4 addresses and netmasks

Addresses are 32-bit words. A netmask is valid when it is a run of ones followed
by zeros; comparing two valid netmasks as numbers compares their lengths.
-/

namespace MultiTechBus.Network

/-- An `Ipv4Address`: the `uint32_t` it wraps. -/
abbrev Ipv4Address := BitVec 32

namespace Ipv4Address

/-- The address written `d0.d1.d2.d3`. -/
def ofDBytes (d0 d1 d2 d3 : Nat) : Ipv4Address :=
  BitVec.ofNat 32 (((d0 * 256 + d1) * 256 + d2) * 256 + d3)

def ALLONES_ADDRESS : Ipv4Address := ofDBytes 255 255 255 255

/-- `Ipv4Address::UNSPECIFIED_ADDRESS`, also what a new address object holds. -/
def UNSPECIFIED_ADDRESS : Ipv4Address := 0#32

def LOOPBACK_ADDRESS : Ipv4Address := ofDBytes 127 0 0 1

def LOOPBACK_NETMASK : Ipv4Address := ofDBytes 255 0 0 0

def ALL_HOSTS_MCAST : Ipv4Address := ofDBytes 224 0 0 1

def ALL_ROUTERS_MCAST : Ipv4Address := ofDBytes 224 0 0 2

def isUnspecified (addr : Ipv4Address) : Bool := addr == 0#32

def isMulticast (addr : Ipv4Address) : Bool := addr &&& 0xF0000000#32 == 0xE0000000#32

/-- The netmask whose first `length` bits are set. -/
def makeNetmask (length : Nat) : Ipv4Address :=
  if 32 ≤ length then 0xffffffff#32 else ~~~(0xffffffff#32 >>> length)

/-- One less than the position of the lowest set bit, counted from the top. -/
def getNetmaskLength (addr : Ipv4Address) : Nat :=
  match (List.range 32).find? fun i => addr.getLsbD i with
  | some i => 32 - i
  | none => 0

def isValidNetmask (addr : Ipv4Address) : Bool := addr == makeNetmask (getNetmaskLength addr)

def str (addr : Ipv4Address) : String :=
  if isUnspecified addr then "<unspec>"
  else
    toString ((addr >>> 24) &&& 255#32).toNat ++ "." ++ toString ((addr >>> 16) &&& 255#32).toNat ++
      "." ++ toString ((addr >>> 8) &&& 255#32).toNat ++ "." ++ toString (addr &&& 255#32).toNat

def maskedAddrAreEqual (addr1 addr2 netmask : Ipv4Address) : Bool :=
  ((addr1 ^^^ addr2) &&& netmask) == 0#32

def makeBroadcastAddress (addr netmask : Ipv4Address) : Ipv4Address := addr ||| ~~~netmask

/-! ## Netmasks -/

theorem isUnspecified_iff {addr : Ipv4Address} : isUnspecified addr = true ↔ addr = 0#32 := by
  simp [isUnspecified]

theorem getNetmaskLength_le (addr : Ipv4Address) : getNetmaskLength addr ≤ 32 := by
  unfold getNetmaskLength
  split <;> omega

theorem isValidNetmask_iff {addr : Ipv4Address} :
    isValidNetmask addr = true ↔ addr = makeNetmask (getNetmaskLength addr) := by
  simp [isValidNetmask]

private theorem makeNetmask_table : ∀ m n : Fin 33,
    makeNetmask m.val ≤ makeNetmask n.val ↔ m.val ≤ n.val := by
  decide +kernel

private theorem getNetmaskLength_table : ∀ n : Fin 33,
    getNetmaskLength (makeNetmask n.val) = n.val := by
  decide +kernel

/-- Longer netmasks are the larger numbers. -/
theorem makeNetmask_le_iff {m n : Nat} (hm : m ≤ 32) (hn : n ≤ 32) :
    makeNetmask m ≤ makeNetmask n ↔ m ≤ n :=
  makeNetmask_table ⟨m, by omega⟩ ⟨n, by omega⟩

theorem getNetmaskLength_makeNetmask {n : Nat} (hn : n ≤ 32) :
    getNetmaskLength (makeNetmask n) = n :=
  getNetmaskLength_table ⟨n, by omega⟩

theorem isValidNetmask_makeNetmask {n : Nat} (hn : n ≤ 32) :
    isValidNetmask (makeNetmask n) = true := by
  rw [isValidNetmask_iff, getNetmaskLength_makeNetmask hn]

theorem le_iff_getNetmaskLength_le {m n : Ipv4Address} (hm : isValidNetmask m = true)
    (hn : isValidNetmask n = true) : m ≤ n ↔ getNetmaskLength m ≤ getNetmaskLength n := by
  rw [isValidNetmask_iff] at hm hn
  have h := makeNetmask_le_iff (getNetmaskLength_le m) (getNetmaskLength_le n)
  rwa [← hm, ← hn] at h

theorem eq_of_getNetmaskLength_eq {m n : Ipv4Address} (hm : isValidNetmask m = true)
    (hn : isValidNetmask n = true) (h : getNetmaskLength m = getNetmaskLength n) : m = n := by
  rw [isValidNetmask_iff] at hm hn
  rw [hm, hn, h]

/-! ## Masked comparison -/

private theorem xor_and (a b m : Ipv4Address) : (a ^^^ b) &&& m = (a &&& m) ^^^ (b &&& m) := by
  ext i hi
  simp [Bool.and_xor_distrib_right]

theorem maskedAddrAreEqual_iff {a b m : Ipv4Address} :
    maskedAddrAreEqual a b m = true ↔ a &&& m = b &&& m := by
  simp only [maskedAddrAreEqual, beq_iff_eq, xor_and, BitVec.xor_eq_zero_iff]

theorem maskedAddrAreEqual_zero (a b : Ipv4Address) : maskedAddrAreEqual a b 0#32 = true := by
  simp [maskedAddrAreEqual]

theorem and_and_not (a m : Ipv4Address) : a &&& m &&& ~~~m = 0#32 := by
  rw [BitVec.and_assoc, BitVec.and_not_self]
  exact BitVec.and_zero

/-- An address has no bits outside a netmask iff masking it changes nothing. -/
theorem and_not_eq_zero_iff {a m : Ipv4Address} : a &&& ~~~m = 0#32 ↔ a &&& m = a := by
  constructor
  · intro h
    have hsplit : a = (a &&& m) ^^^ (a &&& ~~~m) := by
      ext i hi
      cases hm : m[i] <;> simp [hm]
    rw [h, BitVec.xor_zero] at hsplit
    exact hsplit.symm
  · intro h
    rw [← h, and_and_not]

/-- An address without bits outside the netmask that matches `d` is `d` masked. -/
theorem eq_and_of_maskedAddrAreEqual {d a m : Ipv4Address} (hmask : a &&& ~~~m = 0#32)
    (h : maskedAddrAreEqual d a m = true) : a = d &&& m := by
  rw [maskedAddrAreEqual_iff.mp h, and_not_eq_zero_iff.mp hmask]

/-! ## Addresses within a subnet -/

private theorem makeNetmask_msb_table : ∀ n : Fin 33, n.val = 0 ∨ (makeNetmask n.val).msb = true := by
  decide +kernel

theorem msb_of_isValidNetmask {m : Ipv4Address} (hm : isValidNetmask m = true) (hne : m ≠ 0#32) :
    m.msb = true := by
  have hm' := isValidNetmask_iff.mp hm
  have hle := getNetmaskLength_le m
  rcases makeNetmask_msb_table ⟨getNetmaskLength m, by omega⟩ with hzero | hmsb
  · simp only at hzero
    rw [hzero] at hm'
    exact absurd hm' hne
  · rw [hm']
    exact hmsb

/-- A number below `2 ^ 31` added to an address of a subnet does not lead around to the first
address of it. -/
theorem add_and_not_ne_zero {base m : Ipv4Address} {id : Nat} (hm : isValidNetmask m = true)
    (hne : m ≠ 0#32) (hpos : 0 < id) (hlt : id < 2147483648)
    (h : maskedAddrAreEqual (base + BitVec.ofNat 32 id) base m = true) :
    (base + BitVec.ofNat 32 id) &&& ~~~m ≠ 0#32 := by
  intro hzero
  have hmasked := maskedAddrAreEqual_iff.mp h
  have hfirst : base + BitVec.ofNat 32 id = base &&& m :=
    (and_not_eq_zero_iff.mp hzero).symm.trans hmasked
  have hle : (base + BitVec.ofNat 32 id).toNat ≤ base.toNat := by
    rw [hfirst, BitVec.toNat_and]
    exact Nat.and_le_left
  have hmsb : (base + BitVec.ofNat 32 id).msb = base.msb := by
    have hbits := congrArg BitVec.msb hmasked
    rw [BitVec.msb_and, BitVec.msb_and, msb_of_isValidNetmask hm hne, Bool.and_true,
      Bool.and_true] at hbits
    exact hbits
  have hsum : (base + BitVec.ofNat 32 id).toNat = (base.toNat + id) % 4294967296 := by
    rw [BitVec.toNat_add, BitVec.toNat_ofNat]
    omega
  have hbase := base.isLt
  rw [BitVec.msb_eq_decide, BitVec.msb_eq_decide, decide_eq_decide] at hmsb
  omega

theorem add_ofNat_inj {base : Ipv4Address} {id id' : Nat} (hlt : id < 2147483648)
    (hlt' : id' < 2147483648) (h : base + BitVec.ofNat 32 id = base + BitVec.ofNat 32 id') :
    id = id' := by
  have hid := congrArg BitVec.toNat h
  rw [BitVec.toNat_add, BitVec.toNat_add, BitVec.toNat_ofNat, BitVec.toNat_ofNat] at hid
  have hbase := base.isLt
  omega

theorem makeBroadcastAddress_eq {a b m : Ipv4Address} (h : maskedAddrAreEqual a b m = true) :
    makeBroadcastAddress a m = makeBroadcastAddress b m := by
  have hmasked := maskedAddrAreEqual_iff.mp h
  have hsplit : ∀ c : Ipv4Address, c ||| ~~~m = (c &&& m) ||| ~~~m := by
    intro c
    ext i hi
    cases hm : m[i] <;> simp [hm]
  rw [makeBroadcastAddress, makeBroadcastAddress, hsplit a, hsplit b, hmasked]

end Ipv4Address

end MultiTechBus.Network
