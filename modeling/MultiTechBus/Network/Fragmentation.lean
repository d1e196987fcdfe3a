import Mathlib.Algebra.Group.Nat.Defs
import Mathlib.Data.List.Infix
import MultiTechBus.Network.Address
import MultiTechBus.Packet.ChunkBuffer

/-! # Fragmentation

`Ipv4::fragmentAndSend`: a datagram that is larger than the MTU of the output interface is
broken into fragments, which may be broken again on their way. A packet is its header and
the bytes after it.
-/

namespace MultiTechBus.Network

open MultiTechBus.Library
open MultiTechBus.Packet

/-- `Ipv4Header`; lengths and offsets are in bytes. -/
structure Ipv4Header where
  headerLength : Nat := 20
  typeOfService : Nat := 0
  totalLengthField : Nat
  identification : BitVec 16
  moreFragments : Bool := false
  dontFragment : Bool := false
  fragmentOffset : Nat := 0
  timeToLive : Int
  protocolId : Nat
  srcAddress : Ipv4Address
  destAddress : Ipv4Address
deriving DecidableEq, Repr

/-- A header without what the fragments of a datagram differ in. -/
def Ipv4Header.common (header : Ipv4Header) : Ipv4Header :=
  { header with totalLengthField := 0, moreFragments := false, fragmentOffset := 0, timeToLive := 0 }

structure Ipv4Packet (β : Type*) where
  header : Ipv4Header
  payload : List β
deriving DecidableEq, Repr

/-- What `Ipv4` does with a packet when it is done with it. -/
inductive Ipv4Output (β : Type*)
  | sendDatagramToOutput (packet : Ipv4Packet β)
  | icmpTimeExceeded (packet : Ipv4Packet β)
  | icmpParameterProblem (packet : Ipv4Packet β)
  | ptbMessage (packet : Ipv4Packet β) (mtu : Nat)
deriving DecidableEq, Repr

variable {β : Type*}

namespace Ipv4Packet

def byteLength (packet : Ipv4Packet β) : Nat := packet.header.headerLength + packet.payload.length

/-- The header of the fragment at `offset`: the "more fragments" bit is unchanged in the
last one, otherwise true. -/
def fragmentHeader (header : Ipv4Header) (offset thisFragmentLength : Nat) (lastFragment : Bool) :
    Ipv4Header :=
  { header with
    moreFragments := if lastFragment then header.moreFragments else true
    fragmentOffset := (header.fragmentOffset + offset) % 2 ^ 16
    totalLengthField := header.headerLength + thisFragmentLength }

/-- The loop of `fragmentAndSend`, at most `noOfFragments` times around. -/
def fragmentLoop (packet : Ipv4Packet β) (fragmentLength : Nat) : Nat → Nat → List (Ipv4Packet β)
  | 0, _ => []
  | noOfFragments + 1, offset =>
      if offset < packet.payload.length then
        let lastFragment := decide (packet.payload.length ≤ offset + fragmentLength)
        let thisFragmentLength :=
          if lastFragment then packet.payload.length - offset else fragmentLength
        ⟨fragmentHeader packet.header offset thisFragmentLength lastFragment,
          peek packet.payload offset thisFragmentLength⟩ ::
            fragmentLoop packet fragmentLength noOfFragments (offset + thisFragmentLength)
      else []

/-- The bytes of data in a fragment; none where the MTU is smaller than the header. -/
def fragmentLength (packet : Ipv4Packet β) (mtu : Nat) : Nat :=
  (mtu - packet.header.headerLength) / 8 * 8

def noOfFragments (packet : Ipv4Packet β) (fragmentLength : Nat) : Nat :=
  (packet.payload.length + fragmentLength - 1) / fragmentLength

/-- `Ipv4::fragmentAndSend`, on an interface with the given MTU. -/
def fragmentAndSend (mtu : Nat) (packet : Ipv4Packet β) : Except Halt (List (Ipv4Output β)) :=
  if packet.header.timeToLive ≤ 0 then .ok [.icmpTimeExceeded packet]
  else if mtu = 0 ∨ packet.byteLength ≤ mtu then .ok [.sendDatagramToOutput packet]
  else if packet.header.dontFragment then .ok [.ptbMessage packet mtu]
  else if packet.fragmentLength mtu = 0 then
    .error (.cRuntimeError "Cannot fragment datagram: MTU too small for header size")
  else
    .ok ((packet.fragmentLoop (packet.fragmentLength mtu)
      (packet.noOfFragments (packet.fragmentLength mtu)) 0).map .sendDatagramToOutput)

/-- `Ipv4::prepareForForwarding`. -/
def prepareForForwarding (packet : Ipv4Packet β) : Ipv4Packet β :=
  { packet with header := { packet.header with timeToLive := packet.header.timeToLive - 1 } }

/-- The length checks of `Ipv4::handleIncomingDatagram`: what lower layers have added at
the back is removed. -/
def removePadding (packet : Ipv4Packet β) : Except (Ipv4Output β) (Ipv4Packet β) :=
  if packet.byteLength < packet.header.totalLengthField then .error (.icmpParameterProblem packet)
  else .ok { packet with
    payload := packet.payload.take (packet.header.totalLengthField - packet.header.headerLength) }

/-! ## Pieces of a datagram -/

/-- Where the data of a packet belongs. -/
def region (packet : Ipv4Packet β) : Region β := ⟨packet.header.fragmentOffset, packet.payload⟩

/-- A packet that carries a part of a datagram, under its header. -/
structure PieceOf (whole packet : Ipv4Packet β) : Prop where
  common : packet.header.common = whole.header.common
  nonempty : packet.payload ≠ []
  total : packet.header.totalLengthField = packet.byteLength
  data : packet.payload <+: whole.payload.drop packet.header.fragmentOffset
  more : packet.header.moreFragments =
    decide (packet.header.fragmentOffset + packet.payload.length < whole.payload.length)

/-- A datagram as `Ipv4::encapsulate` makes it: not a fragment, with data that offsets of
16 bits reach. -/
structure Whole (whole : Ipv4Packet β) : Prop where
  nonempty : whole.payload ≠ []
  length_le : whole.payload.length ≤ 2 ^ 16
  total : whole.header.totalLengthField = whole.byteLength
  offset : whole.header.fragmentOffset = 0
  more : whole.header.moreFragments = false

instance [DecidableEq β] (whole packet : Ipv4Packet β) : Decidable (PieceOf whole packet) :=
  decidable_of_iff
    (packet.header.common = whole.header.common ∧ packet.payload ≠ [] ∧
      packet.header.totalLengthField = packet.byteLength ∧
      packet.payload <+: whole.payload.drop packet.header.fragmentOffset ∧
      packet.header.moreFragments =
        decide (packet.header.fragmentOffset + packet.payload.length < whole.payload.length))
    ⟨fun ⟨hcommon, hne, htotal, hdata, hmore⟩ => ⟨hcommon, hne, htotal, hdata, hmore⟩,
      fun h => ⟨h.common, h.nonempty, h.total, h.data, h.more⟩⟩

instance [DecidableEq β] (whole : Ipv4Packet β) : Decidable (Whole whole) :=
  decidable_of_iff
    (whole.payload ≠ [] ∧ whole.payload.length ≤ 2 ^ 16 ∧
      whole.header.totalLengthField = whole.byteLength ∧ whole.header.fragmentOffset = 0 ∧
      whole.header.moreFragments = false)
    ⟨fun ⟨hne, hle, htotal, hoffset, hmore⟩ => ⟨hne, hle, htotal, hoffset, hmore⟩,
      fun h => ⟨h.nonempty, h.length_le, h.total, h.offset, h.more⟩⟩

variable {whole packet : Ipv4Packet β}

theorem Whole.pieceOf (h : Whole whole) : PieceOf whole whole where
  common := rfl
  nonempty := h.nonempty
  total := h.total
  data := by
    rw [h.offset, List.drop_zero]
  more := by rw [h.more, h.offset, Nat.zero_add, decide_eq_false (Nat.lt_irrefl _)]

namespace PieceOf

theorem pos (h : PieceOf whole packet) : 0 < packet.payload.length :=
  List.length_pos_iff.mpr h.nonempty

theorem end_le (h : PieceOf whole packet) :
    packet.header.fragmentOffset + packet.payload.length ≤ whole.payload.length := by
  have hle := h.data.length_le
  rw [List.length_drop] at hle
  have := h.pos
  omega

theorem headerLength_eq (h : PieceOf whole packet) :
    packet.header.headerLength = whole.header.headerLength := by
  have hlength := congrArg Ipv4Header.headerLength h.common
  exact hlength

theorem getElem? (h : PieceOf whole packet) {k : Nat} (hk : k < packet.payload.length) :
    packet.payload[k]? = whole.payload[packet.header.fragmentOffset + k]? := by
  rw [← List.getElem?_drop]
  obtain ⟨rest, hrest⟩ := h.data
  rw [← hrest, List.getElem?_append_left hk]

theorem within (h : PieceOf whole packet) : packet.region.Within fun i => whole.payload[i]? := by
  intro i v hget
  unfold Region.get? region at hget
  dsimp only at hget
  split at hget
  · rename_i hle
    have hk := (List.getElem?_eq_some_iff.mp hget).1
    rw [h.getElem? hk, Nat.add_sub_cancel' hle] at hget
    exact hget
  · cases hget

/-- A piece with the end of the datagram knows its length. -/
theorem length_of_last (h : PieceOf whole packet) (hlast : packet.header.moreFragments = false) :
    packet.header.fragmentOffset + packet.payload.length = whole.payload.length := by
  have hge := of_decide_eq_false (h.more.symm.trans hlast)
  have := h.end_le
  omega

theorem payload_eq (h : PieceOf whole packet) (hoffset : packet.header.fragmentOffset = 0)
    (hlast : packet.header.moreFragments = false) : packet.payload = whole.payload := by
  have hlength := h.length_of_last hlast
  have hdata := h.data
  rw [hoffset, List.drop_zero] at hdata
  rw [hoffset, Nat.zero_add] at hlength
  exact hdata.eq_of_length hlength

theorem prepareForForwarding (h : PieceOf whole packet) :
    PieceOf whole packet.prepareForForwarding where
  common := h.common
  nonempty := h.nonempty
  total := h.total
  data := h.data
  more := h.more

theorem removePadding (h : PieceOf whole packet) (padding : List β) :
    Ipv4Packet.removePadding ⟨packet.header, packet.payload ++ padding⟩ = .ok packet := by
  have htotal := h.total
  unfold byteLength at htotal
  unfold Ipv4Packet.removePadding byteLength
  simp only [htotal, List.length_append, Nat.add_sub_cancel_left, List.take_left]
  rw [if_neg (by omega)]

end PieceOf

/-! ## What the loop sends -/

/-- The packets that take the place of a piece: pieces that lie within it, do not overlap
and leave nothing of it out. -/
structure Splits (whole packet : Ipv4Packet β) (fragments : List (Ipv4Packet β)) : Prop where
  pieces : ∀ fragment ∈ fragments, PieceOf whole fragment
  timeToLive : ∀ fragment ∈ fragments, fragment.header.timeToLive = packet.header.timeToLive
  inside : ∀ fragment ∈ fragments, packet.region.offset ≤ fragment.region.offset ∧
    fragment.region.endOffset ≤ packet.region.endOffset
  apart : fragments.Pairwise fun f f' => f.region.endOffset ≤ f'.region.offset
  covers : ∀ i, packet.region.offset ≤ i → i < packet.region.endOffset →
    Covered (fragments.map region) i

theorem Splits.self (h : PieceOf whole packet) : Splits whole packet [packet] where
  pieces := List.forall_mem_singleton.mpr h
  timeToLive := List.forall_mem_singleton.mpr rfl
  inside := List.forall_mem_singleton.mpr ⟨Nat.le_refl _, Nat.le_refl _⟩
  apart := List.pairwise_singleton _ _
  covers := fun _ hstart hend => covered_singleton.mpr ⟨hstart, hend⟩

/-- The fragment that the loop makes at an offset. -/
def fragmentAt (packet : Ipv4Packet β) (fragmentLength offset : Nat) : Ipv4Packet β :=
  let lastFragment := decide (packet.payload.length ≤ offset + fragmentLength)
  let thisFragmentLength :=
    if lastFragment then packet.payload.length - offset else fragmentLength
  ⟨fragmentHeader packet.header offset thisFragmentLength lastFragment,
    peek packet.payload offset thisFragmentLength⟩

section Loop

variable {fragmentLength offset : Nat}

theorem length_fragmentAt (packet : Ipv4Packet β) (fragmentLength offset : Nat) :
    (packet.fragmentAt fragmentLength offset).payload.length =
      min fragmentLength (packet.payload.length - offset) := by
  unfold fragmentAt peek
  simp only [List.length_take, List.length_drop, decide_eq_true_eq]
  split <;> omega

theorem fragmentLoop_succ (packet : Ipv4Packet β) (n : Nat) (h : offset < packet.payload.length) :
    packet.fragmentLoop fragmentLength (n + 1) offset =
      packet.fragmentAt fragmentLength offset ::
        packet.fragmentLoop fragmentLength n
          (offset + (packet.fragmentAt fragmentLength offset).payload.length) := by
  rw [fragmentLoop, if_pos h, length_fragmentAt]
  dsimp only [fragmentAt]
  congr 2
  simp only [decide_eq_true_eq]
  split <;> omega

theorem fragmentLoop_of_le (packet : Ipv4Packet β) (n : Nat) (h : packet.payload.length ≤ offset) :
    packet.fragmentLoop fragmentLength n offset = [] := by
  cases n with
  | zero => rfl
  | succ n => rw [fragmentLoop, if_neg (Nat.not_lt_of_le h)]

/-- Offsets of 16 bits do not wrap within the datagram. -/
theorem fragmentAt_offset (fragmentLength : Nat) (h : PieceOf whole packet)
    (hwhole : whole.payload.length ≤ 2 ^ 16)
    (hoffset : offset < packet.payload.length) :
    (packet.fragmentAt fragmentLength offset).header.fragmentOffset =
      packet.header.fragmentOffset + offset := by
  have := h.end_le
  exact Nat.mod_eq_of_lt (by omega)

theorem fragmentAt_pieceOf (h : PieceOf whole packet) (hwhole : whole.payload.length ≤ 2 ^ 16)
    (hlength : 0 < fragmentLength) (hoffset : offset < packet.payload.length) :
    PieceOf whole (packet.fragmentAt fragmentLength offset) := by
  have hlen := length_fragmentAt packet fragmentLength offset
  have hstart := fragmentAt_offset fragmentLength h hwhole hoffset
  have hend := h.end_le
  refine ⟨h.common, ?_, ?_, ?_, ?_⟩
  · rw [← List.length_pos_iff, hlen]
    omega
  · rw [byteLength, hlen]
    unfold fragmentAt fragmentHeader
    dsimp only
    simp only [decide_eq_true_eq]
    split <;> omega
  · rw [hstart, ← List.drop_drop]
    exact (List.take_prefix _ _).trans (List.IsPrefix.drop h.data offset)
  · rw [hstart, hlen]
    change (if _ then _ else _) = _
    simp only [decide_eq_true_eq]
    split
    · rw [h.more]
      congr 1
      rw [eq_iff_iff]
      constructor <;> omega
    · symm
      rw [decide_eq_true_eq]
      omega

/-- With enough turns left, the rest of a piece is split. -/
theorem fragmentLoop_splits (h : PieceOf whole packet) (hwhole : whole.payload.length ≤ 2 ^ 16)
    (hlength : 0 < fragmentLength) {n : Nat} (offset : Nat)
    (hfuel : packet.payload.length ≤ offset + n * fragmentLength) :
    (∀ f ∈ packet.fragmentLoop fragmentLength n offset, PieceOf whole f ∧
      f.header.timeToLive = packet.header.timeToLive ∧ f.payload.length ≤ fragmentLength ∧
      packet.region.offset + offset ≤ f.region.offset ∧
      f.region.endOffset ≤ packet.region.endOffset) ∧
    (packet.fragmentLoop fragmentLength n offset).Pairwise
      (fun f f' => f.region.endOffset ≤ f'.region.offset) ∧
    ∀ i, packet.region.offset + offset ≤ i → i < packet.region.endOffset →
      Covered ((packet.fragmentLoop fragmentLength n offset).map region) i := by
  induction n generalizing offset with
  | zero =>
      rw [Nat.zero_mul, Nat.add_zero] at hfuel
      refine ⟨fun f hf => absurd hf List.not_mem_nil, .nil, fun i hstart hend => ?_⟩
      unfold Region.endOffset region at hend
      unfold region at hstart
      dsimp only at hstart hend
      omega
  | succ n ih =>
      by_cases hoffset : offset < packet.payload.length
      · have hlen := length_fragmentAt packet fragmentLength offset
        have hpiece := fragmentAt_pieceOf h hwhole hlength hoffset
        have hstart : (packet.fragmentAt fragmentLength offset).region.offset =
            packet.region.offset + offset :=
          fragmentAt_offset fragmentLength h hwhole hoffset
        have hstop : (packet.fragmentAt fragmentLength offset).region.endOffset =
            packet.region.offset +
              (offset + (packet.fragmentAt fragmentLength offset).payload.length) := by
          rw [Region.endOffset, hstart, Nat.add_assoc]
          rfl
        have hend : packet.region.endOffset = packet.region.offset + packet.payload.length := rfl
        rw [Nat.succ_mul] at hfuel
        obtain ⟨hall, hapart, hcovers⟩ := ih
          (offset + (packet.fragmentAt fragmentLength offset).payload.length) (by omega)
        rw [fragmentLoop_succ packet n hoffset]
        refine ⟨?_, ?_, ?_⟩
        · refine List.forall_mem_cons.mpr ⟨⟨hpiece, rfl, by omega, by omega, by omega⟩, ?_⟩
          intro f hf
          obtain ⟨hf₁, hf₂, hf₃, hf₄, hf₅⟩ := hall f hf
          exact ⟨hf₁, hf₂, hf₃, by omega, hf₅⟩
        · refine List.pairwise_cons.mpr ⟨fun f hf => ?_, hapart⟩
          have := (hall f hf).2.2.2.1
          omega
        · intro i hi hlt
          by_cases hin : i < (packet.fragmentAt fragmentLength offset).region.endOffset
          · exact ⟨_, List.mem_cons_self, by omega, hin⟩
          · exact (hcovers i (by omega) hlt).mono (List.subset_cons_self _ _)
      · rw [fragmentLoop_of_le packet (n + 1) (Nat.le_of_not_lt hoffset)]
        refine ⟨fun f hf => absurd hf List.not_mem_nil, .nil, fun i hstart hend => ?_⟩
        have hend' : packet.region.endOffset = packet.region.offset + packet.payload.length := rfl
        omega

end Loop

theorem le_noOfFragments_mul (packet : Ipv4Packet β) {fragmentLength : Nat}
    (hlength : 0 < fragmentLength) :
    packet.payload.length ≤ packet.noOfFragments fragmentLength * fragmentLength := by
  unfold noOfFragments
  have hmod := Nat.mod_lt (packet.payload.length + fragmentLength - 1) hlength
  have hdiv := Nat.div_add_mod (packet.payload.length + fragmentLength - 1) fragmentLength
  rw [Nat.mul_comm] at hdiv
  omega

/-- The packet is given up, and an error tells so; or what is sent has the size that the
interface takes, and takes the place of the packet. -/
theorem fragmentAndSend_cases (h : PieceOf whole packet) (hwhole : whole.payload.length ≤ 2 ^ 16)
    {mtu : Nat} {outputs : List (Ipv4Output β)} (hsend : packet.fragmentAndSend mtu = .ok outputs) :
    (packet.header.timeToLive ≤ 0 ∧ outputs = [.icmpTimeExceeded packet]) ∨
    (packet.header.dontFragment = true ∧ outputs = [.ptbMessage packet mtu]) ∨
    ∃ fragments, outputs = fragments.map .sendDatagramToOutput ∧ Splits whole packet fragments ∧
      0 < packet.header.timeToLive ∧ (mtu = 0 ∨ ∀ f ∈ fragments, f.byteLength ≤ mtu) := by
  unfold fragmentAndSend at hsend
  split at hsend
  · rename_i httl
    exact .inl ⟨httl, (Except.ok.inj hsend).symm⟩
  · rename_i httl
    split at hsend
    · rename_i hmtu
      refine .inr (.inr ⟨[packet], (Except.ok.inj hsend).symm, .self h, Int.not_le.mp httl, ?_⟩)
      exact hmtu.imp_right fun hle => List.forall_mem_singleton.mpr hle
    · split at hsend
      · rename_i hdf
        exact .inr (.inl ⟨hdf, (Except.ok.inj hsend).symm⟩)
      · split at hsend
        · cases hsend
        · rename_i hlength
          have hpos := Nat.pos_of_ne_zero hlength
          obtain ⟨hall, hapart, hcovers⟩ := fragmentLoop_splits h hwhole hpos 0
            (by rw [Nat.zero_add]; exact le_noOfFragments_mul packet hpos)
          refine .inr (.inr ⟨_, (Except.ok.inj hsend).symm,
            ⟨fun f hf => (hall f hf).1, fun f hf => (hall f hf).2.1, ?_, hapart, hcovers⟩,
            Int.not_le.mp httl, .inr ?_⟩)
          · exact fun f hf => (hall f hf).2.2.2
          · intro f hf
            obtain ⟨hpiece, -, hle, -⟩ := hall f hf
            have hheader : f.header.headerLength = packet.header.headerLength := by
              rw [hpiece.headerLength_eq, h.headerLength_eq]
            unfold fragmentLength at hle hpos
            unfold byteLength
            omega

end Ipv4Packet

end MultiTechBus.Network
