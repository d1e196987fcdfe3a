import Mathlib.Data.List.Perm.Subperm
import MultiTechBus.Library.Run
import MultiTechBus.Network.FragBuf

/-! # Datagrams on their way

Nodes send datagrams to one receiver. On its way a packet may be broken into fragments at
every hop, lost, overtaken and padded; the receiver puts the fragments together again. The
results are about whole runs: no datagram is delivered more often than it was sent, and
where nothing is lost every datagram is delivered.
-/

namespace MultiTechBus.Network

open MultiTechBus.Library
open MultiTechBus.Packet

variable {β : Type*}

/-- What a transport protocol asks `Ipv4` to send. -/
structure SendRequest (β : Type*) where
  src : Ipv4Address
  dest : Ipv4Address
  protocolId : Nat
  typeOfService : Nat := 0
  hopLimit : Option Int := none
  dontFragment : Bool := false
  data : List β

structure Ipv4Params extends Reassembler.Params where
  defaultTimeToLive : Int := 32
  defaultMCTimeToLive : Int := 32

def Ipv4Address.isLinkLocalMulticast (addr : Ipv4Address) : Bool :=
  addr &&& 0xFFFFFF00#32 == 0xE0000000#32

/-- `Ipv4::encapsulate`, without options. -/
def encapsulate (params : Ipv4Params) (curFragmentId : BitVec 16) (request : SendRequest β) :
    Except Halt (Ipv4Packet β) :=
  let ttl := request.hopLimit.getD (-1)
  if ttl ≠ -1 ∧ ttl ≤ 0 then .error (.cRuntimeError "ASSERT: ttl > 0")
  else
    .ok
      { header :=
          { typeOfService := request.typeOfService
            totalLengthField := 20 + request.data.length
            identification := curFragmentId
            dontFragment := request.dontFragment
            timeToLive :=
              if ttl ≠ -1 then ttl
              else if request.dest.isLinkLocalMulticast then 1
              else if request.dest.isMulticast then params.defaultMCTimeToLive
              else params.defaultTimeToLive
            protocolId := request.protocolId
            srcAddress := request.src
            destAddress := request.dest }
        payload := request.data }

/-- The packets on their way, the receiver, and what was sent and delivered so far. -/
structure DatagramNet (β : Type*) where
  curFragmentId : Nat → BitVec 16 := fun _ => 0
  flight : List (Ipv4Packet β) := []
  receiver : Reassembler β := {}
  sent : List (Ipv4Packet β) := []
  delivered : List (Ipv4Packet β) := []
  errors : List (Ipv4Output β) := []

inductive NetEvent (β : Type*)
  | send (node : Nat) (request : SendRequest β) (mtu : Nat)
  | forward (i : Nat) (padding : List β) (mtu : Nat)
  | lose (i : Nat)
  | arrive (i : Nat) (padding : List β) (now : Int)

def Ipv4Output.onItsWay : Ipv4Output β → Option (Ipv4Packet β)
  | .sendDatagramToOutput packet => some packet
  | _ => none

namespace DatagramNet

def emit (s : DatagramNet β) (outputs : List (Ipv4Output β)) : DatagramNet β :=
  { s with
    flight := s.flight ++ outputs.filterMap Ipv4Output.onItsWay
    errors := s.errors ++ outputs.filter fun output => output.onItsWay.isNone }

/-- The packet that a node gets: a packet that was on its way, with padding at its back. -/
def receive (s : DatagramNet β) (i : Nat) (padding : List β)
    (f : DatagramNet β → Ipv4Packet β → Except Halt (DatagramNet β)) : Except Halt (DatagramNet β) :=
  match s.flight[i]? with
  | none => .error .notEnabled
  | some packet =>
      let rest := { s with flight := s.flight.eraseIdx i }
      match Ipv4Packet.removePadding ⟨packet.header, packet.payload ++ padding⟩ with
      | .error output => .ok (rest.emit [output])
      | .ok packet => f rest packet

def step (params : Ipv4Params) (s : DatagramNet β) : NetEvent β → Except Halt (DatagramNet β)
  | .send node request mtu =>
      (encapsulate params (s.curFragmentId node) request).bind fun datagram =>
        (datagram.fragmentAndSend mtu).map fun outputs =>
          { s with
            curFragmentId := Function.update s.curFragmentId node (s.curFragmentId node + 1)
            sent := s.sent ++ [datagram] }.emit outputs
  | .forward i padding mtu =>
      s.receive i padding fun rest packet =>
        (packet.prepareForForwarding.fragmentAndSend mtu).map rest.emit
  | .lose i =>
      if i < s.flight.length then .ok { s with flight := s.flight.eraseIdx i }
      else .error .notEnabled
  | .arrive i padding now =>
      s.receive i padding fun rest packet =>
        (s.receiver.reassembleAndDeliver params.toParams packet now).map fun r =>
          { rest with
            receiver := r.1
            delivered := s.delivered ++ r.2.1.toList
            errors := s.errors ++ r.2.2 }

/-- A datagram carries data that offsets of 16 bits reach, and is sent under an
identification of which no part is on its way or waits any more. -/
def Admissible (s : DatagramNet β) : NetEvent β → Prop
  | .send node request _ =>
      (request.data ≠ [] ∧ request.data.length ≤ 2 ^ 16) ∧
        (∀ packet ∈ s.flight, packet.key ≠ ⟨s.curFragmentId node, request.src, request.dest⟩) ∧
        s.receiver.fragbuf.find? ⟨s.curFragmentId node, request.src, request.dest⟩ = none
  | _ => True

instance [DecidableEq β] (s : DatagramNet β) : ∀ e, Decidable (Admissible s e)
  | .send node request _ =>
      inferInstanceAs (Decidable ((request.data ≠ [] ∧ request.data.length ≤ 2 ^ 16) ∧
        (∀ packet ∈ s.flight, packet.key ≠ ⟨s.curFragmentId node, request.src, request.dest⟩) ∧
        s.receiver.fragbuf.find? ⟨s.curFragmentId node, request.src, request.dest⟩ = none))
  | .forward .. => .isTrue trivial
  | .lose _ => .isTrue trivial
  | .arrive .. => .isTrue trivial

end DatagramNet

def NetEvent.isLoss : NetEvent β → Bool
  | .lose _ => true
  | _ => false

/-- A packet but for its hop limit. -/
def Ipv4Packet.untimed (packet : Ipv4Packet β) : Ipv4Packet β :=
  { packet with header := { packet.header with timeToLive := 0 } }

theorem Ipv4Packet.PieceOf.key_eq {whole packet : Ipv4Packet β} (h : whole.PieceOf packet) :
    packet.key = whole.key := by
  have hcommon := h.common
  unfold Ipv4Header.common at hcommon
  simp only [Ipv4Header.mk.injEq] at hcommon
  unfold Ipv4Packet.key
  simp only [hcommon]

theorem Ipv4FragBuf.untimed_of_reassembled {whole datagram : Ipv4Packet β}
    {pieces : List (Ipv4Packet β)} (h : reassembled whole pieces = some datagram) :
    datagram.untimed = whole.untimed := by
  obtain ⟨packet, -, rfl⟩ := Option.map_eq_some_iff.mp h
  rfl

/-- A piece that is no fragment is the datagram, but for the hop limit. -/
theorem Ipv4Packet.PieceOf.untimed_eq {whole packet : Ipv4Packet β} (h : whole.PieceOf packet)
    (hwhole : whole.Whole) (hoffset : packet.header.fragmentOffset = 0)
    (hmore : packet.header.moreFragments = false) : packet.untimed = whole.untimed := by
  have hpayload := h.payload_eq hoffset hmore
  have heq := Ipv4FragBuf.datagram_eq hwhole h.common
  have htotal := h.total
  unfold Ipv4Packet.byteLength at htotal
  rw [hpayload] at htotal
  have hheader : packet.header = { packet.header with
      totalLengthField := packet.header.headerLength + whole.payload.length
      fragmentOffset := 0
      moreFragments := false } := by
    rw [← htotal, ← hoffset, ← hmore]
  have hpacket : packet = ⟨packet.header, whole.payload⟩ := by rw [← hpayload]
  rw [hpacket, hheader, heq]
  rfl

theorem Ipv4Packet.PieceOf.complete {whole packet : Ipv4Packet β} (h : whole.PieceOf packet)
    (hoffset : packet.header.fragmentOffset = 0) (hmore : packet.header.moreFragments = false) :
    Ipv4FragBuf.Complete whole [packet] := by
  intro i hi
  refine covered_singleton.mpr ⟨?_, ?_⟩
  · change packet.header.fragmentOffset ≤ i
    omega
  · change i < packet.header.fragmentOffset + packet.payload.length
    rw [h.payload_eq hoffset hmore]
    omega

/-! ## Who carries a position -/

/-- The packet carries the data at a position of the datagram with the given key. -/
def Carries (key : Ipv4FragBuf.Key) (i : Nat) (packet : Ipv4Packet β) : Bool :=
  packet.key = key ∧ packet.region.offset ≤ i ∧ i < packet.region.endOffset

theorem carries_iff {key : Ipv4FragBuf.Key} {i : Nat} {packet : Ipv4Packet β} :
    Carries key i packet = true ↔
      packet.key = key ∧ packet.region.offset ≤ i ∧ i < packet.region.endOffset := decide_eq_true_iff

theorem Ipv4Packet.PieceOf.carries_start {whole packet : Ipv4Packet β} (h : whole.PieceOf packet) :
    Carries packet.key packet.region.offset packet = true :=
  carries_iff.mpr ⟨rfl, Nat.le_refl _, Region.offset_lt_endOffset h.nonempty⟩

/-- Among packets of one datagram, a covered position is one that some packet carries. -/
theorem covered_iff_countP {key : Ipv4FragBuf.Key} {i : Nat} {pieces : List (Ipv4Packet β)}
    (hkey : ∀ packet ∈ pieces, packet.key = key) :
    Covered (pieces.map Ipv4Packet.region) i ↔ 0 < pieces.countP (Carries key i) := by
  rw [List.countP_pos_iff]
  constructor
  · rintro ⟨r, hr, hi⟩
    obtain ⟨packet, hpacket, rfl⟩ := List.mem_map.mp hr
    exact ⟨packet, hpacket, carries_iff.mpr ⟨hkey packet hpacket, hi⟩⟩
  · rintro ⟨packet, hpacket, hcarries⟩
    exact ⟨packet.region, List.mem_map_of_mem hpacket, (carries_iff.mp hcarries).2⟩

/-- Of packets that do not overlap, at most one carries a position. -/
theorem countP_le_one_of_apart (key : Ipv4FragBuf.Key) (i : Nat) {pieces : List (Ipv4Packet β)}
    (h : pieces.Pairwise fun f f' => f.region.endOffset ≤ f'.region.offset) :
    pieces.countP (Carries key i) ≤ 1 := by
  induction pieces with
  | nil => exact Nat.zero_le _
  | cons packet pieces ih =>
      obtain ⟨hfirst, hrest⟩ := List.pairwise_cons.mp h
      rw [List.countP_cons]
      split
      · rename_i hcarries
        have hzero : pieces.countP (Carries key i) = 0 := by
          rw [List.countP_eq_zero]
          intro packet' hpacket' hcarries'
          have hafter := hfirst packet' hpacket'
          have hend := (carries_iff.mp hcarries).2.2
          have hstart := (carries_iff.mp hcarries').2.1
          omega
        omega
      · exact ih hrest

/-- What takes the place of a packet carries the positions that the packet carries. -/
theorem Ipv4Packet.Splits.countP {whole packet : Ipv4Packet β} {fragments : List (Ipv4Packet β)}
    (h : whole.Splits packet fragments) (hpacket : whole.PieceOf packet) (key : Ipv4FragBuf.Key)
    (i : Nat) : fragments.countP (Carries key i) = [packet].countP (Carries key i) := by
  have hkey : ∀ fragment ∈ fragments, fragment.key = packet.key := fun fragment hf =>
    (h.pieces fragment hf).key_eq.trans hpacket.key_eq.symm
  rw [List.countP_singleton]
  split
  · rename_i hcarries
    obtain ⟨rfl, hstart, hend⟩ := carries_iff.mp hcarries
    have hone := countP_le_one_of_apart packet.key i h.apart
    have hsome := (covered_iff_countP hkey).mp (h.covers i hstart hend)
    omega
  · rename_i hnot
    rw [List.countP_eq_zero]
    intro fragment hf hcarries
    obtain ⟨hfkey, hstart, hend⟩ := carries_iff.mp hcarries
    obtain ⟨hle, hge⟩ := h.inside fragment hf
    refine hnot (carries_iff.mpr ⟨(hkey fragment hf).symm.trans hfkey, ?_, ?_⟩) <;> omega

/-! ## The packets and the pieces that wait -/

/-- How many packets on their way and waiting pieces carry a position. -/
def carriers (flight pieces : List (Ipv4Packet β)) (key : Ipv4FragBuf.Key) (i : Nat) : Nat :=
  flight.countP (Carries key i) + pieces.countP (Carries key i)

/-- All packets are pieces of live datagrams, and no position of one is carried twice. If
nothing was lost, none is missing. -/
structure Custody (lossless : Prop) (whole : Ipv4FragBuf.Key → Ipv4Packet β)
    (pending : Ipv4FragBuf.Key → List (Ipv4Packet β)) (live : List Ipv4FragBuf.Key)
    (flight : List (Ipv4Packet β)) : Prop where
  pieceOf : ∀ packet ∈ flight, packet.key ∈ live ∧ (whole packet.key).PieceOf packet
  waiting : ∀ key, ∀ piece ∈ pending key, key ∈ live ∧ (whole key).PieceOf piece
  wholes : ∀ key ∈ live, (whole key).Whole ∧ (whole key).key = key
  nodup : live.Nodup
  once : ∀ key i, carriers flight (pending key) key i ≤ 1
  kept : lossless → ∀ key ∈ live, ∀ i < (whole key).payload.length,
    0 < carriers flight (pending key) key i

namespace Custody

variable {P Q : Prop} {whole : Ipv4FragBuf.Key → Ipv4Packet β}
  {pending pending' : Ipv4FragBuf.Key → List (Ipv4Packet β)} {live : List Ipv4FragBuf.Key}
  {flight flight' rest fragments : List (Ipv4Packet β)} {packet : Ipv4Packet β}

theorem mono (h : Custody P whole pending live flight) (hPQ : Q → P) :
    Custody Q whole pending live flight :=
  ⟨h.pieceOf, h.waiting, h.wholes, h.nodup, h.once, fun hQ => h.kept (hPQ hQ)⟩

theorem perm (h : Custody P whole pending live flight) (hperm : flight.Perm flight') :
    Custody P whole pending live flight' where
  pieceOf := fun packet hpacket => h.pieceOf packet (hperm.mem_iff.mpr hpacket)
  waiting := h.waiting
  wholes := h.wholes
  nodup := h.nodup
  once := fun key i => by
    have := h.once key i
    rwa [carriers, hperm.countP_eq] at this
  kept := fun hP key hkey i hi => by
    have := h.kept hP key hkey i hi
    rwa [carriers, hperm.countP_eq] at this

theorem key_of_pending (h : Custody P whole pending live flight) {key : Ipv4FragBuf.Key}
    {piece : Ipv4Packet β} (hpiece : piece ∈ pending key) : piece.key = key := by
  obtain ⟨hlive, hof⟩ := h.waiting key piece hpiece
  exact hof.key_eq.trans (h.wholes key hlive).2

theorem lose (h : Custody P whole pending live (packet :: rest)) :
    Custody False whole pending live rest where
  pieceOf := fun q hq => h.pieceOf q (List.mem_cons_of_mem _ hq)
  waiting := h.waiting
  wholes := h.wholes
  nodup := h.nodup
  once := fun key i => by
    have := h.once key i
    unfold carriers at this ⊢
    rw [List.countP_cons] at this
    omega
  kept := nofun

theorem split (h : Custody P whole pending live (packet :: rest)) {packet' : Ipv4Packet β}
    (hpiece : (whole packet.key).PieceOf packet') (hregion : packet'.region = packet.region)
    (hsplits : (whole packet.key).Splits packet' fragments) :
    Custody P whole pending live (fragments ++ rest) := by
  obtain ⟨hlive, hof⟩ := h.pieceOf packet List.mem_cons_self
  have hkey : packet'.key = packet.key := hpiece.key_eq.trans hof.key_eq.symm
  have hcount : ∀ key i, (fragments ++ rest).countP (Carries key i) =
      (packet :: rest).countP (Carries key i) := by
    intro key i
    have hsame : Carries key i packet' = Carries key i packet := by
      unfold Carries
      rw [hkey, hregion]
    rw [List.countP_append, hsplits.countP hpiece, List.countP_singleton, List.countP_cons, hsame,
      Nat.add_comm]
  refine ⟨fun q hq => ?_, h.waiting, h.wholes, h.nodup, fun key i => ?_, fun hP key hkey i hi => ?_⟩
  · rcases List.mem_append.mp hq with hnew | hold
    · have hq' := hsplits.pieces q hnew
      have hqkey : q.key = packet.key := hq'.key_eq.trans hof.key_eq.symm
      rw [hqkey]
      exact ⟨hlive, hq'⟩
    · exact h.pieceOf q (List.mem_cons_of_mem _ hold)
  · unfold carriers
    rw [hcount]
    exact h.once key i
  · unfold carriers
    rw [hcount]
    exact h.kept hP key hkey i hi

theorem forget (h : Custody P whole pending live flight)
    (hpending : ∀ key, pending' key = pending key ∨ pending' key = []) :
    Custody False whole pending' live flight where
  pieceOf := h.pieceOf
  waiting := fun key piece hpiece => by
    rcases hpending key with heq | heq
    · exact h.waiting key piece (heq ▸ hpiece)
    · rw [heq] at hpiece
      cases hpiece
  wholes := h.wholes
  nodup := h.nodup
  once := fun key i => by
    have := h.once key i
    unfold carriers at this ⊢
    rcases hpending key with heq | heq
    · rwa [heq]
    · rw [heq, List.countP_nil]
      omega
  kept := nofun

theorem wait (h : Custody P whole pending live (packet :: rest)) :
    Custody P whole (Function.update pending packet.key (pending packet.key ++ [packet])) live
      rest := by
  have hcarriers : ∀ key i, carriers rest
      (Function.update pending packet.key (pending packet.key ++ [packet]) key) key i =
        carriers (packet :: rest) (pending key) key i := by
    intro key i
    unfold carriers
    rw [List.countP_cons]
    rcases eq_or_ne key packet.key with rfl | hne
    · rw [Function.update_self, List.countP_append, List.countP_singleton]
      omega
    · have hnot : Carries key i packet = false := by
        rw [Bool.eq_false_iff, ne_eq, carries_iff]
        exact fun hc => hne hc.1.symm
      rw [Function.update_of_ne hne, hnot]
      simp
  refine ⟨fun q hq => h.pieceOf q (List.mem_cons_of_mem _ hq), fun key piece hpiece => ?_, h.wholes,
    h.nodup, fun key i => ?_, fun hP key hkey i hi => ?_⟩
  · rcases eq_or_ne key packet.key with rfl | hne
    · rw [Function.update_self] at hpiece
      rcases List.mem_append.mp hpiece with hold | hnew
      · exact h.waiting _ piece hold
      · rw [List.mem_singleton.mp hnew]
        exact h.pieceOf packet List.mem_cons_self
    · rw [Function.update_of_ne hne] at hpiece
      exact h.waiting key piece hpiece
  · rw [hcarriers]
    exact h.once key i
  · rw [hcarriers]
    exact h.kept hP key hkey i hi

/-- With all of a datagram in hand, no other packet and no other piece of it is left. -/
theorem alone (h : Custody P whole pending live (packet :: rest)) {taken : List (Ipv4Packet β)}
    (hcomplete : Ipv4FragBuf.Complete (whole packet.key) taken)
    (hkeys : ∀ piece ∈ taken, piece.key = packet.key)
    (hle : ∀ i, taken.countP (Carries packet.key i) ≤
      (pending packet.key ++ [packet]).countP (Carries packet.key i)) :
    ∀ q ∈ rest, q.key ≠ packet.key := by
  intro q hq hkey
  obtain ⟨-, hof⟩ := h.pieceOf q (List.mem_cons_of_mem _ hq)
  rw [hkey] at hof
  have hlt : q.region.offset < (whole packet.key).payload.length :=
    Nat.lt_of_lt_of_le (Region.offset_lt_endOffset hof.nonempty) hof.end_le
  have htaken := (covered_iff_countP hkeys).mp (hcomplete _ hlt)
  have hrest : 0 < rest.countP (Carries packet.key q.region.offset) := by
    rw [List.countP_pos_iff]
    refine ⟨q, hq, ?_⟩
    have := hof.carries_start
    rwa [hkey] at this
  have honce := h.once packet.key q.region.offset
  have := hle q.region.offset
  unfold carriers at honce
  rw [List.countP_cons] at honce
  rw [List.countP_append, List.countP_singleton] at this
  omega

/-- With all of a datagram in one packet, no piece of it waits. -/
theorem none_waits (h : Custody P whole pending live (packet :: rest))
    (hcomplete : Ipv4FragBuf.Complete (whole packet.key) [packet]) : pending packet.key = [] := by
  rw [List.eq_nil_iff_forall_not_mem]
  intro piece hpiece
  obtain ⟨-, hof⟩ := h.waiting packet.key piece hpiece
  have hlt : piece.region.offset < (whole packet.key).payload.length :=
    Nat.lt_of_lt_of_le (Region.offset_lt_endOffset hof.nonempty) hof.end_le
  have hkey : ∀ q ∈ [packet], q.key = packet.key := List.forall_mem_singleton.mpr rfl
  have hpacket := (covered_iff_countP hkey).mp (hcomplete _ hlt)
  have hwaits : 0 < (pending packet.key).countP (Carries packet.key piece.region.offset) := by
    rw [List.countP_pos_iff]
    refine ⟨piece, hpiece, ?_⟩
    have := hof.carries_start
    rwa [h.key_of_pending hpiece] at this
  have honce := h.once packet.key piece.region.offset
  unfold carriers at honce
  rw [List.countP_cons] at honce
  rw [List.countP_singleton] at hpacket
  omega

theorem deliver (h : Custody P whole pending live (packet :: rest))
    (halone : ∀ q ∈ rest, q.key ≠ packet.key) :
    Custody P whole (Function.update pending packet.key []) (live.erase packet.key) rest := by
  have hlive : ∀ key, key ∈ live.erase packet.key ↔ key ≠ packet.key ∧ key ∈ live := fun key =>
    h.nodup.mem_erase_iff
  have hcarriers : ∀ key i, key ≠ packet.key → carriers rest
      (Function.update pending packet.key [] key) key i =
        carriers (packet :: rest) (pending key) key i := by
    intro key i hne
    have hnot : Carries key i packet = false := by
      rw [Bool.eq_false_iff, ne_eq, carries_iff]
      exact fun hc => hne hc.1.symm
    unfold carriers
    rw [Function.update_of_ne hne, List.countP_cons, hnot]
    simp
  refine ⟨fun q hq => ?_, fun key piece hpiece => ?_, fun key hkey => ?_, h.nodup.erase _,
    fun key i => ?_, fun hP key hkey i hi => ?_⟩
  · obtain ⟨hq₁, hq₂⟩ := h.pieceOf q (List.mem_cons_of_mem _ hq)
    exact ⟨(hlive _).mpr ⟨halone q hq, hq₁⟩, hq₂⟩
  · rcases eq_or_ne key packet.key with rfl | hne
    · rw [Function.update_self] at hpiece
      cases hpiece
    · rw [Function.update_of_ne hne] at hpiece
      obtain ⟨hp₁, hp₂⟩ := h.waiting key piece hpiece
      exact ⟨(hlive _).mpr ⟨hne, hp₁⟩, hp₂⟩
  · exact h.wholes key ((hlive key).mp hkey).2
  · rcases eq_or_ne key packet.key with rfl | hne
    · have honce := h.once packet.key i
      unfold carriers at honce ⊢
      rw [List.countP_cons] at honce
      rw [Function.update_self, List.countP_nil]
      omega
    · rw [hcarriers key i hne]
      exact h.once key i
  · obtain ⟨hne, hkey'⟩ := (hlive key).mp hkey
    rw [hcarriers key i hne]
    exact h.kept hP key hkey' i hi

theorem retire (h : Custody P whole pending live flight) {key : Ipv4FragBuf.Key}
    (hflight : ∀ q ∈ flight, q.key ≠ key) (hpending : pending key = []) :
    Custody P whole pending (live.erase key) flight ∧ (P → key ∉ live) := by
  have hlive : ∀ key', key' ∈ live.erase key ↔ key' ≠ key ∧ key' ∈ live := fun key' =>
    h.nodup.mem_erase_iff
  refine ⟨⟨fun q hq => ?_, fun key' piece hpiece => ?_, fun key' hkey' => ?_, h.nodup.erase _,
    h.once, fun hP key' hkey' => h.kept hP key' ((hlive key').mp hkey').2⟩, fun hP hkey => ?_⟩
  · obtain ⟨hq₁, hq₂⟩ := h.pieceOf q hq
    exact ⟨(hlive _).mpr ⟨hflight q hq, hq₁⟩, hq₂⟩
  · obtain ⟨hp₁, hp₂⟩ := h.waiting key' piece hpiece
    refine ⟨(hlive _).mpr ⟨?_, hp₁⟩, hp₂⟩
    rintro rfl
    rw [hpending] at hpiece
    cases hpiece
  · exact h.wholes key' ((hlive key').mp hkey').2
  · have hkept := h.kept hP key hkey 0 (List.length_pos_iff.mpr (h.wholes key hkey).1.nonempty)
    have hnone : flight.countP (Carries key 0) = 0 := by
      rw [List.countP_eq_zero]
      exact fun q hq hc => hflight q hq (carries_iff.mp hc).1
    rw [carriers, hnone, hpending] at hkept
    exact absurd hkept (by simp)

theorem send (h : Custody P whole pending live flight) {datagram : Ipv4Packet β}
    (hwhole : datagram.Whole) (hflight : ∀ q ∈ flight, q.key ≠ datagram.key)
    (hpending : pending datagram.key = []) (hlive : datagram.key ∉ live)
    (hsplits : datagram.Splits datagram fragments) :
    Custody P (Function.update whole datagram.key datagram) pending (datagram.key :: live)
      (fragments ++ flight) := by
  have hne : ∀ {key}, key ∈ live → key ≠ datagram.key := fun hkey heq => hlive (heq ▸ hkey)
  have hnone : ∀ i, flight.countP (Carries datagram.key i) = 0 := by
    intro i
    rw [List.countP_eq_zero]
    exact fun q hq hc => hflight q hq (carries_iff.mp hc).1
  have hcount : ∀ key i, (fragments ++ flight).countP (Carries key i) =
      [datagram].countP (Carries key i) + flight.countP (Carries key i) := fun key i => by
    rw [List.countP_append, hsplits.countP hwhole.pieceOf]
  refine ⟨fun q hq => ?_, fun key piece hpiece => ?_, fun key hkey => ?_,
    List.nodup_cons.mpr ⟨hlive, h.nodup⟩, fun key i => ?_, fun hP key hkey i hi => ?_⟩
  · rcases List.mem_append.mp hq with hnew | hold
    · have hq' := hsplits.pieces q hnew
      rw [hq'.key_eq, Function.update_self]
      exact ⟨List.mem_cons_self, hq'⟩
    · obtain ⟨hq₁, hq₂⟩ := h.pieceOf q hold
      rw [Function.update_of_ne (hne hq₁)]
      exact ⟨List.mem_cons_of_mem _ hq₁, hq₂⟩
  · obtain ⟨hp₁, hp₂⟩ := h.waiting key piece hpiece
    rw [Function.update_of_ne (hne hp₁)]
    exact ⟨List.mem_cons_of_mem _ hp₁, hp₂⟩
  · rcases List.mem_cons.mp hkey with rfl | hold
    · rw [Function.update_self]
      exact ⟨hwhole, rfl⟩
    · rw [Function.update_of_ne (hne hold)]
      exact h.wholes key hold
  · unfold carriers
    rw [hcount]
    rcases eq_or_ne key datagram.key with rfl | hkey
    · rw [hpending, hnone, List.countP_nil]
      exact List.countP_le_length
    · have hzero : [datagram].countP (Carries key i) = 0 := by
        rw [List.countP_eq_zero]
        intro q hq hc
        rw [List.mem_singleton.mp hq] at hc
        exact hkey (carries_iff.mp hc).1.symm
      rw [hzero, Nat.zero_add]
      exact h.once key i
  · unfold carriers
    rw [hcount]
    rcases List.mem_cons.mp hkey with rfl | hold
    · rw [Function.update_self] at hi
      have hcarries : Carries datagram.key i datagram = true := by
        refine carries_iff.mpr ⟨rfl, ?_, ?_⟩
        · change datagram.header.fragmentOffset ≤ i
          rw [hwhole.offset]
          exact Nat.zero_le _
        · change i < datagram.header.fragmentOffset + datagram.payload.length
          omega
      rw [List.countP_singleton, if_pos hcarries]
      omega
    · rw [Function.update_of_ne (hne hold)] at hi
      have hkept := h.kept hP key hold i hi
      unfold carriers at hkept
      omega

end Custody

theorem encapsulate_whole {params : Ipv4Params} {id : BitVec 16} {request : SendRequest β}
    {datagram : Ipv4Packet β} (h : encapsulate params id request = .ok datagram)
    (hdata : request.data ≠ []) (hlength : request.data.length ≤ 2 ^ 16) :
    datagram.Whole ∧ datagram.key = ⟨id, request.src, request.dest⟩ := by
  unfold encapsulate at h
  dsimp only at h
  split at h
  · cases h
  · obtain rfl := Except.ok.inj h
    exact ⟨⟨hdata, hlength, rfl, rfl, rfl⟩, rfl⟩

namespace DatagramNet

variable {s s' : DatagramNet β} {params : Ipv4Params}

theorem emit_fragments (s : DatagramNet β) (fragments : List (Ipv4Packet β)) :
    s.emit (fragments.map .sendDatagramToOutput) = { s with flight := s.flight ++ fragments } := by
  unfold emit
  rw [List.filterMap_map, List.filter_map]
  have hall : fragments.filterMap (Ipv4Output.onItsWay ∘ .sendDatagramToOutput) = fragments :=
    List.filterMap_some
  have hnone : fragments.filter ((fun output => output.onItsWay.isNone) ∘
      Ipv4Output.sendDatagramToOutput) = [] := List.filter_eq_nil_iff.mpr fun _ _ => nofun
  rw [hall, hnone, List.map_nil, List.append_nil]

theorem emit_error (s : DatagramNet β) {output : Ipv4Output β} (h : output.onItsWay = none) :
    s.emit [output] = { s with errors := s.errors ++ [output] } := by
  unfold emit
  simp [h]

/-- A node gets a packet as it was sent. -/
theorem receive_eq {i : Nat} {padding : List β}
    {f : DatagramNet β → Ipv4Packet β → Except Halt (DatagramNet β)} {whole packet : Ipv4Packet β}
    (hi : s.flight[i]? = some packet) (hof : whole.PieceOf packet) :
    s.receive i padding f = f { s with flight := s.flight.eraseIdx i } packet := by
  unfold receive
  rw [hi]
  simp only [hof.removePadding]

/-- Every datagram that was sent is delivered, live or gone; none is gone if nothing was
lost. -/
structure Inv (lossless : Prop) (s : DatagramNet β) (whole : Ipv4FragBuf.Key → Ipv4Packet β)
    (pending : Ipv4FragBuf.Key → List (Ipv4Packet β)) (live : List Ipv4FragBuf.Key)
    (gone : List (Ipv4Packet β)) : Prop where
  custody : Custody lossless whole pending live s.flight
  buffers : Ipv4FragBuf.Pending whole s.receiver.fragbuf pending
  accounts : (s.sent.map Ipv4Packet.untimed).Perm (s.delivered.map Ipv4Packet.untimed ++
    (live.map fun key => (whole key).untimed) ++ gone)
  gone_eq : lossless → gone = []

section Steps

variable {P : Prop} {whole : Ipv4FragBuf.Key → Ipv4Packet β}
  {pending : Ipv4FragBuf.Key → List (Ipv4Packet β)} {live : List Ipv4FragBuf.Key}
  {gone : List (Ipv4Packet β)} {packet : Ipv4Packet β} {rest : List (Ipv4Packet β)}

theorem inv_init : Inv True ({} : DatagramNet β) (fun key => ⟨⟨20, 0, 0, key.id, false, false, 0, 0, 0,
    key.src, key.dest⟩, []⟩) (fun _ => []) [] [] where
  custody := ⟨nofun, nofun, nofun, .nil, fun _ _ => Nat.zero_le _, fun _ => nofun⟩
  buffers := .empty _
  accounts := .refl _
  gone_eq := fun _ => rfl

theorem Inv.forwarded (h : Inv P { s with flight := packet :: rest } whole pending live gone)
    {packet' : Ipv4Packet β} (hpiece : (whole packet.key).PieceOf packet')
    (hregion : packet'.region = packet.region) {mtu : Nat} {outputs : List (Ipv4Output β)}
    (hsend : packet'.fragmentAndSend mtu = .ok outputs) :
    Inv (P ∧ ({ s with flight := rest }.emit outputs).errors = s.errors)
      ({ s with flight := rest }.emit outputs) whole pending live gone := by
  have hlive := (h.custody.pieceOf packet List.mem_cons_self).1
  have hlength := (h.custody.wholes _ hlive).1.length_le
  have hdrop : ∀ {output : Ipv4Output β}, output.onItsWay = none →
      Inv (P ∧ ({ s with flight := rest }.emit [output]).errors = s.errors)
        ({ s with flight := rest }.emit [output]) whole pending live gone := by
    intro output houtput
    rw [emit_error _ houtput]
    refine ⟨h.custody.lose.mono fun hsame => ?_, h.buffers, h.accounts, fun hP => h.gone_eq hP.1⟩
    simpa using congrArg List.length hsame.2
  rcases Ipv4Packet.fragmentAndSend_cases hpiece hlength hsend with
    ⟨-, rfl⟩ | ⟨-, rfl⟩ | ⟨fragments, rfl, hsplits, -⟩
  · exact hdrop rfl
  · exact hdrop rfl
  · rw [emit_fragments]
    exact ⟨((h.custody.split hpiece hregion hsplits).perm List.perm_append_comm).mono And.left,
      h.buffers, h.accounts, fun hP => h.gone_eq hP.1⟩

theorem Inv.retire (h : Inv P s whole pending live gone) {key : Ipv4FragBuf.Key}
    (hflight : ∀ q ∈ s.flight, q.key ≠ key) (hpending : pending key = []) :
    ∃ live' gone', Inv P s whole pending live' gone' ∧ key ∉ live' := by
  by_cases hkey : key ∈ live
  · obtain ⟨hcustody, hlost⟩ := h.custody.retire hflight hpending
    refine ⟨live.erase key, (whole key).untimed :: gone, ⟨hcustody, h.buffers, ?_,
      fun hP => absurd hkey (hlost hP)⟩, fun hmem => (h.custody.nodup.mem_erase_iff.mp hmem).1 rfl⟩
    refine h.accounts.trans ?_
    rw [List.append_assoc, List.append_assoc]
    refine List.Perm.append_left _ ?_
    have hlive := (List.perm_cons_erase hkey).map fun key => (whole key).untimed
    exact (hlive.append_right gone).trans List.perm_middle.symm
  · exact ⟨live, gone, h, hkey⟩

theorem Inv.sent (h : Inv P s whole pending live gone) {datagram : Ipv4Packet β}
    (hwhole : datagram.Whole) (hflight : ∀ q ∈ s.flight, q.key ≠ datagram.key)
    (hpending : pending datagram.key = []) (hlive : datagram.key ∉ live) :
    Inv P { s with flight := datagram :: s.flight, sent := s.sent ++ [datagram] }
      (Function.update whole datagram.key datagram) pending (datagram.key :: live) gone where
  custody := h.custody.send hwhole hflight hpending hlive (.self hwhole.pieceOf)
  buffers := by
    refine ⟨fun key => ?_, h.buffers.none_iff, fun key hne => ?_⟩
    · rcases eq_or_ne key datagram.key with rfl | hkey
      · rw [hpending, (h.buffers.none_iff _).mpr hpending]
        exact .empty _
      · change Ipv4FragBuf.Holds (Function.update whole datagram.key datagram key) _ _
        rw [Function.update_of_ne hkey]
        exact h.buffers.holds key
    · have hkey : key ≠ datagram.key := by
        rintro rfl
        exact hne hpending
      change ¬ Ipv4FragBuf.Complete (Function.update whole datagram.key datagram key) _
      rw [Function.update_of_ne hkey]
      exact h.buffers.incomplete key hne
  accounts := by
    have hmap : (datagram.key :: live).map
        (fun key => (Function.update whole datagram.key datagram key).untimed) =
          datagram.untimed :: live.map fun key => (whole key).untimed := by
      rw [List.map_cons, Function.update_self]
      congr 1
      refine List.map_congr_left fun key hkey => ?_
      have hne : key ≠ datagram.key := by
        rintro rfl
        exact hlive hkey
      rw [Function.update_of_ne hne]
    rw [hmap, List.map_append]
    refine List.perm_append_comm.trans ?_
    rw [List.map_cons, List.map_nil, List.singleton_append]
    refine (h.accounts.cons _).trans ?_
    rw [List.append_assoc, List.append_assoc, List.cons_append]
    exact List.perm_middle.symm
  gone_eq := h.gone_eq

theorem Inv.delivered (h : Inv P { s with flight := packet :: rest } whole pending live gone)
    {Q : Prop} {pending' : Ipv4FragBuf.Key → List (Ipv4Packet β)}
    (hcustody : Custody Q whole pending' live (packet :: rest)) (hQ : Q → P)
    {taken : List (Ipv4Packet β)} (hcomplete : Ipv4FragBuf.Complete (whole packet.key) taken)
    (htaken : taken.Sublist (pending' packet.key ++ [packet]))
    {receiver : Reassembler β} {datagram : Ipv4Packet β} {errors : List (Ipv4Output β)}
    (hdatagram : datagram.untimed = (whole packet.key).untimed)
    (hbuffers : Ipv4FragBuf.Pending whole receiver.fragbuf
      (Function.update pending' packet.key [])) :
    Inv Q
      { s with
        flight := rest
        receiver := receiver
        delivered := s.delivered ++ [datagram]
        errors := errors } whole
      (Function.update pending' packet.key []) (live.erase packet.key) gone where
  custody := by
    refine hcustody.deliver (hcustody.alone hcomplete (fun piece hpiece => ?_) fun i =>
      htaken.countP_le)
    rcases List.mem_append.mp (htaken.subset hpiece) with hold | hnew
    · exact hcustody.key_of_pending hold
    · rw [List.mem_singleton.mp hnew]
  buffers := hbuffers
  accounts := by
    have hlive := (List.perm_cons_erase (h.custody.pieceOf packet List.mem_cons_self).1).map
      fun key => (whole key).untimed
    refine h.accounts.trans (List.Perm.append_right gone ?_)
    refine (List.Perm.append_left _ hlive).trans ?_
    rw [List.map_append, List.map_cons, List.append_assoc, List.map_singleton, hdatagram]
    rfl
  gone_eq := fun hq => h.gone_eq (hQ hq)

theorem Inv.arrived (h : Inv P { s with flight := packet :: rest } whole pending live gone)
    {now : Int} {r : Reassembler β × Option (Ipv4Packet β) × List (Ipv4Output β)}
    (hr : s.receiver.reassembleAndDeliver params.toParams packet now = .ok r) :
    ∃ pending' live', Inv (P ∧ s.errors ++ r.2.2 = s.errors)
      { s with
        flight := rest
        receiver := r.1
        delivered := s.delivered ++ r.2.1.toList
        errors := s.errors ++ r.2.2 } whole pending' live' gone := by
  obtain ⟨hlive, hof⟩ := h.custody.pieceOf packet List.mem_cons_self
  obtain ⟨hwhole, hkey⟩ := h.custody.wholes _ hlive
  rcases Reassembler.reassembleAndDeliver_cases h.buffers hwhole hof hr with
    ⟨hoffset, hmore, rfl⟩ | ⟨pending', heach, hsilent, hcases⟩
  · -- the packet is the datagram
    have hcomplete := hof.complete hoffset hmore
    have hupdate : Function.update pending packet.key [] = pending := by
      rw [← h.custody.none_waits hcomplete, Function.update_eq_self]
    exact ⟨_, _, h.delivered (h.custody.mono And.left) And.left hcomplete
      (List.sublist_append_right _ _) (hof.untimed_eq hwhole hoffset hmore)
      (by rw [hupdate]; exact h.buffers)⟩
  · have hcustody : Custody (P ∧ s.errors ++ r.2.2 = s.errors) whole pending' live
        (packet :: rest) := by
      refine ⟨h.custody.pieceOf, (h.custody.forget heach).waiting, h.custody.wholes,
        h.custody.nodup, (h.custody.forget heach).once, fun hP => ?_⟩
      rw [hsilent (List.append_right_eq_self.mp hP.2)]
      exact h.custody.kept hP.1
    rcases hcases with ⟨hcomplete, ⟨datagram, hout, hdatagram⟩, hbuffers⟩ | ⟨-, hout, hbuffers⟩
    · rw [hout]
      exact ⟨_, _, h.delivered hcustody And.left hcomplete (List.Sublist.refl _)
        (Ipv4FragBuf.untimed_of_reassembled hdatagram) hbuffers⟩
    · rw [hout, Option.toList_none, List.append_nil]
      exact ⟨_, _, hcustody.wait, hbuffers, h.accounts, fun hP => h.gone_eq hP.1⟩

theorem Inv.mono (h : Inv P s whole pending live gone) {Q : Prop} (hQ : Q → P) :
    Inv Q s whole pending live gone :=
  ⟨h.custody.mono hQ, h.buffers, h.accounts, fun hq => h.gone_eq (hQ hq)⟩

theorem Inv.front (h : Inv P s whole pending live gone) {i : Nat}
    (hi : s.flight[i]? = some packet) :
    Inv P { s with flight := packet :: s.flight.eraseIdx i } whole pending live gone := by
  obtain ⟨hlt, rfl⟩ := List.getElem?_eq_some_iff.mp hi
  exact ⟨h.custody.perm (List.getElem_cons_eraseIdx_perm hlt).symm, h.buffers, h.accounts,
    h.gone_eq⟩

theorem Inv.step (h : Inv P s whole pending live gone) {e : NetEvent β} (hadm : Admissible s e)
    (hstep : step params s e = .ok s') :
    ∃ whole' pending' live' gone',
      Inv (P ∧ e.isLoss = false ∧ s'.errors = s.errors) s' whole' pending' live' gone' := by
  cases e with
  | send node request mtu =>
      obtain ⟨⟨hdata, hlength⟩, hflight, hfind⟩ := hadm
      obtain ⟨datagram, hdatagram, hrest⟩ := bind_ok_inv hstep
      obtain ⟨outputs, hsend, rfl⟩ := map_ok_inv hrest
      obtain ⟨hwhole, hkey⟩ := encapsulate_whole hdatagram hdata hlength
      rw [← hkey] at hflight hfind
      have hpending := (h.buffers.none_iff _).mp hfind
      obtain ⟨live', gone', hretired, hlive⟩ := h.retire hflight hpending
      have hsent := hretired.sent hwhole hflight hpending hlive
      let s₁ : DatagramNet β :=
        { s with
          curFragmentId := Function.update s.curFragmentId node (s.curFragmentId node + 1)
          sent := s.sent ++ [datagram] }
      have hnew : Inv P { s₁ with flight := datagram :: s.flight } _ pending _ gone' :=
        ⟨hsent.custody, hsent.buffers, hsent.accounts, hsent.gone_eq⟩
      have hof : (Function.update whole datagram.key datagram datagram.key).PieceOf datagram := by
        rw [Function.update_self]
        exact hwhole.pieceOf
      exact ⟨_, _, _, _, (hnew.forwarded (s := s₁) hof rfl hsend).mono
        fun hP => ⟨hP.1, hP.2.2⟩⟩
  | forward i padding mtu =>
      cases hi : s.flight[i]? with
      | none =>
          rw [DatagramNet.step, receive, hi] at hstep
          cases hstep
      | some packet =>
          have hfront := h.front hi
          obtain ⟨-, hof⟩ := hfront.custody.pieceOf packet List.mem_cons_self
          rw [DatagramNet.step, receive_eq hi hof] at hstep
          obtain ⟨outputs, hsend, rfl⟩ := map_ok_inv hstep
          exact ⟨_, _, _, _, (hfront.forwarded hof.prepareForForwarding rfl hsend).mono
            fun hP => ⟨hP.1, hP.2.2⟩⟩
  | lose i =>
      simp only [DatagramNet.step] at hstep
      split at hstep
      · rename_i hi
        obtain rfl := Except.ok.inj hstep
        have hfront := h.front (List.getElem?_eq_getElem hi)
        exact ⟨_, _, _, _, hfront.custody.lose.mono fun hP => Bool.noConfusion hP.2.1, h.buffers,
          h.accounts, fun hP => h.gone_eq hP.1⟩
      · cases hstep
  | arrive i padding now =>
      cases hi : s.flight[i]? with
      | none =>
          rw [DatagramNet.step, receive, hi] at hstep
          cases hstep
      | some packet =>
          have hfront := h.front hi
          obtain ⟨-, hof⟩ := hfront.custody.pieceOf packet List.mem_cons_self
          rw [DatagramNet.step, receive_eq hi hof] at hstep
          obtain ⟨r, hr, rfl⟩ := map_ok_inv hstep
          obtain ⟨pending', live', hnew⟩ := hfront.arrived hr
          exact ⟨_, _, _, _, hnew.mono fun hP => ⟨hP.1, hP.2.2⟩⟩

end Steps

theorem errors_grow {e : NetEvent β} (hstep : step params s e = .ok s') :
    s.errors <+: s'.errors := by
  have hemit : ∀ (s : DatagramNet β) outputs, s.errors <+: (s.emit outputs).errors := fun _ _ =>
    List.prefix_append _ _
  have hreceive : ∀ {i padding f}, (∀ packet r, f { s with flight := s.flight.eraseIdx i } packet =
      .ok r → s.errors <+: r.errors) → s.receive i padding f = .ok s' → s.errors <+: s'.errors := by
    intro i padding f hf h
    unfold receive at h
    split at h
    · cases h
    · split at h
      · obtain rfl := Except.ok.inj h
        exact hemit _ _
      · exact hf _ _ h
  cases e with
  | send node request mtu =>
      obtain ⟨datagram, -, hrest⟩ := bind_ok_inv hstep
      obtain ⟨outputs, -, rfl⟩ := map_ok_inv hrest
      exact hemit _ _
  | forward i padding mtu =>
      rw [step] at hstep
      refine hreceive (fun packet r hr => ?_) hstep
      obtain ⟨outputs, -, rfl⟩ := map_ok_inv hr
      exact hemit _ _
  | lose i =>
      simp only [DatagramNet.step] at hstep
      split at hstep
      · obtain rfl := Except.ok.inj hstep
        exact List.prefix_rfl
      · cases hstep
  | arrive i padding now =>
      rw [step] at hstep
      refine hreceive (fun packet r hr => ?_) hstep
      obtain ⟨out, -, rfl⟩ := map_ok_inv hr
      exact List.prefix_append _ _

theorem errors_grow_run {es : List (NetEvent β)} (hrun : run (step params) s es = .ok s') :
    s.errors <+: s'.errors := by
  induction es generalizing s with
  | nil =>
      obtain rfl := Except.ok.inj hrun
      exact List.prefix_rfl
  | cons e es ih =>
      obtain ⟨s₁, hs₁, hrest⟩ := run_cons_inv hrun
      exact (errors_grow hs₁).trans (ih hrest)

theorem Inv.run {P : Prop} {whole : Ipv4FragBuf.Key → Ipv4Packet β}
    {pending : Ipv4FragBuf.Key → List (Ipv4Packet β)} {live : List Ipv4FragBuf.Key}
    {gone : List (Ipv4Packet β)} (h : Inv P s whole pending live gone) {es : List (NetEvent β)}
    (halong : Along (DatagramNet.step params) Admissible s es)
    (hrun : Library.run (DatagramNet.step params) s es = .ok s') :
    ∃ whole' pending' live' gone', Inv
      (P ∧ (∀ e ∈ es, e.isLoss = false) ∧ s'.errors = s.errors) s' whole' pending' live' gone' := by
  induction es generalizing s P whole pending live gone with
  | nil =>
      obtain rfl := Except.ok.inj hrun
      exact ⟨_, _, _, _, h.mono And.left⟩
  | cons e es ih =>
      obtain ⟨s₁, hs₁, hrest⟩ := run_cons_inv hrun
      obtain ⟨whole₁, pending₁, live₁, gone₁, h₁⟩ := h.step halong.1 hs₁
      obtain ⟨whole', pending', live', gone', h'⟩ := ih h₁ (halong.2 s₁ hs₁) hrest
      refine ⟨_, _, _, _, h'.mono fun hP => ?_⟩
      obtain ⟨hP, hloss, herrors⟩ := hP
      have hfirst := errors_grow hs₁
      have hlast := errors_grow_run hrest
      have hsame : s₁.errors = s.errors := by
        refine (hfirst.eq_of_length (Nat.le_antisymm hfirst.length_le ?_)).symm
        rw [← herrors]
        exact hlast.length_le
      exact ⟨⟨hP, hloss e List.mem_cons_self, hsame⟩,
        fun e' he' => hloss e' (List.mem_cons_of_mem _ he'), herrors.trans hsame.symm⟩

/-- In every run, whatever is lost, overtaken, padded and broken into fragments again, what
is delivered was sent, and no datagram is delivered more often than it was sent. -/
theorem delivered_subperm {es : List (NetEvent β)}
    (halong : Along (step params) Admissible {} es)
    (hrun : Library.run (step params) {} es = .ok s) :
    (s.delivered.map Ipv4Packet.untimed).Subperm (s.sent.map Ipv4Packet.untimed) := by
  obtain ⟨whole, pending, live, gone, h⟩ := inv_init.run halong hrun
  refine List.Subperm.trans ?_ h.accounts.symm.subperm
  rw [List.append_assoc]
  exact (List.sublist_append_left _ _).subperm

/-- A datagram of which a fragment is lost does not come out. -/
theorem delivered_subperm_lossy :
    ∃ s, Library.run (step ⟨⟨1, 60⟩, 32, 32⟩) ({} : DatagramNet Nat)
        [.send 0 { src := 1, dest := 9, protocolId := 17, data := [1, 2, 3, 4, 5, 6, 7, 8, 9] } 28,
          .lose 0, .send 0 { src := 1, dest := 9, protocolId := 17, data := [5, 6] } 28,
          .arrive 1 [0] 1, .arrive 0 [] 2] = .ok s ∧
      s.delivered.map Ipv4Packet.payload = [[5, 6]] ∧
      (s.delivered.map Ipv4Packet.untimed).Subperm (s.sent.map Ipv4Packet.untimed) := by
  have hend : (Library.run (step ⟨⟨1, 60⟩, 32, 32⟩) ({} : DatagramNet Nat)
      [.send 0 { src := 1, dest := 9, protocolId := 17, data := [1, 2, 3, 4, 5, 6, 7, 8, 9] } 28,
        .lose 0, .send 0 { src := 1, dest := 9, protocolId := 17, data := [5, 6] } 28,
        .arrive 1 [0] 1, .arrive 0 [] 2]).toOption.map
      (fun s => s.delivered.map Ipv4Packet.payload) = some [[5, 6]] := by decide
  obtain ⟨s, hrun, hs⟩ := exists_of_run_map hend
  exact ⟨s, hrun, hs, delivered_subperm (by decide) hrun⟩

/-- In every run that loses nothing and sends no error, once nothing is on its way any more,
every datagram that was sent has been delivered exactly once, and nothing waits. -/
theorem delivered_perm {es : List (NetEvent β)} (halong : Along (step params) Admissible {} es)
    (hrun : Library.run (step params) {} es = .ok s) (hloss : ∀ e ∈ es, e.isLoss = false)
    (herrors : s.errors = []) (hflight : s.flight = []) :
    (s.delivered.map Ipv4Packet.untimed).Perm (s.sent.map Ipv4Packet.untimed) ∧
      s.receiver.fragbuf = ∅ := by
  obtain ⟨whole, pending, live, gone, h⟩ := inv_init.run halong hrun
  have hP := And.intro trivial (And.intro hloss herrors)
  have hlive : live = [] := by
    rw [List.eq_nil_iff_forall_not_mem]
    intro key hkey
    have hcomplete : Ipv4FragBuf.Complete (whole key) (pending key) := by
      intro i hi
      have hkept := h.custody.kept hP key hkey i hi
      rw [carriers, hflight, List.countP_nil, Nat.zero_add] at hkept
      exact (covered_iff_countP fun piece hpiece => h.custody.key_of_pending hpiece).mpr hkept
    refine h.buffers.incomplete key (fun hnil => ?_) hcomplete
    rw [hnil] at hcomplete
    exact Ipv4FragBuf.not_complete_nil (h.custody.wholes key hkey).1 hcomplete
  have haccounts := h.accounts
  rw [hlive, h.gone_eq hP, List.map_nil, List.append_nil, List.append_nil] at haccounts
  refine ⟨haccounts.symm, OrderedMap.ext_find? fun key => ?_⟩
  refine (h.buffers.none_iff key).mpr (List.eq_nil_iff_forall_not_mem.mpr fun piece hpiece => ?_)
  have := (h.custody.waiting key piece hpiece).1
  rw [hlive] at this
  cases this

/-- Two datagrams, the first one in two fragments that overtake each other around the second
one. -/
def twoDatagrams : List (NetEvent Nat) :=
  [.send 0 { src := 1, dest := 9, protocolId := 17, data := [1, 2, 3, 4, 5, 6, 7, 8, 9] } 28,
    .send 1 { src := 2, dest := 9, protocolId := 17, data := [5, 6] } 28,
    .forward 1 [] 28, .forward 1 [0, 0] 28, .arrive 1 [0] 1, .arrive 1 [] 2, .arrive 0 [] 3]

theorem delivered_perm_twoDatagrams :
    ∃ s, Library.run (step ⟨⟨1, 60⟩, 32, 32⟩) ({} : DatagramNet Nat) twoDatagrams = .ok s ∧
      s.delivered.length = 2 ∧
      (s.delivered.map Ipv4Packet.untimed).Perm (s.sent.map Ipv4Packet.untimed) := by
  have hend : (Library.run (step ⟨⟨1, 60⟩, 32, 32⟩) ({} : DatagramNet Nat)
      twoDatagrams).toOption.map (fun s => (s.delivered.length, s.errors, s.flight)) =
        some (2, [], []) := by decide
  obtain ⟨s, hrun, hs⟩ := exists_of_run_map hend
  simp only [Prod.mk.injEq] at hs
  exact ⟨s, hrun, hs.1, (delivered_perm (by decide) hrun (by decide) hs.2.1 hs.2.2).1⟩

end DatagramNet

end MultiTechBus.Network
