import Mathlib.Data.Prod.Lex
import MultiTechBus.Library.Gathering
import MultiTechBus.Network.Fragmentation
import MultiTechBus.Packet.ReassemblyBuffer

/-! # Reassembly of datagrams

`Ipv4FragBuf` keeps a reassembly buffer for each datagram of which fragments have arrived,
and `Ipv4::reassembleAndDeliver` now and then gives up those that have waited too long.
Fragments may arrive in any order, more than once and mixed with those of other datagrams;
a datagram comes out with the fragment that covers the last of it. Times are integers, as
a bound on them may lie before the start.
-/

namespace MultiTechBus.Network

open MultiTechBus.Library
open MultiTechBus.Packet

variable {β : Type*}

namespace Ipv4FragBuf

structure Key where
  id : BitVec 16
  src : Ipv4Address
  dest : Ipv4Address
deriving DecidableEq, Repr

/-- By identification, then source, then destination. -/
instance : LinearOrder Key :=
  LinearOrder.lift' (fun key => toLex (key.id.toNat, toLex (key.src.toNat, key.dest.toNat))) <| by
    intro key key' h
    simp only [toLex_inj, Prod.mk.injEq, ← BitVec.toNat_eq] at h
    obtain ⟨hid, hsrc, hdest⟩ := h
    cases key
    cases key'
    cases hid
    cases hsrc
    cases hdest
    rfl

structure DatagramBuffer (β : Type*) where
  buf : ReassemblyBuffer β := {}
  packet : Option (Ipv4Packet β) := none
  lastupdate : Int := 0

end Ipv4FragBuf

/-- The key that a packet is found by. -/
def Ipv4Packet.key (packet : Ipv4Packet β) : Ipv4FragBuf.Key :=
  ⟨packet.header.identification, packet.header.srcAddress, packet.header.destAddress⟩

abbrev Ipv4FragBuf (β : Type*) := OrderedMap Ipv4FragBuf.Key (Ipv4FragBuf.DatagramBuffer β)

namespace Ipv4FragBuf

def DatagramBuffer.add (curBuf : DatagramBuffer β) (packet : Ipv4Packet β) :
    Except Halt (DatagramBuffer β) :=
  let header := packet.header
  if header.totalLengthField ≤ header.headerLength then
    .error (.cRuntimeError "ASSERT: getTotalLengthField() > getHeaderLength()")
  else
    let bytes := header.totalLengthField - header.headerLength
    (curBuf.buf.replace header.fragmentOffset (peek packet.payload 0 bytes)).map fun buf =>
      { curBuf with
        buf := if header.moreFragments then buf
          else buf.setExpectedLength (header.fragmentOffset + bytes : Nat)
        packet := if header.fragmentOffset = 0 ∨ curBuf.packet.isNone then some packet
          else curBuf.packet }

/-- The datagram in a complete buffer: the header of its packet before the data. -/
def DatagramBuffer.datagram (curBuf : DatagramBuffer β) : Except Halt (Ipv4Packet β) :=
  match curBuf.packet with
  | none => .error .nullPointer
  | some packet =>
      curBuf.buf.getReassembledData.map fun payload =>
        ⟨{ packet.header with
            totalLengthField := packet.header.headerLength + payload.length
            fragmentOffset := 0
            moreFragments := false }, payload⟩

/-- `Ipv4FragBuf::addFragment`. -/
def addFragment (bufs : Ipv4FragBuf β) (packet : Ipv4Packet β) (now : Int) :
    Except Halt (Ipv4FragBuf β × Option (Ipv4Packet β)) :=
  (((bufs.find? packet.key).getD {}).add packet).bind fun curBuf =>
    if curBuf.buf.isComplete then
      curBuf.datagram.map fun datagram => (bufs.erase packet.key, some datagram)
    else .ok (bufs.insert packet.key { curBuf with lastupdate := now }, none)

/-- `Ipv4FragBuf::purgeStaleFragments`. -/
def purgeStaleFragments (bufs : Ipv4FragBuf β) (lastupdate : Int) :
    Ipv4FragBuf β × List (Ipv4Output β) :=
  (bufs.filter fun _ buf => lastupdate ≤ buf.lastupdate,
    (bufs.entries.filter fun entry => entry.2.lastupdate < lastupdate).filterMap fun entry =>
      entry.2.packet.map .icmpTimeExceeded)

end Ipv4FragBuf

/-- The part of `Ipv4` that reassembles. -/
structure Reassembler (β : Type*) where
  fragbuf : Ipv4FragBuf β := ∅
  lastCheckTime : Int := 0

namespace Reassembler

/-- The ticks in a second, and the parameter `fragmentTimeout`. -/
structure Params where
  second : Int
  fragmentTimeoutTime : Int

/-- Timed out fragments are erased; this is checked every 10 seconds at most. -/
def check (params : Params) (s : Reassembler β) (now : Int) : Reassembler β × List (Ipv4Output β) :=
  if s.lastCheckTime + 10 * params.second ≤ now then
    let purged := s.fragbuf.purgeStaleFragments (now - params.fragmentTimeoutTime)
    ({ fragbuf := purged.1, lastCheckTime := now }, purged.2)
  else (s, [])

/-- `Ipv4::reassembleAndDeliver`, with what is given to `reassembleAndDeliverFinish` and
the errors that are sent. -/
def reassembleAndDeliver (params : Params) (s : Reassembler β) (packet : Ipv4Packet β)
    (now : Int) : Except Halt (Reassembler β × Option (Ipv4Packet β) × List (Ipv4Output β)) :=
  if packet.header.fragmentOffset ≠ 0 ∨ packet.header.moreFragments = true then
    let checked := s.check params now
    (checked.1.fragbuf.addFragment packet now).map fun added =>
      ({ checked.1 with fragbuf := added.1 }, added.2, checked.2)
  else .ok (s, some packet, [])

end Reassembler

/-! ## What a buffer holds -/

namespace Ipv4FragBuf

/-- The packet whose header a datagram gets: the newest one with the start of the data, or
the first one before any such. -/
def headPacket (pieces : List (Ipv4Packet β)) : Option (Ipv4Packet β) :=
  pieces.foldl (fun packet piece =>
    if piece.header.fragmentOffset = 0 ∨ packet.isNone then some piece else packet) none

theorem headPacket_concat (pieces : List (Ipv4Packet β)) (piece : Ipv4Packet β) :
    headPacket (pieces ++ [piece]) =
      if piece.header.fragmentOffset = 0 ∨ (headPacket pieces).isNone then some piece
      else headPacket pieces := by
  unfold headPacket
  rw [List.foldl_append, List.foldl_cons, List.foldl_nil]

theorem mem_of_headPacket {pieces : List (Ipv4Packet β)} {packet : Ipv4Packet β}
    (h : headPacket pieces = some packet) : packet ∈ pieces := by
  induction pieces using List.reverseRecOn with
  | nil => cases h
  | append_singleton pieces piece ih =>
      rw [headPacket_concat] at h
      split at h
      · rw [Option.some.inj h]
        exact List.mem_append_right _ List.mem_cons_self
      · exact List.mem_append_left _ (ih h)

theorem exists_headPacket {pieces : List (Ipv4Packet β)} {piece : Ipv4Packet β}
    (h : piece ∈ pieces) : ∃ packet, headPacket pieces = some packet := by
  rw [← Option.isSome_iff_exists]
  induction pieces using List.reverseRecOn with
  | nil => cases h
  | append_singleton pieces last ih =>
      rw [headPacket_concat]
      split
      · rfl
      · rename_i hsome
        rw [not_or, Option.isNone_iff_eq_none] at hsome
        exact Option.isSome_iff_ne_none.mpr hsome.2

/-- A header of a piece before all the data is the header of the datagram, up to the hop
limit. -/
theorem datagram_eq {whole packet : Ipv4Packet β} (hwhole : whole.Whole)
    (hcommon : packet.header.common = whole.header.common) :
    (⟨{ packet.header with
        totalLengthField := packet.header.headerLength + whole.payload.length
        fragmentOffset := 0
        moreFragments := false }, whole.payload⟩ : Ipv4Packet β) =
      { whole with header := { whole.header with timeToLive := packet.header.timeToLive } } := by
  have htotal := hwhole.total
  have hoffset := hwhole.offset
  have hmore := hwhole.more
  unfold Ipv4Header.common at hcommon
  simp only [Ipv4Header.mk.injEq] at hcommon
  unfold Ipv4Packet.byteLength at htotal
  simp only [hcommon, htotal, hoffset, hmore]

/-- The pieces have all of a datagram. -/
def Complete (whole : Ipv4Packet β) (pieces : List (Ipv4Packet β)) : Prop :=
  ∀ i < whole.payload.length, Covered (pieces.map Ipv4Packet.region) i

instance (whole : Ipv4Packet β) (pieces : List (Ipv4Packet β)) :
    Decidable (Complete whole pieces) :=
  inferInstanceAs (Decidable (∀ i < whole.payload.length, Covered (pieces.map Ipv4Packet.region) i))

/-- The header that a datagram has when it is reassembled has the hop limit of the newest
packet with the start of the data. -/
def reassembled (whole : Ipv4Packet β) (pieces : List (Ipv4Packet β)) : Option (Ipv4Packet β) :=
  (headPacket pieces).map fun packet =>
    { whole with header := { whole.header with timeToLive := packet.header.timeToLive } }

/-- A buffer into which some pieces of a datagram went. -/
structure Holds (whole : Ipv4Packet β) (buffer : DatagramBuffer β) (pieces : List (Ipv4Packet β)) :
    Prop where
  pieceOf : ∀ piece ∈ pieces, whole.PieceOf piece
  value : buffer.buf.value = (pieces.map Ipv4Packet.region).foldl overwrite fun _ => none
  expectedLength : buffer.buf.expectedLength =
    if ∃ piece ∈ pieces, piece.header.moreFragments = false then (whole.payload.length : Int) else -1
  packet : buffer.packet = headPacket pieces

variable {whole piece : Ipv4Packet β} {buffer : DatagramBuffer β} {pieces : List (Ipv4Packet β)}

theorem Holds.empty (whole : Ipv4Packet β) : Holds whole {} [] where
  pieceOf := nofun
  value := rfl
  expectedLength := by rw [if_neg (by simp)]
  packet := rfl

theorem lt_of_covered (hpieces : ∀ piece ∈ pieces, whole.PieceOf piece) {i : Nat}
    (h : Covered (pieces.map Ipv4Packet.region) i) : i < whole.payload.length := by
  obtain ⟨r, hr, -, hlt⟩ := h
  obtain ⟨piece, hpiece, rfl⟩ := List.mem_map.mp hr
  exact Nat.lt_of_lt_of_le hlt (hpieces piece hpiece).end_le

/-- Who has the last value has the piece that tells the length. -/
theorem exists_last (hpieces : ∀ piece ∈ pieces, whole.PieceOf piece)
    (h : Covered (pieces.map Ipv4Packet.region) (whole.payload.length - 1))
    (hpos : 0 < whole.payload.length) :
    ∃ piece ∈ pieces, piece.header.moreFragments = false := by
  obtain ⟨r, hr, -, hlt⟩ := h
  obtain ⟨piece, hpiece, rfl⟩ := List.mem_map.mp hr
  refine ⟨piece, hpiece, (hpieces piece hpiece).more.trans (decide_eq_false ?_)⟩
  have hend : (Ipv4Packet.region piece).endOffset =
      piece.header.fragmentOffset + piece.payload.length := rfl
  omega

namespace Holds

theorem value_apply (h : Holds whole buffer pieces) (i : Nat) :
    buffer.buf.value i =
      if Covered (pieces.map Ipv4Packet.region) i then whole.payload[i]? else none := by
  rw [h.value]
  apply foldl_overwrite_of_within (f := fun i => whole.payload[i]?)
  intro r hr
  obtain ⟨piece, hpiece, rfl⟩ := List.mem_map.mp hr
  exact (h.pieceOf piece hpiece).within

theorem isComplete_iff (h : Holds whole buffer pieces) (hpos : 0 < whole.payload.length) :
    buffer.buf.isComplete = true ↔ Complete whole pieces := by
  have hvalue : ∀ i, (buffer.buf.value i).isSome ↔ Covered (pieces.map Ipv4Packet.region) i := by
    intro i
    rw [h.value_apply]
    split
    · rename_i hcovered
      simp [lt_of_covered h.pieceOf hcovered, hcovered]
    · rename_i hcovered
      simp [hcovered]
  by_cases hlast : ∃ piece ∈ pieces, piece.header.moreFragments = false
  · have hlength := h.expectedLength
    rw [if_pos hlast] at hlength
    rw [ReassemblyBuffer.isComplete_iff hpos hlength]
    simp only [hvalue]
    exact ⟨fun hall i hi => (hall i).mpr hi,
      fun hall i => ⟨lt_of_covered h.pieceOf, hall i⟩⟩
  · have hlength := h.expectedLength
    rw [if_neg hlast] at hlength
    rw [ReassemblyBuffer.not_isComplete_of_length (by omega)]
    refine ⟨nofun, fun hall => absurd (exists_last h.pieceOf (hall _ ?_) hpos) hlast⟩
    omega

theorem add (h : Holds whole buffer pieces) (hpiece : whole.PieceOf piece) :
    ∃ buffer', buffer.add piece = .ok buffer' ∧ Holds whole buffer' (pieces ++ [piece]) := by
  have htotal := hpiece.total
  have hpos := hpiece.pos
  unfold Ipv4Packet.byteLength at htotal
  have hbytes : piece.header.totalLengthField - piece.header.headerLength =
      piece.payload.length := by omega
  have hpeek : peek piece.payload 0 piece.payload.length = piece.payload := by
    rw [peek, List.drop_zero, List.take_length]
  obtain ⟨buf, hbuf, hvalue, hlength⟩ :=
    buffer.buf.replace_ok piece.header.fragmentOffset hpiece.nonempty
  unfold DatagramBuffer.add
  rw [if_neg (by omega)]
  simp only [hbytes, hpeek, hbuf]
  refine ⟨_, rfl, ?_, ?_, ?_, ?_⟩
  · intro q hq
    rcases List.mem_append.mp hq with hold | hnew
    · exact h.pieceOf q hold
    · rw [List.mem_singleton.mp hnew]
      exact hpiece
  · rw [List.map_append, List.foldl_append, ← h.value]
    change (if _ then buf else buf.setExpectedLength _).value = _
    split <;> exact hvalue
  · change (if _ then buf else buf.setExpectedLength _).expectedLength = _
    split
    · rename_i hmore
      rw [hlength, h.expectedLength]
      simp [hmore]
    · rename_i hlast
      rw [Bool.not_eq_true] at hlast
      rw [if_pos ⟨piece, List.mem_append_right _ List.mem_cons_self, hlast⟩]
      change ((_ : Nat) : Int) = _
      rw [hpiece.length_of_last hlast]
  · rw [headPacket_concat, ← h.packet]

theorem datagram (h : Holds whole buffer pieces) (hwhole : whole.Whole)
    (hcomplete : Complete whole pieces) :
    ∃ packet, headPacket pieces = some packet ∧
      buffer.datagram = .ok { whole with
        header := { whole.header with timeToLive := packet.header.timeToLive } } := by
  have hpos := List.length_pos_iff.mpr hwhole.nonempty
  obtain ⟨last, hmem, hlast⟩ := exists_last h.pieceOf (hcomplete _ (by omega)) hpos
  have hlength := h.expectedLength
  rw [if_pos ⟨last, hmem, hlast⟩] at hlength
  have hdata := ReassemblyBuffer.getReassembledData_eq ((h.isComplete_iff hpos).mpr hcomplete)
    hlength fun i v hv => by
      rw [h.value_apply] at hv
      split at hv
      · exact hv
      · cases hv
  obtain ⟨packet, hpacket⟩ := exists_headPacket hmem
  refine ⟨packet, hpacket, ?_⟩
  unfold DatagramBuffer.datagram
  rw [h.packet, hpacket, hdata]
  have hcommon := (h.pieceOf packet (mem_of_headPacket hpacket)).common
  exact congrArg Except.ok (datagram_eq hwhole hcommon)

end Holds

theorem not_complete_nil {whole : Ipv4Packet β} (hwhole : whole.Whole) : ¬ Complete whole [] := by
  intro h
  obtain ⟨r, hr, -⟩ := h 0 (List.length_pos_iff.mpr hwhole.nonempty)
  cases hr

/-! ## One fragment after the other -/

/-- How the buffers gather the pieces of datagrams. -/
abbrev gathering (whole : Key → Ipv4Packet β) :
    Gathering Key (DatagramBuffer β) (Ipv4Packet β) (Ipv4Packet β) where
  key := Ipv4Packet.key
  initial := {}
  Holds := fun key => Holds (whole key)
  Complete := fun key => Complete (whole key)
  result := fun key => reassembled (whole key)

instance (whole : Key → Ipv4Packet β) (key : Key) (pieces : List (Ipv4Packet β)) :
    Decidable ((gathering whole).Complete key pieces) :=
  inferInstanceAs (Decidable (Complete (whole key) pieces))

/-- The buffers hold the pieces that are pending. -/
abbrev Pending (whole : Key → Ipv4Packet β) (bufs : Ipv4FragBuf β)
    (pending : Key → List (Ipv4Packet β)) : Prop :=
  (gathering whole).Pending bufs pending

theorem Pending.empty (whole : Key → Ipv4Packet β) : Pending whole ∅ fun _ => [] :=
  Gathering.Pending.empty fun key => Holds.empty (whole key)

/-- A fragment that leaves the datagram incomplete stays; the one that completes it makes
it come out. -/
theorem Pending.addFragment {whole : Key → Ipv4Packet β} {bufs : Ipv4FragBuf β}
    {pending : Key → List (Ipv4Packet β)} {packet : Ipv4Packet β} (h : Pending whole bufs pending)
    (hwhole : (whole packet.key).Whole) (hpiece : (whole packet.key).PieceOf packet) (now : Int) :
    ∃ bufs' output, bufs.addFragment packet now = .ok (bufs', output) ∧
      (gathering whole).Gathers pending packet bufs' output := by
  have hpos := List.length_pos_iff.mpr hwhole.nonempty
  obtain ⟨buffer, hadd, hholds⟩ := (h.holds packet.key).add hpiece
  have hiff := hholds.isComplete_iff hpos
  change ((bufs.find? packet.key).getD {}).add packet = _ at hadd
  by_cases hcomplete : Complete (whole packet.key) (pending packet.key ++ [packet])
  · obtain ⟨head, hhead, hdatagram⟩ := hholds.datagram hwhole hcomplete
    refine ⟨_, _, ?_, h.release (fun key => Holds.empty (whole key)) hcomplete
      (congrArg (Option.map _) hhead)⟩
    unfold Ipv4FragBuf.addFragment
    simp only [hadd, Except.bind]
    rw [if_pos (hiff.mpr hcomplete), hdatagram]
    rfl
  · have hkept : Holds (whole packet.key) { buffer with lastupdate := now }
        (pending packet.key ++ [packet]) :=
      ⟨hholds.pieceOf, hholds.value, hholds.expectedLength, hholds.packet⟩
    refine ⟨_, _, ?_, h.keep hkept hcomplete⟩
    unfold Ipv4FragBuf.addFragment
    simp only [hadd, Except.bind]
    rw [if_neg fun hc => hcomplete (hiff.mp hc)]

/-- Fragments may arrive in any order, any number of times and mixed with those of other
datagrams, if a key stands for one datagram throughout: the buffers never fail, and what
comes out is what reassembly is for. -/
theorem arrivals_refine (whole : Key → Ipv4Packet β) {arrivals : List (Ipv4Packet β × Int)}
    (hwhole : ∀ arrival ∈ arrivals, (whole arrival.1.key).Whole)
    (hpiece : ∀ arrival ∈ arrivals, (whole arrival.1.key).PieceOf arrival.1) :
    ∃ bufs, run (Gathering.arrive fun (bufs : Ipv4FragBuf β) arrival =>
        bufs.addFragment arrival.1 arrival.2) (∅, []) arrivals =
      .ok (bufs, (gathering whole).comesOut (fun _ => []) (arrivals.map Prod.fst)) :=
  Gathering.run_arrive (fun arrival harrival _ _ h =>
    Pending.addFragment h (hwhole arrival harrival) (hpiece arrival harrival) arrival.2)
    (Pending.empty whole) []

/-- Four bytes in two fragments; the last comes first, and again after the datagram. -/
theorem arrivals_refine_twice :
    ∃ bufs, run (Gathering.arrive fun (bufs : Ipv4FragBuf Nat) arrival =>
        bufs.addFragment arrival.1 arrival.2) (∅, [])
        [(⟨⟨20, 0, 22, 7, false, false, 2, 3, 17, 1, 2⟩, [3, 4]⟩, 0),
          (⟨⟨20, 0, 22, 7, true, false, 0, 5, 17, 1, 2⟩, [1, 2]⟩, 1),
          (⟨⟨20, 0, 22, 7, false, false, 2, 3, 17, 1, 2⟩, [3, 4]⟩, 2)] =
      .ok (bufs, [⟨⟨20, 0, 24, 7, false, false, 0, 5, 17, 1, 2⟩, [1, 2, 3, 4]⟩]) :=
  arrivals_refine (fun _ => ⟨⟨20, 0, 24, 7, false, false, 0, 9, 17, 1, 2⟩, [1, 2, 3, 4]⟩)
    (by decide) (by decide)

namespace Pending

variable {whole : Key → Ipv4Packet β} {bufs bufs' : Ipv4FragBuf β}
  {pending : Key → List (Ipv4Packet β)} {packet : Ipv4Packet β}

theorem find?_purge (bufs : Ipv4FragBuf β) (lastupdate : Int) (key : Key) :
    (bufs.purgeStaleFragments lastupdate).1.find? key =
      (bufs.find? key).filter fun buf => lastupdate ≤ buf.lastupdate :=
  OrderedMap.find?_filter _

/-- An error is sent for every buffer that is given up. -/
theorem find?_purge_of_silent (h : Pending whole bufs pending) {lastupdate : Int}
    (hsilent : (bufs.purgeStaleFragments lastupdate).2 = []) (key : Key) :
    (bufs.purgeStaleFragments lastupdate).1.find? key = bufs.find? key := by
  rw [find?_purge]
  cases hfind : bufs.find? key with
  | none => rfl
  | some buf =>
      rw [Option.filter_some, if_pos]
      by_contra hstale
      have hpacket : buf.packet.isSome := by
        have hholds := h.holds key
        rw [hfind] at hholds
        have hne : pending key ≠ [] := fun hnil => by
          rw [← h.none_iff, hfind] at hnil
          cases hnil
        obtain ⟨piece, hmem⟩ := List.exists_mem_of_ne_nil _ hne
        obtain ⟨packet, hhead⟩ := exists_headPacket hmem
        exact Option.isSome_iff_exists.mpr ⟨packet, hholds.packet.trans hhead⟩
      obtain ⟨packet, hpacket⟩ := Option.isSome_iff_exists.mp hpacket
      have hnone := List.filterMap_eq_nil_iff.mp hsilent (key, buf) (List.mem_filter.mpr
        ⟨OrderedMap.find?_eq_some_iff.mp hfind, by simpa using hstale⟩)
      rw [hpacket] at hnone
      cases hnone

/-- A purge forgets all the pieces of a datagram or none, and tells if it forgets any. -/
theorem purge (h : Pending whole bufs pending) (lastupdate : Int) :
    ∃ pending', Pending whole (bufs.purgeStaleFragments lastupdate).1 pending' ∧
      (∀ key, pending' key = pending key ∨ pending' key = []) ∧
      ((bufs.purgeStaleFragments lastupdate).2 = [] → pending' = pending) := by
  refine ⟨fun key => if ((bufs.purgeStaleFragments lastupdate).1.find? key).isNone then []
    else pending key, ⟨fun key => ?_, fun key => ?_, fun key => ?_⟩, fun key => ?_, fun hout => ?_⟩
  · cases hfind : (bufs.purgeStaleFragments lastupdate).1.find? key with
    | none => exact .empty _
    | some buf =>
        have hbuf := (find?_purge bufs lastupdate key).symm.trans hfind
        have hholds := h.holds key
        rw [(Option.filter_eq_some_iff.mp hbuf).1] at hholds
        exact hholds
  · cases hfind : (bufs.purgeStaleFragments lastupdate).1.find? key with
    | none => exact ⟨fun _ => rfl, fun _ => rfl⟩
    | some buf =>
        have hbuf := (find?_purge bufs lastupdate key).symm.trans hfind
        refine ⟨nofun, fun hnil => ?_⟩
        have hnone := (h.none_iff key).mpr hnil
        rw [hnone] at hbuf
        cases hbuf
  · split
    · exact fun hne => absurd rfl hne
    · exact h.incomplete key
  · dsimp only
    split
    · exact .inr rfl
    · exact .inl rfl
  · funext key
    rw [h.find?_purge_of_silent hout]
    cases hfind : bufs.find? key with
    | none => exact ((h.none_iff key).mp hfind).symm
    | some buf => rfl

end Pending

end Ipv4FragBuf

namespace Reassembler

open Ipv4FragBuf

variable {whole : Key → Ipv4Packet β} {s : Reassembler β} {pending : Key → List (Ipv4Packet β)}
  {packet : Ipv4Packet β} {params : Params} {now : Int}

theorem check_spec (h : Pending whole s.fragbuf pending) (params : Params) (now : Int) :
    ∃ pending', Pending whole (s.check params now).1.fragbuf pending' ∧
      (∀ key, pending' key = pending key ∨ pending' key = []) ∧
      ((s.check params now).2 = [] → pending' = pending) := by
  unfold check
  split
  · exact h.purge _
  · exact ⟨pending, h, fun _ => .inl rfl, fun _ => rfl⟩

/-- A packet is delivered at once if it is no fragment. A fragment is delivered with the
rest of its datagram if nothing of that is missing any more, and else waits. -/
theorem reassembleAndDeliver_cases (h : Pending whole s.fragbuf pending)
    (hwhole : (whole packet.key).Whole) (hpiece : (whole packet.key).PieceOf packet)
    {r : Reassembler β × Option (Ipv4Packet β) × List (Ipv4Output β)}
    (hr : s.reassembleAndDeliver params packet now = .ok r) :
    (packet.header.fragmentOffset = 0 ∧ packet.header.moreFragments = false ∧
      r = (s, some packet, [])) ∨
    ∃ pending', (∀ key, pending' key = pending key ∨ pending' key = []) ∧
      (r.2.2 = [] → pending' = pending) ∧
      (gathering whole).Gathers pending' packet r.1.fragbuf r.2.1 := by
  unfold reassembleAndDeliver at hr
  split at hr
  · obtain ⟨pending', hpending', heach, hsilent⟩ := check_spec h params now
    obtain ⟨bufs', output, hadd, hgathers⟩ := hpending'.addFragment hwhole hpiece now
    dsimp only at hr
    rw [hadd] at hr
    obtain rfl := Except.ok.inj hr
    exact .inr ⟨pending', heach, hsilent, hgathers⟩
  · rename_i hfragment
    rw [not_or, not_not, Bool.not_eq_true] at hfragment
    exact .inl ⟨hfragment.1, hfragment.2, (Except.ok.inj hr).symm⟩

end Reassembler

end MultiTechBus.Network
