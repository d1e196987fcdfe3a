import Mathlib.Data.List.Infix
import MultiTechBus.Ieee80211.Mac.Originator

/-! # Packets in progress

At any time the packets that are no longer in progress, followed by those that are, are the
packets of the frames taken from the queue, one frame after the other. At most two frames
are in progress at a time, so no two packets in progress have the same numbers, and it is
the first of them that the frame sequence is about.
-/

namespace MultiTechBus.Ieee80211

open MultiTechBus.Library

variable {β : Type*}

/-! ## The packets of frames -/

namespace Packet

/-- The packet as it is sent for the first time. -/
def unretried (packet : Packet β) : Packet β :=
  { packet with frame := { packet.frame with retry := false } }

/-- Packets are in order of their frames and then of their fragments. -/
def place (packet : Packet β) : Nat := MAX_NUM_FRAGMENTS * packet.msdu + packet.frame.fragmentNumber

@[simp] theorem place_unretried (packet : Packet β) : packet.unretried.place = packet.place := rfl

@[simp] theorem msdu_unretried (packet : Packet β) : packet.unretried.msdu = packet.msdu := rfl

end Packet

structure Extracted (whole : Mpdu β) (fragmentSizes : List Nat) : Prop where
  broken : Broken whole fragmentSizes
  retry : whole.retry = false

def packetsFrom : Nat → List (Mpdu β × List Nat) → List (Packet β)
  | _, [] => []
  | msdu, (whole, fragmentSizes) :: rest =>
      (fragments whole fragmentSizes).map (Packet.mk msdu) ++ packetsFrom (msdu + 1) rest

/-- The packets of the frames, in order. -/
def packets (extracted : List (Mpdu β × List Nat)) : List (Packet β) := packetsFrom 0 extracted

section Packets

variable {extracted extracted' : List (Mpdu β × List Nat)} {packet : Packet β} {whole : Mpdu β}
  {fragmentSizes : List Nat}

theorem packetsFrom_append (msdu : Nat) (extracted extracted' : List (Mpdu β × List Nat)) :
    packetsFrom msdu (extracted ++ extracted') =
      packetsFrom msdu extracted ++ packetsFrom (msdu + extracted.length) extracted' := by
  induction extracted generalizing msdu with
  | nil => rfl
  | cons frame extracted ih =>
      rw [List.cons_append, packetsFrom, ih, packetsFrom, List.append_assoc, List.length_cons,
        Nat.add_right_comm, Nat.add_assoc]

theorem packets_concat (extracted : List (Mpdu β × List Nat)) (whole : Mpdu β)
    (fragmentSizes : List Nat) :
    packets (extracted ++ [(whole, fragmentSizes)]) =
      packets extracted ++
        (fragments whole fragmentSizes).map (Packet.mk extracted.length) := by
  rw [packets, packetsFrom_append, Nat.zero_add, packetsFrom, packetsFrom, List.append_nil]
  rfl

theorem mem_packetsFrom {msdu : Nat} (h : packet ∈ packetsFrom msdu extracted) :
    msdu ≤ packet.msdu ∧ ∃ whole fragmentSizes,
      extracted[packet.msdu - msdu]? = some (whole, fragmentSizes) ∧
        packet.frame ∈ fragments whole fragmentSizes := by
  induction extracted generalizing msdu with
  | nil => cases h
  | cons frame extracted ih =>
      rcases List.mem_append.mp h with hfirst | hrest
      · obtain ⟨fragment, hfragment, rfl⟩ := List.mem_map.mp hfirst
        exact ⟨Nat.le_refl _, _, _, by rw [Nat.sub_self]; rfl, hfragment⟩
      · obtain ⟨hle, whole, fragmentSizes, hget, hmem⟩ := ih hrest
        refine ⟨by omega, whole, fragmentSizes, ?_, hmem⟩
        rw [show packet.msdu - msdu = packet.msdu - (msdu + 1) + 1 by omega,
          List.getElem?_cons_succ]
        exact hget

theorem mem_packets (h : packet ∈ packets extracted) :
    ∃ whole fragmentSizes, extracted[packet.msdu]? = some (whole, fragmentSizes) ∧
      packet.frame ∈ fragments whole fragmentSizes := by
  obtain ⟨-, hget⟩ := mem_packetsFrom h
  exact hget

theorem fragmentNumber_getElem (hbroken : Broken whole fragmentSizes) {k : Nat} {fragment : Mpdu β}
    (h : (fragments whole fragmentSizes)[k]? = some fragment) : fragment.fragmentNumber = k := by
  unfold fragments at h
  split at h
  · obtain ⟨hlt, rfl⟩ := List.getElem?_eq_some_iff.mp h
    rw [List.getElem_singleton, hbroken.number]
    exact (Nat.lt_one_iff.mp hlt).symm
  · rw [fragmentFrame, getElem?_fragmentFrameFrom, Option.map_eq_some_iff] at h
    obtain ⟨size, -, rfl⟩ := h
    exact Nat.zero_add k

theorem length_fragments_le (hbroken : Broken whole fragmentSizes) :
    (fragments whole fragmentSizes).length ≤ MAX_NUM_FRAGMENTS := by
  rcases eq_or_ne fragmentSizes [] with rfl | hne
  · exact Nat.le_of_ble_eq_true rfl
  · rw [length_fragments_of_ne hne]
    exact hbroken.length_le

theorem fragmentOf_of_mem (hframe : Extracted whole fragmentSizes) {fragment : Mpdu β}
    (h : fragment ∈ fragments whole fragmentSizes) : FragmentOf whole fragmentSizes fragment ∧
      fragment.retry = false := by
  obtain ⟨k, hk⟩ := List.mem_iff_getElem?.mp h
  have hnumber := fragmentNumber_getElem hframe.broken hk
  have hretry : fragment.retry = whole.retry := by
    unfold fragments at hk
    split at hk
    · obtain ⟨hlt, rfl⟩ := List.getElem?_eq_some_iff.mp hk
      rw [List.getElem_singleton]
    · rw [fragmentFrame, getElem?_fragmentFrameFrom, Option.map_eq_some_iff] at hk
      obtain ⟨size, -, rfl⟩ := hk
      rfl
  subst hnumber
  refine ⟨?_, hretry.trans hframe.retry⟩
  rw [FragmentOf, ← hretry]
  exact hk

theorem FragmentOf.fragmentNumber_lt {fragment : Mpdu β} (hbroken : Broken whole fragmentSizes)
    (h : FragmentOf whole fragmentSizes fragment) :
    fragment.fragmentNumber < (fragments whole fragmentSizes).length ∧
      fragment.fragmentNumber < MAX_NUM_FRAGMENTS := by
  obtain ⟨hlt, -⟩ := List.getElem?_eq_some_iff.mp h
  exact ⟨hlt, Nat.lt_of_lt_of_le hlt (length_fragments_le hbroken)⟩

theorem packetsFrom_sorted {msdu : Nat}
    (hframes : ∀ frame ∈ extracted, Extracted frame.1 frame.2) :
    (packetsFrom msdu extracted).Pairwise fun packet packet' => packet.place < packet'.place := by
  induction extracted generalizing msdu with
  | nil => exact .nil
  | cons frame extracted ih =>
      have hframe := hframes frame List.mem_cons_self
      refine List.pairwise_append.mpr
        ⟨?_, ih fun frame h => hframes frame (List.mem_cons_of_mem _ h), ?_⟩
      · rw [List.pairwise_map, List.pairwise_iff_getElem]
        intro i j hi hj hij
        have hfirst := fragmentNumber_getElem hframe.broken (List.getElem?_eq_getElem hi)
        have hsecond := fragmentNumber_getElem hframe.broken (List.getElem?_eq_getElem hj)
        unfold Packet.place
        dsimp only
        omega
      · intro packet hpacket packet' hpacket'
        obtain ⟨fragment, hfragment, rfl⟩ := List.mem_map.mp hpacket
        obtain ⟨hle, -⟩ := mem_packetsFrom hpacket'
        have hlt := ((fragmentOf_of_mem hframe hfragment).1.fragmentNumber_lt hframe.broken).2
        unfold Packet.place
        unfold MAX_NUM_FRAGMENTS at hlt ⊢
        dsimp only
        omega

end Packets

namespace Originator

/-- What is known of the packets in progress, whatever the frame sequence does. -/
structure Inv (o : Originator β) : Prop where
  frames : ∀ frame ∈ o.extracted, Extracted frame.1 frame.2
  packets : o.finished.map (fun f => f.1.unretried) ++ o.inProgressFrames.map Packet.unretried =
    packets o.extracted
  recent : ∀ packet ∈ o.inProgressFrames, o.extracted.length ≤ packet.msdu + 2
  numbers : ∀ m frame frame', o.extracted[m]? = some frame → o.extracted[m + 1]? = some frame' →
    frame.1.sequenceNumber ≠ frame'.1.sequenceNumber
  last : ∀ frame ∈ o.extracted.getLast?, frame.1.sequenceNumber = o.lastSeqNum
  queue : ∀ frame ∈ o.pendingQueue,
    frame.fragmentNumber = 0 ∧ frame.moreFragments = false ∧ frame.retry = false

def Ready (o : Originator β) : Prop :=
  ∀ packet ∈ o.inProgressFrames, o.isEligibleToTransmit packet.frame = true

namespace Inv

variable {o o' : Originator β} {packet packet' : Packet β}

theorem initial (cw : Nat) : Inv ({ cw := cw } : Originator β) where
  frames := nofun
  packets := rfl
  recent := nofun
  numbers := nofun
  last := nofun
  queue := nofun

/-- A packet in progress carries a frame that was taken from the queue, or a fragment. -/
theorem carries (h : o.Inv) (hmem : packet ∈ o.inProgressFrames) :
    ∃ whole fragmentSizes, o.extracted[packet.msdu]? = some (whole, fragmentSizes) ∧
      Extracted whole fragmentSizes ∧ FragmentOf whole fragmentSizes packet.frame := by
  have hpacket : packet.unretried ∈ Ieee80211.packets o.extracted := by
    rw [← h.packets]
    exact List.mem_append_right _ (List.mem_map_of_mem hmem)
  obtain ⟨whole, fragmentSizes, hget, hfragment⟩ := mem_packets hpacket
  have hframe := h.frames _ (List.mem_of_getElem? hget)
  refine ⟨whole, fragmentSizes, hget, hframe, ?_⟩
  have hof := (fragmentOf_of_mem hframe hfragment).1
  exact hof

theorem sorted (h : o.Inv) :
    o.inProgressFrames.Pairwise fun packet packet' => packet.place < packet'.place := by
  have hall : (Ieee80211.packets o.extracted).Pairwise _ := packetsFrom_sorted h.frames
  rw [← h.packets] at hall
  have hprogress := (List.pairwise_append.mp hall).2.1
  rw [List.pairwise_map] at hprogress
  exact hprogress

theorem sequenceControl_ne (h : o.Inv) (hpacket : packet ∈ o.inProgressFrames)
    (hpacket' : packet' ∈ o.inProgressFrames) (hlt : packet.place < packet'.place) :
    packet.frame.sequenceControl ≠ packet'.frame.sequenceControl := by
  intro heq
  unfold Mpdu.sequenceControl at heq
  rw [SequenceControlField.mk.injEq] at heq
  obtain ⟨whole, fragmentSizes, hget, hframe, hof⟩ := h.carries hpacket
  obtain ⟨whole', fragmentSizes', hget', hframe', hof'⟩ := h.carries hpacket'
  obtain ⟨hlt', -⟩ := List.getElem?_eq_some_iff.mp hget'
  have hrecent := h.recent packet hpacket
  unfold Packet.place at hlt
  unfold MAX_NUM_FRAGMENTS at hlt
  rw [show packet'.msdu = packet.msdu + 1 by omega] at hget'
  refine h.numbers _ _ _ hget hget' ?_
  have hnumber := congrArg Mpdu.sequenceNumber hof.common
  have hnumber' := congrArg Mpdu.sequenceNumber hof'.common
  exact hnumber.symm.trans (heq.1.trans hnumber')

/-- The only packet in progress belongs to the frame that was taken last. -/
theorem msdu_of_singleton (h : o.Inv) (hsingle : o.inProgressFrames = [packet]) :
    packet.msdu + 1 = o.extracted.length := by
  have hpackets := h.packets
  rw [hsingle, List.map_singleton] at hpackets
  rcases List.eq_nil_or_concat' o.extracted with hnil | ⟨extracted, ⟨whole, fragmentSizes⟩, hconcat⟩
  · rw [hnil] at hpackets
    exact absurd hpackets (List.append_ne_nil_of_right_ne_nil _ (List.cons_ne_nil _ _))
  · rw [hconcat, packets_concat] at hpackets
    have hlast := congrArg List.getLast? hpackets
    rw [List.getLast?_append_of_ne_nil _ (List.cons_ne_nil _ _), List.getLast?_singleton] at hlast
    have hne : (fragments whole fragmentSizes).map (Packet.mk extracted.length) ≠ [] := by
      intro hempty
      have hframe := h.frames (whole, fragmentSizes) (by rw [hconcat]; simp)
      have hpos := length_fragments_pos hframe.broken
      rw [List.map_eq_nil_iff.mp hempty] at hpos
      exact Nat.lt_irrefl 0 hpos
    rw [List.getLast?_append_of_ne_nil _ hne] at hlast
    obtain ⟨fragment, -, hfragment⟩ := List.mem_map.mp (List.mem_of_getLast? hlast.symm)
    rw [hconcat, List.length_append, List.length_singleton, ← Packet.msdu_unretried, ← hfragment]

end Inv

/-! ## Getting packets in progress -/

/-- More frames are taken from the queue, and nothing else happens. -/
structure Extends (o o' : Originator β) : Prop where
  extracted : o.extracted <+: o'.extracted
  inProgress : ∃ packets, o'.inProgressFrames = o.inProgressFrames ++ packets ∧
    ∀ packet ∈ packets, o.extracted.length ≤ packet.msdu
  frameSequence : o'.frameSequence = o.frameSequence
  finished : o'.finished = o.finished
  transmitted : o'.transmitted = o.transmitted
  shortRetryCounter : o'.shortRetryCounter = o.shortRetryCounter
  longRetryCounter : o'.longRetryCounter = o.longRetryCounter

namespace Extends

variable {o o' o'' : Originator β}

theorem refl (o : Originator β) : Extends o o :=
  ⟨List.prefix_rfl, ⟨[], (List.append_nil _).symm, nofun⟩, rfl, rfl, rfl, rfl, rfl⟩

theorem trans (h : Extends o o') (h' : Extends o' o'') : Extends o o'' := by
  obtain ⟨packets, hpackets, hnew⟩ := h.inProgress
  obtain ⟨packets', hpackets', hnew'⟩ := h'.inProgress
  refine ⟨h.extracted.trans h'.extracted, ⟨packets ++ packets', ?_, fun packet hmem => ?_⟩,
    h'.frameSequence.trans h.frameSequence, h'.finished.trans h.finished,
    h'.transmitted.trans h.transmitted, h'.shortRetryCounter.trans h.shortRetryCounter,
    h'.longRetryCounter.trans h.longRetryCounter⟩
  · rw [hpackets', hpackets, List.append_assoc]
  · rcases List.mem_append.mp hmem with hold | hlater
    · exact hnew packet hold
    · exact h.extracted.length_le.trans (hnew' packet hlater)

end Extends

section Extract

variable {p : DcfParams} {o o' : Originator β}

/-- The packets get in progress behind the others, and none has been transmitted. -/
theorem insertFrames_spec {packets : List (Packet β)} (h : o.insertFrames packets = .ok o') :
    ∃ ackStatuses : OrderedMap SequenceControlField AckHandler.Status,
      o' = { o with
        ackStatuses := ackStatuses
        inProgressFrames := o.inProgressFrames ++ packets } ∧
      ∀ id, ackStatuses.find? id =
        if ∃ packet ∈ packets, packet.frame.sequenceControl = id then
          some AckHandler.Status.FRAME_NOT_YET_TRANSMITTED
        else o.ackStatuses.find? id := by
  induction packets generalizing o with
  | nil =>
      obtain rfl := Except.ok.inj h
      exact ⟨o.ackStatuses, by rw [List.append_nil], fun id => by simp⟩
  | cons packet packets ih =>
      obtain ⟨o₁, hfirst, hrest⟩ := bind_ok_inv h
      unfold frameGotInProgress at hfirst
      split at hfirst
      · cases hfirst
      · obtain rfl := Except.ok.inj hfirst
        obtain ⟨ackStatuses, rfl, hfind⟩ := ih hrest
        refine ⟨ackStatuses, ?_, fun id => ?_⟩
        · simp [setAckStatus]
        · rw [hfind]
          simp only [setAckStatus, OrderedMap.find?_insert, List.mem_cons, exists_eq_or_imp]
          by_cases hpacket : packet.frame.sequenceControl = id
          · simp [hpacket]
          · simp [hpacket, Ne.symm hpacket]

/-- The next sequence number is one or two greater. -/
theorem assignSequenceNumber_spec {frame frame' : Mpdu β}
    (h : o.assignSequenceNumber frame = .ok (o', frame')) :
    ∃ lastSeqNum lastSentSeqNums,
      o' = { o with lastSeqNum := lastSeqNum, lastSentSeqNums := lastSentSeqNums } ∧
      frame' = { frame with sequenceNumber := lastSeqNum } ∧
      (lastSeqNum = o.lastSeqNum + 1 ∨ lastSeqNum = o.lastSeqNum + 1 + 1) := by
  unfold assignSequenceNumber at h
  split at h
  · cases h
  · obtain ⟨rfl, rfl⟩ := Prod.mk.inj (Except.ok.inj h)
    refine ⟨_, _, rfl, rfl, ?_⟩
    split
    · exact .inr rfl
    · exact .inl rfl

/-- What taking a frame from the queue comes to. -/
theorem extract_spec (h : o.extract p = .ok o') :
    (o.pendingQueue = [] ∧ o' = o) ∨
    ∃ frame rest lastSeqNum lastSentSeqNums fragmentSizes,
      ∃ ackStatuses : OrderedMap SequenceControlField AckHandler.Status,
      o.pendingQueue = frame :: rest ∧
      (lastSeqNum = o.lastSeqNum + 1 ∨ lastSeqNum = o.lastSeqNum + 1 + 1) ∧
      computeFragmentSizes p.fragmentationThreshold
        { frame with sequenceNumber := lastSeqNum } = .ok fragmentSizes ∧
      o' = { o with
        pendingQueue := rest
        lastSeqNum := lastSeqNum
        lastSentSeqNums := lastSentSeqNums
        ackStatuses := ackStatuses
        extracted := o.extracted ++ [({ frame with sequenceNumber := lastSeqNum }, fragmentSizes)]
        inProgressFrames := o.inProgressFrames ++
          (fragments { frame with sequenceNumber := lastSeqNum } fragmentSizes).map
            (Packet.mk o.extracted.length) } ∧
      ∀ id, ackStatuses.find? id =
        if ∃ fragment ∈ fragments { frame with sequenceNumber := lastSeqNum } fragmentSizes,
          fragment.sequenceControl = id then some AckHandler.Status.FRAME_NOT_YET_TRANSMITTED
        else o.ackStatuses.find? id := by
  obtain ⟨⟨o₁, packets⟩, hextract, hinsert⟩ := bind_ok_inv h
  unfold extractFramesToTransmit at hextract
  split at hextract
  · rename_i hqueue
    obtain ⟨rfl, rfl⟩ := Prod.mk.inj (Except.ok.inj hextract)
    exact .inl ⟨hqueue, (Except.ok.inj hinsert).symm⟩
  · rename_i frame rest hqueue
    obtain ⟨⟨o₂, frame'⟩, hassign, hsizes⟩ := bind_ok_inv hextract
    obtain ⟨lastSeqNum, lastSentSeqNums, rfl, rfl, hnumber⟩ := assignSequenceNumber_spec hassign
    obtain ⟨fragmentSizes, hcompute, hpair⟩ := map_ok_inv hsizes
    obtain ⟨rfl, rfl⟩ := Prod.mk.inj hpair
    obtain ⟨ackStatuses, rfl, hfind⟩ := insertFrames_spec hinsert
    refine .inr ⟨frame, rest, lastSeqNum, lastSentSeqNums, fragmentSizes, ackStatuses, hqueue,
      hnumber, hcompute, rfl, fun id => ?_⟩
    rw [hfind]
    simp

theorem sequenceNumber_of_mem {whole fragment : Mpdu β} {fragmentSizes : List Nat}
    (h : Extracted whole fragmentSizes) (hmem : fragment ∈ fragments whole fragmentSizes) :
    fragment.sequenceNumber = whole.sequenceNumber := by
  rw [(fragmentOf_of_mem h hmem).1.common]

theorem Inv.last_ne (h : o.Inv) {lastSeqNum : BitVec 12}
    (hnumber : lastSeqNum = o.lastSeqNum + 1 ∨ lastSeqNum = o.lastSeqNum + 1 + 1)
    {frame : Mpdu β × List Nat} (hlast : o.extracted.getLast? = some frame) :
    frame.1.sequenceNumber ≠ lastSeqNum := by
  rw [h.last frame hlast]
  rcases hnumber with rfl | rfl
  · bv_omega
  · bv_omega

/-- The packets of the next frame get in progress, when at most the last packet of the
previous frame is. -/
theorem Inv.extract (h : o.Inv) (hready : o.Ready) (hle : o.inProgressFrames.length ≤ 1)
    (hextract : o.extract p = .ok o') : o'.Inv ∧ o'.Ready ∧ Extends o o' := by
  rcases extract_spec hextract with ⟨-, rfl⟩ | ⟨frame, rest, lastSeqNum, lastSentSeqNums,
    fragmentSizes, ackStatuses, hqueue, hnumber, hsizes, rfl, hfind⟩
  · exact ⟨h, hready, .refl _⟩
  · generalize hwhole : ({ frame with sequenceNumber := lastSeqNum } : Mpdu β) = whole at *
    have hnew : whole.sequenceNumber = lastSeqNum := by rw [← hwhole]
    have hframe : Extracted whole fragmentSizes := by
      obtain ⟨hzero, hmore, hretry⟩ := h.queue frame (hqueue ▸ List.mem_cons_self)
      refine ⟨broken_of_computeFragmentSizes ?_ ?_ hsizes, ?_⟩
      · rw [← hwhole]
        exact hzero
      · rw [← hwhole]
        exact hmore
      · rw [← hwhole]
        exact hretry
    -- a packet that is already in progress is the last one of the last frame
    have hold : ∀ packet ∈ o.inProgressFrames, packet.msdu + 1 = o.extracted.length := by
      intro packet hpacket
      obtain ⟨packet', hsingle⟩ := List.length_eq_one_iff.mp
        (Nat.le_antisymm hle (List.length_pos_of_mem hpacket))
      rw [hsingle, List.mem_singleton] at hpacket
      rw [hpacket]
      exact h.msdu_of_singleton hsingle
    refine ⟨⟨?_, ?_, ?_, ?_, ?_, ?_⟩, ?_, ⟨List.prefix_append _ _, ⟨_, rfl, ?_⟩, rfl, rfl, rfl, rfl,
      rfl⟩⟩
    · intro frame' hmem
      rcases List.mem_append.mp hmem with hmem | hmem
      · exact h.frames frame' hmem
      · rw [List.mem_singleton.mp hmem]
        exact hframe
    · dsimp only
      rw [List.map_append, ← List.append_assoc, h.packets, packets_concat, List.map_map]
      congr 1
      refine List.map_congr_left fun fragment hfragment => ?_
      have hretry := (fragmentOf_of_mem hframe hfragment).2
      change (⟨_, { fragment with retry := false }⟩ : Packet β) = ⟨_, fragment⟩
      rw [← hretry]
    · intro packet hmem
      dsimp only at hmem ⊢
      rw [List.length_append, List.length_singleton]
      rcases List.mem_append.mp hmem with hmem | hmem
      · have := hold packet hmem
        omega
      · obtain ⟨fragment, -, rfl⟩ := List.mem_map.mp hmem
        exact Nat.le_succ _
    · intro m frame₁ frame₂ h₁ h₂
      dsimp only at h₁ h₂
      obtain ⟨hlt, -⟩ := List.getElem?_eq_some_iff.mp h₂
      rw [List.length_append, List.length_singleton] at hlt
      rw [List.getElem?_append_left (by omega)] at h₁
      rcases Nat.lt_or_ge (m + 1) o.extracted.length with hinside | hend
      · rw [List.getElem?_append_left hinside] at h₂
        exact h.numbers m _ _ h₁ h₂
      · have hm : m = o.extracted.length - 1 := by omega
        rw [List.getElem?_append_right hend, show m + 1 - o.extracted.length = 0 by omega] at h₂
        obtain rfl := Option.some.inj h₂
        rw [hm, ← List.getLast?_eq_getElem?] at h₁
        dsimp only
        rw [hnew]
        exact h.last_ne hnumber h₁
    · intro frame' hlast
      rw [List.getLast?_concat] at hlast
      obtain rfl := Option.some.inj hlast
      exact hnew
    · exact fun frame' hmem => h.queue frame' (hqueue ▸ List.mem_cons_of_mem _ hmem)
    · intro packet hmem
      unfold isEligibleToTransmit getAckStatus
      dsimp only
      rw [hfind]
      rcases List.mem_append.mp hmem with hmem | hmem
      · rw [if_neg]
        · exact hready packet hmem
        · rintro ⟨fragment, hfragment, heq⟩
          obtain ⟨whole', sizes', hget, hframe', hof⟩ := h.carries hmem
          rw [show packet.msdu = o.extracted.length - 1 by have := hold packet hmem; omega,
            ← List.getLast?_eq_getElem?] at hget
          refine h.last_ne hnumber hget ?_
          rw [← hnew, ← sequenceNumber_of_mem hframe hfragment]
          have hnumbers := congrArg SequenceControlField.sequenceNumber heq
          exact (hnumbers.trans (congrArg Mpdu.sequenceNumber hof.common)).symm
      · obtain ⟨fragment, hfragment, rfl⟩ := List.mem_map.mp hmem
        rw [if_pos ⟨fragment, hfragment, rfl⟩]
        rfl
    · intro packet hmem
      obtain ⟨fragment, -, rfl⟩ := List.mem_map.mp hmem
      exact Nat.le_refl _

theorem Inv.ensureHasFrameToTransmit (h : o.Inv) (hready : o.Ready)
    (hensure : o.ensureHasFrameToTransmit p = .ok o') : o'.Inv ∧ o'.Ready ∧ Extends o o' := by
  unfold Originator.ensureHasFrameToTransmit at hensure
  split at hensure
  · obtain rfl := Except.ok.inj hensure
    exact ⟨h, hready, .refl _⟩
  · rename_i hnone
    have hempty : o.inProgressFrames = [] := by
      by_contra hne
      obtain ⟨packet, hmem⟩ := List.exists_mem_of_ne_nil _ hne
      exact hnone (List.any_eq_true.mpr ⟨packet, hmem, hready packet hmem⟩)
    exact h.extract hready (by simp [hempty]) hensure

theorem Ready.find?_eq (hready : o.Ready) :
    (o.inProgressFrames.find? fun packet => o.isEligibleToTransmit packet.frame) =
      o.inProgressFrames.head? := by
  cases hlist : o.inProgressFrames with
  | nil => rfl
  | cons packet packets =>
      have hfirst := hready packet (hlist ▸ List.mem_cons_self)
      rw [List.find?_cons, hfirst, List.head?_cons]

theorem Inv.getFrameToTransmit (h : o.Inv) (hready : o.Ready) {frame : Option (Packet β)}
    (hget : o.getFrameToTransmit p = .ok (o', frame)) :
    o'.Inv ∧ o'.Ready ∧ Extends o o' ∧ frame = o'.inProgressFrames.head? := by
  obtain ⟨o₁, hensure, hpair⟩ := map_ok_inv hget
  obtain ⟨rfl, rfl⟩ := Prod.mk.inj hpair
  obtain ⟨hinv, hready', hextends⟩ := h.ensureHasFrameToTransmit hready hensure
  exact ⟨hinv, hready', hextends, hready'.find?_eq⟩

theorem Inv.not_same (h : o.Inv) {packet : Packet β} {packets : List (Packet β)}
    (hlist : o.inProgressFrames = packet :: packets) :
    ∀ packet' ∈ packets, packet'.same packet = false := by
  intro packet' hmem
  have hsorted := h.sorted
  rw [hlist, List.pairwise_cons] at hsorted
  have hlt := hsorted.1 packet' hmem
  unfold Packet.place at hlt
  refine decide_eq_false fun hsame => ?_
  rw [hsame.1, hsame.2] at hlt
  exact Nat.lt_irrefl _ hlt

/-- Looking up the next packet takes a frame from the queue only for the last packet in
progress. -/
theorem Inv.getPendingFrameFor (h : o.Inv) (hready : o.Ready)
    (hget : o.getPendingFrameFor p = .ok o') : o'.Inv ∧ o'.Ready ∧ Extends o o' := by
  obtain ⟨⟨o₁, frame⟩, hframe, hrest⟩ := bind_ok_inv hget
  obtain ⟨hinv, hready', hextends, rfl⟩ := h.getFrameToTransmit hready hframe
  dsimp only at hrest
  split at hrest
  · obtain rfl := Except.ok.inj hrest
    exact ⟨hinv, hready', hextends⟩
  · rename_i hnone
    have hle : o₁.inProgressFrames.length ≤ 1 := by
      match hlist : o₁.inProgressFrames with
      | [] => exact Nat.zero_le _
      | [_] => exact Nat.le_refl _
      | packet :: packet' :: packets =>
          refine absurd (List.any_eq_true.mpr ⟨packet', ?_, ?_⟩) hnone
          · rw [hlist]
            exact List.mem_cons_of_mem _ List.mem_cons_self
          · have hsame := hinv.not_same hlist packet' List.mem_cons_self
            rw [hready' packet' (by rw [hlist]; exact List.mem_cons_of_mem _ List.mem_cons_self),
              hlist]
            simp [hsame]
    obtain ⟨hinv', hready'', hextends'⟩ := hinv.extract hready' hle hrest
    exact ⟨hinv', hready'', hextends.trans hextends'⟩

end Extract

/-! ## One packet after the other -/

section Drop

variable {o o' : Originator β} {packet : Packet β} {rest : List (Packet β)}

theorem Inv.congr (h : o.Inv) (hextracted : o'.extracted = o.extracted)
    (hlast : o'.lastSeqNum = o.lastSeqNum) (hqueue : o'.pendingQueue = o.pendingQueue)
    (hpackets : o'.finished.map (fun f => f.1.unretried) ++
        o'.inProgressFrames.map Packet.unretried =
      o.finished.map (fun f => f.1.unretried) ++ o.inProgressFrames.map Packet.unretried)
    (hmsdu : ∀ packet' ∈ o'.inProgressFrames, ∃ packet ∈ o.inProgressFrames,
      packet.msdu = packet'.msdu) : o'.Inv where
  frames := hextracted ▸ h.frames
  packets := by rw [hpackets, hextracted, h.packets]
  recent := by
    intro packet' hmem
    obtain ⟨packet, hpacket, heq⟩ := hmsdu packet' hmem
    rw [hextracted, ← heq]
    exact h.recent packet hpacket
  numbers := hextracted ▸ h.numbers
  last := by
    rw [hextracted, hlast]
    exact h.last
  queue := hqueue ▸ h.queue

theorem Inv.filter_same (h : o.Inv) (hlist : o.inProgressFrames = packet :: rest) :
    (o.inProgressFrames.filter fun packet' => !packet'.same packet) = rest := by
  rw [hlist, List.filter_cons_of_neg (by simp [Packet.same]), List.filter_eq_self]
  intro packet' hmem
  rw [h.not_same hlist packet' hmem]
  rfl

theorem inProgress_dropFrame (h : o.Inv) (hlist : o.inProgressFrames = packet :: rest)
    (outcome : Outcome) : (o.dropFrame packet outcome).inProgressFrames = rest :=
  h.filter_same hlist

theorem Inv.dropFrame (h : o.Inv) (hlist : o.inProgressFrames = packet :: rest)
    (outcome : Outcome) : (o.dropFrame packet outcome).Inv := by
  have hrest := inProgress_dropFrame h hlist outcome
  refine h.congr rfl rfl rfl ?_ fun packet' hmem => ⟨packet', ?_, rfl⟩
  · rw [hrest, hlist]
    simp [Originator.dropFrame]
  · rw [hrest] at hmem
    rw [hlist]
    exact List.mem_cons_of_mem _ hmem

theorem inProgress_setRetry (h : o.Inv) (hlist : o.inProgressFrames = packet :: rest) :
    (o.setRetry packet).inProgressFrames =
      { packet with frame := { packet.frame with retry := true } } :: rest := by
  change o.inProgressFrames.map _ = _
  rw [hlist, List.map_cons, if_pos (by simp [Packet.same])]
  refine congrArg (List.cons _) ?_
  rw [List.map_congr_left (g := id) fun packet' hmem => ?_, List.map_id]
  rw [if_neg (by rw [h.not_same hlist packet' hmem]; exact Bool.false_ne_true), id]

theorem Inv.setRetry (h : o.Inv) (hlist : o.inProgressFrames = packet :: rest) :
    (o.setRetry packet).Inv := by
  have hset := inProgress_setRetry h hlist
  refine h.congr rfl rfl rfl ?_ fun packet' hmem => ?_
  · rw [hset, hlist]
    rfl
  · rw [hset] at hmem
    rw [hlist]
    rcases List.mem_cons.mp hmem with rfl | hmem
    · exact ⟨packet, List.mem_cons_self, rfl⟩
    · exact ⟨packet', List.mem_cons_of_mem _ hmem, rfl⟩

theorem Inv.ne_first (h : o.Inv) (hlist : o.inProgressFrames = packet :: rest) :
    ∀ packet' ∈ rest, packet.place < packet'.place ∧
      packet'.frame.sequenceControl ≠ packet.frame.sequenceControl := by
  intro packet' hmem
  have hsorted := h.sorted
  rw [hlist, List.pairwise_cons] at hsorted
  have hlt := hsorted.1 packet' hmem
  exact ⟨hlt, (h.sequenceControl_ne (hlist ▸ List.mem_cons_self)
    (hlist ▸ List.mem_cons_of_mem _ hmem) hlt).symm⟩

/-- After a fragment that is not the last comes the next fragment of the frame. -/
theorem packetsFrom_next {extracted : List (Mpdu β × List Nat)} {msdu : Nat}
    {gone : List (Packet β)} (hframes : ∀ frame ∈ extracted, Extracted frame.1 frame.2)
    (heq : packetsFrom msdu extracted = gone ++ packet :: rest)
    (hmore : packet.frame.moreFragments = true) :
    ∃ packet' rest', rest = packet' :: rest' ∧ packet'.msdu = packet.msdu := by
  induction extracted generalizing msdu gone with
  | nil =>
      rw [packetsFrom] at heq
      exact absurd heq.symm (List.append_ne_nil_of_right_ne_nil _ (List.cons_ne_nil _ _))
  | cons frame extracted ih =>
      obtain ⟨whole, fragmentSizes⟩ := frame
      have hframe : Extracted whole fragmentSizes := hframes _ List.mem_cons_self
      have hrest := fun frame h => hframes frame (List.mem_cons_of_mem _ h)
      rw [packetsFrom] at heq
      rcases List.append_eq_append_iff.mp heq with ⟨gone', rfl, htail⟩ | ⟨middle, hfirst, htail⟩
      · exact ih hrest htail
      · rcases middle with _ | ⟨packet', middle⟩
        · exact ih hrest (show _ = [] ++ packet :: rest from htail.symm)
        · obtain ⟨rfl, rfl⟩ := List.cons.inj htail
          rcases middle with _ | ⟨packet', middle⟩
          · -- the last fragment tells that it is the last
            exfalso
            have hlength := congrArg List.length hfirst
            rw [List.length_map, List.length_append, List.length_singleton] at hlength
            have hget := congrArg (·[gone.length]?) hfirst
            rw [List.getElem?_append_right (Nat.le_refl _), Nat.sub_self, List.getElem?_map] at hget
            obtain ⟨fragment, hfragment, hpacket⟩ := Option.map_eq_some_iff.mp hget
            rw [← hpacket] at hmore
            have hmem := List.mem_of_getElem? hfragment
            have hnumber := fragmentNumber_getElem hframe.broken hfragment
            have hof := (fragmentOf_of_mem hframe hmem).1
            rcases eq_or_ne fragmentSizes [] with rfl | hne
            · have hlast := hframe.broken.more
              rw [hof.eq_whole] at hmore
              exact Bool.false_ne_true (hlast.symm.trans hmore)
            · have hlast := (hof.number hne).2
              rw [length_fragments_of_ne hne] at hlength
              rw [hlast] at hmore
              have := of_decide_eq_true hmore
              omega
          · refine ⟨packet', _, rfl, ?_⟩
            have hmem : ∀ q ∈ packet :: packet' :: middle, q.msdu = msdu := by
              intro q hq
              obtain ⟨fragment, -, rfl⟩ :=
                List.mem_map.mp (hfirst ▸ List.mem_append_right _ hq)
              rfl
            rw [hmem packet' (List.mem_cons_of_mem _ List.mem_cons_self),
              hmem packet List.mem_cons_self]

theorem Inv.next (h : o.Inv) (hlist : o.inProgressFrames = packet :: rest)
    (hmore : packet.frame.moreFragments = true) :
    ∃ packet' rest', rest = packet' :: rest' ∧
      packet'.frame.header = packet.frame.header := by
  have hpackets := h.packets
  rw [hlist, List.map_cons] at hpackets
  obtain ⟨next, rest', hrest, hmsdu⟩ := packetsFrom_next h.frames hpackets.symm hmore
  obtain ⟨packet', rest'', rfl, rfl, -⟩ := List.map_eq_cons_iff.mp hrest
  refine ⟨packet', rest'', rfl, ?_⟩
  obtain ⟨whole, fragmentSizes, hget, -, hof⟩ := h.carries (hlist ▸ List.mem_cons_self)
  obtain ⟨whole', fragmentSizes', hget', -, hof'⟩ :=
    h.carries (hlist ▸ List.mem_cons_of_mem _ List.mem_cons_self)
  rw [show packet'.msdu = packet.msdu from hmsdu, hget] at hget'
  obtain ⟨rfl, rfl⟩ := Prod.mk.inj (Option.some.inj hget')
  rw [hof.common, hof'.common]

end Drop

end Originator

end MultiTechBus.Ieee80211
