import MultiTechBus.Ieee80211.Mac.Exchange

/-! # What a station has received

Copies that are on their way to a station come after all that it has seen, or repeat the last
of it. So what it has seen grows, a copy that repeats something is found in the cache, and
the last fragment of a frame is the one that completes it.
-/

namespace MultiTechBus.Ieee80211

open MultiTechBus.Library

variable {β : Type*}

/-- The frames of a transmitter that were sent up, with the retry bit cleared. -/
def Recipient.deliveredFrom (r : Recipient β) (address : MacAddress) : List (Mpdu β) :=
  (r.delivered.filter fun frame => frame.header.transmitterAddress = address).map fun frame =>
    { frame with retry := false }

namespace Exchange

/-- A fragment of a frame that came to a station: the frame was sent up, or the fragment waits
for others. -/
def Came (extracted : List (Mpdu β × List Nat)) (pending : BasicReassembly.Key → List (Mpdu β))
    (order : List Nat) (m fragment : Nat) : Prop :=
  m ∈ order ∨ ∃ key frame, latest extracted key.seqNum = some (m, frame) ∧
    ∃ piece ∈ pending key, piece.fragmentNumber = fragment

/-- What is known of a station and of the copies on their way to it. All places below `seen`
are behind it, and `order` tells which frames it sent up. -/
structure Received (address : MacAddress) (o : Originator β) (station : MacAddress)
    (flight : List (Packet β)) (r : Recipient β) (seen : Nat)
    (pending : BasicReassembly.Key → List (Mpdu β)) (order : List Nat) : Prop where
  known : ∀ packet ∈ flight, Known address o.extracted packet
  inOrder : flight.Pairwise fun packet packet' =>
    NotBefore (packet.place + 1) packet' (packet'.frame.retry = true)
  first : ∀ packet ∈ flight, NotBefore seen packet (packet.frame.retry = true)
  ahead : ∀ bound, (bound = seen ∨ ∃ packet ∈ flight, bound = packet.place + 1) →
    ∀ packet ∈ o.inProgressFrames,
      NotBefore bound packet (packet.frame.retry = true ∨ o.awaits packet = true)
  seen_le : seen ≤ MAX_NUM_FRAGMENTS * o.extracted.length
  cached : seen = 0 ∨ ∃ m fragment frame, seen = MAX_NUM_FRAGMENTS * m + fragment + 1 ∧
    fragment < MAX_NUM_FRAGMENTS ∧ o.extracted[m]? = some frame ∧
    r.lastSeenSeqNumCache.find? address = some ⟨frame.1.sequenceNumber, fragment⟩ ∧
    Came o.extracted pending order m fragment
  keyed : BasicReassembly.Keyed r.fragmentsMap
  entries : BasicReassembly.Pending (sent address o.extracted)
    (BasicReassembly.ownedBy address r.fragmentsMap) pending
  pieces : ∀ key, ∀ piece ∈ pending key, ∃ m frame,
    latest o.extracted key.seqNum = some (m, frame) ∧
      MAX_NUM_FRAGMENTS * m + piece.fragmentNumber < seen
  sorted : order.Pairwise (· < ·)
  whole : ∀ m ∈ order, ∃ frame, o.extracted[m]? = some frame ∧
    MAX_NUM_FRAGMENTS * m + (fragments frame.1 frame.2).length ≤ seen ∧
    isForUs station frame.1.header = true
  delivered : r.deliveredFrom address =
    order.filterMap fun m => o.extracted[m]?.map fun frame => frame.1.sentBy address

section

variable {address station : MacAddress} {o o' : Originator β} {flight : List (Packet β)}
  {r r' : Recipient β} {seen : Nat} {pending : BasicReassembly.Key → List (Mpdu β)}
  {order : List Nat} {packet : Packet β}

theorem NotBefore.imp {bound : Nat} {packet : Packet β} {again again' : Prop}
    (h : NotBefore bound packet again) (himp : again → again') : NotBefore bound packet again' :=
  Or.imp id (fun ⟨heq, hagain⟩ => ⟨heq, himp hagain⟩) h

/-- The place of a packet that is known is among those of the frames that were taken. -/
theorem Known.place_lt {extracted : List (Mpdu β × List Nat)} (h : Known address extracted packet) :
    packet.frame.fragmentNumber < MAX_NUM_FRAGMENTS ∧
      packet.place + 1 ≤ MAX_NUM_FRAGMENTS * extracted.length := by
  obtain ⟨whole, fragmentSizes, hlatest, hframe, hof⟩ := h
  obtain ⟨hlt, -⟩ := List.getElem?_eq_some_iff.mp (getElem?_of_latest hlatest).1
  have hnumber := (hof.fragmentNumber_lt (hframe.broken.sentBy address)).2
  refine ⟨hnumber, ?_⟩
  unfold Packet.place
  unfold MAX_NUM_FRAGMENTS at hnumber ⊢
  omega

theorem Received.initial (address station : MacAddress) (o : Originator β)
    (hprogress : o.inProgressFrames = []) :
    Received address o station [] {} 0 (fun _ => []) [] where
  known := nofun
  inOrder := .nil
  first := nofun
  ahead := fun _ _ _ hmem => absurd (hprogress ▸ hmem) List.not_mem_nil
  seen_le := Nat.zero_le _
  cached := .inl rfl
  keyed := .empty
  entries := .empty _
  pieces := nofun
  sorted := .nil
  whole := nofun
  delivered := rfl

/-- An entry for the originator is under a number of one of its frames. -/
theorem Received.key_eq (h : Received address o station flight r seen pending order)
    {key : BasicReassembly.Key} (hne : pending key ≠ []) :
    key = ⟨address, -1, key.seqNum⟩ ∧ r.fragmentsMap.find? key ≠ none := by
  have hfind := mt (h.entries.none_iff key).mp hne
  rw [BasicReassembly.ownedBy, OrderedMap.find?_filter] at hfind
  cases hvalue : r.fragmentsMap.find? key with
  | none =>
      rw [hvalue] at hfind
      exact absurd rfl hfind
  | some value =>
      rw [hvalue, Option.filter_some] at hfind
      split at hfind
      · rename_i hkey
        obtain ⟨rfl, htid⟩ := of_decide_eq_true hkey
        refine ⟨?_, Option.some_ne_none _⟩
        cases key
        cases htid
        rfl
      · exact absurd rfl hfind

/-- Frames with numbers that are free leave the frames that pieces belong to alone. -/
theorem Received.latest_append (h : Received address o station flight r seen pending order)
    {new : List (Mpdu β × List Nat)}
    (hfree : ∀ frame ∈ new, r.fragmentsMap.find? ⟨address, -1, frame.1.sequenceNumber⟩ = none)
    {key : BasicReassembly.Key} (hne : pending key ≠ []) :
    latest (o.extracted ++ new) key.seqNum = latest o.extracted key.seqNum := by
  obtain ⟨hkey, hsome⟩ := h.key_eq hne
  refine Ieee80211.latest_append fun frame hmem heq => hsome ?_
  rw [hkey, ← heq]
  exact hfree frame hmem

theorem Received.came_append (h : Received address o station flight r seen pending order)
    {new : List (Mpdu β × List Nat)}
    (hfree : ∀ frame ∈ new, r.fragmentsMap.find? ⟨address, -1, frame.1.sequenceNumber⟩ = none)
    {m fragment : Nat} (hcame : Came o.extracted pending order m fragment) :
    Came (o.extracted ++ new) pending order m fragment := by
  refine hcame.imp id ?_
  rintro ⟨key, frame, hkey, piece, hpiece⟩
  exact ⟨key, frame, (h.latest_append hfree (List.ne_nil_of_mem hpiece.1)).trans hkey, piece, hpiece⟩

/-- More frames are taken from the queue, with numbers that are free, and packets in progress
go on. -/
theorem Received.originator (h : Received address o station flight r seen pending order)
    (hcontinues : Originator.Continues o o')
    (hfree : ∀ frame ∈ o'.extracted.drop o.extracted.length,
      (∀ packet ∈ flight, packet.frame.sequenceNumber ≠ frame.1.sequenceNumber) ∧
        r.fragmentsMap.find? ⟨address, -1, frame.1.sequenceNumber⟩ = none) :
    Received address o' station flight r seen pending order := by
  obtain ⟨new, hnew⟩ := hcontinues.extracted
  rw [← hnew, List.drop_left] at hfree
  have hget : ∀ {m : Nat} {frame}, o.extracted[m]? = some frame → o'.extracted[m]? = some frame := by
    intro m frame hm
    obtain ⟨hlt, -⟩ := List.getElem?_eq_some_iff.mp hm
    rw [← hnew, List.getElem?_append_left hlt]
    exact hm
  have hfree' := fun frame hmem => (hfree frame hmem).2
  have hlatest : ∀ key, pending key ≠ [] →
      latest o'.extracted key.seqNum = latest o.extracted key.seqNum := by
    intro key hne
    rw [← hnew]
    exact h.latest_append hfree' hne
  have hlength := hcontinues.extracted.length_le
  refine ⟨fun packet hmem => ?_, h.inOrder, h.first, fun bound hbound packet' hmem => ?_,
    Nat.le_trans h.seen_le (Nat.mul_le_mul_left _ hlength), ?_, h.keyed, ?_, ?_, h.sorted, ?_, ?_⟩
  · obtain ⟨whole, fragmentSizes, hpacket, hframe⟩ := h.known packet hmem
    refine ⟨whole, fragmentSizes, ?_, hframe⟩
    rw [← hnew, Ieee80211.latest_append fun frame hframe heq =>
      (hfree frame hframe).1 packet hmem heq.symm]
    exact hpacket
  · rcases hcontinues.inProgress packet' hmem with hlater | ⟨packet, hpacket, hsame, hkept⟩
    · have hle : bound ≤ MAX_NUM_FRAGMENTS * o.extracted.length := by
        rcases hbound with rfl | ⟨packet, hpacket, rfl⟩
        · exact h.seen_le
        · exact (h.known packet hpacket).place_lt.2
      have hmul := Nat.mul_le_mul_left MAX_NUM_FRAGMENTS hlater
      refine .inl ?_
      unfold Packet.place
      omega
    · have hplace := Packet.place_eq_of_same hsame
      unfold NotBefore
      rw [← hplace]
      exact (h.ahead bound hbound packet hpacket).imp hkept
  · refine h.cached.imp id fun ⟨m, fragment, frame, heq, hlt, hm, hcache, hcame⟩ =>
      ⟨m, fragment, frame, heq, hlt, hget hm, hcache, ?_⟩
    rw [← hnew]
    exact h.came_append hfree' hcame
  · have hsent : ∀ key, pending key ≠ [] →
        sent address o'.extracted key = sent address o.extracted key := by
      intro key hne
      unfold sent
      rw [hlatest key hne]
    refine h.entries.retarget (fun key => .empty _ _) (fun key hne value hholds => ?_)
      fun key hne hcomplete => ?_
    · change BasicReassembly.Holds _ _ _ _
      rw [hsent key hne]
      exact hholds
    · change BasicReassembly.Complete _ _ _
      rw [← hsent key hne]
      exact hcomplete
  · intro key piece hpiece
    rw [hlatest key (List.ne_nil_of_mem hpiece)]
    exact h.pieces key piece hpiece
  · intro m hm
    obtain ⟨frame, hframe, hwhole⟩ := h.whole m hm
    exact ⟨frame, hget hframe, hwhole⟩
  · rw [h.delivered]
    refine List.filterMap_congr fun m hm => ?_
    obtain ⟨frame, hframe, -⟩ := h.whole m hm
    rw [hframe, hget hframe]

theorem Received.hear (h : Received address o station flight r seen pending order)
    (hknown : Known address o.extracted packet)
    (hbefore : ∀ bound, (bound = seen ∨ ∃ packet ∈ flight, bound = packet.place + 1) →
      NotBefore bound packet (packet.frame.retry = true))
    (hahead : ∀ packet' ∈ o.inProgressFrames, NotBefore (packet.place + 1) packet'
      (packet'.frame.retry = true ∨ o.awaits packet' = true)) :
    Received address o station (flight ++ [packet]) r seen pending order := by
  refine { h with known := ?_, inOrder := ?_, first := ?_, ahead := ?_ }
  · intro packet' hmem
    rcases List.mem_append.mp hmem with hold | hnew
    · exact h.known packet' hold
    · rw [List.mem_singleton.mp hnew]
      exact hknown
  · refine List.pairwise_append.mpr ⟨h.inOrder, List.pairwise_singleton _ _, ?_⟩
    intro packet' hmem last hlast
    rw [List.mem_singleton.mp hlast]
    exact hbefore _ (.inr ⟨packet', hmem, rfl⟩)
  · intro packet' hmem
    rcases List.mem_append.mp hmem with hold | hnew
    · exact h.first packet' hold
    · rw [List.mem_singleton.mp hnew]
      exact hbefore seen (.inl rfl)
  · rintro bound (rfl | ⟨packet', hmem, rfl⟩)
    · exact h.ahead _ (.inl rfl)
    · rcases List.mem_append.mp hmem with hold | hnew
      · exact h.ahead _ (.inr ⟨packet', hold, rfl⟩)
      · rw [List.mem_singleton.mp hnew]
        exact hahead

theorem Received.lose (h : Received address o station (packet :: flight) r seen pending order) :
    Received address o station flight r seen pending order where
  known := fun packet' hmem => h.known packet' (List.mem_cons_of_mem _ hmem)
  inOrder := (List.pairwise_cons.mp h.inOrder).2
  first := fun packet' hmem => h.first packet' (List.mem_cons_of_mem _ hmem)
  ahead := fun bound hbound => h.ahead bound
    (hbound.imp id fun ⟨packet', hmem, heq⟩ => ⟨packet', List.mem_cons_of_mem _ hmem, heq⟩)
  seen_le := h.seen_le
  cached := h.cached
  keyed := h.keyed
  entries := h.entries
  pieces := h.pieces
  sorted := h.sorted
  whole := h.whole
  delivered := h.delivered

theorem deliveredFrom_concat {frame : Mpdu β} (h : r'.delivered = r.delivered ++ [frame])
    (hfrom : frame.header.transmitterAddress = address) :
    r'.deliveredFrom address = r.deliveredFrom address ++ [{ frame with retry := false }] := by
  unfold Recipient.deliveredFrom
  rw [h, List.filter_append, List.map_append, List.filter_singleton, decide_eq_true hfrom]
  rfl

theorem deliveredFrom_others {output : List (Mpdu β)} (h : r'.delivered = r.delivered ++ output)
    (hothers : ∀ frame ∈ output, frame.header.transmitterAddress ≠ address) :
    r'.deliveredFrom address = r.deliveredFrom address := by
  have hnil : output.filter (fun frame => frame.header.transmitterAddress = address) = [] :=
    List.filter_eq_nil_iff.mpr fun frame hmem heq => hothers frame hmem (of_decide_eq_true heq)
  unfold Recipient.deliveredFrom
  rw [h, List.filter_append, hnil, List.append_nil]

theorem Received.foreign (h : Received address o station flight r seen pending order)
    {frame : Mpdu β} (hother : frame.header.transmitterAddress ≠ address)
    (hreceived : r.dataOrMgmtFrameReceived frame = .ok r') :
    Received address o station flight r' seen pending order := by
  obtain ⟨-, ⟨-, -, rfl⟩ | ⟨-, fragmentsMap, output, hadd, rfl⟩⟩ :=
    Recipient.dataOrMgmtFrameReceived_cases hreceived
  · exact h
  · obtain ⟨hkeyed, houtput⟩ := h.keyed.addFragment hadd
    refine { h with cached := ?_, keyed := hkeyed, entries := ?_, delivered := ?_ }
    · refine h.cached.imp id fun ⟨m, fragment, taken, heq, hlt, hm, hcache, hcame⟩ =>
        ⟨m, fragment, taken, heq, hlt, hm, ?_, hcame⟩
      dsimp only
      rw [OrderedMap.find?_insert_ne (Ne.symm hother)]
      exact hcache
    · dsimp only
      rw [BasicReassembly.ownedBy_addFragment_ne hother hadd]
      exact h.entries
    · rw [← h.delivered]
      refine deliveredFrom_others rfl fun out hout => ?_
      rw [houtput out (Option.mem_toList.mp hout)]
      exact hother

/-! ## A copy arrives -/

/-- A copy that is not taken for a duplicate is new. -/
theorem Received.seen_le_place (h : Received address o station (packet :: flight) r seen pending order)
    (hunseen : ¬ (r.lastSeenSeqNumCache.find? address = some packet.frame.sequenceControl ∧
      packet.frame.retry = true)) : seen ≤ packet.place := by
  have hknown := h.known packet List.mem_cons_self
  rcases h.first packet List.mem_cons_self with hle | ⟨heq, hretry⟩
  · exact hle
  · exfalso
    obtain ⟨hlt, -⟩ := hknown.place_lt
    obtain ⟨whole, fragmentSizes, hlatest, -⟩ := hknown
    obtain ⟨hget, hnumber⟩ := getElem?_of_latest hlatest
    rcases h.cached with hzero | ⟨m, fragment, frame, hseen, hfragment, hm, hcache, -⟩
    · omega
    · unfold Packet.place at heq
      unfold MAX_NUM_FRAGMENTS at heq hseen hfragment hlt
      obtain rfl : m = packet.msdu := by omega
      obtain rfl : fragment = packet.frame.fragmentNumber := by omega
      rw [hget] at hm
      obtain rfl := Option.some.inj hm
      refine hunseen ⟨hcache.trans ?_, hretry⟩
      rw [hnumber]
      rfl

theorem sent_of_latest {extracted : List (Mpdu β × List Nat)} {key : BasicReassembly.Key} {m : Nat}
    {whole : Mpdu β} {fragmentSizes : List Nat}
    (h : latest extracted key.seqNum = some (m, whole, fragmentSizes)) :
    sent address extracted key = (whole.sentBy address, fragmentSizes) := by
  unfold sent
  rw [h]

/-- The copy that completes a frame is its last fragment. -/
theorem Received.last_of_complete
    (h : Received address o station (packet :: flight) r seen pending order)
    (hle : seen ≤ packet.place) {whole : Mpdu β} {fragmentSizes : List Nat}
    (hlatest : latest o.extracted packet.frame.sequenceNumber =
      some (packet.msdu, whole, fragmentSizes))
    (hlt : packet.frame.fragmentNumber < (fragments whole fragmentSizes).length)
    (hcomplete : BasicReassembly.Complete (whole.sentBy address) fragmentSizes
      (pending packet.frame.key ++ [packet.frame])) :
    packet.frame.fragmentNumber + 1 = (fragments whole fragmentSizes).length := by
  unfold BasicReassembly.Complete at hcomplete
  rw [fragments_sentBy, List.length_map] at hcomplete
  obtain ⟨piece, hpiece, hnumber⟩ :=
    hcomplete ((fragments whole fragmentSizes).length - 1) (by omega)
  rcases List.mem_append.mp hpiece with hold | hnew
  · obtain ⟨m, frame, hm, hbelow⟩ := h.pieces _ piece hold
    obtain rfl : packet.msdu = m := congrArg Prod.fst (Option.some.inj (hlatest.symm.trans hm))
    unfold Packet.place at hle
    omega
  · rw [List.mem_singleton.mp hnew] at hnumber
    omega

theorem Received.keep (h : Received address o station (packet :: flight) r seen pending order)
    (hle : seen ≤ packet.place) {r' : Recipient β}
    (hcache : r'.lastSeenSeqNumCache =
      r.lastSeenSeqNumCache.insert address packet.frame.sequenceControl)
    (hkeyed : BasicReassembly.Keyed r'.fragmentsMap)
    (hentries : BasicReassembly.Pending (sent address o.extracted)
      (BasicReassembly.ownedBy address r'.fragmentsMap)
      (Function.update pending packet.frame.key (pending packet.frame.key ++ [packet.frame])))
    (hdelivered : r'.delivered = r.delivered) :
    Received address o station flight r' (packet.place + 1)
        (Function.update pending packet.frame.key (pending packet.frame.key ++ [packet.frame]))
        order ∧
      (∀ m fragment, Came o.extracted pending order m fragment → Came o.extracted
        (Function.update pending packet.frame.key (pending packet.frame.key ++ [packet.frame]))
        order m fragment) ∧
      Came o.extracted
        (Function.update pending packet.frame.key (pending packet.frame.key ++ [packet.frame]))
        order packet.msdu packet.frame.fragmentNumber := by
  have hknown := h.known packet List.mem_cons_self
  obtain ⟨hnumber, hplace⟩ := hknown.place_lt
  obtain ⟨whole, fragmentSizes, hlatest, -⟩ := hknown
  obtain ⟨hget, hseqNum⟩ := getElem?_of_latest hlatest
  have hmem : ∀ key, ∀ piece ∈ pending key, piece ∈
      Function.update pending packet.frame.key (pending packet.frame.key ++ [packet.frame]) key := by
    intro key piece hpiece
    rcases eq_or_ne key packet.frame.key with rfl | hne
    · rw [Function.update_self]
      exact List.mem_append_left _ hpiece
    · rwa [Function.update_of_ne hne]
  have hcame : ∀ m fragment, Came o.extracted pending order m fragment → Came o.extracted
      (Function.update pending packet.frame.key (pending packet.frame.key ++ [packet.frame]))
      order m fragment := by
    rintro m fragment (hmem' | ⟨key, frame, hm, piece, hpiece, heq⟩)
    · exact .inl hmem'
    · exact .inr ⟨key, frame, hm, piece, hmem key piece hpiece, heq⟩
  have hself : Came o.extracted
      (Function.update pending packet.frame.key (pending packet.frame.key ++ [packet.frame]))
      order packet.msdu packet.frame.fragmentNumber := by
    refine .inr ⟨packet.frame.key, _, hlatest, packet.frame, ?_, rfl⟩
    rw [Function.update_self]
    exact List.mem_append_right _ (List.mem_singleton.mpr rfl)
  refine ⟨⟨fun packet' hpacket => h.known packet' (List.mem_cons_of_mem _ hpacket),
    (List.pairwise_cons.mp h.inOrder).2, (List.pairwise_cons.mp h.inOrder).1, ?_, hplace,
    .inr ⟨packet.msdu, packet.frame.fragmentNumber, _, rfl, hnumber, hget, ?_, hself⟩, hkeyed,
    hentries, fun key piece hpiece => ?_, h.sorted, fun m hm => ?_, ?_⟩, hcame, hself⟩
  · rintro bound (rfl | ⟨packet', hpacket, rfl⟩)
    · exact h.ahead _ (.inr ⟨packet, List.mem_cons_self, rfl⟩)
    · exact h.ahead _ (.inr ⟨packet', List.mem_cons_of_mem _ hpacket, rfl⟩)
  · rw [hcache, OrderedMap.find?_insert_self, hseqNum]
    rfl
  · rcases eq_or_ne key packet.frame.key with rfl | hne
    · rw [Function.update_self] at hpiece
      rcases List.mem_append.mp hpiece with hold | hnew
      · obtain ⟨m, frame, hm, hbelow⟩ := h.pieces _ piece hold
        exact ⟨m, frame, hm, by omega⟩
      · rw [List.mem_singleton.mp hnew]
        exact ⟨packet.msdu, _, hlatest, Nat.lt_succ_self _⟩
    · rw [Function.update_of_ne hne] at hpiece
      obtain ⟨m, frame, hm, hbelow⟩ := h.pieces key piece hpiece
      exact ⟨m, frame, hm, by omega⟩
  · obtain ⟨frame, hframe, hbelow, hstation⟩ := h.whole m hm
    exact ⟨frame, hframe, by omega, hstation⟩
  · rw [← h.delivered]
    unfold Recipient.deliveredFrom
    rw [hdelivered]

/-- A fragment that completes its frame makes the station send it up. -/
theorem Received.sendUp (h : Received address o station (packet :: flight) r seen pending order)
    (hforUs : isForUs station packet.frame.header = true) (hle : seen ≤ packet.place)
    {r' : Recipient β} {frame' : Mpdu β}
    (hcache : r'.lastSeenSeqNumCache =
      r.lastSeenSeqNumCache.insert address packet.frame.sequenceControl)
    (hkeyed : BasicReassembly.Keyed r'.fragmentsMap)
    (hcomplete : (BasicReassembly.gathering (sent address o.extracted)).Complete packet.frame.key
      (pending packet.frame.key ++ [packet.frame]))
    (hresult : BasicReassembly.reassembled (sent address o.extracted packet.frame.key).1
      (pending packet.frame.key ++ [packet.frame]) = some frame')
    (hentries : BasicReassembly.Pending (sent address o.extracted)
      (BasicReassembly.ownedBy address r'.fragmentsMap)
      (Function.update pending packet.frame.key []))
    (hdelivered : r'.delivered = r.delivered ++ [frame']) :
    Received address o station flight r' (packet.place + 1)
        (Function.update pending packet.frame.key []) (order ++ [packet.msdu]) ∧
      (∀ m fragment, Came o.extracted pending order m fragment → Came o.extracted
        (Function.update pending packet.frame.key []) (order ++ [packet.msdu]) m fragment) ∧
      Came o.extracted (Function.update pending packet.frame.key []) (order ++ [packet.msdu])
        packet.msdu packet.frame.fragmentNumber := by
  have hknown := h.known packet List.mem_cons_self
  obtain ⟨hnumber, hplace⟩ := hknown.place_lt
  obtain ⟨whole, fragmentSizes, hlatest, hframe, hof⟩ := hknown
  obtain ⟨hget, hseqNum⟩ := getElem?_of_latest hlatest
  have hsent : sent address o.extracted packet.frame.key = (whole.sentBy address, fragmentSizes) :=
    sent_of_latest hlatest
  have hlast : packet.frame.fragmentNumber + 1 = (fragments whole fragmentSizes).length := by
    have hlt := (hof.fragmentNumber_lt (hframe.broken.sentBy address)).1
    rw [fragments_sentBy, List.length_map] at hlt
    refine h.last_of_complete hle hlatest hlt ?_
    change BasicReassembly.Complete _ _ _ at hcomplete
    rwa [hsent] at hcomplete
  have hcame : ∀ m fragment, Came o.extracted pending order m fragment → Came o.extracted
      (Function.update pending packet.frame.key []) (order ++ [packet.msdu]) m fragment := by
    rintro m fragment (hmem | ⟨key, frame, hm, piece, hpiece, heq⟩)
    · exact .inl (List.mem_append_left _ hmem)
    · rcases eq_or_ne key packet.frame.key with rfl | hne
      · obtain rfl : packet.msdu = m := congrArg Prod.fst (Option.some.inj (hlatest.symm.trans hm))
        exact .inl (List.mem_append_right _ (List.mem_singleton.mpr rfl))
      · exact .inr ⟨key, frame, hm, piece, by rwa [Function.update_of_ne hne], heq⟩
  have hself : Came o.extracted (Function.update pending packet.frame.key [])
      (order ++ [packet.msdu]) packet.msdu packet.frame.fragmentNumber :=
    .inl (List.mem_append_right _ (List.mem_singleton.mpr rfl))
  have hheader : packet.frame.header = (whole.sentBy address).header := by rw [hof.common]
  refine ⟨⟨fun packet' hpacket => h.known packet' (List.mem_cons_of_mem _ hpacket),
    (List.pairwise_cons.mp h.inOrder).2, (List.pairwise_cons.mp h.inOrder).1, ?_, hplace,
    .inr ⟨packet.msdu, packet.frame.fragmentNumber, _, rfl, hnumber, hget, ?_, hself⟩, hkeyed,
    hentries, fun key piece hpiece => ?_, ?_, fun m hm => ?_, ?_⟩, hcame, hself⟩
  · rintro bound (rfl | ⟨packet', hpacket, rfl⟩)
    · exact h.ahead _ (.inr ⟨packet, List.mem_cons_self, rfl⟩)
    · exact h.ahead _ (.inr ⟨packet', List.mem_cons_of_mem _ hpacket, rfl⟩)
  · rw [hcache, OrderedMap.find?_insert_self, hseqNum]
    rfl
  · rcases eq_or_ne key packet.frame.key with rfl | hne
    · rw [Function.update_self] at hpiece
      cases hpiece
    · rw [Function.update_of_ne hne] at hpiece
      obtain ⟨m, frame, hm, hbelow⟩ := h.pieces key piece hpiece
      exact ⟨m, frame, hm, by omega⟩
  · refine List.pairwise_append.mpr ⟨h.sorted, List.pairwise_singleton _ _, fun m hm m' hm' => ?_⟩
    rw [List.mem_singleton.mp hm']
    obtain ⟨frame, hframe', hbelow, -⟩ := h.whole m hm
    -- a frame that was sent up before has all its fragments below what was seen
    by_contra hge
    unfold Packet.place at hle
    unfold MAX_NUM_FRAGMENTS at hle hbelow hnumber
    obtain rfl : m = packet.msdu := by omega
    rw [hget] at hframe'
    obtain rfl := Option.some.inj hframe'
    dsimp only at hbelow
    omega
  · rcases List.mem_append.mp hm with hold | hnew
    · obtain ⟨frame, hframe', hbelow, hstation⟩ := h.whole m hold
      exact ⟨frame, hframe', by omega, hstation⟩
    · rw [List.mem_singleton.mp hnew]
      refine ⟨_, hget, ?_, ?_⟩
      · unfold Packet.place
        dsimp only
        omega
      · rw [hheader] at hforUs
        exact hforUs
  · rw [hsent, BasicReassembly.reassembled, Option.map_eq_some_iff] at hresult
    obtain ⟨piece, -, rfl⟩ := hresult
    have hconcat : r'.deliveredFrom address = _ := deliveredFrom_concat hdelivered rfl
    rw [hconcat, List.filterMap_append, ← h.delivered, List.filterMap_cons, hget]
    have hretry : (whole.sentBy address).retry = false := hframe.retry
    refine congrArg (_ ++ [·]) ?_
    rw [← hretry]

/-- A copy for the station is processed: it is a duplicate, or it is the last one seen from
now on. -/
theorem Received.receive (h : Received address o station (packet :: flight) r seen pending order)
    (hforUs : isForUs station packet.frame.header = true)
    (hreceived : r.dataOrMgmtFrameReceived packet.frame = .ok r') :
    ∃ seen' pending' order', Received address o station flight r' seen' pending' order' ∧
      (∀ m fragment, Came o.extracted pending order m fragment →
        Came o.extracted pending' order' m fragment) ∧
      ((seen' = seen ∧ r' = r ∧
          r.lastSeenSeqNumCache.find? address = some packet.frame.sequenceControl) ∨
        seen' = packet.place + 1 ∧
          Came o.extracted pending' order' packet.msdu packet.frame.fragmentNumber) := by
  obtain ⟨whole, fragmentSizes, hlatest, hframe, hof⟩ := h.known packet List.mem_cons_self
  have haddress : packet.frame.header.transmitterAddress = address := by
    rw [hof.common]
    rfl
  obtain ⟨htype, ⟨hcache, -, rfl⟩ | ⟨hunseen, fragmentsMap, output, hadd, hr'⟩⟩ :=
    Recipient.dataOrMgmtFrameReceived_cases hreceived
  · rw [haddress] at hcache
    exact ⟨seen, pending, order, h.lose, fun _ _ hcame => hcame, .inl ⟨rfl, rfl, hcache⟩⟩
  · rw [haddress] at hunseen
    have hle := h.seen_le_place hunseen
    obtain ⟨hcache, hmap, hdelivered⟩ :
        r'.lastSeenSeqNumCache =
            r.lastSeenSeqNumCache.insert address packet.frame.sequenceControl ∧
          r'.fragmentsMap = fragmentsMap ∧ r'.delivered = r.delivered ++ output.toList := by
      rw [hr', haddress]
      exact ⟨rfl, rfl, rfl⟩
    rw [← hmap] at hadd
    obtain ⟨hkeyed, -⟩ := h.keyed.addFragment hadd
    have hsent : sent address o.extracted packet.frame.key =
      (whole.sentBy address, fragmentSizes) := sent_of_latest hlatest
    obtain ⟨fragmentsMap', output', hadd', hgathers⟩ := h.entries.addFragment
      (by rw [hsent]; exact hframe.broken.sentBy address) (by rw [hsent]; exact hof)
    rw [BasicReassembly.addFragment_ownedBy haddress htype hadd] at hadd'
    obtain ⟨rfl, rfl⟩ := Prod.mk.inj (Except.ok.inj hadd')
    rcases hgathers with ⟨hcomplete, ⟨frame', rfl, hresult⟩, hentries⟩ | ⟨-, rfl, hentries⟩
    · obtain ⟨hnew, hcame, hself⟩ :=
        h.sendUp hforUs hle hcache hkeyed hcomplete hresult hentries hdelivered
      exact ⟨_, _, _, hnew, hcame, .inr ⟨rfl, hself⟩⟩
    · obtain ⟨hnew, hcame, hself⟩ :=
        h.keep hle hcache hkeyed hentries (hdelivered.trans (List.append_nil _))
      exact ⟨_, _, _, hnew, hcame, .inr ⟨rfl, hself⟩⟩

end

end Exchange

end MultiTechBus.Ieee80211
