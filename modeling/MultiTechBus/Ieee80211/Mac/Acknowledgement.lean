import MultiTechBus.Ieee80211.Mac.UnderWay

/-! # Acknowledgements

If the originator does nothing else while a copy or an acknowledgement is on its way, a frame
whose fragments were all acknowledged was sent up by its receiver.
-/

namespace MultiTechBus.Ieee80211

open MultiTechBus.Library

variable {β : Type*}

def Originator.acknowledged (o : Originator β) (m : Nat) (frame : Mpdu β × List Nat) : Bool :=
  (List.range (fragments frame.1 frame.2).length).all fun k =>
    o.finished.any fun f =>
      f.2 = .acknowledged ∧ f.1.msdu = m ∧ f.1.frame.fragmentNumber = k

namespace Exchange

def CameTo (s : Exchange β) (pending : MacAddress → BasicReassembly.Key → List (Mpdu β))
    (order : MacAddress → List Nat) (packet : Packet β) : Prop :=
  Came s.originator.extracted (pending packet.frame.header.receiverAddress)
    (order packet.frame.header.receiverAddress) packet.msdu packet.frame.fragmentNumber

/-- What was acknowledged came to its receiver, and what a station has seen last is a fragment
of the last frame with its number. -/
structure Answered (p : DcfParams) (s : Exchange β) (seen : MacAddress → Nat)
    (pending : MacAddress → BasicReassembly.Key → List (Mpdu β)) (order : MacAddress → List Nat) :
    Prop where
  received : ∀ station, Received p.address s.originator station (s.flight station)
    (s.recipients station) (seen station) (pending station) (order station)
  cached : ∀ station id,
    (s.recipients station).lastSeenSeqNumCache.find? p.address = some id →
      ∃ m frame, latest s.originator.extracted id.sequenceNumber = some (m, frame) ∧
        Came s.originator.extracted (pending station) (order station) m id.fragmentNumber
  acks : ∀ packet ∈ s.acks, CameTo s pending order packet
  acked : ∀ f ∈ s.originator.finished, f.2 = .acknowledged → CameTo s pending order f.1

/-- The numbers of the frames that are taken from the queue differ from those that the
stations have seen last. -/
def Fresh (p : DcfParams) (s : Exchange β) (e : Event β) : Prop :=
  ∀ s', s.step p e = .ok s' →
    ∀ frame ∈ s'.originator.extracted.drop s.originator.extracted.length,
      ∀ station id, (s.recipients station).lastSeenSeqNumCache.find? p.address = some id →
        id.sequenceNumber ≠ frame.1.sequenceNumber

section

variable {p : DcfParams} {s s' : Exchange β} {station : MacAddress} {packet : Packet β}
  {seen : MacAddress → Nat} {pending : MacAddress → BasicReassembly.Key → List (Mpdu β)}
  {order : MacAddress → List Nat}

theorem Answered.initial (p : DcfParams) (cw : Nat) :
    Answered p ({ originator := { cw := cw } } : Exchange β) (fun _ => 0) (fun _ _ => [])
      fun _ => [] where
  received := fun station => .initial p.address station _ rfl
  cached := nofun
  acks := nofun
  acked := nofun

/-- The originator goes on, and what it takes for acknowledged came to its receiver. -/
theorem Answered.originator (h : Answered p s seen pending order)
    (hextracted : s.originator.extracted <+: s'.originator.extracted)
    (hreceived : ∀ station, Received p.address s'.originator station (s'.flight station)
      (s.recipients station) (seen station) (pending station) (order station))
    (hrecipients : s'.recipients = s.recipients) (hacks : s'.acks.Sublist s.acks)
    (hfree : ∀ frame ∈ s'.originator.extracted.drop s.originator.extracted.length,
      s.Free p frame.1.sequenceNumber)
    (hfresh : ∀ frame ∈ s'.originator.extracted.drop s.originator.extracted.length,
      ∀ station id, (s.recipients station).lastSeenSeqNumCache.find? p.address = some id →
        id.sequenceNumber ≠ frame.1.sequenceNumber)
    (hfinished : ∀ f ∈ s'.originator.finished, f ∈ s.originator.finished ∨
      f.2 ≠ .acknowledged ∨ CameTo s pending order f.1) : Answered p s' seen pending order := by
  obtain ⟨new, hnew⟩ := hextracted
  rw [← hnew, List.drop_left] at hfree hfresh
  have hcame : ∀ {station m fragment},
      Came s.originator.extracted (pending station) (order station) m fragment →
        Came s'.originator.extracted (pending station) (order station) m fragment := by
    intro station m fragment hcame
    rw [← hnew]
    exact (h.received station).came_append (fun frame hmem => (hfree frame hmem station).2) hcame
  refine ⟨fun station => ?_, fun station id hid => ?_, fun packet hmem => ?_, fun f hf heq => ?_⟩
  · rw [hrecipients]
    exact hreceived station
  · rw [hrecipients] at hid
    obtain ⟨m, frame, hlatest, hpiece⟩ := h.cached station id hid
    refine ⟨m, frame, ?_, hcame hpiece⟩
    rw [← hnew, latest_append fun frame hmem heq => hfresh frame hmem station id hid heq.symm]
    exact hlatest
  · exact hcame (h.acks packet (hacks.subset hmem))
  · rcases hfinished f hf with hold | hne | hto
    · exact hcame (h.acked f hold heq)
    · exact absurd heq hne
    · exact hcame hto

theorem Received.answer {address : MacAddress} {o : Originator β} {flight : List (Packet β)}
    {r r' : Recipient β} {seen : Nat} {pending : BasicReassembly.Key → List (Mpdu β)}
    {order : List Nat} (h : Received address o station (packet :: flight) r seen pending order)
    (hcached : ∀ id, r.lastSeenSeqNumCache.find? address = some id →
      ∃ m frame, latest o.extracted id.sequenceNumber = some (m, frame) ∧
        Came o.extracted pending order m id.fragmentNumber)
    (hforUs : isForUs station packet.frame.header = true)
    (hreceived : r.dataOrMgmtFrameReceived packet.frame = .ok r') :
    ∃ seen' pending' order', Received address o station flight r' seen' pending' order' ∧
      (∀ m fragment, Came o.extracted pending order m fragment →
        Came o.extracted pending' order' m fragment) ∧
      (∀ id, r'.lastSeenSeqNumCache.find? address = some id →
        ∃ m frame, latest o.extracted id.sequenceNumber = some (m, frame) ∧
          Came o.extracted pending' order' m id.fragmentNumber) ∧
      Came o.extracted pending' order' packet.msdu packet.frame.fragmentNumber := by
  have hknown := h.known packet List.mem_cons_self
  obtain ⟨hlt, -⟩ := hknown.place_lt
  obtain ⟨whole, fragmentSizes, hlatest, -⟩ := hknown
  obtain ⟨hget, hnumber⟩ := getElem?_of_latest hlatest
  obtain ⟨seen', pending', order', hnew, hcame, hlast⟩ := h.receive hforUs hreceived
  refine ⟨seen', pending', order', hnew, hcame, ?_⟩
  rcases hlast with ⟨-, rfl, hcache⟩ | ⟨hseen, hself⟩
  · refine ⟨fun id hid => ?_, ?_⟩
    · obtain ⟨m, frame, hm, hpiece⟩ := hcached id hid
      exact ⟨m, frame, hm, hcame m _ hpiece⟩
    · obtain ⟨m, frame, hm, hpiece⟩ := hcached _ hcache
      obtain rfl : packet.msdu = m := congrArg Prod.fst (Option.some.inj (hlatest.symm.trans hm))
      exact hcame _ _ hpiece
  · refine ⟨fun id hid => ?_, hself⟩
    rcases hnew.cached with hzero | ⟨m, fragment, frame, heq, hfragment, hm, hcache, -⟩
    · omega
    · unfold Packet.place at hseen
      unfold MAX_NUM_FRAGMENTS at hseen heq hfragment hlt
      obtain rfl : m = packet.msdu := by omega
      obtain rfl : fragment = packet.frame.fragmentNumber := by omega
      rw [hget] at hm
      obtain rfl := Option.some.inj hm
      rw [hcache] at hid
      obtain rfl := Option.some.inj hid
      refine ⟨packet.msdu, (whole, fragmentSizes), ?_, hself⟩
      dsimp only at hnumber ⊢
      rw [hnumber]
      exact hlatest

theorem Answered.update (h : Answered p s seen pending order) {flight : List (Packet β)}
    {r : Recipient β} {seen' : Nat} {pending' : BasicReassembly.Key → List (Mpdu β)}
    {order' : List Nat} (horiginator : s'.originator = s.originator)
    (hflight : s'.flight = Function.update s.flight station flight)
    (hrecipients : s'.recipients = Function.update s.recipients station r)
    (hreceived : Received p.address s.originator station flight r seen' pending' order')
    (hcame : ∀ m fragment, Came s.originator.extracted (pending station) (order station) m fragment →
      Came s.originator.extracted pending' order' m fragment)
    (hcached : ∀ id, r.lastSeenSeqNumCache.find? p.address = some id →
      ∃ m frame, latest s.originator.extracted id.sequenceNumber = some (m, frame) ∧
        Came s.originator.extracted pending' order' m id.fragmentNumber)
    (hacks : ∀ packet ∈ s'.acks, packet ∈ s.acks ∨
      packet.frame.header.receiverAddress = station ∧
        Came s.originator.extracted pending' order' packet.msdu packet.frame.fragmentNumber) :
    Answered p s' (Function.update seen station seen') (Function.update pending station pending')
      (Function.update order station order') := by
  have hto : ∀ {station' m fragment},
      Came s.originator.extracted (pending station') (order station') m fragment →
        Came s'.originator.extracted (Function.update pending station pending' station')
          (Function.update order station order' station') m fragment := by
    intro station' m fragment hpiece
    rw [horiginator]
    rcases eq_or_ne station' station with rfl | hne
    · rw [Function.update_self, Function.update_self]
      exact hcame m fragment hpiece
    · rwa [Function.update_of_ne hne, Function.update_of_ne hne]
  refine ⟨fun station' => ?_, fun station' id hid => ?_, fun packet hmem => ?_,
    fun f hf heq => hto (h.acked f (horiginator ▸ hf) heq)⟩
  · rw [horiginator, hflight, hrecipients]
    rcases eq_or_ne station' station with rfl | hne
    · simp only [Function.update_self]
      exact hreceived
    · simp only [Function.update_of_ne hne]
      exact h.received station'
  · rw [hrecipients] at hid
    rw [horiginator]
    rcases eq_or_ne station' station with rfl | hne
    · simp only [Function.update_self] at hid ⊢
      exact hcached id hid
    · simp only [Function.update_of_ne hne] at hid ⊢
      exact h.cached station' id hid
  · rcases hacks packet hmem with hold | ⟨rfl, hpiece⟩
    · exact hto (h.acks packet hold)
    · unfold CameTo
      rw [horiginator, Function.update_self, Function.update_self]
      exact hpiece

/-- What is known in any state of a run whose steps are prompt. -/
structure Answers (p : DcfParams) (s : Exchange β) : Prop where
  sound : s.originator.Sound p
  underWay : s.UnderWay p
  answered : ∃ seen pending order, Answered p s seen pending order

theorem Answers.initial (p : DcfParams) (cw : Nat) :
    Answers p ({ originator := { cw := cw } } : Exchange β) where
  sound := .initial p cw
  underWay := .of_quiet ⟨rfl, nofun⟩
  answered := ⟨_, _, _, .initial p cw⟩

theorem Answered.lose (h : Answered p s seen pending order) {flight : List (Packet β)}
    (hflight : s.flight station = packet :: flight) :
    ({ s with flight := Function.update s.flight station flight } : Exchange β).Answered p
      seen pending order := by
  have hreceived := h.received station
  rw [hflight] at hreceived
  have hupdate := @Answered.update β p s
    { s with flight := Function.update s.flight station flight } station seen pending order h flight
    (s.recipients station) _ _ _ rfl rfl (Function.update_eq_self _ _).symm hreceived.lose
    (fun _ _ hcame => hcame) (h.cached station) fun packet' hmem => .inl hmem
  rwa [Function.update_eq_self, Function.update_eq_self, Function.update_eq_self] at hupdate

/-- A copy arrives: if the station acknowledges it, the fragment has come. -/
theorem Answers.arrive (h : s.Answers p) (hunderWay : s'.UnderWay p)
    (hstep : s.step p (.arrive station) = .ok s') : s'.Answers p := by
  obtain ⟨seen, pending, order, hanswered⟩ := h.answered
  unfold Exchange.step at hstep
  dsimp only at hstep
  split at hstep
  · cases hstep
  · rename_i packet rest hflight
    unfold receive at hstep
    split at hstep
    · rename_i hforUs
      obtain ⟨recipient, hrecipient, rfl⟩ := map_ok_inv hstep
      have hreceived := hanswered.received station
      rw [hflight] at hreceived
      obtain ⟨seen', pending', order', hafter, hcame, hcached, hself⟩ :=
        hreceived.answer (hanswered.cached station) hforUs hrecipient
      refine ⟨h.sound, hunderWay, _, _, _,
        hanswered.update rfl rfl rfl hafter hcame hcached fun packet' hmem => ?_⟩
      cases hmulticast : packet.frame.header.receiverAddress.isMulticast with
      | true =>
          rw [hmulticast] at hmem
          exact .inl hmem
      | false =>
          rw [hmulticast] at hmem
          rcases List.mem_append.mp hmem with hold | hlast
          · exact .inl hold
          · obtain rfl := List.mem_singleton.mp hlast
            exact .inr ⟨((alone_iff hforUs).mpr hmulticast).1, hself⟩
    · obtain rfl := Except.ok.inj hstep
      exact ⟨h.sound, hunderWay, _, _, _, hanswered.lose hflight⟩

/-- What a station has seen last of the originator stays when another one transmits. -/
theorem Answers.foreign (h : s.Answers p) {frame : Mpdu β} (hunderWay : s'.UnderWay p)
    (hother : frame.header.transmitterAddress ≠ p.address)
    (hstep : s.step p (.foreign station frame) = .ok s') : s'.Answers p := by
  obtain ⟨seen, pending, order, hanswered⟩ := h.answered
  obtain ⟨recipient, hrecipient, rfl⟩ := map_ok_inv hstep
  have hreceived := (hanswered.received station).foreign hother hrecipient
  have hcache : ∀ id, recipient.lastSeenSeqNumCache.find? p.address = some id →
      (s.recipients station).lastSeenSeqNumCache.find? p.address = some id := by
    intro id hid
    obtain ⟨-, ⟨-, -, rfl⟩ | ⟨-, fragmentsMap, output, -, rfl⟩⟩ :=
      Recipient.dataOrMgmtFrameReceived_cases hrecipient
    · exact hid
    · dsimp only at hid
      rwa [OrderedMap.find?_insert_ne (Ne.symm hother)] at hid
  exact ⟨h.sound, hunderWay, _, _, _, hanswered.update rfl
    (Function.update_eq_self _ _).symm rfl hreceived (fun _ _ hcame => hcame)
    (fun id hid => hanswered.cached station id (hcache id hid)) fun packet' hmem => .inl hmem⟩

theorem Answers.step (h : s.Answers p) {e : Event β} (hadmissible : s.Admissible p e)
    (hfresh : s.Fresh p e) (hprompt : s.prompt e = true) (hstep : s.step p e = .ok s') :
    s'.Answers p := by
  obtain ⟨hnumbers, hothers⟩ := hadmissible
  have hfree := hnumbers s' hstep
  have hnew := hfresh s' hstep
  have hunderWay := h.underWay.step h.sound hprompt hstep
  obtain ⟨seen, pending, order, hanswered⟩ := h.answered
  cases e with
  | originator event =>
      obtain ⟨o', hchange, rfl⟩ := originator_step hstep
      obtain ⟨hsound, hcontinues⟩ := h.sound.step hchange
      obtain ⟨-, hne⟩ := h.underWay.originator hprompt hstep
      refine ⟨hsound, hunderWay, seen, pending, order, hanswered.originator hcontinues.extracted
        (fun station => (hanswered.received station).originator hcontinues
          fun frame hmem => hfree frame hmem station)
        rfl (List.Sublist.refl _) hfree hnew fun f hf => ?_⟩
      exact (h.sound.unacknowledged hne hchange f hf).imp id .inl
  | transmitted hearers =>
      obtain ⟨o', hdone, rfl⟩ := map_ok_inv hstep
      obtain ⟨hsound, hcontinues, -⟩ := transmissionComplete_spec h.sound hdone
      refine ⟨hsound, hunderWay, seen, pending, order, hanswered.originator hcontinues.extracted
        (fun station => (hanswered.received station).transmitted h.sound hdone
          (fun frame hmem => hfree frame hmem station) (hearers station))
        rfl (List.Sublist.refl _) hfree hnew fun f hf => ?_⟩
      have hne : (Originator.Event.transmissionComplete : Originator.Event β) ≠
        .lowerFrame true .ACK := nofun
      exact (h.sound.unacknowledged hne hdone f hf).imp id .inl
  | arrive station => exact h.arrive hunderWay hstep
  | lose station =>
      unfold Exchange.step at hstep
      dsimp only at hstep
      split at hstep
      · cases hstep
      · rename_i packet rest hflight
        obtain rfl := Except.ok.inj hstep
        exact ⟨h.sound, hunderWay, _, _, _, hanswered.lose hflight⟩
  | ack =>
      unfold Exchange.step at hstep
      dsimp only at hstep
      split at hstep
      · cases hstep
      · rename_i packet rest hacks
        obtain ⟨o', hlower, rfl⟩ := map_ok_inv hstep
        obtain ⟨hsound, hcontinues⟩ := h.sound.processLowerFrame hlower
        obtain ⟨awaited, last, hsequence, rfl, -⟩ := h.underWay.of_ack hacks
        refine ⟨hsound, hunderWay, seen, pending, order, hanswered.originator hcontinues.extracted
          (fun station => (hanswered.received station).originator hcontinues
            fun frame hmem => hfree frame hmem station)
          rfl (hacks ▸ List.sublist_cons_self _ _) hfree hnew fun f hf => ?_⟩
        rw [h.sound.acknowledges hsequence hlower] at hf
        rcases List.mem_append.mp hf with hold | hlast
        · exact .inl hold
        · rw [List.mem_singleton.mp hlast]
          have hto := hanswered.acks (copyOf p awaited) (hacks ▸ List.mem_cons_self)
          exact .inr (.inr hto)
  | loseAck =>
      unfold Exchange.step at hstep
      dsimp only at hstep
      split at hstep
      · cases hstep
      · rename_i packet rest hacks
        obtain rfl := Except.ok.inj hstep
        exact ⟨h.sound, hunderWay, seen, pending, order, hanswered.received, hanswered.cached,
          fun packet' hmem => hanswered.acks packet' (hacks ▸ List.mem_cons_of_mem _ hmem),
          hanswered.acked⟩
  | foreign station frame => exact h.foreign hunderWay (hothers station frame rfl) hstep

/-- A frame whose fragments all came was sent up: otherwise they would still wait for each
other. -/
theorem Received.mem_order {address : MacAddress} {o : Originator β} {flight : List (Packet β)}
    {r : Recipient β} {seen : Nat} {pending : BasicReassembly.Key → List (Mpdu β)}
    {order : List Nat} (h : Received address o station flight r seen pending order) {m : Nat}
    {frame : Mpdu β × List Nat} (hget : o.extracted[m]? = some frame)
    (hframe : Extracted frame.1 frame.2)
    (hcame : ∀ k < (fragments frame.1 frame.2).length, Came o.extracted pending order m k) :
    m ∈ order := by
  by_contra hnot
  have hwaits : ∀ k < (fragments frame.1 frame.2).length,
      latest o.extracted frame.1.sequenceNumber = some (m, frame) ∧
        ∃ piece ∈ pending ⟨address, -1, frame.1.sequenceNumber⟩, piece.fragmentNumber = k := by
    intro k hk
    obtain ⟨key, frame', hlatest, piece, hpiece⟩ := (hcame k hk).resolve_left hnot
    obtain ⟨hget', hnumber⟩ := getElem?_of_latest hlatest
    obtain rfl := Option.some.inj (hget.symm.trans hget')
    obtain ⟨hkey, -⟩ := h.key_eq (List.ne_nil_of_mem hpiece.1)
    rw [← hnumber] at hlatest hkey
    exact ⟨hlatest, piece, hkey ▸ hpiece.1, hpiece.2⟩
  have hpos : 0 < (fragments frame.1 frame.2).length := length_fragments_pos hframe.broken
  obtain ⟨hlatest, piece, hpiece, -⟩ := hwaits 0 hpos
  refine h.entries.incomplete ⟨address, -1, frame.1.sequenceNumber⟩ (List.ne_nil_of_mem hpiece) ?_
  change BasicReassembly.Complete _ _ _
  rw [@sent_of_latest β address o.extracted ⟨address, -1, frame.1.sequenceNumber⟩ _ _ _ hlatest]
  intro k hk
  rw [fragments_sentBy, List.length_map] at hk
  exact (hwaits k hk).2

/-- In any run with numbers that are free and not cached, in which the timers of the originator
and other receptions come only when neither a copy of the packet that waits for its
acknowledgement nor the acknowledgement is on its way, the frames all of whose fragments were
acknowledged were sent up by their receiver, in order. -/
theorem acknowledged_sublist_delivered {cw : Nat} {events : List (Event β)}
    (halong : Along (step p) (fun s e => s.Admissible p e ∧ s.Fresh p e ∧ s.prompt e = true)
      { originator := { cw := cw } } events)
    (hrun : run (step p) { originator := { cw := cw } } events = .ok s) (station : MacAddress) :
    ((s.originator.extracted.zipIdx.filter fun frame =>
        s.originator.acknowledged frame.2 frame.1 ∧
          frame.1.1.header.receiverAddress = station).map
        fun frame => frame.1.1.sentBy p.address).Sublist
      ((s.recipients station).deliveredFrom p.address) := by
  have hanswers : s.Answers p := run_invariant
    (fun s e s' h hguard hstep => h.step hguard.1 hguard.2.1 hguard.2.2 hstep) (.initial p cw)
    halong hrun
  obtain ⟨seen, pending, order, h⟩ := hanswers.answered
  have hreceived := h.received station
  have hsent : ∀ m frame, s.originator.extracted[m]? = some frame →
      s.originator.acknowledged m frame = true → frame.1.header.receiverAddress = station →
        m ∈ order station := by
    intro m frame hget hacknowledged hstation
    have hframe := hanswers.sound.inv.frames frame (List.mem_of_getElem? hget)
    have hfragment : ∀ k < (fragments frame.1 frame.2).length,
        Came s.originator.extracted (pending station) (order station) m k := by
      intro k hk
      have hany := List.all_eq_true.mp hacknowledged k (List.mem_range.mpr hk)
      obtain ⟨f, hf, hmatch⟩ := List.any_eq_true.mp hany
      obtain ⟨houtcome, rfl, rfl⟩ := of_decide_eq_true hmatch
      have hto := h.acked f hf houtcome
      unfold CameTo at hto
      rwa [hanswers.sound.inv.finished_header hf hget, hstation] at hto
    exact hreceived.mem_order hget hframe hfragment
  rw [hreceived.delivered]
  generalize hlist : (s.originator.extracted.zipIdx.filter fun frame =>
    s.originator.acknowledged frame.2 frame.1 ∧
      frame.1.1.header.receiverAddress = station) = acknowledged
  have hmem : ∀ frame ∈ acknowledged, s.originator.extracted[frame.2]? = some frame.1 ∧
      frame.2 ∈ order station := by
    intro frame hframe
    rw [← hlist] at hframe
    obtain ⟨hzip, hmatch⟩ := List.mem_filter.mp hframe
    have hget := List.mk_mem_zipIdx_iff_getElem?.mp hzip
    obtain ⟨hacknowledged, hstation⟩ := of_decide_eq_true hmatch
    exact ⟨hget, hsent frame.2 frame.1 hget hacknowledged hstation⟩
  have hnumbers : (acknowledged.map Prod.snd).Sublist (order station) := by
    have hsorted : (acknowledged.map Prod.snd).Pairwise (· < ·) := by
      rw [← hlist]
      refine List.Pairwise.sublist (List.Sublist.map _ List.filter_sublist) ?_
      rw [List.zipIdx_map_snd]
      exact List.pairwise_lt_range'
    refine List.sublist_of_subperm_of_pairwise (List.subperm_of_subset ?_ fun m hm => ?_) hsorted
      hreceived.sorted
    · exact hsorted.imp Nat.ne_of_lt
    · obtain ⟨frame, hframe, rfl⟩ := List.mem_map.mp hm
      exact (hmem frame hframe).2
  have hframes : acknowledged.map (fun frame => frame.1.1.sentBy p.address) =
      (acknowledged.map Prod.snd).filterMap fun m =>
        s.originator.extracted[m]?.map fun frame => frame.1.sentBy p.address := by
    rw [List.filterMap_map, ← List.filterMap_eq_map]
    refine List.filterMap_congr fun frame hframe => ?_
    rw [Function.comp_apply, Function.comp_apply, (hmem frame hframe).1]
    rfl
  rw [hframes]
  exact hnumbers.filterMap _

theorem fresh_of_takesNothing {e : Event β} (h : takesNothing p s e = true) : s.Fresh p e := by
  obtain ⟨hstep, -⟩ := Bool.and_eq_true_iff.mp h
  intro s' heq frame hmem
  rw [heq] at hstep
  rw [List.drop_of_length_le (of_decide_eq_true hstep)] at hmem
  cases hmem

/-- Both fragments are acknowledged, the first one the second time it is sent. -/
theorem acknowledged_sublist_delivered_retransmission :
    ∃ s, run (step fragmenting) { originator := { cw := 15 } } retransmission = .ok s ∧
      (s.originator.extracted.zipIdx.map fun frame =>
        s.originator.acknowledged frame.2 frame.1) = [true] ∧
      ((s.originator.extracted.zipIdx.filter fun frame =>
          s.originator.acknowledged frame.2 frame.1 ∧ frame.1.1.header.receiverAddress = 2).map
        fun frame => frame.1.1.sentBy 1).Sublist ((s.recipients 2).deliveredFrom 1) := by
  obtain ⟨s, hrun, hacknowledged⟩ : ∃ s,
      run (step fragmenting) { originator := { cw := 15 } } retransmission = .ok s ∧
        (s.originator.extracted.zipIdx.map fun frame =>
          s.originator.acknowledged frame.2 frame.1) = [true] := exists_of_run_map (by decide)
  refine ⟨s, hrun, hacknowledged, acknowledged_sublist_delivered ?_ hrun 2⟩
  refine ⟨⟨admissible_of_takesNothing (by decide), fresh_of_takesNothing (by decide), rfl⟩,
    fun s₁ h₁ => ?_⟩
  obtain rfl := Except.ok.inj h₁
  refine ⟨⟨⟨fun _ _ _ _ _ => ⟨nofun, rfl⟩, nofun⟩, fun _ _ _ _ _ _ hid => ?_, rfl⟩,
    fun s₂ h₂ => ?_⟩
  · exact absurd hid (Option.not_mem_none _)
  obtain rfl := Except.ok.inj h₂
  exact @Along.mono _ _ _ _ (fun s e => takesNothing fragmenting s e = true ∧ s.prompt e = true) _
    (fun s e h => ⟨admissible_of_takesNothing h.1, fresh_of_takesNothing h.1, h.2⟩) _ _ (by decide)

end

end Exchange

end MultiTechBus.Ieee80211
