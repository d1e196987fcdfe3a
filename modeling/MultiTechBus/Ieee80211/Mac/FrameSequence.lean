import MultiTechBus.Ieee80211.Mac.Attempts

/-! # Steps of frame sequences

Whatever a step of the frame sequence comes to, the sequence is about the first packet in
progress: it is sent, it is acknowledged or given up and ceases to be in progress, or it
stays and is marked as a retransmission.
-/

namespace MultiTechBus.Ieee80211

open MultiTechBus.Library

variable {β : Type*}

namespace Originator

/-- The status of a packet after it was transmitted. -/
def sentStatus (frame : Mpdu β) : AckHandler.Status :=
  if frame.isMgmt then .NO_ACK_REQUIRED else .WAITING_FOR_ACK

/-- The frame sequence is about the first packet in progress. -/
def InSequence (p : DcfParams) (o : Originator β) : Prop :=
  match o.frameSequence with
  | .none => o.Ready
  | .rts packet =>
      o.inProgressFrames.head? = some packet ∧ o.Ready ∧ isLong p packet.frame = true ∧
        packet.frame.header.receiverAddress.isMulticast = false
  | .cts packet =>
      o.inProgressFrames.head? = some packet ∧ o.Ready ∧ isLong p packet.frame = true ∧
        packet.frame.header.receiverAddress.isMulticast = false
  | .group packet =>
      o.inProgressFrames.head? = some packet ∧ o.Ready ∧
        packet.frame.header.receiverAddress.isMulticast = true
  | .data packet last =>
      o.inProgressFrames.head? = some packet ∧ o.Ready ∧
        packet.frame.header.receiverAddress.isMulticast = false ∧
        last = !packet.frame.moreFragments
  | .ack packet last =>
      o.inProgressFrames.head? = some packet ∧
        (∀ packet' ∈ o.inProgressFrames.tail, o.isEligibleToTransmit packet'.frame = true) ∧
        packet.frame.header.receiverAddress.isMulticast = false ∧
        last = (!packet.frame.moreFragments) ∧ o.getAckStatus packet.frame = sentStatus packet.frame

structure Sound (p : DcfParams) (o : Originator β) : Prop where
  inv : o.Inv
  sequence : o.InSequence p
  attempts : o.Attempts p

/-- A packet in progress was not in the queue before, or it was in progress, and if it was
marked as a retransmission or awaited it still is. -/
structure Continues (o o' : Originator β) : Prop where
  extracted : o.extracted <+: o'.extracted
  inProgress : ∀ packet' ∈ o'.inProgressFrames, o.extracted.length ≤ packet'.msdu ∨
    ∃ packet ∈ o.inProgressFrames, packet.same packet' = true ∧
      (packet.frame.retry = true ∨ o.awaits packet = true →
        packet'.frame.retry = true ∨ o'.awaits packet' = true)

theorem Sound.initial (p : DcfParams) (cw : Nat) : Sound p ({ cw := cw } : Originator β) where
  inv := .initial cw
  sequence := (nofun : ∀ packet ∈ [], _)
  attempts := .initial p cw

section

variable {p : DcfParams} {o o' o'' : Originator β} {packet : Packet β} {rest : List (Packet β)}

theorem Continues.refl (o : Originator β) : Continues o o where
  extracted := List.prefix_rfl
  inProgress := fun packet hmem => .inr ⟨packet, hmem, Packet.same_self packet, id⟩

theorem Continues.trans (h : Continues o o') (h' : Continues o' o'') : Continues o o'' where
  extracted := h.extracted.trans h'.extracted
  inProgress := by
    intro packet'' hmem
    rcases h'.inProgress packet'' hmem with hnew | ⟨packet', hpacket', hsame', hkept'⟩
    · exact .inl (h.extracted.length_le.trans hnew)
    · obtain ⟨hmsdu', hnumber'⟩ := of_decide_eq_true hsame'
      rcases h.inProgress packet' hpacket' with hnew | ⟨packet, hpacket, hsame, hkept⟩
      · exact .inl (hmsdu' ▸ hnew)
      · obtain ⟨hmsdu, hnumber⟩ := of_decide_eq_true hsame
        exact .inr ⟨packet, hpacket,
          decide_eq_true ⟨hmsdu.trans hmsdu', hnumber.trans hnumber'⟩,
          fun hretry => hkept' (hkept hretry)⟩

theorem Extends.continues (h : Extends o o') : Continues o o' := by
  obtain ⟨packets, hpackets, hnew⟩ := h.inProgress
  refine ⟨h.extracted, fun packet hmem => ?_⟩
  rw [hpackets] at hmem
  rcases List.mem_append.mp hmem with hold | hlater
  · refine .inr ⟨packet, hold, Packet.same_self packet, ?_⟩
    unfold awaits
    rw [h.frameSequence]
    exact id
  · exact .inl (hnew packet hlater)

theorem Extends.head?_eq (h : Extends o o') (hhead : o.inProgressFrames.head? = some packet) :
    o'.inProgressFrames.head? = some packet := by
  obtain ⟨packets, hpackets, -⟩ := h.inProgress
  rw [hpackets, List.head?_append, hhead]
  rfl

/-! ## Counters -/

structure CountsOnly (o o' : Originator β) : Prop where
  pendingQueue : o'.pendingQueue = o.pendingQueue
  lastSeqNum : o'.lastSeqNum = o.lastSeqNum
  inProgressFrames : o'.inProgressFrames = o.inProgressFrames
  ackStatuses : o'.ackStatuses = o.ackStatuses
  frameSequence : o'.frameSequence = o.frameSequence
  extracted : o'.extracted = o.extracted
  finished : o'.finished = o.finished
  transmitted : o'.transmitted = o.transmitted

theorem incrementStationSrc_spec (p : DcfParams) (o : Originator β) :
    CountsOnly o (o.incrementStationSrc p) ∧
      (o.incrementStationSrc p).shortRetryCounter = o.shortRetryCounter ∧
      (o.incrementStationSrc p).longRetryCounter = o.longRetryCounter := by
  unfold incrementStationSrc
  dsimp only
  split
  · exact ⟨⟨rfl, rfl, rfl, rfl, rfl, rfl, rfl, rfl⟩, rfl, rfl⟩
  · exact ⟨⟨rfl, rfl, rfl, rfl, rfl, rfl, rfl, rfl⟩, rfl, rfl⟩

theorem incrementStationLrc_spec (p : DcfParams) (o : Originator β) :
    CountsOnly o (o.incrementStationLrc p) ∧
      (o.incrementStationLrc p).shortRetryCounter = o.shortRetryCounter ∧
      (o.incrementStationLrc p).longRetryCounter = o.longRetryCounter := by
  unfold incrementStationLrc
  dsimp only
  split
  · exact ⟨⟨rfl, rfl, rfl, rfl, rfl, rfl, rfl, rfl⟩, rfl, rfl⟩
  · exact ⟨⟨rfl, rfl, rfl, rfl, rfl, rfl, rfl, rfl⟩, rfl, rfl⟩

theorem getRc_incrementCounter_self (frame : Mpdu β)
    (retryCounter : OrderedMap SequenceControlField Nat) :
    getRc frame (incrementCounter frame retryCounter) = getRc frame retryCounter + 1 := by
  rw [getRc, incrementCounter, OrderedMap.find?_insert_self]
  rfl

theorem getRc_incrementCounter_ne {frame frame' : Mpdu β}
    (hne : frame'.sequenceControl ≠ frame.sequenceControl)
    (retryCounter : OrderedMap SequenceControlField Nat) :
    getRc frame' (incrementCounter frame retryCounter) = getRc frame' retryCounter := by
  rw [getRc, incrementCounter, OrderedMap.find?_insert_ne hne]
  rfl

theorem getRc_erase_ne {frame frame' : Mpdu β}
    (hne : frame'.sequenceControl ≠ frame.sequenceControl)
    (retryCounter : OrderedMap SequenceControlField Nat) :
    getRc frame' (retryCounter.erase frame.sequenceControl) = getRc frame' retryCounter := by
  rw [getRc, OrderedMap.find?_erase, if_neg hne]
  rfl

theorem dataOrMgmtFrameTransmissionFailed_spec (p : DcfParams) (o : Originator β)
    (frame : Mpdu β) :
    CountsOnly o (o.dataOrMgmtFrameTransmissionFailed p frame) ∧
      (o.dataOrMgmtFrameTransmissionFailed p frame).getRetryCount p frame =
        o.getRetryCount p frame + 1 ∧
      ∀ frame' : Mpdu β, frame'.sequenceControl ≠ frame.sequenceControl →
        (o.dataOrMgmtFrameTransmissionFailed p frame).getRetryCount p frame' =
          o.getRetryCount p frame' := by
  unfold dataOrMgmtFrameTransmissionFailed getRetryCount
  split
  · obtain ⟨h, hshort, hlong⟩ := incrementStationLrc_spec p o
    refine ⟨⟨h.1, h.2, h.3, h.4, h.5, h.6, h.7, h.8⟩, ?_, fun frame' hne => ?_⟩
    · dsimp only
      rw [hlong]
      exact getRc_incrementCounter_self _ _
    · dsimp only
      rw [getRc_incrementCounter_ne hne, hlong, hshort]
  · obtain ⟨h, hshort, hlong⟩ := incrementStationSrc_spec p o
    refine ⟨⟨h.1, h.2, h.3, h.4, h.5, h.6, h.7, h.8⟩, ?_, fun frame' hne => ?_⟩
    · dsimp only
      rw [hshort]
      exact getRc_incrementCounter_self _ _
    · dsimp only
      rw [getRc_incrementCounter_ne hne, hlong, hshort]

/-- A failed RTS frame is not counted as a failure of the packet that it protects. -/
theorem rtsFrameTransmissionFailed_spec (p : DcfParams) (o : Originator β) {frame : Mpdu β}
    (hlong : isLong p frame = true) :
    CountsOnly o (o.rtsFrameTransmissionFailed p frame) ∧
      (o.rtsFrameTransmissionFailed p frame).getRetryCount p frame = o.getRetryCount p frame ∧
      ∀ frame' : Mpdu β, frame'.sequenceControl ≠ frame.sequenceControl →
        (o.rtsFrameTransmissionFailed p frame).getRetryCount p frame' =
          o.getRetryCount p frame' := by
  unfold rtsFrameTransmissionFailed getRetryCount
  obtain ⟨h, hshort, hlong'⟩ := incrementStationSrc_spec p o
  refine ⟨⟨h.1, h.2, h.3, h.4, h.5, h.6, h.7, h.8⟩, ?_, fun frame' hne => ?_⟩
  · dsimp only
    rw [if_pos hlong, if_pos hlong, hlong']
  · dsimp only
    rw [getRc_incrementCounter_ne hne, hlong', hshort]

theorem eraseCounter_spec (p : DcfParams) (o : Originator β) (frame : Mpdu β) :
    CountsOnly o (o.eraseCounter p frame) ∧
      ∀ frame' : Mpdu β, frame'.sequenceControl ≠ frame.sequenceControl →
        (o.eraseCounter p frame).getRetryCount p frame' = o.getRetryCount p frame' := by
  unfold eraseCounter getRetryCount
  split
  · exact ⟨⟨rfl, rfl, rfl, rfl, rfl, rfl, rfl, rfl⟩,
      fun frame' hne => by simp only [getRc_erase_ne hne]⟩
  · exact ⟨⟨rfl, rfl, rfl, rfl, rfl, rfl, rfl, rfl⟩,
      fun frame' hne => by simp only [getRc_erase_ne hne]⟩

/-! ## What becomes of the first packet -/

theorem isEligibleToTransmit_congr {frame : Mpdu β}
    (h : o'.ackStatuses.find? frame.sequenceControl = o.ackStatuses.find? frame.sequenceControl) :
    o'.isEligibleToTransmit frame = o.isEligibleToTransmit frame := by
  unfold isEligibleToTransmit getAckStatus
  rw [h]

/-- Between two steps of a frame sequence. -/
structure Between (p : DcfParams) (o o' : Originator β) : Prop where
  inv : o'.Inv
  ready : o'.Ready
  attempts : o'.Attempts p
  continues : Continues o o'

theorem Between.sound (h : Between p o o') (hsequence : o'.frameSequence = .none) : o'.Sound p := by
  refine ⟨h.inv, ?_, h.attempts⟩
  unfold InSequence
  rw [hsequence]
  exact h.ready

theorem Between.drop (hinv : o.Inv) (hattempts : o.Attempts p)
    (hlist : o.inProgressFrames = packet :: rest)
    (hrest : ∀ packet' ∈ rest, o.isEligibleToTransmit packet'.frame = true)
    (hextracted : o'.extracted = o.extracted) (hlast : o'.lastSeqNum = o.lastSeqNum)
    (hqueue : o'.pendingQueue = o.pendingQueue)
    (hprogress : o'.inProgressFrames = o.inProgressFrames.filter fun packet' =>
      !packet'.same packet)
    (hfinished : ∃ outcome, o'.finished = o.finished ++ [(packet, outcome)])
    (hstatuses : ∀ id, id ≠ packet.frame.sequenceControl →
      o'.ackStatuses.find? id = o.ackStatuses.find? id)
    (hcounts : ∀ frame' : Mpdu β, frame'.sequenceControl ≠ packet.frame.sequenceControl →
      o'.getRetryCount p frame' = o.getRetryCount p frame')
    (htransmitted : o'.transmitted = o.transmitted ∨ o'.transmitted = o.transmitted ++ [packet])
    (htries : o'.tries packet ≤ max 1 (retryLimit p packet.frame))
    (hawaits : ∀ packet' ∈ rest, o'.awaits packet' = false ∧ o.awaits packet' = false)
    (hawaited : ∀ packet' last, o'.frameSequence = .ack packet' last → packet' = packet) :
    Between p o o' := by
  rw [hinv.filter_same hlist] at hprogress
  have hothers := hinv.ne_first hlist
  obtain ⟨outcome, hfinished⟩ := hfinished
  refine ⟨hinv.congr hextracted hlast hqueue ?_ fun packet' hmem => ⟨packet', ?_, rfl⟩,
    fun packet' hmem => ?_, hattempts.first hinv hlist hextracted htransmitted
      (fun packet' hmem => hcounts packet'.frame (hothers packet' hmem).2) hawaits hawaited
      (.inl ⟨hprogress, outcome, hfinished, htries⟩), ?_, fun packet' hmem => ?_⟩
  · rw [hfinished, hprogress, hlist]
    simp
  · rw [hprogress] at hmem
    rw [hlist]
    exact List.mem_cons_of_mem _ hmem
  · rw [hprogress] at hmem
    rw [isEligibleToTransmit_congr (hstatuses _ (hothers packet' hmem).2)]
    exact hrest packet' hmem
  · rw [hextracted]
  · rw [hprogress] at hmem
    refine .inr ⟨packet', hlist ▸ List.mem_cons_of_mem _ hmem, Packet.same_self packet', ?_⟩
    rw [(hawaits packet' hmem).1, (hawaits packet' hmem).2]
    exact id

theorem Between.keep {packet' : Packet β} (hinv : o.Inv) (hattempts : o.Attempts p)
    (hlist : o.inProgressFrames = packet :: rest)
    (hrest : ∀ packet' ∈ rest, o.isEligibleToTransmit packet'.frame = true)
    (hextracted : o'.extracted = o.extracted) (hlast : o'.lastSeqNum = o.lastSeqNum)
    (hqueue : o'.pendingQueue = o.pendingQueue)
    (hprogress : o'.inProgressFrames = packet' :: rest)
    (hsame : packet'.unretried = packet.unretried)
    (hfinished : o'.finished = o.finished)
    (hstatus : o'.isEligibleToTransmit packet'.frame = true)
    (hstatuses : ∀ id, id ≠ packet.frame.sequenceControl →
      o'.ackStatuses.find? id = o.ackStatuses.find? id)
    (hcounts : ∀ frame' : Mpdu β, frame'.sequenceControl ≠ packet.frame.sequenceControl →
      o'.getRetryCount p frame' = o.getRetryCount p frame')
    (htransmitted : o'.transmitted = o.transmitted) (hcounted : o'.Counted p packet')
    (hawaits : ∀ packet' ∈ rest, o'.awaits packet' = false ∧ o.awaits packet' = false)
    (hawaited : ∀ packet' last, o'.frameSequence = .ack packet' last → packet' = packet)
    (hretry : packet.frame.retry = true ∨ o.awaits packet = true →
      packet'.frame.retry = true ∨ o'.awaits packet' = true) : Between p o o' := by
  have hothers := hinv.ne_first hlist
  obtain ⟨hmsdu, hnumber⟩ := Packet.eq_of_unretried hsame
  refine ⟨hinv.congr hextracted hlast hqueue ?_ fun q hmem => ?_, fun q hmem => ?_,
    hattempts.first hinv hlist hextracted (.inl htransmitted)
      (fun q hmem => hcounts q.frame (hothers q hmem).2) hawaits hawaited
      (.inr ⟨packet', hprogress, hfinished, hcounted⟩), ?_, fun q hmem => ?_⟩
  · rw [hfinished, hprogress, hlist, List.map_cons, List.map_cons, hsame]
  · rw [hprogress] at hmem
    rw [hlist]
    rcases List.mem_cons.mp hmem with rfl | hmem
    · exact ⟨packet, List.mem_cons_self, hmsdu.symm⟩
    · exact ⟨q, List.mem_cons_of_mem _ hmem, rfl⟩
  · rw [hprogress] at hmem
    rcases List.mem_cons.mp hmem with rfl | hmem
    · exact hstatus
    · rw [isEligibleToTransmit_congr (hstatuses _ (hothers q hmem).2)]
      exact hrest q hmem
  · rw [hextracted]
  · rw [hprogress] at hmem
    rw [hlist]
    rcases List.mem_cons.mp hmem with rfl | hmem
    · exact .inr ⟨packet, List.mem_cons_self, decide_eq_true ⟨hmsdu.symm, hnumber.symm⟩, hretry⟩
    · refine .inr ⟨q, List.mem_cons_of_mem _ hmem, Packet.same_self q, ?_⟩
      rw [(hawaits q hmem).1, (hawaits q hmem).2]
      exact id

/-! ## Failures -/

theorem find?_setAckStatus_ne {frame : Mpdu β} {status : AckHandler.Status}
    {id : SequenceControlField} (hne : id ≠ frame.sequenceControl) :
    (o.setAckStatus frame status).ackStatuses.find? id = o.ackStatuses.find? id :=
  OrderedMap.find?_insert_ne hne

theorem find?_dropAckStatus_ne {frame : Mpdu β} {id : SequenceControlField}
    (hne : id ≠ frame.sequenceControl) :
    (o.dropAckStatus frame).ackStatuses.find? id = o.ackStatuses.find? id := by
  rw [dropAckStatus, OrderedMap.find?_erase, if_neg hne]

theorem isEligibleToTransmit_of_status {frame : Mpdu β} {status : AckHandler.Status}
    (h : o.getAckStatus frame = status)
    (hstatus : status = .NO_ACK_REQUIRED ∨ status = .ACK_NOT_ARRIVED) :
    o.isEligibleToTransmit frame = true := by
  unfold isEligibleToTransmit
  rw [h]
  rcases hstatus with rfl | rfl
  · rfl
  · rfl

theorem getAckStatus_setAckStatus (o : Originator β) (frame : Mpdu β)
    (status : AckHandler.Status) : (o.setAckStatus frame status).getAckStatus frame = status := by
  rw [getAckStatus, setAckStatus, OrderedMap.find?_insert_self]
  rfl

theorem processFailedFrame_eq {frame : Mpdu β} (h : o.processFailedFrame frame = .ok o')
    (hstatus : o.getAckStatus frame = sentStatus frame) :
    ∃ ackStatuses, o' = { o with ackStatuses := ackStatuses } ∧
      o'.isEligibleToTransmit frame = true ∧
      ∀ id, id ≠ frame.sequenceControl → o'.ackStatuses.find? id = o.ackStatuses.find? id := by
  unfold processFailedFrame at h
  split at h
  · rename_i hmgmt
    obtain rfl := Except.ok.inj h
    refine ⟨_, rfl, isEligibleToTransmit_of_status hstatus (.inl ?_), fun _ _ => rfl⟩
    rw [sentStatus, if_pos hmgmt]
  · split at h
    · obtain rfl := Except.ok.inj h
      exact ⟨_, rfl, isEligibleToTransmit_of_status (getAckStatus_setAckStatus _ _ _) (.inr rfl),
        fun id hne => find?_setAckStatus_ne hne⟩
    · cases h

theorem awaits_none (hsequence : o.frameSequence = .none) (packet : Packet β) :
    o.awaits packet = false := by
  rw [awaits, hsequence]

theorem awaits_rest (hinv : o.Inv) (hlist : o.inProgressFrames = packet :: rest) {last : Bool}
    (hsequence : o.frameSequence = .ack packet last) {packet' : Packet β} (hmem : packet' ∈ rest) :
    o.awaits packet' = false := by
  rw [awaits, hsequence]
  refine Bool.eq_false_iff.mpr fun hsame => ?_
  exact Nat.ne_of_lt (hinv.ne_first hlist packet' hmem).1 (Packet.place_eq_of_same hsame)

/-- A packet that was not acknowledged is given up, or is a retransmission from now on. -/
theorem Sound.failed (h : o.Sound p) {last : Bool} (hsequence : o.frameSequence = .ack packet last)
    (hfailed : o.originatorProcessFailedFrame p packet = .ok o') :
    Between p o { o' with frameSequence := .none } := by
  have hin := h.sequence
  unfold InSequence at hin
  rw [hsequence] at hin
  obtain ⟨hhead, htail, -, -, hstatus⟩ := hin
  obtain ⟨rest, hlist⟩ := List.head?_eq_some_iff.mp hhead
  rw [hlist, List.tail_cons] at htail
  have hothers := h.inv.ne_first hlist
  have hcounted := h.attempts.pending packet (hlist ▸ List.mem_cons_self)
  have hnone : ∀ packet' ∈ rest,
      ({ o' with frameSequence := .none } : Originator β).awaits packet' = false ∧
        o.awaits packet' = false :=
    fun packet' hmem => ⟨rfl, awaits_rest h.inv hlist hsequence hmem⟩
  obtain ⟨hcounter, hself, hcounts⟩ := dataOrMgmtFrameTransmissionFailed_spec p o packet.frame
  unfold originatorProcessFailedFrame at hfailed
  split at hfailed
  · cases hfailed
  · split at hfailed
    · obtain ⟨o₁, hprocess, hend⟩ := map_ok_inv hfailed
      have hlimit := @isRetryLimitReached_iff β p (o.dataOrMgmtFrameTransmissionFailed p packet.frame)
        packet.frame
      rw [hself] at hlimit
      have hstatus' : (o.dataOrMgmtFrameTransmissionFailed p packet.frame).getAckStatus
          packet.frame = sentStatus packet.frame := by
        unfold getAckStatus
        rw [hcounter.ackStatuses]
        exact hstatus
      obtain ⟨ackStatuses, rfl, heligible, hstatuses⟩ := processFailedFrame_eq hprocess hstatus'
      split at hend
      · obtain ⟨herase, hcounts'⟩ := eraseCounter_spec p
          { o.dataOrMgmtFrameTransmissionFailed p packet.frame with ackStatuses := ackStatuses }
          packet.frame
        subst hend
        refine Between.drop h.inv h.attempts hlist htail (herase.extracted.trans hcounter.extracted)
          (herase.lastSeqNum.trans hcounter.lastSeqNum)
          (herase.pendingQueue.trans hcounter.pendingQueue) ?_ ?_ (fun id hne => ?_)
          (fun frame' hne => (hcounts' frame' hne).trans (hcounts frame' hne))
          (.inl (herase.transmitted.trans hcounter.transmitted)) ?_ hnone nofun
        · exact congrArg _ (herase.inProgressFrames.trans hcounter.inProgressFrames)
        · exact ⟨.retryLimitReached, congrArg (· ++ [(packet, Outcome.retryLimitReached)])
            (herase.finished.trans hcounter.finished)⟩
        · refine (find?_dropAckStatus_ne hne).trans ?_
          change (eraseCounter p _ packet.frame).ackStatuses.find? id = _
          rw [herase.ackStatuses, hstatuses id hne, hcounter.ackStatuses]
        · have htransmitted := herase.transmitted.trans hcounter.transmitted
          unfold tries
          change (eraseCounter p _ packet.frame).transmitted.countP _ ≤ _
          rw [htransmitted]
          exact hcounted.tries_le
      · rename_i hreached
        subst hend
        have hset := @inProgress_setRetry β
          { o.dataOrMgmtFrameTransmissionFailed p packet.frame with ackStatuses := ackStatuses }
          packet rest (h.inv.congr hcounter.extracted hcounter.lastSeqNum hcounter.pendingQueue
            (by rw [hcounter.finished, hcounter.inProgressFrames])
            fun packet' hmem => ⟨packet', hcounter.inProgressFrames ▸ hmem, rfl⟩)
          (hcounter.inProgressFrames.trans hlist)
        refine Between.keep h.inv h.attempts hlist htail hcounter.extracted hcounter.lastSeqNum
          hcounter.pendingQueue hset rfl hcounter.finished heligible (fun id hne => ?_) hcounts
          hcounter.transmitted ?_ hnone nofun fun _ => .inl rfl
        · rw [← hcounter.ackStatuses]
          exact hstatuses id hne
        · obtain ⟨failures, htries, hle⟩ := hcounted
          have hawaits : o.awaits packet = true := by
            rw [awaits, hsequence]
            exact Packet.same_self packet
          rw [hawaits, if_pos rfl] at htries
          refine ⟨failures + 1, ?_, .inr ?_⟩
          · unfold tries at htries ⊢
            change (o.dataOrMgmtFrameTransmissionFailed p packet.frame).transmitted.countP _ = _
            rw [hcounter.transmitted]
            exact htries
          · have hbelow := mt hlimit.mpr hreached
            change failures + 1 ≤ (o.dataOrMgmtFrameTransmissionFailed p packet.frame).getRetryCount
              p packet.frame ∧ (o.dataOrMgmtFrameTransmissionFailed p packet.frame).getRetryCount
                p packet.frame < retryLimit p packet.frame
            rw [hself]
            omega
    · cases hfailed

/-- A packet whose RTS frame was not answered is given up, or stays as it is. -/
theorem Sound.rtsFailed (h : o.Sound p) (hsequence : o.frameSequence = .cts packet) :
    Between p o { o.originatorProcessRtsProtectionFailed p packet with frameSequence := .none } := by
  have hin := h.sequence
  unfold InSequence at hin
  rw [hsequence] at hin
  obtain ⟨hhead, hready, hlong, -⟩ := hin
  obtain ⟨rest, hlist⟩ := List.head?_eq_some_iff.mp hhead
  have hrest : ∀ packet' ∈ rest, o.isEligibleToTransmit packet'.frame = true :=
    fun packet' hmem => hready packet' (hlist ▸ List.mem_cons_of_mem _ hmem)
  have hfirst : packet ∈ o.inProgressFrames := hlist ▸ List.mem_cons_self
  have hcounted := h.attempts.pending packet hfirst
  have hawaits : ∀ packet', o.awaits packet' = false := by
    intro packet'
    rw [awaits, hsequence]
  obtain ⟨hcounter, hself, hcounts⟩ := rtsFrameTransmissionFailed_spec p o hlong
  unfold originatorProcessRtsProtectionFailed
  dsimp only
  split
  · obtain ⟨herase, hcounts'⟩ :=
      eraseCounter_spec p (o.rtsFrameTransmissionFailed p packet.frame) packet.frame
    refine Between.drop h.inv h.attempts hlist hrest (herase.extracted.trans hcounter.extracted)
      (herase.lastSeqNum.trans hcounter.lastSeqNum)
      (herase.pendingQueue.trans hcounter.pendingQueue) ?_ ?_ (fun id hne => ?_)
      (fun frame' hne => (hcounts' frame' hne).trans (hcounts frame' hne))
      (.inl (herase.transmitted.trans hcounter.transmitted)) ?_
      (fun packet' _ => ⟨rfl, hawaits packet'⟩) nofun
    · exact congrArg _ (herase.inProgressFrames.trans hcounter.inProgressFrames)
    · exact ⟨.retryLimitReached, congrArg (· ++ [(packet, Outcome.retryLimitReached)])
        (herase.finished.trans hcounter.finished)⟩
    · refine (find?_dropAckStatus_ne hne).trans ?_
      change (eraseCounter p _ packet.frame).ackStatuses.find? id = _
      rw [herase.ackStatuses, hcounter.ackStatuses]
    · have htransmitted := herase.transmitted.trans hcounter.transmitted
      unfold tries
      change (eraseCounter p _ packet.frame).transmitted.countP _ ≤ _
      rw [htransmitted]
      exact hcounted.tries_le
  · refine Between.keep h.inv h.attempts hlist hrest hcounter.extracted hcounter.lastSeqNum
      hcounter.pendingQueue (hcounter.inProgressFrames.trans hlist) rfl hcounter.finished ?_
      (fun id hne => congrArg (·.find? id) hcounter.ackStatuses) hcounts hcounter.transmitted ?_
      (fun packet' _ => ⟨rfl, hawaits packet'⟩) nofun fun hretry => ?_
    · rw [← hready packet hfirst]
      exact isEligibleToTransmit_congr
        (congrArg (·.find? packet.frame.sequenceControl) hcounter.ackStatuses)
    · refine hcounted.congr ?_ (hawaits packet).symm rfl hself
      unfold tries
      change (o.rtsFrameTransmissionFailed p packet.frame).transmitted.countP _ = _
      rw [hcounter.transmitted]
    · rw [hawaits packet] at hretry
      exact .inl (hretry.resolve_right Bool.false_ne_true)

/-- A frame sequence that is aborted leaves the first packet in progress or gives it up. -/
theorem Sound.abortFrameSequence (h : o.Sound p) (habort : o.abortFrameSequence p = .ok o') :
    o'.Sound p ∧ Continues o o' := by
  unfold Originator.abortFrameSequence at habort
  split at habort
  · rename_i packet hsequence
    obtain rfl := Except.ok.inj habort
    have hbetween := h.rtsFailed hsequence
    exact ⟨hbetween.sound rfl, hbetween.continues⟩
  · rename_i packet last hsequence
    obtain ⟨o₁, hfailed, rfl⟩ := map_ok_inv habort
    have hbetween := h.failed hsequence hfailed
    exact ⟨hbetween.sound rfl, hbetween.continues⟩
  · cases habort

/-! ## Acknowledgements -/

theorem ackFrameReceived_spec (p : DcfParams) (o : Originator β) (frame : Mpdu β) :
    CountsOnly o (o.ackFrameReceived p frame) ∧
      ∀ frame' : Mpdu β, frame'.sequenceControl ≠ frame.sequenceControl →
        (o.ackFrameReceived p frame).getRetryCount p frame' = o.getRetryCount p frame' := by
  unfold ackFrameReceived
  split
  · obtain ⟨h, hcounts⟩ := eraseCounter_spec p { o with stationLongRetryCount := 0 } frame
    exact ⟨⟨h.1, h.2, h.3, h.4, h.5, h.6, h.7, h.8⟩, hcounts⟩
  · obtain ⟨h, hcounts⟩ := eraseCounter_spec p { o with stationShortRetryCount := 0 } frame
    exact ⟨⟨h.1, h.2, h.3, h.4, h.5, h.6, h.7, h.8⟩, hcounts⟩

theorem Sound.acked (h : o.Sound p) {last : Bool} (hsequence : o.frameSequence = .ack packet last)
    (hlist : o.inProgressFrames = packet :: rest)
    (hack : o.originatorProcessReceivedAck p packet = .ok o') :
    Between p o o' ∧ o'.inProgressFrames = rest ∧ o'.frameSequence = o.frameSequence ∧
      o'.finished = o.finished ++ [(packet, .acknowledged)] ∧
      o'.extracted = o.extracted ∧ o'.transmitted = o.transmitted := by
  have hin := h.sequence
  unfold InSequence at hin
  rw [hsequence] at hin
  obtain ⟨-, htail, -⟩ := hin
  rw [hlist, List.tail_cons] at htail
  have hcounted := h.attempts.pending packet (hlist ▸ List.mem_cons_self)
  obtain ⟨hcounter, hcounts⟩ := ackFrameReceived_spec p o packet.frame
  obtain ⟨o₁, hprocess, rfl⟩ := map_ok_inv hack
  unfold processReceivedAck at hprocess
  split at hprocess
  · cases hprocess
  · obtain rfl := Except.ok.inj hprocess
    have hprogress : (o.ackFrameReceived p packet.frame).inProgressFrames.filter
        (fun packet' => !packet'.same packet) =
          o.inProgressFrames.filter fun packet' => !packet'.same packet :=
      congrArg _ hcounter.inProgressFrames
    have hfinished : (o.ackFrameReceived p packet.frame).finished ++
        [(packet, Outcome.acknowledged)] = o.finished ++ [(packet, .acknowledged)] :=
      congrArg (· ++ _) hcounter.finished
    have hsame : ∀ packet' last', (o.ackFrameReceived p packet.frame).frameSequence =
        .ack packet' last' → packet' = packet := by
      intro packet' last' heq
      rw [hcounter.frameSequence, hsequence] at heq
      injection heq with heq
      exact heq.symm
    refine ⟨Between.drop h.inv h.attempts hlist htail hcounter.extracted hcounter.lastSeqNum
      hcounter.pendingQueue hprogress ⟨_, hfinished⟩ (fun id hne => ?_) hcounts
      (.inl hcounter.transmitted) ?_ (fun packet' hmem => ⟨?_, ?_⟩) hsame,
      hprogress.trans (h.inv.filter_same hlist), hcounter.frameSequence, hfinished,
      hcounter.extracted, hcounter.transmitted⟩
    · refine (find?_dropAckStatus_ne hne).trans ((find?_setAckStatus_ne hne).trans ?_)
      rw [hcounter.ackStatuses]
    · unfold tries
      change (o.ackFrameReceived p packet.frame).transmitted.countP _ ≤ _
      rw [hcounter.transmitted]
      exact hcounted.tries_le
    · refine (awaits_congr ?_ packet').trans (awaits_rest h.inv hlist hsequence hmem)
      exact hcounter.frameSequence
    · exact awaits_rest h.inv hlist hsequence hmem

/-! ## Transmissions -/

theorem Attempts.resequence (h : o.Attempts p) {step : FrameSequenceStep β} {timer : Bool}
    (hawaits : ∀ packet ∈ o.inProgressFrames, o.awaits packet = false)
    (hstep : ∀ packet last, step ≠ .ack packet last) :
    ({ o with frameSequence := step, startRxTimer := timer } : Originator β).Attempts p := by
  have hnone : ∀ packet,
      ({ o with frameSequence := step, startRxTimer := timer } : Originator β).awaits packet =
        false := by
    intro packet
    unfold awaits
    dsimp only
    split
    · rename_i packet' last
      exact absurd rfl (hstep packet' last)
    · rfl
  exact ⟨h.old, fun packet hmem => (h.pending packet hmem).congr rfl
    ((hnone packet).trans (hawaits packet hmem).symm) rfl rfl, h.done,
    fun packet last heq => absurd heq (hstep packet last)⟩

theorem Extends.awaits_eq_false (h : Extends o o') (hattempts : o.Attempts p)
    (hawaits : ∀ packet ∈ o.inProgressFrames, o.awaits packet = false) :
    ∀ packet ∈ o'.inProgressFrames, o'.awaits packet = false := by
  obtain ⟨packets, hpackets, hnew⟩ := h.inProgress
  intro packet hmem
  have hsame : o'.awaits packet = o.awaits packet := by
    unfold awaits
    rw [h.frameSequence]
  rw [hsame]
  rw [hpackets] at hmem
  rcases List.mem_append.mp hmem with hold | hlater
  · exact hawaits packet hold
  · exact (hattempts.fresh (hnew packet hlater)).2

/-- More frames may get in progress before the next step, which awaits nothing. -/
theorem Extends.next (h : Extends o o') (hattempts : o.Attempts p) (step : FrameSequenceStep β)
    (timer : Bool) (hawaits : ∀ packet ∈ o.inProgressFrames, o.awaits packet = false)
    (hstep : ∀ packet last, step ≠ .ack packet last) :
    ({ o' with frameSequence := step, startRxTimer := timer } : Originator β).Attempts p ∧
      Continues o { o' with frameSequence := step, startRxTimer := timer } := by
  have hnone := h.awaits_eq_false hattempts hawaits
  refine ⟨(hattempts.extends h).resequence hnone hstep, h.extracted, fun packet hmem => ?_⟩
  obtain ⟨packets, hpackets, hnew⟩ := h.inProgress
  have hmem' : packet ∈ o.inProgressFrames ++ packets := hpackets ▸ hmem
  rcases List.mem_append.mp hmem' with hold | hlater
  · refine .inr ⟨packet, hold, Packet.same_self packet, ?_⟩
    rintro (hretry | hawait)
    · exact .inl hretry
    · rw [hawaits packet hold] at hawait
      cases hawait
  · exact .inl (hnew packet hlater)

/-- The first packet is going to be transmitted. -/
theorem transmitData_spec (hinv : o.Inv) (hready : o.Ready) (hattempts : o.Attempts p)
    (hawaits : ∀ packet ∈ o.inProgressFrames, o.awaits packet = false)
    (hhead : o.inProgressFrames.head? = some packet)
    (hunicast : packet.frame.header.receiverAddress.isMulticast = false)
    (h : o.transmitData p = .ok o') :
    o'.Sound p ∧ Continues o o' ∧ o'.finished = o.finished ∧ o'.transmitted = o.transmitted := by
  obtain ⟨⟨o₁, frame⟩, hget, hrest⟩ := bind_ok_inv h
  obtain ⟨hinv₁, hready₁, hextends₁, rfl⟩ := hinv.getFrameToTransmit hready hget
  have hhead₁ := hextends₁.head?_eq hhead
  rw [hhead₁] at hrest
  obtain ⟨o₂, hpending, rfl⟩ := map_ok_inv hrest
  obtain ⟨hinv₂, hready₂, hextends₂⟩ := hinv₁.getPendingFrameFor hready₁ hpending
  have hextends := hextends₁.trans hextends₂
  obtain ⟨hattempts', hcontinues⟩ := hextends.next hattempts
    (.data packet !packet.frame.moreFragments) o₂.startRxTimer hawaits nofun
  exact ⟨⟨⟨hinv₂.1, hinv₂.2, hinv₂.3, hinv₂.4, hinv₂.5, hinv₂.6⟩,
    ⟨hextends₂.head?_eq hhead₁, hready₂, hunicast, rfl⟩, hattempts'⟩, hcontinues,
    hextends.finished, hextends.transmitted⟩

/-- `DcfFs` begins with the first packet. -/
theorem Sound.channelGranted (h : o.Sound p) (hgranted : o.channelGranted p = .ok o') :
    o'.Sound p ∧ Continues o o' ∧ o'.finished = o.finished ∧ o'.transmitted = o.transmitted := by
  unfold Originator.channelGranted at hgranted
  split at hgranted
  · rename_i hsequence
    have hready : o.Ready := by
      have hin := h.sequence
      unfold InSequence at hin
      rw [hsequence] at hin
      exact hin
    have hawaits : ∀ packet ∈ o.inProgressFrames, o.awaits packet = false :=
      fun packet _ => awaits_none hsequence packet
    obtain ⟨⟨o₁, frame⟩, hget, hrest⟩ := bind_ok_inv hgranted
    obtain ⟨hinv₁, hready₁, hextends₁, rfl⟩ := h.inv.getFrameToTransmit hready hget
    dsimp only at hrest
    split at hrest
    · cases hrest
    · rename_i packet hhead₁
      split at hrest
      · rename_i hmulticast
        obtain ⟨o₂, hpending, rfl⟩ := map_ok_inv hrest
        obtain ⟨hinv₂, hready₂, hextends₂⟩ := hinv₁.getPendingFrameFor hready₁ hpending
        have hextends := hextends₁.trans hextends₂
        obtain ⟨hattempts', hcontinues⟩ := hextends.next h.attempts (.group packet)
          o₂.startRxTimer hawaits nofun
        exact ⟨⟨⟨hinv₂.1, hinv₂.2, hinv₂.3, hinv₂.4, hinv₂.5, hinv₂.6⟩,
          ⟨hextends₂.head?_eq hhead₁, hready₂, hmulticast⟩, hattempts'⟩, hcontinues,
          hextends.finished, hextends.transmitted⟩
      · rename_i hunicast
        rw [Bool.not_eq_true] at hunicast
        split at hrest
        · rename_i hlong
          obtain rfl := Except.ok.inj hrest
          obtain ⟨hattempts', hcontinues⟩ := hextends₁.next h.attempts (.rts packet)
            o₁.startRxTimer hawaits nofun
          exact ⟨⟨⟨hinv₁.1, hinv₁.2, hinv₁.3, hinv₁.4, hinv₁.5, hinv₁.6⟩,
            ⟨hhead₁, hready₁, hlong, hunicast⟩, hattempts'⟩, hcontinues,
            hextends₁.finished, hextends₁.transmitted⟩
        · obtain ⟨hsound, hcontinues, hfinished, htransmitted⟩ :=
            transmitData_spec hinv₁ hready₁ (h.attempts.extends hextends₁)
              (hextends₁.awaits_eq_false h.attempts hawaits) hhead₁ hunicast hrest
          exact ⟨hsound, hextends₁.continues.trans hcontinues,
            hfinished.trans hextends₁.finished, htransmitted.trans hextends₁.transmitted⟩
  · obtain rfl := Except.ok.inj hgranted
    exact ⟨h, .refl _, rfl, rfl⟩

/-- A packet in progress comes after a packet that was transmitted, or it is that packet and
is awaited. -/
def Behind (o : Originator β) (packet : Packet β) : Prop :=
  ∀ packet' ∈ o.inProgressFrames, packet.place < packet'.place ∨
    packet.same packet' = true ∧ o.awaits packet' = true

theorem Sound.transmittedGroup (h : o.Sound p) (hsequence : o.frameSequence = .group packet)
    (hdone : o.transmissionComplete p = .ok o') :
    o'.Sound p ∧ Continues o o' ∧ o'.Behind packet ∧ o'.extracted = o.extracted ∧
      o'.finished = o.finished ++ [(packet, .multicast)] := by
  have hin := h.sequence
  unfold InSequence at hin
  rw [hsequence] at hin
  obtain ⟨hhead, hready, hmulticast⟩ := hin
  obtain ⟨rest, hlist⟩ := List.head?_eq_some_iff.mp hhead
  have hawaits : ∀ packet', o.awaits packet' = false := by
    intro packet'
    rw [awaits, hsequence]
  have hcounted := h.attempts.pending packet (hlist ▸ List.mem_cons_self)
  unfold Originator.transmissionComplete at hdone
  rw [hsequence] at hdone
  obtain rfl := Except.ok.inj hdone
  unfold originatorProcessTransmittedFrame
  rw [if_pos hmulticast]
  have hbetween := @Between.drop β p o
    { o.dropFrame packet .multicast with
      stationShortRetryCount := 0
      stationLongRetryCount := 0
      frameSequence := .none
      transmitted := o.transmitted ++ [packet] } packet rest h.inv h.attempts hlist
    (fun packet' hmem => hready packet' (hlist ▸ List.mem_cons_of_mem _ hmem)) rfl rfl rfl rfl
    ⟨_, rfl⟩ (fun _ _ => rfl) (fun _ _ => rfl) (.inr rfl) ?_
    (fun packet' _ => ⟨rfl, hawaits packet'⟩) nofun
  · refine ⟨hbetween.sound rfl, hbetween.continues, fun packet' hmem => ?_, rfl, rfl⟩
    have hrest := h.inv.filter_same hlist
    exact .inl (h.inv.ne_first hlist packet' (hrest ▸ hmem)).1
  · rw [tries_concat rfl, Packet.same_self, if_pos rfl]
    exact hcounted.tries_lt (hawaits packet)

theorem Sound.transmittedData (h : o.Sound p) {last : Bool}
    (hsequence : o.frameSequence = .data packet last) (hdone : o.transmissionComplete p = .ok o') :
    o'.Sound p ∧ Continues o o' ∧ o'.Behind packet ∧ o'.extracted = o.extracted ∧
      o'.finished = o.finished ∧ o'.inProgressFrames = o.inProgressFrames ∧
      o'.frameSequence = .ack packet last := by
  have hin := h.sequence
  unfold InSequence at hin
  rw [hsequence] at hin
  obtain ⟨hhead, hready, hunicast, hlast⟩ := hin
  obtain ⟨rest, hlist⟩ := List.head?_eq_some_iff.mp hhead
  have hothers := h.inv.ne_first hlist
  have hawaits : ∀ packet', o.awaits packet' = false := by
    intro packet'
    rw [awaits, hsequence]
  have hcounted := h.attempts.pending packet (hlist ▸ List.mem_cons_self)
  unfold Originator.transmissionComplete at hdone
  rw [hsequence] at hdone
  obtain rfl := Except.ok.inj hdone
  unfold originatorProcessTransmittedFrame
  rw [if_neg (by rw [hunicast]; exact Bool.false_ne_true)]
  unfold processTransmittedDataOrMgmtFrame
  have hrest : ∀ packet' ∈ rest, packet.same packet' = false := by
    intro packet' hmem
    refine Bool.eq_false_iff.mpr fun hsame => ?_
    exact Nat.ne_of_lt (hothers packet' hmem).1 (Packet.place_eq_of_same hsame)
  refine ⟨⟨h.inv.congr rfl rfl rfl rfl fun packet' hmem => ⟨packet', hmem, rfl⟩,
    ⟨hhead, ?_, hunicast, hlast, getAckStatus_setAckStatus _ _ _⟩,
    h.attempts.first h.inv hlist rfl (.inr rfl) (fun _ _ => rfl)
      (fun packet' hmem => ⟨hrest packet' hmem, hawaits packet'⟩) ?_
      (.inr ⟨packet, hlist, rfl, ?_⟩)⟩, ⟨List.prefix_rfl, fun packet' hmem => ?_⟩,
    fun packet' hmem => ?_, rfl, rfl, rfl, rfl⟩
  · intro packet' hmem
    have hmem' : packet' ∈ rest := by
      change packet' ∈ o.inProgressFrames.tail at hmem
      rwa [hlist] at hmem
    refine (isEligibleToTransmit_congr (find?_setAckStatus_ne (hothers packet' hmem').2)).trans ?_
    exact hready packet' (hlist ▸ List.mem_cons_of_mem _ hmem')
  · intro packet' last' heq
    injection heq with heq
    exact heq.symm
  · obtain ⟨failures, htries, hle⟩ := hcounted
    rw [hawaits packet, if_neg Bool.false_ne_true] at htries
    refine ⟨failures, ?_, hle⟩
    rw [tries_concat rfl, htries, Packet.same_self, if_pos rfl]
    exact congrArg (failures + ·) (if_pos (Packet.same_self packet)).symm
  · refine .inr ⟨packet', hmem, Packet.same_self packet', ?_⟩
    rintro (hretry | hawait)
    · exact .inl hretry
    · rw [hawaits packet'] at hawait
      cases hawait
  · have hmem' : packet' ∈ packet :: rest := hlist ▸ hmem
    rcases List.mem_cons.mp hmem' with rfl | hmem'
    · exact .inr ⟨Packet.same_self packet', Packet.same_self packet'⟩
    · exact .inl (hothers packet' hmem').1

theorem Sound.transmittedRts (h : o.Sound p) (hsequence : o.frameSequence = .rts packet)
    (hdone : o.transmissionComplete p = .ok o') :
    o'.Sound p ∧ Continues o o' ∧ o'.finished = o.finished := by
  have hin := h.sequence
  unfold InSequence at hin
  rw [hsequence] at hin
  obtain ⟨hhead, hready, hlong, hunicast⟩ := hin
  unfold Originator.transmissionComplete at hdone
  rw [hsequence] at hdone
  obtain ⟨⟨o₁, frame⟩, hget, rfl⟩ := map_ok_inv hdone
  obtain ⟨hinv₁, hready₁, hextends₁, -⟩ := h.inv.getFrameToTransmit hready hget
  obtain ⟨hattempts', hcontinues⟩ := hextends₁.next h.attempts (.cts packet) true
    (fun packet' _ => by rw [awaits, hsequence]) nofun
  exact ⟨⟨⟨hinv₁.1, hinv₁.2, hinv₁.3, hinv₁.4, hinv₁.5, hinv₁.6⟩,
    ⟨hextends₁.head?_eq hhead, hready₁, hlong, hunicast⟩, hattempts'⟩, hcontinues,
    hextends₁.finished⟩

/-! ## Events -/

/-- The timer and the counters of the station do not matter. -/
theorem Sound.timer (h : o.Sound p) (timer : Bool) :
    ({ o with startRxTimer := timer } : Originator β).Sound p :=
  ⟨⟨h.inv.1, h.inv.2, h.inv.3, h.inv.4, h.inv.5, h.inv.6⟩, h.sequence,
    ⟨h.attempts.1, h.attempts.2, h.attempts.3, h.attempts.4⟩⟩

theorem Continues.timer (h : Continues o o') (timer : Bool) :
    Continues o { o' with startRxTimer := timer } := ⟨h.1, h.2⟩

/-- An acknowledgement makes the sequence go on to the next packet, unless that was the
last one. -/
theorem Sound.receivedAck (h : o.Sound p) {last : Bool}
    (hsequence : o.frameSequence = .ack packet last)
    (hack : ((o.originatorProcessReceivedAck p packet).bind fun o =>
      if last then .ok { o with frameSequence := .none } else o.transmitData p) = .ok o') :
    o'.Sound p ∧ Continues o o' ∧ o'.finished = o.finished ++ [(packet, .acknowledged)] := by
  have hin := h.sequence
  unfold InSequence at hin
  rw [hsequence] at hin
  obtain ⟨hhead, -, hunicast, hlast, -⟩ := hin
  obtain ⟨rest, hlist⟩ := List.head?_eq_some_iff.mp hhead
  obtain ⟨o₁, hreceived, hrest⟩ := bind_ok_inv hack
  obtain ⟨hbetween, hprogress, hsequence₁, hfinished, -, -⟩ := h.acked hsequence hlist hreceived
  rw [hsequence] at hsequence₁
  have hawaits : ∀ packet' ∈ o₁.inProgressFrames, o₁.awaits packet' = false := by
    intro packet' hmem
    rw [awaits, hsequence₁]
    refine Bool.eq_false_iff.mpr fun hsame => ?_
    rw [hprogress] at hmem
    exact Nat.ne_of_lt (h.inv.ne_first hlist packet' hmem).1 (Packet.place_eq_of_same hsame)
  split at hrest
  · obtain rfl := Except.ok.inj hrest
    obtain ⟨hattempts', hcontinues⟩ := (Extends.refl o₁).next hbetween.attempts .none
      o₁.startRxTimer hawaits nofun
    have hinv := hbetween.inv
    exact ⟨⟨⟨hinv.1, hinv.2, hinv.3, hinv.4, hinv.5, hinv.6⟩, hbetween.ready, hattempts'⟩,
      hbetween.continues.trans hcontinues, hfinished⟩
  · rename_i hmore
    rw [hlast, Bool.not_eq_true, Bool.not_eq_false'] at hmore
    obtain ⟨next, rest', rfl, hheader⟩ := h.inv.next hlist hmore
    obtain ⟨hsound, hcontinues, hfinished', -⟩ := transmitData_spec hbetween.inv hbetween.ready
      hbetween.attempts hawaits (by rw [hprogress, List.head?_cons]) (hheader ▸ hunicast) hrest
    exact ⟨hsound, hbetween.continues.trans hcontinues, hfinished'.trans hfinished⟩

/-- What a response comes to: the first packet is acknowledged or it is not. -/
theorem Sound.processResponse (h : o.Sound p) {isForUs : Bool} {response : Response}
    (hresponse : o.processResponse p isForUs response = .ok o') :
    o'.Sound p ∧ Continues o o' := by
  unfold Originator.processResponse at hresponse
  split at hresponse
  · obtain rfl := Except.ok.inj hresponse
    exact ⟨h, .refl _⟩
  · rename_i packet hsequence
    split at hresponse
    · have hin := h.sequence
      unfold InSequence at hin
      rw [hsequence] at hin
      obtain ⟨hhead, hready, -, hunicast⟩ := hin
      have hinv := h.inv
      have hattempts := h.attempts
      have hawaits : ∀ packet', o.awaits packet' = false := by
        intro packet'
        rw [awaits, hsequence]
      obtain ⟨hsound, hcontinues, -, -⟩ :=
        @transmitData_spec β p { o with stationShortRetryCount := 0 } o' packet
          ⟨hinv.1, hinv.2, hinv.3, hinv.4, hinv.5, hinv.6⟩ hready
          ⟨hattempts.1, hattempts.2, hattempts.3, hattempts.4⟩
          (fun packet' _ => hawaits packet') hhead hunicast hresponse
      exact ⟨hsound, hcontinues.1, hcontinues.2⟩
    · exact h.abortFrameSequence hresponse
  · rename_i packet last hsequence
    split at hresponse
    · obtain ⟨hsound, hcontinues, -⟩ := h.receivedAck hsequence hresponse
      exact ⟨hsound, hcontinues⟩
    · exact h.abortFrameSequence hresponse
  · cases hresponse

theorem Sound.processLowerFrame (h : o.Sound p) {isForUs : Bool} {response : Response}
    (hlower : o.processLowerFrame p isForUs response = .ok o') : o'.Sound p ∧ Continues o o' := by
  unfold Originator.processLowerFrame at hlower
  split at hlower
  · obtain ⟨o₁, hfirst, rfl⟩ := map_ok_inv hlower
    split at hfirst
    · obtain ⟨hsound, hcontinues⟩ := h.processResponse hfirst
      exact ⟨hsound.timer _, hcontinues.timer _⟩
    · obtain rfl := Except.ok.inj hfirst
      exact ⟨h.timer _, (Continues.refl _).timer _⟩
  · split at hlower
    · cases hlower
    · obtain rfl := Except.ok.inj hlower
      exact ⟨h, .refl _⟩

theorem Sound.handleStartRxTimeout (h : o.Sound p) (htimeout : o.handleStartRxTimeout p = .ok o') :
    o'.Sound p ∧ Continues o o' := by
  unfold Originator.handleStartRxTimeout at htimeout
  split at htimeout
  · exact h.abortFrameSequence htimeout
  · exact h.abortFrameSequence htimeout
  · cases htimeout
  · cases htimeout

theorem Sound.startRxTimeout (h : o.Sound p) {isReceptionInProgress : Bool}
    (htimeout : o.startRxTimeout p isReceptionInProgress = .ok o') :
    o'.Sound p ∧ Continues o o' := by
  unfold Originator.startRxTimeout at htimeout
  split at htimeout
  · dsimp only at htimeout
    split at htimeout
    · obtain rfl := Except.ok.inj htimeout
      exact ⟨h.timer _, (Continues.refl _).timer _⟩
    · obtain ⟨hsound, hcontinues⟩ := (h.timer false).handleStartRxTimeout htimeout
      exact ⟨hsound, hcontinues.1, hcontinues.2⟩
  · cases htimeout

theorem Sound.corruptedFrameReceived (h : o.Sound p)
    (hcorrupted : o.corruptedFrameReceived p = .ok o') : o'.Sound p ∧ Continues o o' := by
  unfold Originator.corruptedFrameReceived at hcorrupted
  split at hcorrupted
  · exact h.handleStartRxTimeout hcorrupted
  · obtain rfl := Except.ok.inj hcorrupted
    exact ⟨h, .refl _⟩

theorem mem_insertPacket {α : Type*} {isMgmt : α → Bool} {packet packet' : α} {queue : List α}
    (h : packet' ∈ Mac.insertPacket isMgmt packet queue) : packet' = packet ∨ packet' ∈ queue := by
  induction queue with
  | nil => exact .inl (List.mem_singleton.mp h)
  | cons head rest ih =>
      unfold Mac.insertPacket at h
      split at h
      · exact List.mem_cons.mp h
      · rcases List.mem_cons.mp h with rfl | h
        · exact .inr List.mem_cons_self
        · rcases ih h with heq | hmem
          · exact .inl heq
          · exact .inr (List.mem_cons_of_mem _ hmem)

theorem Sound.processUpperFrame (h : o.Sound p) (frame : DataFrame (List β)) :
    (o.processUpperFrame p frame).Sound p ∧ Continues o (o.processUpperFrame p frame) := by
  have hinv := h.inv
  have hattempts := h.attempts
  refine ⟨⟨⟨hinv.1, hinv.2, hinv.3, hinv.4, hinv.5, fun frame' hmem => ?_⟩, h.sequence,
    ⟨hattempts.1, hattempts.2, hattempts.3, hattempts.4⟩⟩, (Continues.refl o).1,
    (Continues.refl o).2⟩
  have hinsert : frame' ∈ Mac.insertPacket Mpdu.isMgmt (Mpdu.ofUpper frame) o.pendingQueue := by
    unfold Originator.processUpperFrame at hmem
    dsimp only at hmem
    split at hmem
    · exact hmem
    · exact List.mem_of_mem_take hmem
  rcases mem_insertPacket hinsert with rfl | hold
  · exact ⟨rfl, rfl, rfl⟩
  · exact hinv.queue frame' hold

theorem Sound.step (h : o.Sound p) {e : Event β} (hstep : o.step p e = .ok o') :
    o'.Sound p ∧ Continues o o' := by
  cases e with
  | upperFrame frame =>
      obtain rfl := Except.ok.inj hstep
      exact h.processUpperFrame frame
  | channelGranted =>
      obtain ⟨hsound, hcontinues, -, -⟩ := h.channelGranted hstep
      exact ⟨hsound, hcontinues⟩
  | transmissionComplete =>
      cases hsequence : o.frameSequence with
      | rts packet =>
          obtain ⟨hsound, hcontinues, -⟩ := h.transmittedRts hsequence hstep
          exact ⟨hsound, hcontinues⟩
      | group packet =>
          obtain ⟨hsound, hcontinues, -⟩ := h.transmittedGroup hsequence hstep
          exact ⟨hsound, hcontinues⟩
      | data packet last =>
          obtain ⟨hsound, hcontinues, -⟩ := h.transmittedData hsequence hstep
          exact ⟨hsound, hcontinues⟩
      | none =>
          simp only [Originator.step, Originator.transmissionComplete, hsequence] at hstep
          cases hstep
      | cts packet =>
          simp only [Originator.step, Originator.transmissionComplete, hsequence] at hstep
          cases hstep
      | ack packet last =>
          simp only [Originator.step, Originator.transmissionComplete, hsequence] at hstep
          cases hstep
  | lowerFrame isForUs response => exact h.processLowerFrame hstep
  | startRxTimeout isReceptionInProgress => exact h.startRxTimeout hstep
  | corruptedFrame => exact h.corruptedFrameReceived hstep

/-! ## Runs -/

theorem sound_of_run {cw : Nat} {events : List (Event β)}
    (hrun : run (Originator.step p) { cw := cw } events = .ok o) : o.Sound p :=
  run_invariant (fun _ _ _ h _ hstep => (h.step hstep).1) (.initial p cw)
    (along_trivial (fun _ _ => trivial) _ _) hrun

/-- In any run, no packet of any frame is transmitted more often than its retry limit allows. -/
theorem tries_le_retryLimit {cw : Nat} {events : List (Event β)}
    (hrun : run (Originator.step p) { cw := cw } events = .ok o) :
    ∀ packet ∈ packets o.extracted, o.tries packet ≤ max 1 (retryLimit p packet.frame) := by
  intro packet hmem
  have h := sound_of_run hrun
  rw [← h.inv.packets] at hmem
  rcases List.mem_append.mp hmem with hfinished | hprogress
  · obtain ⟨f, hf, rfl⟩ := List.mem_map.mp hfinished
    exact h.attempts.done f hf
  · obtain ⟨packet', hpacket', rfl⟩ := List.mem_map.mp hprogress
    exact (h.attempts.pending packet' hpacket').tries_le

/-- A packet that is never acknowledged is sent twice if the limit is two. -/
theorem tries_le_retryLimit_twice :
    ∃ o, run (Originator.step { address := 1, shortRetryLimit := 2 }) { cw := 15 }
        [.upperFrame { header := { receiverAddress := 2 }, payload := [7] }, .channelGranted,
          .transmissionComplete, .startRxTimeout false, .channelGranted, .transmissionComplete,
          .startRxTimeout false] = .ok o ∧
      o.transmitted.length = 2 ∧
      ∀ packet ∈ packets o.extracted, o.tries packet ≤
        max 1 (retryLimit { address := 1, shortRetryLimit := 2 } packet.frame) := by
  obtain ⟨o, hrun, hlength⟩ : ∃ o,
      run (Originator.step { address := 1, shortRetryLimit := 2 }) { cw := 15 }
        [.upperFrame { header := { receiverAddress := 2 }, payload := [7] }, .channelGranted,
          .transmissionComplete, .startRxTimeout false, .channelGranted, .transmissionComplete,
          .startRxTimeout false] = .ok o ∧ o.transmitted.length = 2 :=
    exists_of_run_map (by decide)
  exact ⟨o, hrun, hlength, tries_le_retryLimit hrun⟩

/-- In any run, the packets that are no longer in progress and those that are in progress are,
in this order, those of the frames taken from the queue, and they are fragments of the last
two frames at most. -/
theorem finished_append_inProgress {cw : Nat} {events : List (Event β)}
    (hrun : run (Originator.step p) { cw := cw } events = .ok o) :
    o.finished.map (fun f => f.1.unretried) ++ o.inProgressFrames.map Packet.unretried =
        packets o.extracted ∧
      ∀ packet ∈ o.inProgressFrames, o.extracted.length ≤ packet.msdu + 2 :=
  ⟨(sound_of_run hrun).inv.packets, (sound_of_run hrun).inv.recent⟩

/-- The first of two fragments was acknowledged. -/
theorem finished_append_inProgress_twoFragments :
    ∃ o, run (Originator.step { address := 1, fragmentationThreshold := 30 }) { cw := 15 }
        [.upperFrame { header := { receiverAddress := 2 }, payload := [7, 8, 9] }, .channelGranted,
          .transmissionComplete, .lowerFrame true .ACK] = .ok o ∧
      (o.finished.length = 1 ∧ o.inProgressFrames.length = 1) ∧
      o.finished.map (fun f => f.1.unretried) ++ o.inProgressFrames.map Packet.unretried =
        packets o.extracted := by
  obtain ⟨o, hrun, hlengths⟩ : ∃ o,
      run (Originator.step { address := 1, fragmentationThreshold := 30 }) { cw := 15 }
        [.upperFrame { header := { receiverAddress := 2 }, payload := [7, 8, 9] }, .channelGranted,
          .transmissionComplete, .lowerFrame true .ACK] = .ok o ∧
        (o.finished.length, o.inProgressFrames.length) = (1, 1) := exists_of_run_map (by decide)
  obtain ⟨hfinished, hprogress⟩ := Prod.mk.inj hlengths
  exact ⟨o, hrun, ⟨hfinished, hprogress⟩, (finished_append_inProgress hrun).1⟩

end

end Originator

end MultiTechBus.Ieee80211
