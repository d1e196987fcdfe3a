import MultiTechBus.Ieee80211.Mac.FrameSequence

/-! # Outcomes of packets

Only an acknowledgement makes the originator take a packet for acknowledged, and it is the
packet that waits for one.
-/

namespace MultiTechBus.Ieee80211

open MultiTechBus.Library

variable {β : Type*}

namespace Originator

section

variable {p : DcfParams} {o o' : Originator β} {frame : Option (Packet β)}

theorem finished_extract (h : o.extract p = .ok o') : o'.finished = o.finished := by
  rcases extract_spec h with ⟨-, rfl⟩ | ⟨_, _, _, _, _, _, -, -, -, rfl, -⟩
  · rfl
  · rfl

theorem finished_getFrameToTransmit (h : o.getFrameToTransmit p = .ok (o', frame)) :
    o'.finished = o.finished := by
  obtain ⟨o₁, hensure, hpair⟩ := map_ok_inv h
  obtain ⟨rfl, -⟩ := Prod.mk.inj hpair
  unfold ensureHasFrameToTransmit at hensure
  split at hensure
  · obtain rfl := Except.ok.inj hensure
    rfl
  · exact finished_extract hensure

theorem finished_getPendingFrameFor (h : o.getPendingFrameFor p = .ok o') :
    o'.finished = o.finished := by
  obtain ⟨⟨o₁, frame⟩, hget, hrest⟩ := bind_ok_inv h
  refine Eq.trans ?_ (finished_getFrameToTransmit hget)
  dsimp only at hrest
  split at hrest
  · obtain rfl := Except.ok.inj hrest
    rfl
  · exact finished_extract hrest

theorem finished_transmitData (h : o.transmitData p = .ok o') : o'.finished = o.finished := by
  obtain ⟨⟨o₁, frame⟩, hget, hrest⟩ := bind_ok_inv h
  refine Eq.trans ?_ (finished_getFrameToTransmit hget)
  dsimp only at hrest
  split at hrest
  · cases hrest
  · obtain ⟨o₂, hpending, rfl⟩ := map_ok_inv hrest
    have hfinished := finished_getPendingFrameFor hpending
    exact hfinished

def Unacknowledged (o o' : Originator β) : Prop :=
  ∀ f ∈ o'.finished, f ∈ o.finished ∨ f.2 ≠ .acknowledged

theorem Unacknowledged.of_eq (h : o'.finished = o.finished) : Unacknowledged o o' :=
  fun _ hmem => .inl (h ▸ hmem)

theorem Unacknowledged.of_concat {packet : Packet β} {outcome : Outcome}
    (h : o'.finished = o.finished ++ [(packet, outcome)]) (hne : outcome ≠ .acknowledged) :
    Unacknowledged o o' := by
  intro f hmem
  rw [h] at hmem
  rcases List.mem_append.mp hmem with hold | hnew
  · exact .inl hold
  · rw [List.mem_singleton.mp hnew]
    exact .inr hne

theorem unacknowledged_abortFrameSequence (h : o.abortFrameSequence p = .ok o') :
    Unacknowledged o o' := by
  unfold Originator.abortFrameSequence at h
  split at h
  · rename_i packet hsequence
    obtain rfl := Except.ok.inj h
    obtain ⟨hcounter, -⟩ := incrementStationSrc_spec p o
    unfold originatorProcessRtsProtectionFailed
    dsimp only
    split
    · refine .of_concat (?_ : _ = o.finished ++ [(packet, .retryLimitReached)]) nofun
      refine congrArg (· ++ _) ((eraseCounter_spec p _ packet.frame).1.finished.trans ?_)
      exact hcounter.finished
    · exact .of_eq hcounter.finished
  · rename_i packet last hsequence
    obtain ⟨o₁, hfailed, rfl⟩ := map_ok_inv h
    obtain ⟨hcounter, -⟩ := dataOrMgmtFrameTransmissionFailed_spec p o packet.frame
    unfold originatorProcessFailedFrame at hfailed
    split at hfailed
    · cases hfailed
    · split at hfailed
      · obtain ⟨o₂, hprocess, rfl⟩ := map_ok_inv hfailed
        have hfinished : o₂.finished = o.finished := by
          refine Eq.trans ?_ hcounter.finished
          unfold processFailedFrame at hprocess
          split at hprocess
          · obtain rfl := Except.ok.inj hprocess
            rfl
          · split at hprocess
            · obtain rfl := Except.ok.inj hprocess
              rfl
            · cases hprocess
        split
        · refine .of_concat (?_ : _ = o.finished ++ [(packet, .retryLimitReached)]) nofun
          exact congrArg (· ++ _) ((eraseCounter_spec p o₂ packet.frame).1.finished.trans hfinished)
        · exact .of_eq hfinished
      · cases hfailed
  · cases h

theorem unacknowledged_handleStartRxTimeout (h : o.handleStartRxTimeout p = .ok o') :
    Unacknowledged o o' := by
  unfold Originator.handleStartRxTimeout at h
  split at h
  · exact unacknowledged_abortFrameSequence h
  · exact unacknowledged_abortFrameSequence h
  · cases h
  · cases h

/-- Only an acknowledgement acknowledges a packet. -/
theorem Sound.unacknowledged (h : o.Sound p) {e : Event β} (hne : e ≠ .lowerFrame true .ACK)
    (hstep : o.step p e = .ok o') : Unacknowledged o o' := by
  cases e with
  | upperFrame frame =>
      obtain rfl := Except.ok.inj hstep
      exact .of_eq rfl
  | channelGranted =>
      obtain ⟨-, -, hfinished, -⟩ := h.channelGranted hstep
      exact .of_eq hfinished
  | transmissionComplete =>
      cases hsequence : o.frameSequence with
      | rts packet =>
          obtain ⟨-, -, hfinished⟩ := h.transmittedRts hsequence hstep
          exact .of_eq hfinished
      | group packet =>
          obtain ⟨-, -, -, -, hfinished⟩ := h.transmittedGroup hsequence hstep
          exact .of_concat hfinished nofun
      | data packet last =>
          obtain ⟨-, -, -, -, hfinished, -⟩ := h.transmittedData hsequence hstep
          exact .of_eq hfinished
      | none =>
          simp only [Originator.step, Originator.transmissionComplete, hsequence] at hstep
          cases hstep
      | cts packet =>
          simp only [Originator.step, Originator.transmissionComplete, hsequence] at hstep
          cases hstep
      | ack packet last =>
          simp only [Originator.step, Originator.transmissionComplete, hsequence] at hstep
          cases hstep
  | lowerFrame isForUs response =>
      unfold Originator.step Originator.processLowerFrame at hstep
      dsimp only at hstep
      split at hstep
      · obtain ⟨o₁, hfirst, rfl⟩ := map_ok_inv hstep
        have hfirst' : Unacknowledged o o₁ := by
          split at hfirst
          · unfold Originator.processResponse at hfirst
            split at hfirst
            · obtain rfl := Except.ok.inj hfirst
              exact .of_eq rfl
            · split at hfirst
              · have hfinished := finished_transmitData hfirst
                exact .of_eq hfinished
              · exact unacknowledged_abortFrameSequence hfirst
            · split at hfirst
              · rename_i hack
                exact absurd (by rw [hack.1, hack.2]) hne
              · exact unacknowledged_abortFrameSequence hfirst
            · cases hfirst
          · obtain rfl := Except.ok.inj hfirst
            exact .of_eq rfl
        exact hfirst'
      · split at hstep
        · cases hstep
        · obtain rfl := Except.ok.inj hstep
          exact .of_eq rfl
  | startRxTimeout isReceptionInProgress =>
      unfold Originator.step Originator.startRxTimeout at hstep
      dsimp only at hstep
      split at hstep
      · split at hstep
        · obtain rfl := Except.ok.inj hstep
          exact .of_eq rfl
        · have hfinished := unacknowledged_handleStartRxTimeout hstep
          exact hfinished
      · cases hstep
  | corruptedFrame =>
      unfold Originator.step Originator.corruptedFrameReceived at hstep
      dsimp only at hstep
      split at hstep
      · exact unacknowledged_handleStartRxTimeout hstep
      · obtain rfl := Except.ok.inj hstep
        exact .of_eq rfl

theorem Inv.finished_header (h : o.Inv) {f : Packet β × Outcome} (hf : f ∈ o.finished)
    {frame : Mpdu β × List Nat} (hget : o.extracted[f.1.msdu]? = some frame) :
    f.1.frame.header = frame.1.header := by
  have hpacket : f.1.unretried ∈ Ieee80211.packets o.extracted := by
    rw [← h.packets]
    exact List.mem_append_left _ (List.mem_map.mpr ⟨f, hf, rfl⟩)
  obtain ⟨whole, fragmentSizes, hget', hfragment⟩ := mem_packets hpacket
  obtain rfl := Option.some.inj (hget.symm.trans hget')
  have hof := (fragmentOf_of_mem (h.frames _ (List.mem_of_getElem? hget)) hfragment).1
  have hheader := congrArg Mpdu.header hof.common
  exact hheader

theorem Sound.acknowledges (h : o.Sound p) {packet : Packet β} {last : Bool}
    (hsequence : o.frameSequence = .ack packet last)
    (hlower : o.processLowerFrame p true .ACK = .ok o') :
    o'.finished = o.finished ++ [(packet, .acknowledged)] := by
  unfold Originator.processLowerFrame isSequenceRunning Originator.processResponse at hlower
  rw [hsequence] at hlower
  obtain ⟨o₁, hack, rfl⟩ := map_ok_inv hlower
  obtain ⟨-, -, hfinished⟩ := h.receivedAck hsequence hack
  exact hfinished

end

end Originator

end MultiTechBus.Ieee80211
