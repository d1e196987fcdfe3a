import MultiTechBus.Ieee80211.Mac.Delivery
import MultiTechBus.Ieee80211.Mac.Outcomes

/-! # What is under way

An acknowledgement does not tell what it acknowledges. If the originator does nothing else
while a copy or an acknowledgement is on its way, it belongs to the packet that waits for
it.
-/

namespace MultiTechBus.Ieee80211

open MultiTechBus.Library

variable {β : Type*}

namespace Exchange

/-- A copy for one station alone. -/
def Alone (station : MacAddress) (packet : Packet β) : Prop :=
  packet.frame.header.receiverAddress = station ∧
    packet.frame.header.receiverAddress.isMulticast = false

instance (station : MacAddress) (packet : Packet β) : Decidable (Alone station packet) :=
  inferInstanceAs (Decidable (_ ∧ _))

/-- Nothing is on its way that an acknowledgement comes of. -/
def Quiet (s : Exchange β) : Prop :=
  s.acks = [] ∧ ∀ station, ∀ packet ∈ s.flight station, ¬ Alone station packet

/-- While a packet waits for its acknowledgement, at most one copy of it for its receiver, or
one acknowledgement, is on its way. -/
structure UnderWay (p : DcfParams) (s : Exchange β) : Prop where
  awaited : ∀ packet last, s.originator.frameSequence = .ack packet last →
    (∀ station, ∀ packet' ∈ s.flight station, Alone station packet' → packet' = copyOf p packet) ∧
    (∀ packet' ∈ s.acks, packet' = copyOf p packet) ∧
    (s.flight packet.frame.header.receiverAddress).countP
      (fun packet' => Alone packet.frame.header.receiverAddress packet') + s.acks.length ≤ 1
  quiet : (∀ packet last, s.originator.frameSequence ≠ .ack packet last) → s.Quiet

/-- Neither a copy of the packet that waits for its acknowledgement is on the way to its
receiver nor the acknowledgement on its way: nothing else that is for the receiver alone can
be under way. -/
def settled (s : Exchange β) : Bool :=
  match s.originator.frameSequence with
  | .ack packet _ =>
      s.acks.isEmpty && (s.flight packet.frame.header.receiverAddress).all fun packet' =>
        !decide (Alone packet.frame.header.receiverAddress packet')
  | _ => true

/-- The timers of the originator and what it hears of others wait that long, and no
acknowledgement comes from elsewhere. -/
def prompt (s : Exchange β) : Event β → Bool
  | .originator (.lowerFrame true .ACK) => false
  | .originator (.lowerFrame _ _) => s.settled
  | .originator (.startRxTimeout _) => s.settled
  | .originator .corruptedFrame => s.settled
  | _ => true

section

variable {p : DcfParams} {s s' : Exchange β} {station : MacAddress} {packet : Packet β}

theorem UnderWay.of_quiet (h : s.Quiet) : s.UnderWay p where
  awaited := fun packet last _ => by
    obtain ⟨hacks, hflight⟩ := h
    refine ⟨fun station packet' hmem halone => absurd halone (hflight station packet' hmem), ?_, ?_⟩
    · rw [hacks]
      exact nofun
    · rw [hacks, List.countP_eq_zero.mpr fun packet' hmem => ?_]
      · exact Nat.zero_le _
      · exact fun halone => hflight _ packet' hmem (of_decide_eq_true halone)
  quiet := fun _ => h

theorem UnderWay.congr (h : s.UnderWay p)
    (hsequence : s'.originator.frameSequence = s.originator.frameSequence)
    (hflight : ∀ station, (s'.flight station).Sublist (s.flight station))
    (hacks : s'.acks.Sublist s.acks) : s'.UnderWay p where
  awaited := fun packet last heq => by
    rw [hsequence] at heq
    obtain ⟨hcopies, hanswers, hone⟩ := h.awaited packet last heq
    refine ⟨fun station packet' hmem => hcopies station packet' ((hflight station).subset hmem),
      fun packet' hmem => hanswers packet' (hacks.subset hmem), ?_⟩
    have hcount := @List.Sublist.countP_le _
      (fun packet' => decide (Alone packet.frame.header.receiverAddress packet')) _ _
      (hflight packet.frame.header.receiverAddress)
    have hlength := hacks.length_le
    omega
  quiet := fun hnone => by
    rw [hsequence] at hnone
    obtain ⟨hnil, hothers⟩ := h.quiet hnone
    exact ⟨List.eq_nil_of_sublist_nil (hnil ▸ hacks),
      fun station packet' hmem => hothers station packet' ((hflight station).subset hmem)⟩

/-- When the originator may act, nothing is on its way. -/
theorem UnderWay.quiet_of_settled (h : s.UnderWay p) (hsettled : s.settled = true) : s.Quiet := by
  by_cases hawaits : ∃ packet last, s.originator.frameSequence = .ack packet last
  · obtain ⟨packet, last, heq⟩ := hawaits
    unfold settled at hsettled
    rw [heq, Bool.and_eq_true_iff, List.isEmpty_iff, List.all_eq_true] at hsettled
    obtain ⟨hacks, hflight⟩ := hsettled
    obtain ⟨hcopies, -⟩ := h.awaited packet last heq
    refine ⟨hacks, fun station packet' hmem halone => ?_⟩
    have hcopy := hcopies station packet' hmem halone
    have hstation : packet.frame.header.receiverAddress = station := by
      rw [← halone.1, hcopy]
      rfl
    subst hstation
    have hnot := hflight packet' hmem
    rw [decide_eq_true halone] at hnot
    cases hnot
  · exact h.quiet fun packet last heq => hawaits ⟨packet, last, heq⟩

/-- A copy that arrives becomes an acknowledgement. -/
theorem UnderWay.answered (h : s.UnderWay p) {rest : List (Packet β)}
    (hflight : s.flight station = packet :: rest) (halone : Alone station packet)
    (hsequence : s'.originator.frameSequence = s.originator.frameSequence)
    (hflight' : s'.flight = Function.update s.flight station rest)
    (hacks' : s'.acks = s.acks ++ [packet]) : s'.UnderWay p := by
  have hmem : packet ∈ s.flight station := hflight ▸ List.mem_cons_self
  have hsubset : ∀ station', ∀ packet' ∈ s'.flight station', packet' ∈ s.flight station' := by
    intro station' packet' hmem'
    rw [hflight'] at hmem'
    rcases eq_or_ne station' station with rfl | hne
    · rw [Function.update_self] at hmem'
      exact hflight ▸ List.mem_cons_of_mem _ hmem'
    · rwa [Function.update_of_ne hne] at hmem'
  refine ⟨fun awaited last heq => ?_, fun hnone => ?_⟩
  · rw [hsequence] at heq
    obtain ⟨hcopies, hanswers, hone⟩ := h.awaited awaited last heq
    have hcopy := hcopies station packet hmem halone
    have hstation : awaited.frame.header.receiverAddress = station := by
      rw [← halone.1, hcopy]
      rfl
    refine ⟨fun station' packet' hmem' => hcopies station' packet' (hsubset station' packet' hmem'),
      fun packet' hmem' => ?_, ?_⟩
    · rw [hacks'] at hmem'
      rcases List.mem_append.mp hmem' with hold | hnew
      · exact hanswers packet' hold
      · rw [List.mem_singleton.mp hnew]
        exact hcopy
    · rw [hstation, hflight, List.countP_cons, if_pos (decide_eq_true halone)] at hone
      rw [hstation, hflight', Function.update_self, hacks', List.length_append,
        List.length_singleton]
      omega
  · rw [hsequence] at hnone
    exact absurd halone ((h.quiet hnone).2 station packet hmem)

/-- The first packet in progress goes to its receiver and to those that overhear it. -/
theorem UnderWay.transmitted (h : s.UnderWay p) (hsound : s.originator.Sound p)
    {hearers : MacAddress → Bool} (hstep : s.transmit p hearers = .ok s') : s'.UnderWay p := by
  obtain ⟨o', hdone, rfl⟩ := map_ok_inv hstep
  have hin := hsound.sequence
  unfold Originator.InSequence at hin
  cases hsequence : s.originator.frameSequence with
  | rts packet =>
      have hquiet := h.quiet (by rw [hsequence]; exact nofun)
      refine .of_quiet ⟨hquiet.1, fun station packet' hmem => ?_⟩
      have hair : s.originator.onAir = none := by rw [Originator.onAir, hsequence]
      dsimp only at hmem
      rw [hair, Option.map_none, Option.toList_none, List.append_nil, ite_self] at hmem
      exact hquiet.2 station packet' hmem
  | group packet =>
      have hquiet := h.quiet (by rw [hsequence]; exact nofun)
      rw [hsequence] at hin
      refine .of_quiet ⟨hquiet.1, fun station packet' hmem => ?_⟩
      have hair : s.originator.onAir = some packet := by rw [Originator.onAir, hsequence]
      dsimp only at hmem
      rw [hair] at hmem
      split at hmem
      · rcases List.mem_append.mp hmem with hold | hnew
        · exact hquiet.2 station packet' hold
        · rw [List.mem_singleton.mp hnew]
          exact fun halone => Bool.false_ne_true (halone.2.symm.trans hin.2.2)
      · exact hquiet.2 station packet' hmem
  | data packet last =>
      have hquiet := h.quiet (by rw [hsequence]; exact nofun)
      have hair : s.originator.onAir = some packet := by rw [Originator.onAir, hsequence]
      obtain ⟨-, -, -, -, -, -, hack⟩ := hsound.transmittedData hsequence hdone
      refine ⟨fun awaited last' heq => ?_, fun hnone => absurd hack (hnone packet last)⟩
      obtain ⟨rfl, -⟩ := FrameSequenceStep.ack.inj (hack.symm.trans heq)
      refine ⟨fun station packet' hmem halone => ?_, ?_, ?_⟩
      · dsimp only at hmem
        rw [hair] at hmem
        split at hmem
        · rcases List.mem_append.mp hmem with hold | hnew
          · exact absurd halone (hquiet.2 station packet' hold)
          · exact List.mem_singleton.mp hnew
        · exact absurd halone (hquiet.2 station packet' hmem)
      · dsimp only
        rw [hquiet.1]
        exact nofun
      · have hzero := List.countP_eq_zero.mpr fun packet' hmem halone =>
          hquiet.2 packet.frame.header.receiverAddress packet' hmem (of_decide_eq_true halone)
        dsimp only
        rw [hair, hquiet.1]
        split
        · rw [List.countP_append, hzero, Nat.zero_add]
          exact List.countP_le_length
        · rw [hzero]
          exact Nat.zero_le _
  | none =>
      simp only [Originator.transmissionComplete, hsequence] at hdone
      cases hdone
  | cts packet =>
      simp only [Originator.transmissionComplete, hsequence] at hdone
      cases hdone
  | ack packet last =>
      simp only [Originator.transmissionComplete, hsequence] at hdone
      cases hdone

/-- A grant of the channel makes no difference to a sequence that runs. -/
theorem UnderWay.channelGranted (h : s.UnderWay p) {o' : Originator β}
    (hgranted : s.originator.channelGranted p = .ok o') :
    ({ s with originator := o' } : Exchange β).UnderWay p := by
  by_cases hawaits : ∃ packet last, s.originator.frameSequence = .ack packet last
  · obtain ⟨packet, last, heq⟩ := hawaits
    unfold Originator.channelGranted at hgranted
    rw [heq] at hgranted
    obtain rfl := Except.ok.inj hgranted
    exact h
  · exact .of_quiet (h.quiet fun packet last heq => hawaits ⟨packet, last, heq⟩)

/-- What the originator hears or its timer does at the right time finds nothing on its way. -/
theorem UnderWay.originator (h : s.UnderWay p) {e : Originator.Event β}
    (hprompt : s.prompt (.originator e) = true) (hstep : s.step p (.originator e) = .ok s') :
    s'.UnderWay p ∧ e ≠ .lowerFrame true .ACK := by
  obtain ⟨o', hchange, rfl⟩ := originator_step hstep
  cases e with
  | upperFrame frame =>
      obtain rfl := Except.ok.inj hchange
      exact ⟨h.congr rfl (fun _ => List.Sublist.refl _) (List.Sublist.refl _), nofun⟩
  | channelGranted => exact ⟨h.channelGranted hchange, nofun⟩
  | transmissionComplete => cases hstep
  | startRxTimeout isReceptionInProgress => exact ⟨.of_quiet (h.quiet_of_settled hprompt), nofun⟩
  | corruptedFrame => exact ⟨.of_quiet (h.quiet_of_settled hprompt), nofun⟩
  | lowerFrame isForUs response =>
      cases isForUs with
      | false => exact ⟨.of_quiet (h.quiet_of_settled hprompt), nofun⟩
      | true =>
          cases response with
          | ACK => cases hprompt
          | CTS => exact ⟨.of_quiet (h.quiet_of_settled hprompt), nofun⟩
          | other => exact ⟨.of_quiet (h.quiet_of_settled hprompt), nofun⟩

/-- An acknowledgement that arrives is for the packet that waits for it, and nothing else is
on its way. -/
theorem UnderWay.of_ack (h : s.UnderWay p) {rest : List (Packet β)}
    (hacks : s.acks = packet :: rest) : ∃ awaited last,
      s.originator.frameSequence = .ack awaited last ∧ packet = copyOf p awaited ∧
        ∀ o', ({ s with originator := o', acks := rest } : Exchange β).Quiet := by
  by_cases hawaits : ∃ packet last, s.originator.frameSequence = .ack packet last
  · obtain ⟨awaited, last, heq⟩ := hawaits
    obtain ⟨hcopies, hanswers, hone⟩ := h.awaited awaited last heq
    rw [hacks, List.length_cons] at hone
    have hrest : rest.length = 0 := by omega
    have hcount : (s.flight awaited.frame.header.receiverAddress).countP
        (fun packet' => Alone awaited.frame.header.receiverAddress packet') = 0 := by omega
    refine ⟨awaited, last, heq, hanswers packet (hacks ▸ List.mem_cons_self), fun o' =>
      ⟨List.length_eq_zero_iff.mp hrest, fun station packet' hmem halone => ?_⟩⟩
    have hcopy := hcopies station packet' hmem halone
    have hstation : awaited.frame.header.receiverAddress = station := by
      rw [← halone.1, hcopy]
      rfl
    rw [hstation] at hcount
    exact List.countP_eq_zero.mp hcount packet' hmem (decide_eq_true halone)
  · have hquiet := h.quiet fun packet last heq => hawaits ⟨packet, last, heq⟩
    rw [hquiet.1] at hacks
    cases hacks

theorem sublist_update {rest : List (Packet β)} (hflight : s.flight station = packet :: rest)
    (station' : MacAddress) :
    (Function.update s.flight station rest station').Sublist (s.flight station') := by
  rcases eq_or_ne station' station with rfl | hne
  · rw [Function.update_self, hflight]
    exact List.sublist_cons_self _ _
  · rw [Function.update_of_ne hne]

theorem alone_iff (hforUs : isForUs station packet.frame.header = true) :
    Alone station packet ↔ packet.frame.header.receiverAddress.isMulticast = false := by
  refine ⟨And.right, fun hunicast => ⟨?_, hunicast⟩⟩
  rcases of_decide_eq_true hforUs with heq | ⟨hmulticast, -⟩
  · exact heq
  · exact absurd (hunicast.symm.trans hmulticast) Bool.false_ne_true

theorem UnderWay.step (h : s.UnderWay p) (hsound : s.originator.Sound p) {e : Event β}
    (hprompt : s.prompt e = true) (hstep : s.step p e = .ok s') : s'.UnderWay p := by
  cases e with
  | originator event => exact (h.originator hprompt hstep).1
  | transmitted hearers => exact h.transmitted hsound hstep
  | arrive station =>
      unfold Exchange.step at hstep
      dsimp only at hstep
      split at hstep
      · cases hstep
      · rename_i packet rest hflight
        unfold receive at hstep
        split at hstep
        · rename_i hforUs
          obtain ⟨recipient, -, rfl⟩ := map_ok_inv hstep
          cases hmulticast : packet.frame.header.receiverAddress.isMulticast with
          | false =>
              exact h.answered hflight ((alone_iff hforUs).mpr hmulticast) rfl rfl rfl
          | true =>
              exact h.congr rfl (sublist_update hflight) (List.Sublist.refl _)
        · obtain rfl := Except.ok.inj hstep
          exact h.congr rfl (sublist_update hflight) (List.Sublist.refl _)
  | lose station =>
      unfold Exchange.step at hstep
      dsimp only at hstep
      split at hstep
      · cases hstep
      · rename_i packet rest hflight
        obtain rfl := Except.ok.inj hstep
        exact h.congr rfl (sublist_update hflight) (List.Sublist.refl _)
  | ack =>
      unfold Exchange.step at hstep
      dsimp only at hstep
      split at hstep
      · cases hstep
      · rename_i packet rest hacks
        obtain ⟨o', -, rfl⟩ := map_ok_inv hstep
        obtain ⟨-, -, -, -, hquiet⟩ := h.of_ack hacks
        exact .of_quiet (hquiet o')
  | loseAck =>
      unfold Exchange.step at hstep
      dsimp only at hstep
      split at hstep
      · cases hstep
      · rename_i packet rest hacks
        obtain rfl := Except.ok.inj hstep
        exact h.congr rfl (fun _ => List.Sublist.refl _) (hacks ▸ List.sublist_cons_self _ _)
  | foreign station frame =>
      obtain ⟨recipient, -, rfl⟩ := map_ok_inv hstep
      exact h.congr rfl (fun _ => List.Sublist.refl _) (List.Sublist.refl _)

end

end Exchange

end MultiTechBus.Ieee80211
