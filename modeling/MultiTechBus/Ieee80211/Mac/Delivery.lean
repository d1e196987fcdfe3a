import MultiTechBus.Ieee80211.Mac.Reception

/-! # Deliveries

Whatever is lost, and whenever timers expire, every station sends up the frames that the
originator took from its queue for that station in order, each at most once and as it was.
-/

namespace MultiTechBus.Ieee80211

open MultiTechBus.Library

variable {β : Type*}

namespace Exchange

/-- What is known of the originator and of every station, in any state. -/
structure Inv (p : DcfParams) (s : Exchange β) : Prop where
  sound : s.originator.Sound p
  stations : ∀ station, ∃ seen pending order,
    Received p.address s.originator station (s.flight station) (s.recipients station) seen pending
      order

section

variable {p : DcfParams} {s s' : Exchange β} {o o' : Originator β} {packet : Packet β}
  {station : MacAddress} {flight : List (Packet β)} {r : Recipient β} {seen : Nat}
  {pending : BasicReassembly.Key → List (Mpdu β)} {order : List Nat}

theorem Inv.initial (p : DcfParams) (cw : Nat) :
    Inv p ({ originator := { cw := cw } } : Exchange β) where
  sound := .initial p cw
  stations := fun station => ⟨_, _, _, .initial p.address station _ rfl⟩

/-- A packet in progress carries the last frame with its number. -/
theorem known_copyOf (h : o.Inv) (hmem : packet ∈ o.inProgressFrames) :
    Known p.address o.extracted (copyOf p packet) := by
  obtain ⟨whole, fragmentSizes, hget, hframe, hof⟩ := h.carries hmem
  have hnumber : packet.frame.sequenceNumber = whole.sequenceNumber := by rw [hof.common]
  refine ⟨whole, fragmentSizes, ?_, hframe, hof.sentBy p.address⟩
  change latest o.extracted packet.frame.sequenceNumber = some (packet.msdu, _)
  rw [hnumber]
  refine latest_of_getElem? hget fun m frame hlt hlater => ?_
  obtain ⟨hm, -⟩ := List.getElem?_eq_some_iff.mp hlater
  have hrecent := h.recent packet hmem
  obtain rfl : m = packet.msdu + 1 := by omega
  exact (h.numbers packet.msdu _ _ hget hlater).symm

/-- The packet on the air is the first one in progress, and its acknowledgement is not awaited
yet. -/
theorem onAir_spec (h : o.Sound p) (hair : o.onAir = some packet) :
    packet ∈ o.inProgressFrames ∧ ∀ packet', o.awaits packet' = false := by
  have hin := h.sequence
  unfold Originator.InSequence at hin
  unfold Originator.onAir at hair
  unfold Originator.awaits
  cases hsequence : o.frameSequence with
  | group packet' =>
      rw [hsequence] at hair hin
      obtain rfl := Option.some.inj hair
      exact ⟨List.mem_of_head? hin.1, fun _ => rfl⟩
  | data packet' last =>
      rw [hsequence] at hair hin
      obtain rfl := Option.some.inj hair
      exact ⟨List.mem_of_head? hin.1, fun _ => rfl⟩
  | none =>
      rw [hsequence] at hair
      cases hair
  | rts packet' =>
      rw [hsequence] at hair
      cases hair
  | cts packet' =>
      rw [hsequence] at hair
      cases hair
  | ack packet' last =>
      rw [hsequence] at hair
      cases hair

/-- The end of a transmission leaves the packet that was on the air behind the others. -/
theorem transmissionComplete_spec (h : o.Sound p) (hdone : o.transmissionComplete p = .ok o') :
    o'.Sound p ∧ Originator.Continues o o' ∧
      ∀ packet ∈ o.onAir, o'.Behind packet ∧ o'.extracted = o.extracted := by
  unfold Originator.onAir
  cases hsequence : o.frameSequence with
  | rts packet =>
      obtain ⟨hsound, hcontinues, -⟩ := h.transmittedRts hsequence hdone
      exact ⟨hsound, hcontinues, nofun⟩
  | group packet =>
      obtain ⟨hsound, hcontinues, hbehind, hextracted, -⟩ := h.transmittedGroup hsequence hdone
      exact ⟨hsound, hcontinues, fun _ hair => Option.some.inj hair ▸ ⟨hbehind, hextracted⟩⟩
  | data packet last =>
      obtain ⟨hsound, hcontinues, hbehind, hextracted, -⟩ := h.transmittedData hsequence hdone
      exact ⟨hsound, hcontinues, fun _ hair => Option.some.inj hair ▸ ⟨hbehind, hextracted⟩⟩
  | none =>
      simp only [Originator.transmissionComplete, hsequence] at hdone
      cases hdone
  | cts packet =>
      simp only [Originator.transmissionComplete, hsequence] at hdone
      cases hdone
  | ack packet last =>
      simp only [Originator.transmissionComplete, hsequence] at hdone
      cases hdone

theorem Received.transmitted (h : Received p.address o station flight r seen pending order)
    (hsound : o.Sound p) (hdone : o.transmissionComplete p = .ok o')
    (hfree : ∀ frame ∈ o'.extracted.drop o.extracted.length,
      (∀ packet ∈ flight, packet.frame.sequenceNumber ≠ frame.1.sequenceNumber) ∧
        r.fragmentsMap.find? ⟨p.address, -1, frame.1.sequenceNumber⟩ = none) (hears : Bool) :
    Received p.address o' station
      (if hears then flight ++ (o.onAir.map (copyOf p)).toList else flight) r seen pending order := by
  obtain ⟨hsound', hcontinues, hair⟩ := transmissionComplete_spec hsound hdone
  have hkept := h.originator hcontinues hfree
  cases hears with
  | false => exact hkept
  | true =>
      rw [if_pos rfl]
      cases hpacket : o.onAir with
      | none =>
          rw [Option.map_none, Option.toList_none, List.append_nil]
          exact hkept
      | some packet =>
          obtain ⟨hbehind, hextracted⟩ := hair packet hpacket
          obtain ⟨hmem, hawaits⟩ := onAir_spec hsound hpacket
          refine hkept.hear ?_ (fun bound hbound => ?_) fun packet' hmem' => ?_
          · rw [hextracted]
            exact known_copyOf hsound.inv hmem
          · refine (h.ahead bound hbound packet hmem).imp fun hagain => ?_
            rw [hawaits packet] at hagain
            exact hagain.resolve_right Bool.false_ne_true
          · rcases hbehind packet' hmem' with hlt | ⟨hsame, hawait⟩
            · exact .inl hlt
            · exact .inr ⟨congrArg (· + 1) (Packet.place_eq_of_same hsame), .inr hawait⟩

theorem Inv.update (h : s.Inv p) (horiginator : s'.originator = s.originator)
    (hflight : s'.flight = Function.update s.flight station flight)
    (hrecipients : s'.recipients = Function.update s.recipients station r)
    (hnew : ∃ seen pending order,
      Received p.address s.originator station flight r seen pending order) : s'.Inv p := by
  refine ⟨horiginator ▸ h.sound, fun station' => ?_⟩
  rw [horiginator, hflight, hrecipients]
  rcases eq_or_ne station' station with rfl | hne
  · rw [Function.update_self, Function.update_self]
    exact hnew
  · rw [Function.update_of_ne hne, Function.update_of_ne hne]
    exact h.stations station'

theorem Inv.lose (h : s.Inv p) (hflight : s.flight station = packet :: flight) :
    ({ s with flight := Function.update s.flight station flight } : Exchange β).Inv p := by
  obtain ⟨seen, pending, order, hreceived⟩ := h.stations station
  rw [hflight] at hreceived
  exact @Inv.update _ _ _ { s with flight := Function.update s.flight station flight } station
    flight (s.recipients station) h rfl rfl (Function.update_eq_self _ _).symm
    ⟨seen, pending, order, hreceived.lose⟩

/-- An event of the originator changes nothing else. -/
theorem originator_step {e : Originator.Event β} (hstep : s.step p (.originator e) = .ok s') :
    ∃ o', s.originator.step p e = .ok o' ∧ { s with originator := o' } = s' := by
  cases e with
  | transmissionComplete => cases hstep
  | upperFrame frame => exact map_ok_inv hstep
  | channelGranted => exact map_ok_inv hstep
  | lowerFrame isForUs response => exact map_ok_inv hstep
  | startRxTimeout isReceptionInProgress => exact map_ok_inv hstep
  | corruptedFrame => exact map_ok_inv hstep

theorem Inv.step (h : s.Inv p) {e : Event β} (hadmissible : s.Admissible p e)
    (hstep : s.step p e = .ok s') : s'.Inv p := by
  obtain ⟨hnumbers, hothers⟩ := hadmissible
  have hfree := hnumbers s' hstep
  cases e with
  | originator event =>
      obtain ⟨o', horiginator, rfl⟩ := originator_step hstep
      obtain ⟨hsound, hcontinues⟩ := h.sound.step horiginator
      refine ⟨hsound, fun station => ?_⟩
      obtain ⟨seen, pending, order, hreceived⟩ := h.stations station
      exact ⟨seen, pending, order,
        hreceived.originator hcontinues fun frame hmem => hfree frame hmem station⟩
  | transmitted hearers =>
      obtain ⟨o', hdone, rfl⟩ := map_ok_inv hstep
      refine ⟨(transmissionComplete_spec h.sound hdone).1, fun station => ?_⟩
      obtain ⟨seen, pending, order, hreceived⟩ := h.stations station
      exact ⟨seen, pending, order, hreceived.transmitted h.sound hdone
        (fun frame hmem => hfree frame hmem station) (hearers station)⟩
  | arrive station =>
      unfold Exchange.step at hstep
      dsimp only at hstep
      split at hstep
      · cases hstep
      · rename_i packet rest hflight
        unfold receive at hstep
        split at hstep
        · rename_i hforUs
          obtain ⟨recipient, hrecipient, rfl⟩ := map_ok_inv hstep
          obtain ⟨seen, pending, order, hreceived⟩ := h.stations station
          rw [hflight] at hreceived
          obtain ⟨seen', pending', order', hnew, -⟩ := hreceived.receive hforUs hrecipient
          exact h.update rfl rfl rfl ⟨seen', pending', order', hnew⟩
        · obtain rfl := Except.ok.inj hstep
          exact h.lose hflight
  | lose station =>
      unfold Exchange.step at hstep
      dsimp only at hstep
      split at hstep
      · cases hstep
      · rename_i packet rest hflight
        obtain rfl := Except.ok.inj hstep
        exact h.lose hflight
  | ack =>
      unfold Exchange.step at hstep
      dsimp only at hstep
      split at hstep
      · cases hstep
      · obtain ⟨o', hlower, rfl⟩ := map_ok_inv hstep
        obtain ⟨hsound, hcontinues⟩ := h.sound.processLowerFrame hlower
        refine ⟨hsound, fun station => ?_⟩
        obtain ⟨seen, pending, order, hreceived⟩ := h.stations station
        exact ⟨seen, pending, order,
          hreceived.originator hcontinues fun frame hmem => hfree frame hmem station⟩
  | loseAck =>
      unfold Exchange.step at hstep
      dsimp only at hstep
      split at hstep
      · cases hstep
      · obtain rfl := Except.ok.inj hstep
        exact ⟨h.sound, h.stations⟩
  | foreign station frame =>
      obtain ⟨recipient, hrecipient, rfl⟩ := map_ok_inv hstep
      obtain ⟨seen, pending, order, hreceived⟩ := h.stations station
      exact h.update rfl (Function.update_eq_self _ _).symm rfl
        ⟨seen, pending, order, hreceived.foreign (hothers station frame rfl) hrecipient⟩

/-- In any run in which the originator reuses no sequence number that copies or fragments
still have, every station sends up frames of the originator that are for it, in the order in
which they were taken from the queue, each at most once, and with the bodies they had. -/
theorem delivered_sublist {cw : Nat} {events : List (Event β)}
    (halong : Along (step p) (Admissible p) { originator := { cw := cw } } events)
    (hrun : run (step p) { originator := { cw := cw } } events = .ok s) (station : MacAddress) :
    ((s.recipients station).deliveredFrom p.address).Sublist
      ((s.originator.extracted.map fun frame => frame.1.sentBy p.address).filter
        fun frame => isForUs station frame.header) := by
  have hinv : s.Inv p := run_invariant (fun s e s' h hadmissible hstep => h.step hadmissible hstep)
    (.initial p cw) halong hrun
  obtain ⟨seen, pending, order, h⟩ := hinv.stations station
  have hforUs : ∀ frame ∈ (s.recipients station).deliveredFrom p.address,
      isForUs station frame.header = true := by
    intro frame hmem
    rw [h.delivered] at hmem
    obtain ⟨m, hm, hframe⟩ := List.mem_filterMap.mp hmem
    obtain ⟨taken, htaken, -, hstation⟩ := h.whole m hm
    rw [htaken] at hframe
    rw [← Option.some.inj hframe]
    exact hstation
  rw [← List.filter_eq_self.mpr hforUs]
  refine List.Sublist.filter _ ?_
  rw [h.delivered]
  -- the numbers of the frames increase, so they are some of all the numbers
  have hrange : order.Sublist (List.range s.originator.extracted.length) := by
    refine List.sublist_of_subperm_of_pairwise (List.subperm_of_subset ?_ fun m hm => ?_) h.sorted
      List.pairwise_lt_range
    · exact h.sorted.imp Nat.ne_of_lt
    · obtain ⟨frame, hget, -⟩ := h.whole m hm
      exact List.mem_range.mpr (List.getElem?_eq_some_iff.mp hget).1
  have hall : (s.originator.extracted.map fun frame => frame.1.sentBy p.address) =
      (List.range s.originator.extracted.length).filterMap fun m =>
        s.originator.extracted[m]?.map fun frame => frame.1.sentBy p.address := by
    conv_lhs => rw [← filterMap_getElem?_range s.originator.extracted]
    rw [List.map_filterMap]
  rw [hall]
  exact hrange.filterMap _

/-- A step that takes no frame from the queue is admissible if it is not a frame with the
address of the originator. -/
def takesNothing (p : DcfParams) (s : Exchange β) (e : Event β) : Bool :=
  (match s.step p e with
    | .ok s' => s'.originator.extracted.length ≤ s.originator.extracted.length
    | .error _ => true) &&
  match e with
  | .foreign _ frame => frame.header.transmitterAddress ≠ p.address
  | _ => true

theorem admissible_of_takesNothing {e : Event β} (h : takesNothing p s e = true) :
    s.Admissible p e := by
  obtain ⟨hstep, hother⟩ := Bool.and_eq_true_iff.mp h
  refine ⟨fun s' heq frame hmem => ?_, fun station frame heq => ?_⟩
  · rw [heq] at hstep
    rw [List.drop_of_length_le (of_decide_eq_true hstep)] at hmem
    cases hmem
  · subst heq
    exact of_decide_eq_true hother

theorem along_of_takesNothing {events : List (Event β)}
    (h : Along (step p) (fun s e => takesNothing p s e = true) s events) :
    Along (step p) (Admissible p) s events := h.mono fun _ _ => admissible_of_takesNothing

/-- At most two bytes go into a fragment. -/
def fragmenting : DcfParams := { address := 1, fragmentationThreshold := 30 }

/-- Three bytes for station 2 in two fragments, the first of which is sent twice because its
acknowledgement is lost. -/
def retransmission : List (Event Nat) :=
  [.originator (.upperFrame { header := { receiverAddress := 2 }, payload := [7, 8, 9] }),
    .originator .channelGranted, .transmitted fun _ => true, .arrive 2, .loseAck,
    .originator (.startRxTimeout false), .originator .channelGranted,
    .transmitted fun _ => true, .lose 3, .arrive 2, .ack,
    .transmitted fun station => station = 2, .arrive 2, .ack]

theorem delivered_sublist_retransmission :
    ∃ s, run (step fragmenting) { originator := { cw := 15 } } retransmission = .ok s ∧
      (s.recipients 2).deliveredFrom 1 =
        [{ header := { receiverAddress := 2, transmitterAddress := 1 }, sequenceNumber := 1,
            body := [7, 8, 9] }] ∧
      ((s.recipients 2).deliveredFrom 1).Sublist
        ((s.originator.extracted.map fun frame => frame.1.sentBy 1).filter
          fun frame => isForUs 2 frame.header) := by
  obtain ⟨s, hrun, hdelivered⟩ : ∃ s,
      run (step fragmenting) { originator := { cw := 15 } } retransmission = .ok s ∧
        (s.recipients 2).deliveredFrom 1 =
          [{ header := { receiverAddress := 2, transmitterAddress := 1 }, sequenceNumber := 1,
              body := [7, 8, 9] }] := exists_of_run_map (by decide)
  refine ⟨s, hrun, hdelivered, delivered_sublist ?_ hrun 2⟩
  refine ⟨admissible_of_takesNothing (by decide), fun s₁ h₁ => ?_⟩
  obtain rfl := Except.ok.inj h₁
  refine ⟨⟨fun _ _ _ _ _ => ⟨nofun, rfl⟩, nofun⟩, fun s₂ h₂ => ?_⟩
  obtain rfl := Except.ok.inj h₂
  exact along_of_takesNothing (by decide)

end

end Exchange

end MultiTechBus.Ieee80211
