import MultiTechBus.Library.Run
import MultiTechBus.Ieee80211.Mac.DataFrames

/-! # End-to-end addressing

A frame for a packet carries the addresses of the packet in fields that depend on the role
of the node that sends it. Every handler keeps that, so what an upper layer gets in the
end says who sent the packet, to whom, and with which priority.
-/

namespace MultiTechBus.Ieee80211

variable {ι α : Type*}

/-! ## Where a frame carries its addresses -/

/-- The frame of a station carries the destination in the third address and leaves the
source to the transmitter address; that of an access point carries the destination as
receiver and the source in the third address. -/
def Addressed (role : Option BssStationType) (address : MacAddress)
    (header : Ieee80211DataHeader) (original : Indication α) : Prop :=
  match role with
  | some .STATION =>
      header.toDS = true ∧ header.address3 = original.destAddress ∧
        original.srcAddress = address
  | some .ACCESS_POINT =>
      header.toDS = false ∧ header.receiverAddress = original.destAddress ∧
        header.address3 = original.srcAddress
  | none => False

/-- The frame carries the payload and the priority. -/
structure Tagged (frame : DataFrame α) (original : Indication α) : Prop where
  payload : frame.payload = original.payload
  plain : original.userPriority = none → frame.header.type = ST_DATA
  qos : ∀ priority, original.userPriority = some priority →
    frame.header.type = ST_DATA_WITH_QOS ∧ frame.header.tid = BitVec.ofInt 8 priority

/-- The frame, held by a node of this role and address, carries the packet. -/
structure Carries (role : Option BssStationType) (address : MacAddress) (frame : DataFrame α)
    (original : Indication α) : Prop where
  addressed : Addressed role address frame.header original
  tagged : Tagged frame original

def IsUserPriority (priority : Int) : Prop := 0 ≤ priority ∧ priority < 8

/-- The packet is seen as it was requested. -/
structure Faithfully (packet original : Indication α) : Prop where
  srcAddress : packet.srcAddress = original.srcAddress
  destAddress : packet.destAddress = original.destAddress
  payload : packet.payload = original.payload
  userPriority : (∀ priority, original.userPriority = some priority → IsUserPriority priority) →
    packet.userPriority = original.userPriority

/-! ## Priorities -/

theorem toNat_ofInt_of_lt_eight {p : Int} (h0 : 0 ≤ p) (h8 : p < 8) :
    ((BitVec.ofInt 8 p).toNat : Int) = p := by
  rw [BitVec.toNat_ofInt, Int.toNat_of_nonneg (by omega)]
  omega

namespace Tagged

variable {frame : DataFrame α} {original : Indication α}

/-- A priority below 8 is read back as it was written. -/
theorem userPriorityInd_eq (h : Tagged frame original)
    (hpriority : ∀ priority, original.userPriority = some priority → IsUserPriority priority) :
    Ieee80211Mib.userPriorityInd frame.header = original.userPriority := by
  unfold Ieee80211Mib.userPriorityInd
  cases hp : original.userPriority with
  | none =>
      have hplain : ST_DATA ≠ ST_DATA_WITH_QOS := by decide
      rw [h.plain hp, if_neg fun hqos => hplain hqos.1]
  | some p =>
      obtain ⟨htype, htid⟩ := h.qos p hp
      obtain ⟨h0, h8⟩ := hpriority p hp
      have hvalue := toNat_ofInt_of_lt_eight h0 h8
      have hbelow : (BitVec.ofInt 8 p).toNat < 8 := by omega
      rw [htype, htid, if_pos ⟨rfl, hbelow⟩, hvalue]

theorem type_and_ne_zero (h : Tagged frame original) : frame.header.type &&& 0x30#8 ≠ 0#8 := by
  cases hp : original.userPriority with
  | none =>
      rw [h.plain hp]
      decide
  | some p =>
      rw [(h.qos p hp).1]
      decide

theorem congr {frame' : DataFrame α} (h : Tagged frame original)
    (hpayload : frame'.payload = frame.payload) (htype : frame'.header.type = frame.header.type)
    (htid : frame'.header.tid = frame.header.tid) : Tagged frame' original where
  payload := hpayload.trans h.payload
  plain hnone := htype.trans (h.plain hnone)
  qos p hp := ⟨htype.trans (h.qos p hp).1, htid.trans (h.qos p hp).2⟩

end Tagged

/-! ## Sending -/

namespace Ieee80211Mib

variable {mib : Ieee80211Mib} {frame : DataFrame α} {original : Indication α}

section Priority

variable (header : Ieee80211DataHeader) (userPriority : Option Int)

@[simp] theorem setUserPriority_toDS :
    (setUserPriority header userPriority).toDS = header.toDS := by
  cases userPriority <;> rfl

@[simp] theorem setUserPriority_receiverAddress :
    (setUserPriority header userPriority).receiverAddress = header.receiverAddress := by
  cases userPriority <;> rfl

@[simp] theorem setUserPriority_address3 :
    (setUserPriority header userPriority).address3 = header.address3 := by
  cases userPriority <;> rfl

end Priority

theorem setUserPriority_tagged (packet : UpperPacket α) (address : MacAddress)
    {header : Ieee80211DataHeader} (htype : header.type = ST_DATA) :
    Tagged ⟨setUserPriority header packet.userPriority, packet.payload⟩
      (packet.original address) where
  payload := rfl
  plain hnone := by
    have hp : packet.userPriority = none := hnone
    rw [hp]
    exact htype
  qos p hsome := by
    have hp : packet.userPriority = some p := hsome
    rw [hp]
    exact ⟨rfl, rfl⟩

theorem encapsulate_carries {packet : UpperPacket α} (hmode : mib.mode = some .INFRASTRUCTURE)
    (h : mib.encapsulate packet = .ok frame) :
    Carries mib.stationType mib.address frame (packet.original mib.address) := by
  unfold encapsulate at h
  rw [hmode] at h
  cases htype : mib.stationType with
  | none =>
      rw [htype] at h
      cases h
  | some role =>
      rw [htype] at h
      cases role with
      | ACCESS_POINT =>
          cases h
          exact ⟨by simp [Addressed, UpperPacket.original], setUserPriority_tagged packet _ rfl⟩
      | STATION =>
          cases h
          exact ⟨by simp [Addressed, UpperPacket.original], setUserPriority_tagged packet _ rfl⟩

theorem transmitFrame_carries (h : Carries mib.stationType mib.address frame original) :
    Carries mib.stationType mib.address (mib.transmitFrame frame) original where
  addressed := by
    have haddressed := h.addressed
    unfold Addressed at haddressed ⊢
    exact haddressed
  tagged := h.tagged.congr rfl rfl rfl

/-! ## Receiving -/

theorem decapsulate_accessPoint {sender : Ieee80211Mib} {packet : Indication α}
    (hmode : mib.mode = some .INFRASTRUCTURE) (hrole : mib.stationType = some .ACCESS_POINT)
    (hsender : sender.stationType = some .STATION)
    (hcarries : Carries sender.stationType sender.address frame original)
    (htransmitter : frame.header.transmitterAddress = sender.address)
    (h : mib.decapsulate frame = .ok packet) : Faithfully packet original := by
  obtain ⟨haddressed, htagged⟩ := hcarries
  rw [hsender] at haddressed
  obtain ⟨-, hdest, hsrc⟩ := haddressed
  simp only [decapsulate, hmode, hrole] at h
  cases h
  exact ⟨htransmitter.trans hsrc.symm, hdest, htagged.payload, htagged.userPriorityInd_eq⟩

theorem decapsulate_station {sender : Ieee80211Mib} {packet : Indication α}
    (hmode : mib.mode = some .INFRASTRUCTURE) (hrole : mib.stationType = some .STATION)
    (hsender : sender.stationType = some .ACCESS_POINT)
    (hcarries : Carries sender.stationType sender.address frame original)
    (h : mib.decapsulate frame = .ok packet) : Faithfully packet original := by
  obtain ⟨haddressed, htagged⟩ := hcarries
  rw [hsender] at haddressed
  obtain ⟨-, hdest, hsrc⟩ := haddressed
  simp only [decapsulate, hmode, hrole] at h
  cases h
  exact ⟨hsrc, hdest, htagged.payload, htagged.userPriorityInd_eq⟩

end Ieee80211Mib

/-- What a MAC puts out for a packet keeps what the packet says. -/
def MacOut.Keeps (mib : Ieee80211Mib) (original : Indication α) : MacOut α → Prop
  | .processUpperFrame frame => Carries mib.stationType mib.address frame original
  | .sendUp packet => Faithfully packet original
  | .mgmtOut _ => False

namespace Ieee80211Mib

variable {mib : Ieee80211Mib} {frame : DataFrame α} {original : Indication α}

theorem processUpperFrame_keeps {outs : List (MacOut α)}
    (hcarries : Carries mib.stationType mib.address frame original)
    (h : processUpperFrame frame = .ok outs) : ∀ out ∈ outs, out.Keeps mib original := by
  unfold processUpperFrame at h
  split at h
  · cases h
  · cases h
    intro out hout
    rw [List.mem_singleton] at hout
    rw [hout]
    exact hcarries

theorem handleUpperPacket_keeps {packet : UpperPacket α} {outs : List (MacOut α)}
    (hmode : mib.mode = some .INFRASTRUCTURE) (h : mib.handleUpperPacket packet = .ok outs) :
    ∀ out ∈ outs, out.Keeps mib (packet.original mib.address) := by
  unfold handleUpperPacket at h
  split at h
  · cases h
    simp
  · cases hencapsulate : mib.encapsulate packet with
    | error k =>
        rw [hencapsulate] at h
        cases h
    | ok frame =>
        rw [hencapsulate] at h
        simp only at h
        split at h
        · cases h
          simp
        · exact processUpperFrame_keeps (encapsulate_carries hmode hencapsulate) h

/-- The relayed frame has the destination as receiver and the source in the third address. -/
theorem distributeDataFrame_keeps {packet : Indication α} {outs : List (MacOut α)}
    (hrole : mib.stationType = some .ACCESS_POINT)
    (hdest : frame.header.address3 = original.destAddress)
    (hsrc : frame.header.transmitterAddress = original.srcAddress)
    (htagged : Tagged frame original) (hpayload : packet.payload = original.payload)
    (h : distributeDataFrame packet frame.header = .ok outs) :
    ∀ out ∈ outs, out.Keeps mib original := by
  unfold distributeDataFrame at h
  split at h
  · cases h
  · apply processUpperFrame_keeps ?_ h
    rw [hrole]
    exact ⟨⟨rfl, hdest, hsrc⟩, htagged.congr (hpayload.trans htagged.payload.symm) rfl rfl⟩

theorem processDataFrame_of_not_toDS {packet : Indication α}
    (hmode : mib.mode = some .INFRASTRUCTURE) (hrole : mib.stationType = some .ACCESS_POINT)
    (htoDS : frame.header.toDS = false) : mib.processDataFrame packet frame.header = .ok [] := by
  simp only [processDataFrame, hmode, hrole, if_pos htoDS]

/-- It relays the frame of a station, hands the packet up, does both, or drops it. -/
theorem processDataFrame_accessPoint {packet : Indication α} {outs : List (MacOut α)}
    (hmode : mib.mode = some .INFRASTRUCTURE) (hrole : mib.stationType = some .ACCESS_POINT)
    (h : mib.processDataFrame packet frame.header = .ok outs) :
    ∃ relayed, (relayed = [] ∨ distributeDataFrame packet frame.header = .ok relayed) ∧
      ∀ out ∈ outs, out ∈ relayed ∨ out = .sendUp packet := by
  simp only [processDataFrame, hmode, hrole] at h
  split at h
  · cases h
    exact ⟨[], .inl rfl, by simp⟩
  · split at h
    · obtain ⟨relayed, hrelayed, houts⟩ := Library.map_ok_inv h
      refine ⟨relayed, .inr hrelayed, ?_⟩
      rw [← houts]
      intro out hout
      simpa using hout
    · split at h
      · cases h
        exact ⟨[], .inl rfl, by simp⟩
      · exact ⟨outs, .inr h, fun out hout => .inl hout⟩
      · cases h
        exact ⟨[], .inl rfl, by simp⟩

/-- A station hands up what its access point transmitted, or drops it. -/
theorem processDataFrame_station {packet : Indication α} {outs : List (MacOut α)}
    (hmode : mib.mode = some .INFRASTRUCTURE) (hrole : mib.stationType = some .STATION)
    (h : mib.processDataFrame packet frame.header = .ok outs) :
    outs = [] ∨ mib.isAssociated = true ∧ mib.bssid = frame.header.transmitterAddress ∧
      outs = [.sendUp packet] := by
  simp only [processDataFrame, hmode, hrole] at h
  by_cases hassociated : mib.isAssociated = false
  · rw [if_pos hassociated] at h
    cases h
    exact .inl rfl
  · rw [if_neg hassociated] at h
    by_cases hbssid : mib.bssid = frame.header.transmitterAddress
    · rw [if_neg (not_not.mpr hbssid)] at h
      cases h
      exact .inr ⟨(Bool.not_eq_false _).mp hassociated, hbssid, rfl⟩
    · rw [if_pos hbssid] at h
      cases h
      exact .inl rfl

/-- What becomes of a frame from the air, where a station accepts frames of access points
only. -/
theorem sendUpFrame_keeps {sender : Ieee80211Mib} {outs : List (MacOut α)}
    (hmode : mib.mode = some .INFRASTRUCTURE)
    (hcarries : Carries sender.stationType sender.address frame original)
    (htransmitter : frame.header.transmitterAddress = sender.address)
    (haccept : mib.stationType = some .STATION → mib.isAssociated = true →
      mib.bssid = frame.header.transmitterAddress → sender.stationType = some .ACCESS_POINT)
    (h : mib.sendUpFrame frame = .ok outs) : ∀ out ∈ outs, out.Keeps mib original := by
  unfold sendUpFrame at h
  cases hdecapsulate : mib.decapsulate frame with
  | error k =>
      rw [hdecapsulate] at h
      cases h
  | ok packet =>
      simp only [hdecapsulate, if_neg hcarries.tagged.type_and_ne_zero] at h
      cases hrole : mib.stationType with
      | none => simp only [processDataFrame, hmode, hrole, reduceCtorEq] at h
      | some role =>
          cases role with
          | ACCESS_POINT =>
              have haddressed := hcarries.addressed
              cases hsender : sender.stationType with
              | none =>
                  rw [hsender] at haddressed
                  exact haddressed.elim
              | some senderRole =>
                  rw [hsender] at haddressed
                  cases senderRole with
                  | ACCESS_POINT =>
                      rw [processDataFrame_of_not_toDS hmode hrole haddressed.1] at h
                      cases h
                      simp
                  | STATION =>
                      have hpacket := decapsulate_accessPoint hmode hrole hsender hcarries
                        htransmitter hdecapsulate
                      obtain ⟨relayed, hrelayed, houts⟩ :=
                        processDataFrame_accessPoint hmode hrole h
                      intro out hout
                      cases houts out hout with
                      | inl hmem =>
                          cases hrelayed with
                          | inl hnil => simp [hnil] at hmem
                          | inr hdistribute =>
                              exact distributeDataFrame_keeps hrole haddressed.2.1
                                (htransmitter.trans haddressed.2.2.symm) hcarries.tagged
                                hpacket.payload hdistribute out hmem
                      | inr hup =>
                          rw [hup]
                          exact hpacket
          | STATION =>
              cases processDataFrame_station hmode hrole h with
              | inl hnil => simp [hnil]
              | inr hup =>
                  obtain ⟨hassociated, hbssid, houts⟩ := hup
                  have hsender := haccept hrole hassociated hbssid
                  intro out hout
                  rw [houts, List.mem_singleton] at hout
                  rw [hout]
                  exact decapsulate_station hmode hrole hsender hcarries hdecapsulate

end Ieee80211Mib

/-! ## The network -/

namespace DataNet

structure Kept (s : DataNet ι α) : Prop where
  mode : ∀ n, (s.mib n).mode = some .INFRASTRUCTURE
  queued : ∀ c ∈ s.queued,
    Carries (s.mib c.node).stationType (s.mib c.node).address c.item c.original
  air : ∀ c ∈ s.air, Carries (s.mib c.node).stationType (s.mib c.node).address c.item c.original ∧
    c.item.header.transmitterAddress = (s.mib c.node).address
  delivered : ∀ c ∈ s.delivered, Faithfully c.item c.original

/-- A station that accepts a frame under its `bssid` accepts it from an access point. -/
def AcceptsFromAccessPoint (s : DataNet ι α) : DataEvent ι α → Prop
  | .receive n i =>
      ∀ c, s.air[i]? = some c → (s.mib n).stationType = some .STATION →
        (s.mib n).isAssociated = true →
        (s.mib n).bssid = c.item.header.transmitterAddress →
        (s.mib c.node).stationType = some .ACCESS_POINT
  | _ => True

/-- Nothing is on its way yet, and every node is part of an infrastructure BSS. -/
structure Idle (s : DataNet ι α) : Prop where
  mode : ∀ n, (s.mib n).mode = some .INFRASTRUCTURE
  queued : s.queued = []
  air : s.air = []
  delivered : s.delivered = []

variable {s s' t : DataNet ι α}

theorem Idle.kept (h : s.Idle) : s.Kept where
  mode := h.mode
  queued := by simp [h.queued]
  air := by simp [h.air]
  delivered := by simp [h.delivered]

theorem Kept.after {n : ι} {original : Indication α} {outs : List (MacOut α)} (hs : s.Kept)
    (houts : ∀ out ∈ outs, out.Keeps (s.mib n) original) : (s.after n original outs).Kept where
  mode := hs.mode
  queued c hc := by
    rw [DataNet.after, List.mem_append, List.mem_map] at hc
    cases hc with
    | inl hold => exact hs.queued c hold
    | inr hnew =>
        obtain ⟨frame, hframe, rfl⟩ := hnew
        obtain ⟨out, hout, hsome⟩ := List.mem_filterMap.mp hframe
        cases out with
        | processUpperFrame frame' => cases hsome; exact houts _ hout
        | sendUp packet => cases hsome
        | mgmtOut packet => cases hsome
  air := hs.air
  delivered c hc := by
    rw [DataNet.after, List.mem_append, List.mem_map] at hc
    cases hc with
    | inl hold => exact hs.delivered c hold
    | inr hnew =>
        obtain ⟨packet, hpacket, rfl⟩ := hnew
        obtain ⟨out, hout, hsome⟩ := List.mem_filterMap.mp hpacket
        cases out with
        | sendUp packet' => cases hsome; exact houts _ hout
        | processUpperFrame frame => cases hsome
        | mgmtOut packet' => cases hsome

variable [DecidableEq ι]

theorem manage_unchanged (mib : ι → Ieee80211Mib) (n m : ι) (isAssociated : Bool)
    (bssid : MacAddress) (stations : MacAddress → Option BssMemberStatus) :
    let mib' := Function.update mib n
      { mib n with isAssociated := isAssociated, bssid := bssid, stations := stations }
    (mib' m).mode = (mib m).mode ∧ (mib' m).stationType = (mib m).stationType ∧
      (mib' m).address = (mib m).address := by
  intro mib'
  by_cases hm : m = n
  · subst hm
    simp [mib']
  · simp [mib', Function.update_of_ne hm]

theorem Kept.step {e : DataEvent ι α} (hs : s.Kept) (haccept : s.AcceptsFromAccessPoint e)
    (h : s.step e = .ok s') : s'.Kept := by
  cases e with
  | request n packet =>
      obtain ⟨outs, houts, rfl⟩ := Library.map_ok_inv h
      exact hs.after (Ieee80211Mib.handleUpperPacket_keeps (hs.mode n) houts)
  | transmit i =>
      cases hc : s.queued[i]? with
      | none => simp [DataNet.step, hc] at h
      | some c =>
          simp only [DataNet.step, hc, Except.ok.injEq] at h
          subst h
          have hcarries := hs.queued c (List.mem_of_getElem? hc)
          refine ⟨hs.mode, hs.queued, ?_, hs.delivered⟩
          intro d hd
          rw [List.mem_append, List.mem_singleton] at hd
          cases hd with
          | inl hold => exact hs.air d hold
          | inr hnew =>
              rw [hnew]
              exact ⟨Ieee80211Mib.transmitFrame_carries hcarries, rfl⟩
  | receive n i =>
      cases hc : s.air[i]? with
      | none => simp [DataNet.step, hc] at h
      | some c =>
          simp only [DataNet.step, hc] at h
          obtain ⟨outs, houts, rfl⟩ := Library.map_ok_inv h
          obtain ⟨hcarries, htransmitter⟩ := hs.air c (List.mem_of_getElem? hc)
          exact hs.after (Ieee80211Mib.sendUpFrame_keeps (hs.mode n) hcarries htransmitter
            (haccept c hc) houts)
  | manage n isAssociated bssid stations =>
      simp only [DataNet.step, Except.ok.injEq] at h
      subst h
      have hsame := fun m => manage_unchanged s.mib n m isAssociated bssid stations
      refine ⟨?_, ?_, ?_, hs.delivered⟩
      · intro m
        rw [(hsame m).1]
        exact hs.mode m
      · intro c hc
        rw [(hsame c.node).2.1, (hsame c.node).2.2]
        exact hs.queued c hc
      · intro c hc
        rw [(hsame c.node).2.1, (hsame c.node).2.2]
        exact hs.air c hc

/-- Whatever an upper layer gets says who sent it, to whom, and with which priority. -/
theorem delivered_faithfully {es : List (DataEvent ι α)} (hs : s.Idle)
    (haccept : Library.Along DataNet.step AcceptsFromAccessPoint s es)
    (h : Library.run DataNet.step s es = .ok t) :
    ∀ c ∈ t.delivered, Faithfully c.item c.original :=
  (Library.run_invariant (I := Kept) (fun _ _ _ hkept hguard hstep => hkept.step hguard hstep)
    hs.kept haccept h).delivered

/-! ## A relayed packet -/

instance (s : DataNet ι α) : ∀ e, Decidable (s.AcceptsFromAccessPoint e)
  | .receive n i =>
      match h : s.air[i]? with
      | none => .isTrue fun c hc => by simp [h] at hc
      | some c =>
          decidable_of_iff ((s.mib n).stationType = some .STATION →
              (s.mib n).isAssociated = true →
              (s.mib n).bssid = c.item.header.transmitterAddress →
              (s.mib c.node).stationType = some .ACCESS_POINT)
            ⟨fun haccept d hd => Option.some.inj (h.symm.trans hd) ▸ haccept,
              fun haccept => haccept c h⟩
  | .request _ _ => .isTrue trivial
  | .transmit _ => .isTrue trivial
  | .manage _ _ _ _ => .isTrue trivial

def sampleBss : DataNet (Fin 3) String where
  mib n :=
    { address := BitVec.ofNat 48 (n + 1)
      mode := some .INFRASTRUCTURE
      stationType := if n = 0 then some .ACCESS_POINT else some .STATION
      isAssociated := n ≠ 0
      bssid := 1
      stations := fun address => if address = 2 ∨ address = 3 then some .ASSOCIATED else none }

/-- Node 1 sends a packet to node 2, which gets it through the access point. -/
def sampleRelay : List (DataEvent (Fin 3) String) :=
  [.request 1 { destAddress := 3, userPriority := some 5, payload := "ping" }, .transmit 0,
    .receive 0 0, .transmit 1, .receive 2 1]

theorem delivered_faithfully_relay :
    ∃ t, Library.run DataNet.step sampleBss sampleRelay = .ok t ∧
      t.delivered.map (·.item) = [⟨2, 3, some 5, "ping"⟩] ∧
      ∀ c ∈ t.delivered, Faithfully c.item c.original := by
  obtain ⟨t, hrun, hdelivered⟩ :
      ∃ t, Library.run DataNet.step sampleBss sampleRelay = .ok t ∧
        t.delivered.map (·.item) = [⟨2, 3, some 5, "ping"⟩] :=
    Library.exists_of_run_map (by decide)
  exact ⟨t, hrun, hdelivered,
    delivered_faithfully ⟨fun _ => rfl, rfl, rfl, rfl⟩ (by decide) hrun⟩

end DataNet

end MultiTechBus.Ieee80211
