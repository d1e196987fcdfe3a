import MultiTechBus.Ieee80211.Pending

/-! # Handlers and their timers

What a handler of the management entity schedules and cancels leaves the future event set
in step with the pointers, and with the AP list that context pointers refer to.
-/

namespace MultiTechBus.Ieee80211

open MultiTechBus.Library

namespace MgmtSta

/-- The pointers and the future event set agree, and no context pointer dangles. -/
structure Tracks (m : MgmtSta) (q : FutureEvents TimerKind) : Prop where
  count : m.Counts q
  distinct : (m.apList.map ApInfo.address).Nodup
  listed : ∀ x, m.assocTimeoutMsg = some x → known m.apList x.contextPointer = true
  current : q.Current fun k => k.context? ≠ none

theorem known_iff_mem {l : List ApInfo} {a : MacAddress} :
    known l a = true ↔ a ∈ l.map ApInfo.address := by
  unfold known
  rw [Option.isSome_iff_ne_none, ne_eq, lookupKey_eq_none_iff, not_not]

namespace Tracks

variable {m m' : MgmtSta} {q : FutureEvents TimerKind} {a : MacAddress} {ops : List TimerOp}
  {outs : List MgmtOut}

/-- A handler that keeps the entries of the AP list, as far as it keeps the counts. -/
theorem handled (h : m.Tracks q) (hops : .newEpoch ∉ ops) (hcount : m'.Counts (q.applyAll ops))
    (haddress : m'.apList.map ApInfo.address = m.apList.map ApInfo.address)
    (hlisted : ∀ x, m'.assocTimeoutMsg = some x → known m.apList x.contextPointer = true) :
    m'.Tracks (q.applyAll ops) where
  count := hcount
  distinct := haddress ▸ h.distinct
  listed x hx := by
    rw [known_iff_mem, haddress, ← known_iff_mem]
    exact hlisted x hx
  current := h.current.applyAll hops

theorem updateAP_addresses {f : ApInfo → ApInfo} (hf : ∀ ap, (f ap).address = ap.address) :
    (m.updateAP a f).apList.map ApInfo.address = m.apList.map ApInfo.address :=
  map_updateKey (fun ap hap => (hf ap).trans hap) m.apList

/-- A write to an entry whose timer is cancelled. -/
theorem cancelAuthTimeout {ap : ApInfo} {f : ApInfo → ApInfo} (h : m.Tracks q)
    (hf : ∀ ap, (f ap).address = ap.address)
    (hap : lookupKey ApInfo.address a m.apList = some ap)
    (hnone : (f ap).authTimeoutMsg = none) :
    (m.updateAP a f).Tracks (q.applyAll (Ieee80211.cancelAuthTimeout ap)) :=
  h.handled (newEpoch_not_mem_cancelAndDelete _ _) (h.count.cancelAuthTimeout hf hap hnone)
    (updateAP_addresses hf) h.listed

theorem updateAP {ap : ApInfo} {f : ApInfo → ApInfo} (h : m.Tracks q)
    (hf : ∀ ap, (f ap).address = ap.address)
    (hap : lookupKey ApInfo.address a m.apList = some ap)
    (hsame : (f ap).authTimeoutMsg = ap.authTimeoutMsg) : (m.updateAP a f).Tracks q := by
  have hcount : (m.updateAP a f).Counts (q.applyAll []) := h.count.updateAP hf hap hsame
  exact h.handled (by simp) hcount (updateAP_addresses hf) h.listed

/-! ### Frames -/

theorem handleAuthenticationFrame (h : m.Tracks q) (seq : BitVec 16) (status : Int)
    (isLast : Bool) :
    (m.handleAuthenticationFrame a seq status isLast).1.Tracks
      (q.applyAll (m.handleAuthenticationFrameTimers a seq status isLast)) := by
  unfold MgmtSta.handleAuthenticationFrame handleAuthenticationFrameTimers
  cases hap : m.lookupAP a with
  | none => exact h
  | some ap =>
      simp only
      by_cases hauth : ap.isAuthenticated
      · simpa only [if_pos hauth, FutureEvents.applyAll_nil] using h
      · by_cases htimer : ap.authTimeoutMsg = none
        · simpa only [if_neg hauth, if_pos htimer, FutureEvents.applyAll_nil] using h
        · by_cases hseq : (seq.toNat : Int) ≠ ap.authSeqExpected
          · simp only [if_neg hauth, if_neg htimer, if_pos hseq]
            exact h.cancelAuthTimeout (fun _ => rfl) hap rfl
          · by_cases hmore : status = SC_SUCCESSFUL ∧ isLast = false
            · simp only [if_neg hauth, if_neg htimer, if_neg hseq, if_pos hmore]
              exact h.updateAP (fun _ => rfl) hap rfl
            · simp only [if_neg hauth, if_neg htimer, if_neg hseq, if_neg hmore]
              exact h.cancelAuthTimeout (fun _ => rfl) hap rfl

theorem handleDeauthenticationFrame (h : m.Tracks q) :
    (m.handleDeauthenticationFrame a).1.Tracks
      (q.applyAll (m.handleDeauthenticationFrameTimers a)) := by
  unfold MgmtSta.handleDeauthenticationFrame handleDeauthenticationFrameTimers
  cases hap : m.lookupAP a with
  | none => exact h
  | some ap =>
      simp only
      by_cases hauth : (!ap.isAuthenticated) = true
      · simpa only [if_pos hauth, FutureEvents.applyAll_nil] using h
      · by_cases htimer : ap.authTimeoutMsg = none
        · have hnone : Ieee80211.cancelAuthTimeout ap = [] := by
            simp [Ieee80211.cancelAuthTimeout, cancelAndDelete, htimer]
          simp only [if_neg hauth, if_neg (not_not.mpr htimer), hnone]
          exact h.updateAP (fun _ => rfl) hap rfl
        · simp only [if_neg hauth, if_pos htimer]
          exact h.cancelAuthTimeout (fun _ => rfl) hap rfl

theorem handleDisassociationFrame (h : m.Tracks q) :
    (m.handleDisassociationFrame a).1.Tracks
      (q.applyAll (m.handleDisassociationFrameTimers a)) := by
  unfold MgmtSta.handleDisassociationFrame handleDisassociationFrameTimers
  have hcancel := h.handled m.newEpoch_not_mem_cancelAssocTimeout h.count.cancelAssocTimeout rfl
    nofun
  by_cases hother : (!m.mib.isAssociated || a != m.assocAP.address) = true
  · simpa only [if_pos hother, List.append_nil] using hcancel
  · simp only [if_neg hother]
    rw [FutureEvents.applyAll_append]
    exact hcancel.handled m.newEpoch_not_mem_cancelBeaconTimeout
      (hcancel.count.cancelBeaconTimeout.congr rfl rfl rfl rfl) rfl nofun

theorem storeAPInfo (h : m.Tracks q) (f : MgmtFrame) (body : BeaconBody) :
    (m.storeAPInfo f body).Tracks q := by
  have hsame := m.storeAPInfo_sameAuth f body
  obtain ⟨power, heq⟩ := m.storeAPInfo_eq f body
  have haddresses : (m.storeAPInfo f body).apList.map ApInfo.address =
      (m.ensureAP f.transmitterAddress).apList.map ApInfo.address := by
    rw [heq]
    apply map_updateKey
    exact fun _ _ => rfl
  refine ⟨h.count.of_pending fun k => ?_, ?_, fun x hx => ?_, h.current⟩
  · cases k with
    | MK_AUTH_TIMEOUT b => simp only [pending, hsame.authTimer]
    | _ =>
        rw [heq]
        rfl
  · rw [haddresses]
    unfold ensureAP lookupAP
    cases hap : lookupKey ApInfo.address f.transmitterAddress m.apList with
    | some ap => exact h.distinct
    | none =>
        rw [lookupKey_eq_none_iff] at hap
        simp only [List.map_append, List.map_cons, List.map_nil]
        exact List.nodup_append.mpr ⟨h.distinct, by simp, by
          intro b hb c hc
          rw [List.mem_singleton.mp hc]
          exact fun heq => hap (heq ▸ hb)⟩
  · rw [heq] at hx
    exact hsame.known _ (h.listed x hx)

theorem handleBeaconFrame (h : m.Tracks q) {f : MgmtFrame} {body : BeaconBody}
    (hok : m.handleBeaconFrame f body = .ok (m', outs)) :
    m'.Tracks (q.applyAll (m.handleBeaconFrameTimers f)) := by
  have hstored := h.storeAPInfo f body
  obtain ⟨power, heq⟩ := m.storeAPInfo_eq f body
  have hcancels : (m.storeAPInfo f body).cancelBeaconTimeout = m.cancelBeaconTimeout := by
    rw [heq]
    rfl
  have hmib : (m.storeAPInfo f body).mib = m.mib := by rw [heq]
  have haddress : (m.storeAPInfo f body).assocAP.address = m.assocAP.address := by rw [heq]
  unfold MgmtSta.handleBeaconFrame at hok
  unfold handleBeaconFrameTimers
  simp only [hmib, haddress] at hok
  by_cases hours : m.mib.isAssociated = true ∧ f.transmitterAddress = m.assocAP.address
  · rw [if_pos hours] at hok ⊢
    split at hok
    · cases hok
    · cases hok
      have hcount := hstored.count.cancelBeaconTimeout.scheduleBeaconTimeout rfl
        (MAX_BEACONS_MISSED (m.storeAPInfo f body).assocAP.beaconInterval)
        (MAX_BEACONS_MISSED m.assocAP.beaconInterval)
      rw [hcancels] at hcount
      refine hstored.handled ?_ ?_ rfl hstored.listed
      · simp [m.newEpoch_not_mem_cancelBeaconTimeout]
      · rw [FutureEvents.applyAll_append]
        exact hcount.congr rfl rfl rfl rfl
  · rw [if_neg hours] at hok ⊢
    cases hok
    exact hstored

theorem handleAssociationResponseFrame (h : m.Tracks q) (hm : m.Sound) {status : Int}
    (hok : m.handleAssociationResponseFrame a status = .ok (m', outs)) :
    m'.Tracks (q.applyAll (m.handleAssociationResponseFrameTimers a status)) := by
  unfold MgmtSta.handleAssociationResponseFrame at hok
  unfold handleAssociationResponseFrameTimers
  cases hx : m.assocTimeoutMsg with
  | none =>
      rw [if_pos hx] at hok
      cases hok
      exact h
  | some x =>
      rw [if_neg (by simp [hx])] at hok
      cases hap : m.lookupAP a with
      | none => simp [hap] at hok
      | some ap =>
          -- a pending association excludes an association, so no beacon timer is set
          have hnot : m.mib.isAssociated = false := by
            rw [← Bool.not_eq_true]
            intro hassociated
            rw [hm.exclusive hassociated] at hx
            cases hx
          have hbeacon : m.assocAP.beaconTimeoutMsg = none := by
            by_contra hne
            rw [hm.supervised.mpr hne] at hnot
            cases hnot
          have hcancel := h.handled m.newEpoch_not_mem_cancelAssocTimeout
            h.count.cancelAssocTimeout rfl nofun
          simp only [hap, hnot, Bool.false_eq_true, if_false, List.nil_append] at hok ⊢
          by_cases hstatus : status ≠ SC_SUCCESSFUL
          · rw [if_pos hstatus] at hok ⊢
            cases hok
            rw [List.append_nil]
            exact hcancel
          · rw [if_neg hstatus] at hok ⊢
            cases hok
            rw [FutureEvents.applyAll_append]
            refine hcancel.handled (by simp) ?_ rfl nofun
            have hcount := hcancel.count.scheduleBeaconTimeout (by simp [hbeacon])
              (MAX_BEACONS_MISSED ap.beaconInterval) (MAX_BEACONS_MISSED ap.beaconInterval)
            exact hcount.congr rfl rfl rfl rfl

theorem processFrame (h : m.Tracks q) (hm : m.Sound) {f : MgmtFrame}
    (hok : m.processFrame f = .ok (m', outs)) :
    m'.Tracks (q.applyAll (m.processFrameTimers f)) := by
  unfold MgmtSta.processFrame at hok
  unfold processFrameTimers
  cases hbody : f.body with
  | authentication seq status isLast =>
      simp only [hbody, Except.ok.injEq] at hok
      simpa only [hok] using
        h.handleAuthenticationFrame (a := f.transmitterAddress) seq status isLast
  | deauthentication rc =>
      simp only [hbody, Except.ok.injEq] at hok
      simpa only [hok] using h.handleDeauthenticationFrame (a := f.address3)
  | associationResponse status =>
      simp only [hbody] at hok
      exact h.handleAssociationResponseFrame hm hok
  | disassociation rc =>
      simp only [hbody, Except.ok.injEq] at hok
      simpa only [hok] using h.handleDisassociationFrame (a := f.address3)
  | beacon body =>
      simp only [hbody] at hok
      exact h.handleBeaconFrame hok
  | probeResponse body =>
      simp only [hbody, handleProbeResponseFrame, Except.ok.injEq, Prod.mk.injEq] at hok
      rw [← hok.1]
      exact h.storeAPInfo f body
  | _ =>
      simp only [hbody, Except.ok.injEq, Prod.mk.injEq] at hok
      rw [← hok.1]
      exact h

/-! ### Commands -/

theorem processAuthenticateCommand (h : m.Tracks q) {timeout : SimTime}
    (hok : m.processAuthenticateCommand a timeout = .ok (m', outs)) :
    m'.Tracks (q.applyAll [.schedule timeout (.MK_AUTH_TIMEOUT a)]) := by
  unfold MgmtSta.processAuthenticateCommand startAuthentication at hok
  cases hap : m.lookupAP a with
  | none => simp [hap] at hok
  | some ap =>
      have haddress : ap.address = a := lookupKey_key hap
      simp only [hap, haddress] at hok
      split at hok
      · cases hok
      · rename_i htimer
        split at hok
        · cases hok
        · cases hok
          refine h.handled (by simp) ?_ (updateAP_addresses fun _ => rfl) h.listed
          apply h.count.scheduleAuthTimeout (t := timeout) ?_ hap (not_not.mp htimer)
          · rfl
          · exact fun _ => rfl

theorem processAssociateCommand (h : m.Tracks q) {timeout : SimTime}
    (hok : m.processAssociateCommand a timeout = .ok (m', outs)) :
    m'.Tracks (q.applyAll [.schedule timeout (.MK_ASSOC_TIMEOUT a)]) := by
  unfold MgmtSta.processAssociateCommand startAssociation at hok
  cases hap : m.lookupAP a with
  | none => simp [hap] at hok
  | some ap =>
      have haddress : ap.address = a := lookupKey_key hap
      simp only [hap, haddress] at hok
      split at hok
      · cases hok
      · rename_i hidle
        split at hok
        · cases hok
        · cases hok
          rw [not_or, not_not] at hidle
          refine h.handled (by simp) (fun k => ?_) rfl fun x hx => ?_
          · rw [FutureEvents.applyAll_cons, FutureEvents.applyAll_nil,
              FutureEvents.count_schedule, h.count k]
            cases k with
            | MK_ASSOC_TIMEOUT b => simp [pending, hidle.2, TimerMsg.isScheduled, eq_comm]
            | _ => simp [pending]
          · rw [← Option.some.inj hx]
            exact known_of_lookup hap

theorem processDeauthenticateCommand (h : m.Tracks q) {reasonCode : Int}
    (hok : m.processDeauthenticateCommand a reasonCode = .ok (m', outs)) :
    m'.Tracks (q.applyAll (m.processDeauthenticateCommandTimers a)) := by
  unfold MgmtSta.processDeauthenticateCommand at hok
  unfold processDeauthenticateCommandTimers
  cases hap : m.lookupAP a with
  | none => simp [hap] at hok
  | some ap =>
      simp only [hap] at hok ⊢
      rw [FutureEvents.applyAll_append]
      by_cases hours : m.mib.isAssociated = true ∧ m.assocAP.address = a
      · simp only [if_pos hours] at hok ⊢
        cases hok
        have hcancel : m.disassociate.Tracks (q.applyAll m.cancelBeaconTimeout) :=
          h.handled m.newEpoch_not_mem_cancelBeaconTimeout
            (h.count.cancelBeaconTimeout.congr rfl rfl rfl rfl) rfl h.listed
        exact hcancel.cancelAuthTimeout (fun _ => rfl) hap rfl
      · simp only [if_neg hours] at hok ⊢
        cases hok
        exact h.cancelAuthTimeout (fun _ => rfl) hap rfl

theorem processDisassociateCommand (h : m.Tracks q) (reasonCode : Int) :
    (m.processDisassociateCommand a reasonCode).1.Tracks
      (q.applyAll (m.processDisassociateCommandTimers a)) := by
  unfold MgmtSta.processDisassociateCommand processDisassociateCommandTimers
  by_cases hours : m.mib.isAssociated = true ∧ a = m.assocAP.address
  · simp only [if_pos hours]
    exact h.handled m.newEpoch_not_mem_cancelBeaconTimeout
      (h.count.cancelBeaconTimeout.congr rfl rfl rfl rfl) rfl h.listed
  · simp only [if_neg hours]
    exact h.handled m.newEpoch_not_mem_cancelAssocTimeout h.count.cancelAssocTimeout rfl nofun

/-- Without entries and a pending association, no message has a context pointer. -/
theorem of_empty (hcount : m.Counts q) (hlist : m.apList = []) (hassoc : m.assocTimeoutMsg = none) :
    m.Tracks q where
  count := hcount
  distinct := by simp [hlist]
  listed x hx := by simp [hassoc] at hx
  current s hs hcontext := by
    have hzero : q.count s.kind ≠ 0 := fun h => (q.count_eq_zero_iff.mp h) s hs rfl
    rw [hcount s.kind] at hzero
    cases hkind : s.kind with
    | MK_AUTH_TIMEOUT a => simp [hkind, pending, hlist] at hzero
    | MK_ASSOC_TIMEOUT a => simp [hkind, pending, hassoc] at hzero
    | scan kind => simp [hkind, TimerKind.context?] at hcontext
    | MK_BEACON_TIMEOUT => simp [hkind, TimerKind.context?] at hcontext

end Tracks

section Scanning

variable {m m' : MgmtSta} {q : FutureEvents TimerKind} {outs : List MgmtOut}

theorem Counts.scanNextChannel (h : m.Counts q) {done : Bool}
    (hok : m.scanNextChannel = .ok (done, m', outs)) :
    m'.Counts (q.applyAll m.scanNextChannelTimers) := by
  unfold MgmtSta.scanNextChannel at hok
  unfold scanNextChannelTimers
  by_cases hlast : m.scanning.currentChannelIndex = (m.scanning.channelList.length : Int) - 1
  · rw [if_pos hlast] at hok ⊢
    cases hok
    exact h.congr rfl rfl rfl rfl
  · rw [if_neg hlast] at hok ⊢
    split at hok
    · cases hok
    · cases hok
      exact (h.scheduleScan m.channelTimer.delay m.channelTimer).congr rfl rfl rfl rfl

theorem scanNextChannel_unchanged {done : Bool} (hok : m.scanNextChannel = .ok (done, m', outs)) :
    m'.apList = m.apList ∧ m'.assocTimeoutMsg = m.assocTimeoutMsg := by
  unfold MgmtSta.scanNextChannel at hok
  split at hok
  · cases hok
    exact ⟨rfl, rfl⟩
  · split at hok
    · cases hok
    · cases hok
      exact ⟨rfl, rfl⟩

theorem Counts.endAssociation (h : m.Counts q) :
    m.endAssociation.Counts (q.applyAll
      (if m.mib.isAssociated then m.cancelBeaconTimeout else m.cancelAssocTimeout)) := by
  unfold MgmtSta.endAssociation
  split
  · exact h.cancelBeaconTimeout.congr rfl rfl rfl rfl
  · exact h.cancelAssocTimeout

theorem endAssociation_apList (m : MgmtSta) : m.endAssociation.apList = m.apList := by
  unfold endAssociation
  split <;> rfl

theorem endAssociation_assocTimeoutMsg (hm : m.Sound) :
    m.endAssociation.assocTimeoutMsg = none := by
  unfold endAssociation
  split
  · rename_i hassociated
    exact hm.exclusive hassociated
  · rfl

theorem Tracks.processScanCommand (h : m.Tracks q) (hm : m.Sound) {ctrl : ScanRequest}
    (hok : m.processScanCommand ctrl = .ok (m', outs)) :
    m'.Tracks (q.applyAll (m.processScanCommandTimers ctrl)) := by
  unfold MgmtSta.processScanCommand at hok
  split_ifs at hok
  split at hok
  · cases hok
  · rename_i done m'' outs' hnext
    cases hok
    have hended := h.count.endAssociation
    have hdistinct := h.distinct
    rw [← m.endAssociation_apList] at hdistinct
    have hcleared := hended.clearAPList hdistinct
    have hstarted : (m.endAssociation.startScanning ctrl).Counts _ :=
      hcleared.congr rfl rfl rfl rfl
    have htuned := hstarted.scanNextChannel hnext
    obtain ⟨hlist, hassoc⟩ := scanNextChannel_unchanged hnext
    unfold processScanCommandTimers
    rw [FutureEvents.applyAll_append, FutureEvents.applyAll_append]
    unfold clearAPListTimers at htuned ⊢
    rw [m.endAssociation_apList] at htuned
    exact .of_empty htuned hlist (hassoc.trans (endAssociation_assocTimeoutMsg hm))

theorem Tracks.handleCommand (h : m.Tracks q) (hm : m.Sound) {req : Request}
    (hok : m.handleCommand req = .ok (m', outs)) :
    m'.Tracks (q.applyAll (m.handleCommandTimers req)) := by
  cases req with
  | scan ctrl => exact h.processScanCommand hm hok
  | authenticate address timeout => exact h.processAuthenticateCommand hok
  | deauthenticate address reasonCode => exact h.processDeauthenticateCommand hok
  | associate address timeout => exact h.processAssociateCommand hok
  | reassociate address timeout => exact h.processAssociateCommand hok
  | disassociate address reasonCode =>
      simp only [MgmtSta.handleCommand, Except.ok.injEq] at hok
      have htracks := h.processDisassociateCommand (a := address) reasonCode
      rw [hok] at htracks
      exact htracks

end Scanning

/-! ### Timers -/

namespace Tracks

variable {m m' : MgmtSta} {q : FutureEvents TimerKind} {outs : List MgmtOut} {i : Nat}
  {s : Message TimerKind} {a : MacAddress}

theorem pending_pos (h : m.Tracks q) (hs : s ∈ q.messages) : 0 < m.pending s.kind := by
  rw [← h.count]
  apply Nat.pos_of_ne_zero
  exact fun hzero => (q.count_eq_zero_iff.mp hzero) s hs rfl

theorem handleAuthTimeout (h : m.Tracks q) (hs : q.messages[i]? = some s)
    (hkind : s.kind = .MK_AUTH_TIMEOUT a) (hok : m.handleAuthTimeout a = .ok (m', outs)) :
    m'.Tracks (q.remove i) := by
  unfold MgmtSta.handleAuthTimeout at hok
  cases hap : m.lookupAP a with
  | none => simp [hap] at hok
  | some ap =>
      simp only [hap] at hok
      split at hok
      · rename_i hscheduled
        cases hok
        have haddresses := updateAP_addresses (m := m) (a := a)
          (f := fun ap => { ap with authTimeoutMsg := some .fired }) fun _ => rfl
        refine ⟨h.count.remove hs fun k => ?_, ?_, fun x hx => ?_, h.current.remove i⟩
        · rw [Counts.pending_updateAP ?_ hap, hkind]
          by_cases hk : k = .MK_AUTH_TIMEOUT a
          · rw [if_pos hk, if_pos hk, hk]
            simp [pending, authTimer_of_lookup hap, hscheduled, TimerMsg.isScheduled]
          · rw [if_neg hk, if_neg hk, Nat.add_zero]
          · exact fun _ => rfl
        · rw [haddresses]
          exact h.distinct
        · rw [known_iff_mem, haddresses, ← known_iff_mem]
          exact h.listed x hx
      · cases hok

theorem handleAssocTimeout (h : m.Tracks q) (hs : q.messages[i]? = some s)
    (hkind : s.kind = .MK_ASSOC_TIMEOUT a) (hok : m.handleAssocTimeout = .ok (m', outs)) :
    m'.Tracks (q.remove i) := by
  have hpos := h.pending_pos (List.mem_of_getElem? hs)
  unfold MgmtSta.handleAssocTimeout at hok
  cases hx : m.assocTimeoutMsg with
  | none => simp [hx] at hok
  | some x =>
      simp only [hx] at hok
      split at hok
      · rename_i hscheduled
        cases hok
        have hfired : TimerMsg.fired.isScheduled = false := rfl
        have hcontext : x.contextPointer = a := by
          by_contra hne
          simp [hkind, pending, hx, hne] at hpos
        refine ⟨h.count.remove hs fun k => ?_, h.distinct, fun y hy => ?_, h.current.remove i⟩
        · rw [hkind]
          cases k with
          | MK_ASSOC_TIMEOUT b =>
              by_cases hb : b = a
              · simp [pending, hx, hscheduled, hfired, hcontext, hb]
              · simp [pending, hx, hcontext, hb, Ne.symm hb]
          | _ => simp [pending]
        · rw [← Option.some.inj hy]
          exact h.listed x hx
      · cases hok

theorem handleBeaconTimeout (h : m.Tracks q) (hs : q.messages[i]? = some s)
    (hkind : s.kind = .MK_BEACON_TIMEOUT) (hok : m.handleBeaconTimeout = .ok (m', outs)) :
    m'.Tracks (q.remove i) := by
  unfold MgmtSta.handleBeaconTimeout at hok
  split at hok
  · rename_i hscheduled
    cases hok
    refine ⟨h.count.remove hs fun k => ?_, h.distinct, h.listed, h.current.remove i⟩
    rw [hkind]
    cases k with
    | MK_BEACON_TIMEOUT => simp [pending, hscheduled, TimerMsg.isScheduled]
    | _ => simp [pending]
  · cases hok

theorem handleScanTimer {timer : ScanTimer} {j : Nat} (h : m.Tracks q)
    (hs : q.messages[i]? = some s) (hj : m.scanTimers[j]? = some timer)
    (hkind : s.kind = .scan timer.kind) (hok : m.handleScanTimer j = .ok (m', outs)) :
    m'.Tracks ((q.remove i).applyAll (m.handleScanTimerTimers j)) := by
  have hremoved :
      ({ m with scanTimers := m.scanTimers.eraseIdx j } : MgmtSta).Tracks (q.remove i) := by
    refine ⟨h.count.remove hs fun k => ?_, h.distinct, h.listed, h.current.remove i⟩
    rw [hkind]
    cases k with
    | scan kind =>
        have hcount := countP_eraseIdx (fun timer : ScanTimer => timer.kind = kind) hj
        simpa [pending, eq_comm] using hcount
    | _ => simp [pending]
  have hops := m.newEpoch_not_mem_handleScanTimerTimers j
  have hscan : ∀ (d : SimTime) (timer : ScanTimer),
      ({ m with scanTimers := m.scanTimers.eraseIdx j ++ [timer] } : MgmtSta).Counts
        ((q.remove i).apply (.schedule d (.scan timer.kind))) := fun d timer =>
    hremoved.count.scheduleScan d timer
  have hnext : ∀ {outs},
      ({ m with scanTimers := m.scanTimers.eraseIdx j } : MgmtSta).scanNextChannelOrConfirm =
        .ok (m', outs) → QueueOp.newEpoch ∉ m.scanNextChannelTimers →
      m'.Tracks ((q.remove i).applyAll m.scanNextChannelTimers) := by
    intro outs hok hops
    unfold scanNextChannelOrConfirm at hok
    split at hok
    · cases hok
    · rename_i m'' outs' hscanned
      cases hok
      obtain ⟨hlist, hassoc⟩ := scanNextChannel_unchanged hscanned
      exact hremoved.handled hops (hremoved.count.scanNextChannel hscanned)
        (congrArg _ hlist) (hassoc ▸ hremoved.listed)
    · rename_i m'' outs' hscanned
      cases hok
      obtain ⟨hlist, hassoc⟩ := scanNextChannel_unchanged hscanned
      exact hremoved.handled hops (hremoved.count.scanNextChannel hscanned)
        (congrArg _ hlist) (hassoc ▸ hremoved.listed)
  unfold MgmtSta.handleScanTimer at hok
  unfold handleScanTimerTimers at hops ⊢
  simp only [hj] at hok hops ⊢
  cases hk : timer.kind with
  | MK_SCAN_MAXCHANNELTIME =>
      simp only [hk] at hok hops ⊢
      exact hnext hok hops
  | MK_SCAN_SENDPROBE =>
      simp only [hk] at hok hops ⊢
      cases hok
      exact hremoved.handled hops (hscan _ ⟨.MK_SCAN_MINCHANNELTIME, _⟩) rfl h.listed
  | MK_SCAN_MINCHANNELTIME =>
      simp only [hk] at hok hops ⊢
      by_cases hbusy : m.scanning.busyChannelDetected = true
      · simp only [if_pos hbusy] at hok hops ⊢
        cases hok
        exact hremoved.handled hops (hscan _ ⟨.MK_SCAN_MAXCHANNELTIME, _⟩) rfl h.listed
      · simp only [if_neg hbusy] at hok hops ⊢
        exact hnext hok hops

end Tracks

end MgmtSta

/-! ## A card -/

section Card

variable {p : AgentParams} {n n' : Nic} {e : Event} {q : FutureEvents TimerKind}

/-- An event that a handler of the management entity takes leaves what the handler leaves. -/
theorem Nic.handled_of_next (n₀ : Nic) {r : Except Halt (MgmtSta × List MgmtOut)}
    (hlocal : n.localStep p e = n₀.ofMgmt r) (h : n.next p e = .ok n') :
    ∃ outs, r = .ok (n'.mgmt, outs) := by
  obtain ⟨⟨n'', outs⟩, hstep, hsnd⟩ := map_ok_inv h
  cases r with
  | error k =>
      rw [step_of_error hlocal] at hstep
      cases hstep
  | ok r =>
      obtain ⟨m, mouts⟩ := r
      unfold Nic.step at hstep
      rw [hlocal] at hstep
      simp only [ofMgmt] at hstep
      refine ⟨mouts, ?_⟩
      rw [← hsnd]
      split at hstep
      · rw [← (Prod.mk.inj (Except.ok.inj hstep)).1]
        rfl
      · rw [← (Prod.mk.inj (Except.ok.inj hstep)).1]
        rfl

theorem Nic.mgmt_of_agent (n₀ : Nic) {agent : AgentSta} {outs : List AgentOut}
    (hlocal : n.localStep p e = .ok (n₀.ofAgent agent outs)) (h : n.next p e = .ok n') :
    n'.mgmt = n₀.mgmt := by
  obtain ⟨⟨n'', outs'⟩, hstep, hsnd⟩ := map_ok_inv h
  rw [← hsnd, (step_ofAgent hlocal hstep).1]
  rfl

/-- An event that is no timer keeps future event set and pointers in step. -/
theorem MgmtSta.Tracks.untimed (h : n.mgmt.Tracks q) (hn : n.Sound p) (he : e.isTimer = false)
    (hnext : n.next p e = .ok n') : n'.mgmt.Tracks (q.applyAll (n.timerOps e)) := by
  cases e with
  | startUp =>
      by_cases hstart : n.agent.startUp = true
      · have hlocal : n.localStep p .startUp =
            .ok (n.ofAgent (n.agent.handleTimer p).1 (n.agent.handleTimer p).2) := by
          simp only [Nic.localStep, if_pos hstart]
        rw [Nic.mgmt_of_agent n hlocal hnext]
        exact h
      · simp [Nic.next, Nic.step, Nic.localStep, hstart, Except.map] at hnext
  | deliverRequest =>
      cases hq : n.toMgmt with
      | nil => simp [Nic.next, Nic.step, Nic.localStep, hq, Except.map] at hnext
      | cons req rest =>
          have hlocal : n.localStep p .deliverRequest =
              ({ n with toMgmt := rest } : Nic).ofMgmt (n.mgmt.handleCommand req) := by
            simp only [Nic.localStep, hq]
          obtain ⟨outs, hok⟩ := Nic.handled_of_next _ hlocal hnext
          simp only [Nic.timerOps, hq]
          exact h.handleCommand hn.mgmt hok
  | deliverConfirm =>
      cases hq : n.toAgent with
      | nil => simp [Nic.next, Nic.step, Nic.localStep, hq, Except.map] at hnext
      | cons c rest =>
          cases hr : n.agent.handleResponse p c with
          | error k => simp [Nic.next, Nic.step, Nic.localStep, hq, hr, Except.map] at hnext
          | ok r =>
              obtain ⟨agent, outs⟩ := r
              have hlocal : n.localStep p .deliverConfirm =
                  .ok (({ n with toAgent := rest } : Nic).ofAgent agent outs) := by
                simp only [Nic.localStep, hq, hr]
              rw [Nic.mgmt_of_agent _ hlocal hnext]
              exact h
  | frame f =>
      obtain ⟨outs, hok⟩ := Nic.handled_of_next n rfl hnext
      exact h.processFrame hn.mgmt hok
  | receptionState busy =>
      have hmgmt : n'.mgmt = n.mgmt.receiveReceptionState busy := by
        simp only [Nic.next, Nic.step, Nic.localStep, Except.map] at hnext
        cases hnext
        rfl
      have hcount : n'.mgmt.Counts q := h.count.of_pending fun k => by
        rw [hmgmt]
        unfold MgmtSta.receiveReceptionState
        split <;> cases k <;> rfl
      unfold MgmtSta.receiveReceptionState at hmgmt
      split at hmgmt
      · exact ⟨hcount, hmgmt ▸ h.distinct, hmgmt ▸ h.listed, h.current⟩
      · exact ⟨hcount, hmgmt ▸ h.distinct, hmgmt ▸ h.listed, h.current⟩
  | authTimeout a => cases he
  | assocTimeout => cases he
  | scanTimer i => cases he
  | beaconTimeout => cases he

/-- A scan timer that waits is found among those of the management entity. -/
theorem MgmtSta.Tracks.scanTimer_found {m : MgmtSta} (h : m.Tracks q) {s : Message TimerKind}
    (hs : s ∈ q.messages) {kind : ScanTimerKind} (hkind : s.kind = .scan kind) :
    ∃ timer, m.scanTimers[m.scanTimers.findIdx fun timer => timer.kind = kind]? = some timer ∧
      timer.kind = kind := by
  have hpos := h.pending_pos hs
  rw [hkind] at hpos
  obtain ⟨timer, hmem, hk⟩ := List.countP_pos_iff.mp hpos
  have hlt := List.findIdx_lt_length_of_exists
    (p := fun timer : ScanTimer => decide (timer.kind = kind)) ⟨timer, hmem, hk⟩
  refine ⟨_, List.getElem?_eq_getElem hlt, ?_⟩
  simpa using List.findIdx_getElem (w := hlt)

/-- So does the delivery of a timer. -/
theorem MgmtSta.Tracks.delivered {t : TimedNic} (h : t.nic.mgmt.Tracks t.events) {i : Nat}
    {s : Message TimerKind} (hs : t.events.messages[i]? = some s)
    (hnext : t.nic.next p (t.delivery s.kind) = .ok n') :
    n'.mgmt.Tracks ((t.events.remove i).applyAll (t.nic.timerOps (t.delivery s.kind))) := by
  cases hkind : s.kind with
  | MK_AUTH_TIMEOUT a =>
      rw [hkind] at hnext
      obtain ⟨outs, hok⟩ := Nic.handled_of_next t.nic rfl hnext
      exact h.handleAuthTimeout hs hkind hok
  | MK_ASSOC_TIMEOUT a =>
      rw [hkind] at hnext
      obtain ⟨outs, hok⟩ := Nic.handled_of_next t.nic rfl hnext
      exact h.handleAssocTimeout hs hkind hok
  | MK_BEACON_TIMEOUT =>
      rw [hkind] at hnext
      obtain ⟨outs, hok⟩ := Nic.handled_of_next t.nic rfl hnext
      exact h.handleBeaconTimeout hs hkind hok
  | scan kind =>
      obtain ⟨timer, hj, hk⟩ := h.scanTimer_found (List.mem_of_getElem? hs) hkind
      rw [hkind] at hnext
      obtain ⟨outs, hok⟩ := Nic.handled_of_next t.nic rfl hnext
      exact h.handleScanTimer hs hj (by rw [hkind, hk]) hok

end Card

end MultiTechBus.Ieee80211
