import MultiTechBus.Ieee80211.ApList
import MultiTechBus.Ieee80211.Nic

/-! # What an event can do to a card

Every event that a card handles without an error changes its state in one of the
ways listed here, with the association values that the agent emits on the way.
The invariants of the card are shown for each of them.
-/

namespace MultiTechBus.Ieee80211

open MultiTechBus.Library

namespace Confirm

/-- The agent answers this confirm with a request. -/
def restarts : Confirm → Bool
  | scan _ _ => true
  | authenticate _ _ => true
  | associate resultCode _ => resultCode ≠ .PRC_SUCCESS
  | reassociate resultCode _ => resultCode ≠ .PRC_SUCCESS
  | unrecognized _ => false

/-- The request with which the agent answers. -/
def answer (p : AgentParams) : Confirm → Request
  | scan _ bssList =>
      match p.choose bssList with
      | none => p.scanRequest
      | some bssDesc => .authenticate bssDesc.BSSID p.authenticationTimeout
  | authenticate resultCode address =>
      if resultCode ≠ .PRC_SUCCESS then p.scanRequest
      else .associate address p.associationTimeout
  | _ => p.scanRequest

end Confirm

namespace MgmtSta

/-- What breaks an existing association when a response arrives. -/
def breakAssociation (m : MgmtSta) : MgmtSta :=
  { (if m.mib.isAssociated then m.disassociate else m) with assocTimeoutMsg := none }

/-- The state after the first step of a scan. -/
def scanStarted (m : MgmtSta) (ctrl : ScanRequest) : MgmtSta :=
  let m' := m.endAssociation.startScanning ctrl
  if m.channelsOf ctrl = [] then m'.finishScan else m'.tuneToNext

end MgmtSta

/-- The ways in which a card handles an event. -/
inductive Move (p : AgentParams) (n : Nic) : Event → Nic → List Bool → Prop
  | startUp (h : n.agent.startUp = true) :
      Move p n .startUp
        { n with
          agent := { n.agent with startUp := false }
          toMgmt := n.toMgmt ++ [p.scanRequest] } []
  | scan {ctrl : ScanRequest} {rest : List Request} (hq : n.toMgmt = .scan ctrl :: rest)
      (hidle : n.mgmt.isScanning = false) :
      Move p n .deliverRequest { n with toMgmt := rest, mgmt := n.mgmt.scanStarted ctrl } []
  | authenticate {a : MacAddress} {t : SimTime} {rest : List Request} {ap : ApInfo}
      (hq : n.toMgmt = .authenticate a t :: rest)
      (hap : lookupKey ApInfo.address a n.mgmt.apList = some ap)
      (htimer : ap.authTimeoutMsg = none) (hnot : ap.isAuthenticated = false) :
      Move p n .deliverRequest
        { n with
          toMgmt := rest
          mgmt := n.mgmt.updateAP a fun ap =>
            { ap with authSeqExpected := 2, authTimeoutMsg := some (.scheduled t) } } []
  | associate {a : MacAddress} {t : SimTime} {rest : List Request} {ap : ApInfo}
      (hq : n.toMgmt = .associate a t :: rest)
      (hap : lookupKey ApInfo.address a n.mgmt.apList = some ap)
      (hauth : ap.isAuthenticated = true) (hnot : n.mgmt.mib.isAssociated = false)
      (hnone : n.mgmt.assocTimeoutMsg = none) :
      Move p n .deliverRequest
        { n with
          toMgmt := rest
          mgmt := { n.mgmt with
            assocTimeoutMsg := some { contextPointer := a, msg := .scheduled t } } } []
  | foreign {req : Request} {rest : List Request} {n' : Nic} {signals : List Bool}
      (hq : n.toMgmt = req :: rest) (hreq : req.isForeign = true) :
      Move p n .deliverRequest n' signals
  | confirmed {c : Confirm} {rest : List Confirm} (hq : n.toAgent = c :: rest)
      (hc : c.restarts = true) :
      Move p n .deliverConfirm
        { n with
          toAgent := rest
          toMgmt := n.toMgmt ++ [c.answer p]
          lastAssociateRequest := (c.answer p).associate?.or n.lastAssociateRequest } []
  | associated {a : MacAddress} {rest : List Confirm}
      (hq : n.toAgent = .associate .PRC_SUCCESS a :: rest) :
      Move p n .deliverConfirm
        { n with
          toAgent := rest
          agent := (n.agent.processAssociateConfirm p .PRC_SUCCESS a).1 }
        (if n.agent.prevAP.isUnspecified || n.agent.prevAP != a then [true] else [])
  | reassociated {a : MacAddress} {rest : List Confirm}
      (hq : n.toAgent = .reassociate .PRC_SUCCESS a :: rest) :
      Move p n .deliverConfirm
        { n with
          toAgent := rest
          agent := (n.agent.processAssociateConfirm p .PRC_SUCCESS a).1 }
        (if n.agent.prevAP.isUnspecified || n.agent.prevAP != a then [true] else [])
  | ignored (f : MgmtFrame) : Move p n (.frame f) n []
  | authMore {f : MgmtFrame} {seq : BitVec 16} {ap : ApInfo}
      (hbody : f.body = .authentication seq SC_SUCCESSFUL false)
      (hap : lookupKey ApInfo.address f.transmitterAddress n.mgmt.apList = some ap)
      (hseq : (seq.toNat : Int) = ap.authSeqExpected) :
      Move p n (.frame f)
        { n with
          mgmt := n.mgmt.updateAP f.transmitterAddress fun ap =>
            { ap with authSeqExpected := ap.authSeqExpected + 2 } } []
  | authEnded {f : MgmtFrame} {seq : BitVec 16} {status : Int} {isLast : Bool} {ap : ApInfo}
      {g : ApInfo → ApInfo} {rc : PrimResultCode}
      (hbody : f.body = .authentication seq status isLast)
      (hap : lookupKey ApInfo.address f.transmitterAddress n.mgmt.apList = some ap)
      (htimer : ap.authTimeoutMsg ≠ none) (hnot : ap.isAuthenticated = false)
      (hend : ¬ ((seq.toNat : Int) = ap.authSeqExpected ∧ status = SC_SUCCESSFUL ∧ isLast = false))
      (haddress : ∀ ap, (g ap).address = ap.address) (hdone : (g ap).authTimeoutMsg = none)
      (hresult : (g ap).isAuthenticated = true ↔ rc = .PRC_SUCCESS) :
      Move p n (.frame f)
        { n with
          mgmt := n.mgmt.updateAP f.transmitterAddress g
          toAgent := n.toAgent ++ [.authenticate rc f.transmitterAddress] } []
  | deauthCancelled {f : MgmtFrame} {rc : Int} {ap : ApInfo} (hbody : f.body = .deauthentication rc)
      (hap : lookupKey ApInfo.address f.address3 n.mgmt.apList = some ap)
      (hauth : ap.isAuthenticated = true) (htimer : ap.authTimeoutMsg ≠ none) :
      Move p n (.frame f)
        { n with
          mgmt := n.mgmt.updateAP f.address3 fun ap => { ap with authTimeoutMsg := none } } []
  | deauthenticated {f : MgmtFrame} {rc : Int} {ap : ApInfo} (hbody : f.body = .deauthentication rc)
      (hap : lookupKey ApInfo.address f.address3 n.mgmt.apList = some ap)
      (hauth : ap.isAuthenticated = true) (htimer : ap.authTimeoutMsg = none) :
      Move p n (.frame f)
        { n with
          mgmt := n.mgmt.updateAP f.address3 fun ap => { ap with isAuthenticated := false } } []
  | assocRefused {f : MgmtFrame} {status : Int} {x : AssocTimeout} {ap : ApInfo}
      (hbody : f.body = .associationResponse status) (hx : n.mgmt.assocTimeoutMsg = some x)
      (hap : lookupKey ApInfo.address f.transmitterAddress n.mgmt.apList = some ap)
      (hstatus : status ≠ SC_SUCCESSFUL) :
      Move p n (.frame f)
        { n with
          mgmt := n.mgmt.breakAssociation
          toAgent := n.toAgent ++ [.associate .PRC_REFUSED MacAddress.UNSPECIFIED_ADDRESS] } []
  | assocDone {f : MgmtFrame} {x : AssocTimeout} {ap : ApInfo}
      (hbody : f.body = .associationResponse SC_SUCCESSFUL) (hx : n.mgmt.assocTimeoutMsg = some x)
      (hap : lookupKey ApInfo.address f.transmitterAddress n.mgmt.apList = some ap) :
      Move p n (.frame f)
        { n with
          mgmt := n.mgmt.breakAssociation.associated ap
          toAgent := n.toAgent ++ [.associate .PRC_SUCCESS MacAddress.UNSPECIFIED_ADDRESS] } []
  | disassocIgnored {f : MgmtFrame} {rc : Int} (hbody : f.body = .disassociation rc)
      (hother : n.mgmt.mib.isAssociated = false ∨ f.address3 ≠ n.mgmt.assocAP.address) :
      Move p n (.frame f) { n with mgmt := { n.mgmt with assocTimeoutMsg := none } } []
  | disassociated {f : MgmtFrame} {rc : Int} (hbody : f.body = .disassociation rc)
      (hassoc : n.mgmt.mib.isAssociated = true) (haddress : f.address3 = n.mgmt.assocAP.address) :
      Move p n (.frame f)
        { n with
          mgmt := { n.mgmt with
            assocTimeoutMsg := none
            mib := { n.mgmt.mib with isAssociated := false }
            assocAP := { n.mgmt.assocAP with beaconTimeoutMsg := none } } } []
  | stored {f : MgmtFrame} {l : List ApInfo} {power : Rat} {timer : Option TimerMsg}
      (hsame : SameAuth n.mgmt.apList l)
      (htimer : timer = n.mgmt.assocAP.beaconTimeoutMsg ∨
        n.mgmt.assocAP.beaconTimeoutMsg ≠ none ∧ ∃ d, timer = some (.scheduled d))
      (hother : ∀ b, b ≠ f.transmitterAddress → known l b = known n.mgmt.apList b) :
      Move p n (.frame f)
        { n with
          mgmt := { n.mgmt with
            apList := l
            assocAP := { n.mgmt.assocAP with rxPower := power, beaconTimeoutMsg := timer } } } []
  | authTimedOut {a : MacAddress} {ap : ApInfo} {d : SimTime}
      (hap : lookupKey ApInfo.address a n.mgmt.apList = some ap)
      (htimer : ap.authTimeoutMsg = some (.scheduled d)) :
      Move p n (.authTimeout a)
        { n with
          mgmt := n.mgmt.updateAP a fun ap => { ap with authTimeoutMsg := some .fired }
          toAgent := n.toAgent ++ [.authenticate .PRC_TIMEOUT a] } []
  | assocTimedOut {x : AssocTimeout} {d : SimTime} (hx : n.mgmt.assocTimeoutMsg = some x)
      (hmsg : x.msg = .scheduled d) :
      Move p n .assocTimeout
        { n with
          mgmt := { n.mgmt with assocTimeoutMsg := some { x with msg := .fired } }
          toAgent := n.toAgent ++ [.associate .PRC_TIMEOUT MacAddress.UNSPECIFIED_ADDRESS] } []
  | scanTimerReplaced {i : Nat} {t t' : ScanTimer} (ht : n.mgmt.scanTimers[i]? = some t) :
      Move p n (.scanTimer i)
        { n with
          mgmt := { n.mgmt with scanTimers := n.mgmt.scanTimers.eraseIdx i ++ [t'] } } []
  | nextChannel {i : Nat} {t : ScanTimer} (ht : n.mgmt.scanTimers[i]? = some t)
      (hnext : n.mgmt.scanning.currentChannelIndex ≠ (n.mgmt.scanning.channelList.length : Int) - 1) :
      Move p n (.scanTimer i)
        { n with
          mgmt := ({ n.mgmt with scanTimers := n.mgmt.scanTimers.eraseIdx i } : MgmtSta).tuneToNext } []
  | scanDone {i : Nat} {t : ScanTimer} (ht : n.mgmt.scanTimers[i]? = some t)
      (hlast : n.mgmt.scanning.currentChannelIndex =
        (n.mgmt.scanning.channelList.length : Int) - 1) :
      Move p n (.scanTimer i)
        { n with
          mgmt := ({ n.mgmt with scanTimers := n.mgmt.scanTimers.eraseIdx i } : MgmtSta).finishScan
          toAgent := n.toAgent ++ [.scan .PRC_SUCCESS (n.mgmt.apList.map MgmtSta.bssDescription)] } []
  | beaconLost {d : SimTime} (htimer : n.mgmt.assocAP.beaconTimeoutMsg = some (.scheduled d)) :
      Move p n .beaconTimeout
        { n with
          mgmt := { n.mgmt with assocAP := { n.mgmt.assocAP with beaconTimeoutMsg := some .fired } }
          toMgmt := n.toMgmt ++ [p.scanRequest] } [false]
  | reception (busy : Bool) :
      Move p n (.receptionState busy)
        { n with mgmt := n.mgmt.receiveReceptionState busy } []

/-! ## From steps to moves -/

namespace Nic

variable {p : AgentParams} {n n₀ n' : Nic} {e : Event} {outs : List NicOut}

theorem step_ofMgmt {m' : MgmtSta} {mouts : List MgmtOut}
    (hlocal : n.localStep p e = n₀.ofMgmt (.ok (m', mouts))) (hbeacon : .l2BeaconLost ∉ mouts)
    (h : n.step p e = .ok (n', outs)) :
    n' = n₀.absorbMgmt m' mouts ∧ outs.filterMap NicOut.stateAssociation? = [] := by
  unfold step at h
  rw [hlocal] at h
  simp only [ofMgmt, List.contains_eq_mem, List.mem_map, NicOut.mgmt.injEq, exists_eq_right,
    hbeacon, decide_false] at h
  simp only [Bool.false_eq_true, if_false, Except.ok.injEq, Prod.mk.injEq] at h
  refine ⟨h.1.symm, ?_⟩
  rw [← h.2]
  simp [NicOut.stateAssociation?]

theorem step_ofAgent {agent : AgentSta} {aouts : List AgentOut}
    (hlocal : n.localStep p e = .ok (n₀.ofAgent agent aouts))
    (h : n.step p e = .ok (n', outs)) :
    n' = ({ n₀ with agent := agent } : Nic).absorbAgent aouts ∧ outs = aouts.map .agent := by
  unfold step at h
  rw [hlocal] at h
  simpa [ofAgent, eq_comm] using h

theorem step_of_error {k : Halt} (hlocal : n.localStep p e = .error k) :
    n.step p e = .error k := by
  unfold step
  rw [hlocal]

/-! ### Frames -/

private theorem move_authentication {f : MgmtFrame} {seq : BitVec 16} {status : Int} {isLast : Bool}
    (hbody : f.body = .authentication seq status isLast)
    (h : n.step p (.frame f) = .ok (n', outs)) :
    Move p n (.frame f) n' (outs.filterMap NicOut.stateAssociation?) := by
  have hlocal : n.localStep p (.frame f) = n.ofMgmt
      (.ok (n.mgmt.handleAuthenticationFrame f.transmitterAddress seq status isLast)) := by
    simp [localStep, MgmtSta.processFrame, hbody]
  unfold MgmtSta.handleAuthenticationFrame MgmtSta.lookupAP at hlocal
  split at hlocal
  · obtain ⟨rfl, hs⟩ := step_ofMgmt hlocal (by simp) h
    rw [hs]
    simpa [absorbMgmt] using Move.ignored f
  · rename_i ap hap
    split at hlocal
    · obtain ⟨rfl, hs⟩ := step_ofMgmt hlocal (by simp) h
      rw [hs]
      simpa [absorbMgmt] using Move.ignored f
    · rename_i hnot
      split at hlocal
      · obtain ⟨rfl, hs⟩ := step_ofMgmt hlocal (by simp) h
        rw [hs]
        simpa [absorbMgmt] using Move.ignored f
      · rename_i htimer
        split at hlocal
        · rename_i hseq
          obtain ⟨rfl, hs⟩ := step_ofMgmt hlocal (by simp [MgmtSta.sendAuthenticationConfirm]) h
          rw [hs]
          exact Move.authEnded hbody hap htimer (by simpa using hnot) (fun h => hseq h.1)
            (fun _ => rfl) rfl (by simp [hnot])
        · rename_i hseq
          split at hlocal
          · rename_i hmore
            obtain ⟨rfl, rfl⟩ := hmore
            obtain ⟨rfl, hs⟩ := step_ofMgmt hlocal (by simp) h
            rw [hs]
            simpa [absorbMgmt, List.filterMap_cons] using
              Move.authMore hbody hap (not_ne_iff.mp hseq)
          · rename_i hmore
            obtain ⟨rfl, hs⟩ := step_ofMgmt hlocal (by simp [MgmtSta.sendAuthenticationConfirm]) h
            rw [hs]
            exact Move.authEnded hbody hap htimer (by simpa using hnot) (fun h => hmore h.2)
              (fun _ => rfl) rfl (by simp [statusCodeToPrimResultCode])

private theorem move_deauthentication {f : MgmtFrame} {rc : Int}
    (hbody : f.body = .deauthentication rc)
    (h : n.step p (.frame f) = .ok (n', outs)) :
    Move p n (.frame f) n' (outs.filterMap NicOut.stateAssociation?) := by
  have hlocal : n.localStep p (.frame f) = n.ofMgmt
      (.ok (n.mgmt.handleDeauthenticationFrame f.address3)) := by
    simp [localStep, MgmtSta.processFrame, hbody]
  unfold MgmtSta.handleDeauthenticationFrame MgmtSta.lookupAP at hlocal
  split at hlocal
  · obtain ⟨rfl, hs⟩ := step_ofMgmt hlocal (by simp) h
    rw [hs]
    simpa [absorbMgmt] using Move.ignored f
  · rename_i ap hap
    split at hlocal
    · obtain ⟨rfl, hs⟩ := step_ofMgmt hlocal (by simp) h
      rw [hs]
      simpa [absorbMgmt] using Move.ignored f
    · rename_i hauth
      split at hlocal
      · rename_i htimer
        obtain ⟨rfl, hs⟩ := step_ofMgmt hlocal (by simp) h
        rw [hs]
        simpa [absorbMgmt] using Move.deauthCancelled hbody hap (by simpa using hauth) htimer
      · rename_i htimer
        obtain ⟨rfl, hs⟩ := step_ofMgmt hlocal (by simp) h
        rw [hs]
        simpa [absorbMgmt] using
          Move.deauthenticated hbody hap (by simpa using hauth) (not_ne_iff.mp htimer)

private theorem move_associationResponse {f : MgmtFrame} {status : Int}
    (hbody : f.body = .associationResponse status) (h : n.step p (.frame f) = .ok (n', outs)) :
    Move p n (.frame f) n' (outs.filterMap NicOut.stateAssociation?) := by
  have hlocal : n.localStep p (.frame f) = n.ofMgmt
      (n.mgmt.handleAssociationResponseFrame f.transmitterAddress status) := by
    simp [localStep, MgmtSta.processFrame, hbody]
  unfold MgmtSta.handleAssociationResponseFrame MgmtSta.lookupAP at hlocal
  split at hlocal
  · obtain ⟨rfl, hs⟩ := step_ofMgmt hlocal (by simp) h
    rw [hs]
    simpa [absorbMgmt] using Move.ignored f
  · rename_i hpending
    obtain ⟨x, hx⟩ := Option.ne_none_iff_exists'.mp hpending
    split at hlocal
    · rw [step_of_error hlocal] at h
      cases h
    · rename_i ap hap
      simp only [] at hlocal
      split at hlocal
      · rename_i hstatus
        obtain ⟨rfl, hs⟩ := step_ofMgmt hlocal (by simp [MgmtSta.sendAssociationConfirm]) h
        rw [hs]
        have hcode : statusCodeToPrimResultCode status = .PRC_REFUSED := if_neg hstatus
        simp only [hcode]
        exact Move.assocRefused hbody hx hap hstatus
      · rename_i hstatus
        obtain rfl : status = SC_SUCCESSFUL := not_ne_iff.mp hstatus
        obtain ⟨rfl, hs⟩ := step_ofMgmt hlocal (by simp [MgmtSta.sendAssociationConfirm]) h
        rw [hs]
        exact Move.assocDone hbody hx hap

private theorem move_disassociation {f : MgmtFrame} {rc : Int} (hbody : f.body = .disassociation rc)
    (h : n.step p (.frame f) = .ok (n', outs)) :
    Move p n (.frame f) n' (outs.filterMap NicOut.stateAssociation?) := by
  have hlocal : n.localStep p (.frame f) = n.ofMgmt
      (.ok (n.mgmt.handleDisassociationFrame f.address3)) := by
    simp [localStep, MgmtSta.processFrame, hbody]
  unfold MgmtSta.handleDisassociationFrame at hlocal
  simp only [] at hlocal
  split at hlocal
  · rename_i hother
    obtain ⟨rfl, hs⟩ := step_ofMgmt hlocal (by simp) h
    rw [hs]
    simpa [absorbMgmt] using Move.disassocIgnored hbody (by simpa using hother)
  · rename_i hown
    obtain ⟨hassoc, haddress⟩ : n.mgmt.mib.isAssociated = true ∧
        f.address3 = n.mgmt.assocAP.address := by simpa using hown
    obtain ⟨rfl, hs⟩ := step_ofMgmt hlocal (by simp) h
    rw [hs]
    simpa [absorbMgmt] using Move.disassociated hbody hassoc haddress

private theorem move_beacon {f : MgmtFrame} {body : BeaconBody} (hbody : f.body = .beacon body)
    (h : n.step p (.frame f) = .ok (n', outs)) :
    Move p n (.frame f) n' (outs.filterMap NicOut.stateAssociation?) := by
  have hlocal : n.localStep p (.frame f) = n.ofMgmt (n.mgmt.handleBeaconFrame f body) := by
    simp [localStep, MgmtSta.processFrame, hbody]
  obtain ⟨power, heq⟩ := n.mgmt.storeAPInfo_eq f body
  have hsame := n.mgmt.storeAPInfo_sameAuth f body
  have hother := fun b => n.mgmt.storeAPInfo_known f body (b := b)
  unfold MgmtSta.handleBeaconFrame at hlocal
  rw [heq] at hlocal hsame hother
  simp only [] at hlocal
  split at hlocal
  · split at hlocal
    · rw [step_of_error hlocal] at h
      cases h
    · rename_i htimer
      obtain ⟨rfl, hs⟩ := step_ofMgmt hlocal (by simp) h
      rw [hs]
      simpa [absorbMgmt] using Move.stored hsame (Or.inr ⟨htimer, _, rfl⟩) hother
  · obtain ⟨rfl, hs⟩ := step_ofMgmt hlocal (by simp) h
    rw [hs]
    simpa [absorbMgmt] using Move.stored hsame (Or.inl rfl) hother

private theorem move_probeResponse {f : MgmtFrame} {body : BeaconBody}
    (hbody : f.body = .probeResponse body) (h : n.step p (.frame f) = .ok (n', outs)) :
    Move p n (.frame f) n' (outs.filterMap NicOut.stateAssociation?) := by
  have hlocal : n.localStep p (.frame f) = n.ofMgmt (.ok (n.mgmt.storeAPInfo f body, [])) := by
    simp [localStep, MgmtSta.processFrame, hbody, MgmtSta.handleProbeResponseFrame]
  obtain ⟨power, heq⟩ := n.mgmt.storeAPInfo_eq f body
  have hsame := n.mgmt.storeAPInfo_sameAuth f body
  have hother := fun b => n.mgmt.storeAPInfo_known f body (b := b)
  rw [heq] at hlocal hsame hother
  obtain ⟨rfl, hs⟩ := step_ofMgmt hlocal (by simp) h
  rw [hs]
  simpa [absorbMgmt] using Move.stored hsame (Or.inl rfl) hother

theorem move_frame {f : MgmtFrame} (h : n.step p (.frame f) = .ok (n', outs)) :
    Move p n (.frame f) n' (outs.filterMap NicOut.stateAssociation?) := by
  have hdropped : n.localStep p (.frame f) = n.ofMgmt (.ok (n.mgmt, [])) →
      Move p n (.frame f) n' (outs.filterMap NicOut.stateAssociation?) := by
    intro hlocal
    obtain ⟨rfl, hs⟩ := step_ofMgmt hlocal (by simp) h
    rw [hs]
    simpa [absorbMgmt] using Move.ignored f
  cases hbody : f.body with
  | authentication seq status isLast => exact move_authentication hbody h
  | deauthentication rc => exact move_deauthentication hbody h
  | associationRequest => exact hdropped (by simp [localStep, MgmtSta.processFrame, hbody])
  | associationResponse status => exact move_associationResponse hbody h
  | reassociationRequest => exact hdropped (by simp [localStep, MgmtSta.processFrame, hbody])
  | reassociationResponse status => exact hdropped (by simp [localStep, MgmtSta.processFrame, hbody])
  | disassociation rc => exact move_disassociation hbody h
  | beacon body => exact move_beacon hbody h
  | probeRequest ssid => exact hdropped (by simp [localStep, MgmtSta.processFrame, hbody])
  | probeResponse body => exact move_probeResponse hbody h

/-! ### Timers -/

private theorem move_authTimeout {a : MacAddress} (h : n.step p (.authTimeout a) = .ok (n', outs)) :
    Move p n (.authTimeout a) n' (outs.filterMap NicOut.stateAssociation?) := by
  have hlocal : n.localStep p (.authTimeout a) = n.ofMgmt (n.mgmt.handleAuthTimeout a) := rfl
  unfold MgmtSta.handleAuthTimeout MgmtSta.lookupAP at hlocal
  split at hlocal
  · rw [step_of_error hlocal] at h
    cases h
  · rename_i ap hap
    split at hlocal
    · rename_i hscheduled
      obtain ⟨d, hd⟩ := TimerMsg.any_isScheduled_iff.mp hscheduled
      obtain ⟨rfl, hs⟩ := step_ofMgmt hlocal (by simp [MgmtSta.sendAuthenticationConfirm]) h
      rw [hs]
      exact Move.authTimedOut hap hd
    · rw [step_of_error hlocal] at h
      cases h

private theorem move_assocTimeout (h : n.step p .assocTimeout = .ok (n', outs)) :
    Move p n .assocTimeout n' (outs.filterMap NicOut.stateAssociation?) := by
  have hlocal : n.localStep p .assocTimeout = n.ofMgmt n.mgmt.handleAssocTimeout := rfl
  unfold MgmtSta.handleAssocTimeout at hlocal
  split at hlocal
  · rw [step_of_error hlocal] at h
    cases h
  · rename_i x hx
    split at hlocal
    · rename_i hscheduled
      obtain ⟨rfl, hs⟩ := step_ofMgmt hlocal (by simp [MgmtSta.sendAssociationConfirm]) h
      rw [hs]
      cases hmsg : x.msg with
      | scheduled d => exact Move.assocTimedOut hx hmsg
      | fired => simp [hmsg, TimerMsg.isScheduled] at hscheduled
    · rw [step_of_error hlocal] at h
      cases h

/-- A scan goes on to the next channel or is confirmed. -/
private theorem move_scanNext {i : Nat} {t : ScanTimer} (ht : n.mgmt.scanTimers[i]? = some t)
    (hlocal : n.localStep p (.scanTimer i) = n.ofMgmt
      ({ n.mgmt with scanTimers := n.mgmt.scanTimers.eraseIdx i } : MgmtSta).scanNextChannelOrConfirm)
    (h : n.step p (.scanTimer i) = .ok (n', outs)) :
    Move p n (.scanTimer i) n' (outs.filterMap NicOut.stateAssociation?) := by
  unfold MgmtSta.scanNextChannelOrConfirm MgmtSta.scanNextChannel at hlocal
  simp only [] at hlocal
  by_cases hlast : n.mgmt.scanning.currentChannelIndex =
      (n.mgmt.scanning.channelList.length : Int) - 1
  · rw [if_pos hlast] at hlocal
    obtain ⟨rfl, hs⟩ := step_ofMgmt hlocal (by simp [MgmtSta.sendScanConfirm]) h
    rw [hs]
    exact Move.scanDone ht hlast
  · rw [if_neg hlast] at hlocal
    cases hchannel : n.mgmt.scanning.channelList[(n.mgmt.scanning.currentChannelIndex + 1).toNat]? with
    | none =>
        rw [hchannel] at hlocal
        rw [step_of_error hlocal] at h
        cases h
    | some channel =>
        rw [hchannel] at hlocal
        obtain ⟨rfl, hs⟩ := step_ofMgmt hlocal (by simp) h
        rw [hs]
        simpa [absorbMgmt, List.filterMap_cons] using Move.nextChannel ht hlast

private theorem move_scanTimer {i : Nat} (h : n.step p (.scanTimer i) = .ok (n', outs)) :
    Move p n (.scanTimer i) n' (outs.filterMap NicOut.stateAssociation?) := by
  have hlocal : n.localStep p (.scanTimer i) = n.ofMgmt (n.mgmt.handleScanTimer i) := rfl
  unfold MgmtSta.handleScanTimer at hlocal
  cases ht : n.mgmt.scanTimers[i]? with
  | none =>
      rw [ht] at hlocal
      rw [step_of_error hlocal] at h
      cases h
  | some t =>
      rw [ht] at hlocal
      cases hkind : t.kind with
      | MK_SCAN_MAXCHANNELTIME =>
          simp only [hkind] at hlocal
          exact move_scanNext ht hlocal h
      | MK_SCAN_SENDPROBE =>
          simp only [hkind] at hlocal
          obtain ⟨rfl, hs⟩ := step_ofMgmt hlocal (by simp [MgmtSta.sendProbeRequest]) h
          rw [hs]
          simpa [absorbMgmt, List.filterMap_cons, MgmtSta.sendProbeRequest] using
            Move.scanTimerReplaced ht
      | MK_SCAN_MINCHANNELTIME =>
          simp only [hkind] at hlocal
          split at hlocal
          · obtain ⟨rfl, hs⟩ := step_ofMgmt hlocal (by simp) h
            rw [hs]
            simpa [absorbMgmt] using Move.scanTimerReplaced ht
          · exact move_scanNext ht hlocal h

private theorem move_beaconTimeout (h : n.step p .beaconTimeout = .ok (n', outs)) :
    Move p n .beaconTimeout n' (outs.filterMap NicOut.stateAssociation?) := by
  have hlocal : n.localStep p .beaconTimeout = n.ofMgmt n.mgmt.handleBeaconTimeout := rfl
  unfold MgmtSta.handleBeaconTimeout at hlocal
  split at hlocal
  · rename_i hscheduled
    obtain ⟨d, hd⟩ := TimerMsg.any_isScheduled_iff.mp hscheduled
    unfold step at h
    rw [hlocal] at h
    simp only [ofMgmt, List.map_cons, List.map_nil, List.contains_cons, BEq.rfl, Bool.true_or,
      if_true, Except.ok.injEq, Prod.mk.injEq] at h
    obtain ⟨rfl, rfl⟩ := h
    simpa [hearBeaconLost, ofAgent, absorbAgent, absorbMgmt, AgentSta.receiveBeaconLost,
      AgentParams.sendScanRequest, AgentParams.scanRequest, Request.associate?,
      NicOut.stateAssociation?, List.filterMap_cons] using Move.beaconLost hd
  · rw [step_of_error hlocal] at h
    cases h

/-! ### Primitives -/

private theorem move_startUp (h : n.step p .startUp = .ok (n', outs)) :
    Move p n .startUp n' (outs.filterMap NicOut.stateAssociation?) := by
  cases hstart : n.agent.startUp with
  | false =>
      have hlocal : n.localStep p .startUp = .error .notEnabled := by
        simp [localStep, hstart]
      rw [step_of_error hlocal] at h
      cases h
  | true =>
      have hlocal : n.localStep p .startUp =
          .ok (n.ofAgent (n.agent.handleTimer p).1 (n.agent.handleTimer p).2) := by
        simp [localStep, hstart]
      obtain ⟨rfl, rfl⟩ := step_ofAgent hlocal h
      simpa [absorbAgent, AgentSta.handleTimer, AgentParams.sendScanRequest,
        AgentParams.scanRequest, Request.associate?, NicOut.stateAssociation?,
        List.filterMap_cons] using Move.startUp hstart

private theorem move_scanRequest {ctrl : ScanRequest} {rest : List Request}
    (hq : n.toMgmt = .scan ctrl :: rest) (h : n.step p .deliverRequest = .ok (n', outs)) :
    Move p n .deliverRequest n' (outs.filterMap NicOut.stateAssociation?) := by
  have hlocal : n.localStep p .deliverRequest =
      ({ n with toMgmt := rest } : Nic).ofMgmt (n.mgmt.processScanCommand ctrl) := by
    simp [localStep, hq, MgmtSta.handleCommand]
  unfold MgmtSta.processScanCommand at hlocal
  split at hlocal
  · rw [step_of_error hlocal] at h
    cases h
  · rename_i hidle
    have hmove := Move.scan (p := p) hq (by simpa using hidle)
    split at hlocal
    · rw [step_of_error hlocal] at h
      cases h
    · split at hlocal
      · rw [step_of_error hlocal] at h
        cases h
      · unfold MgmtSta.scanStarted at hmove
        unfold MgmtSta.scanNextChannel at hlocal
        have hindex : (n.mgmt.endAssociation.startScanning ctrl).scanning.currentChannelIndex = -1 :=
          rfl
        have hlist : (n.mgmt.endAssociation.startScanning ctrl).scanning.channelList =
            n.mgmt.endAssociation.channelsOf ctrl := rfl
        have hchannels : n.mgmt.endAssociation.channelsOf ctrl = n.mgmt.channelsOf ctrl := by
          have hnum : n.mgmt.endAssociation.numChannels = n.mgmt.numChannels := by
            unfold MgmtSta.endAssociation
            split <;> rfl
          unfold MgmtSta.channelsOf
          rw [hnum]
        rw [hindex, hlist, hchannels] at hlocal
        cases hlistcase : n.mgmt.channelsOf ctrl with
        | nil =>
            simp only [hlistcase, List.length_nil] at hlocal
            obtain ⟨rfl, hs⟩ := step_ofMgmt hlocal (by simp) h
            rw [hs]
            simpa [absorbMgmt, hlistcase] using hmove
        | cons channel channels =>
            have hmore : (-1 : Int) ≠ ((channel :: channels).length : Int) - 1 := by
              simp only [List.length_cons]
              omega
            rw [hlistcase, if_neg hmore] at hlocal
            obtain ⟨rfl, hs⟩ := step_ofMgmt hlocal (by simp) h
            rw [hs]
            simpa [absorbMgmt, hlistcase, List.filterMap_cons] using hmove

private theorem move_authenticateRequest {a : MacAddress} {t : SimTime} {rest : List Request}
    (hq : n.toMgmt = .authenticate a t :: rest) (h : n.step p .deliverRequest = .ok (n', outs)) :
    Move p n .deliverRequest n' (outs.filterMap NicOut.stateAssociation?) := by
  have hlocal : n.localStep p .deliverRequest =
      ({ n with toMgmt := rest } : Nic).ofMgmt (n.mgmt.processAuthenticateCommand a t) := by
    simp [localStep, hq, MgmtSta.handleCommand]
  unfold MgmtSta.processAuthenticateCommand MgmtSta.lookupAP at hlocal
  split at hlocal
  · rw [step_of_error hlocal] at h
    cases h
  · rename_i ap hap
    unfold MgmtSta.startAuthentication at hlocal
    split at hlocal
    · rw [step_of_error hlocal] at h
      cases h
    · rename_i htimer
      split at hlocal
      · rw [step_of_error hlocal] at h
        cases h
      · rename_i hnot
        obtain ⟨rfl, hs⟩ := step_ofMgmt hlocal (by simp) h
        rw [hs]
        have hkey : ap.address = a := lookupKey_key hap
        subst hkey
        simpa [absorbMgmt, List.filterMap_cons] using
          Move.authenticate hq hap (not_ne_iff.mp htimer) (by simpa using hnot)

private theorem move_associateRequest {a : MacAddress} {t : SimTime} {rest : List Request}
    (hq : n.toMgmt = .associate a t :: rest) (h : n.step p .deliverRequest = .ok (n', outs)) :
    Move p n .deliverRequest n' (outs.filterMap NicOut.stateAssociation?) := by
  have hlocal : n.localStep p .deliverRequest =
      ({ n with toMgmt := rest } : Nic).ofMgmt (n.mgmt.processAssociateCommand a t) := by
    simp [localStep, hq, MgmtSta.handleCommand]
  unfold MgmtSta.processAssociateCommand MgmtSta.lookupAP at hlocal
  split at hlocal
  · rw [step_of_error hlocal] at h
    cases h
  · rename_i ap hap
    unfold MgmtSta.startAssociation at hlocal
    split at hlocal
    · rw [step_of_error hlocal] at h
      cases h
    · rename_i hfree
      rw [not_or] at hfree
      split at hlocal
      · rw [step_of_error hlocal] at h
        cases h
      · rename_i hauth
        obtain ⟨rfl, hs⟩ := step_ofMgmt hlocal (by simp) h
        rw [hs]
        have hkey : ap.address = a := lookupKey_key hap
        subst hkey
        simpa [absorbMgmt, List.filterMap_cons] using
          Move.associate hq hap (by simpa using hauth) (by simpa using hfree.1)
            (not_ne_iff.mp hfree.2)

private theorem move_confirm {c : Confirm} {rest : List Confirm} (hq : n.toAgent = c :: rest)
    (h : n.step p .deliverConfirm = .ok (n', outs)) :
    Move p n .deliverConfirm n' (outs.filterMap NicOut.stateAssociation?) := by
  -- an answered confirm sends its answer and emits nothing
  have hanswered : ∀ c aouts, n.toAgent = c :: rest → c.restarts = true →
      n.agent.handleResponse p c = .ok (n.agent, aouts) → aouts = [.sendRequest (c.answer p)] →
      Move p n .deliverConfirm n' (outs.filterMap NicOut.stateAssociation?) := by
    intro c aouts hq hc hresp hout
    have hlocal : n.localStep p .deliverConfirm =
        .ok (({ n with toAgent := rest } : Nic).ofAgent n.agent aouts) := by
      simp [localStep, hq, hresp]
    obtain ⟨rfl, rfl⟩ := step_ofAgent hlocal h
    subst hout
    have hmove := Move.confirmed (p := p) hq hc
    cases hassociate : (c.answer p).associate? <;>
      simpa [absorbAgent, NicOut.stateAssociation?, List.filterMap_cons, hassociate] using hmove
  -- a success is remembered, and emitted if the access point is another one
  have hjoined : ∀ c a, n.toAgent = c :: rest →
      n.agent.handleResponse p c = .ok (n.agent.processAssociateConfirm p .PRC_SUCCESS a) →
      n' = { n with
        toAgent := rest
        agent := (n.agent.processAssociateConfirm p .PRC_SUCCESS a).1 } ∧
      outs.filterMap NicOut.stateAssociation? =
        if n.agent.prevAP.isUnspecified || n.agent.prevAP != a then [true] else [] := by
    intro c a hq hresp
    have hlocal : n.localStep p .deliverConfirm =
        .ok (({ n with toAgent := rest } : Nic).ofAgent
          (n.agent.processAssociateConfirm p .PRC_SUCCESS a).1
          (n.agent.processAssociateConfirm p .PRC_SUCCESS a).2) := by
      simp [localStep, hq, hresp]
    obtain ⟨rfl, rfl⟩ := step_ofAgent hlocal h
    cases hprev : n.agent.prevAP.isUnspecified || n.agent.prevAP != a with
    | true =>
        simp [absorbAgent, AgentSta.processAssociateConfirm, NicOut.stateAssociation?,
          List.filterMap_cons, hprev]
    | false =>
        simp [absorbAgent, AgentSta.processAssociateConfirm, NicOut.stateAssociation?,
          List.filterMap_cons, hprev]
  cases c with
  | scan rc bss =>
      refine hanswered _ _ hq rfl rfl ?_
      unfold AgentParams.processScanConfirm
      simp only [Confirm.answer]
      cases p.choose bss <;> rfl
  | authenticate rc a =>
      refine hanswered _ _ hq rfl rfl ?_
      unfold AgentParams.processAuthenticateConfirm
      simp only [Confirm.answer]
      split <;> rfl
  | associate rc a =>
      by_cases hrc : rc = .PRC_SUCCESS
      · subst hrc
        obtain ⟨rfl, hsignals⟩ := hjoined _ a hq rfl
        rw [hsignals]
        exact Move.associated hq
      · refine hanswered _ _ hq (by simp [Confirm.restarts, hrc]) ?_ rfl
        simp [AgentSta.handleResponse, AgentSta.processAssociateConfirm, hrc, Confirm.answer,
          AgentParams.sendScanRequest]
  | reassociate rc a =>
      by_cases hrc : rc = .PRC_SUCCESS
      · subst hrc
        obtain ⟨rfl, hsignals⟩ := hjoined _ a hq rfl
        rw [hsignals]
        exact Move.reassociated hq
      · refine hanswered _ _ hq (by simp [Confirm.restarts, hrc]) ?_ rfl
        simp [AgentSta.handleResponse, AgentSta.processAssociateConfirm, hrc, Confirm.answer,
          AgentParams.sendScanRequest]
  | unrecognized className =>
      have hlocal : n.localStep p .deliverConfirm = .error (.cRuntimeError
          ("handleResponse(): unrecognized control info class `" ++ className ++ "'")) := by
        simp [localStep, hq, AgentSta.handleResponse]
      rw [step_of_error hlocal] at h
      cases h

/-- An event that a card handles is one of its moves. -/
theorem move_of_step (h : n.step p e = .ok (n', outs)) :
    Move p n e n' (outs.filterMap NicOut.stateAssociation?) := by
  cases e with
  | startUp => exact move_startUp h
  | deliverRequest =>
      cases hq : n.toMgmt with
      | nil =>
          have hlocal : n.localStep p .deliverRequest = .error .notEnabled := by
            simp [localStep, hq]
          rw [step_of_error hlocal] at h
          cases h
      | cons req rest =>
          cases req with
          | scan ctrl => exact move_scanRequest hq h
          | authenticate a t => exact move_authenticateRequest hq h
          | associate a t => exact move_associateRequest hq h
          | deauthenticate a rc => exact Move.foreign hq rfl
          | reassociate a t => exact Move.foreign hq rfl
          | disassociate a rc => exact Move.foreign hq rfl
  | deliverConfirm =>
      cases hq : n.toAgent with
      | nil =>
          have hlocal : n.localStep p .deliverConfirm = .error .notEnabled := by
            simp [localStep, hq]
          rw [step_of_error hlocal] at h
          cases h
      | cons c rest => exact move_confirm hq h
  | frame f => exact move_frame h
  | authTimeout a => exact move_authTimeout h
  | assocTimeout => exact move_assocTimeout h
  | scanTimer i => exact move_scanTimer h
  | beaconTimeout => exact move_beaconTimeout h
  | receptionState busy =>
      unfold step localStep at h
      simp only [List.contains_nil, Bool.false_eq_true, if_false, Except.ok.injEq,
        Prod.mk.injEq] at h
      obtain ⟨rfl, rfl⟩ := h
      exact Move.reception busy

theorem move_of_next (h : n.next p e = .ok n') : ∃ signals, Move p n e n' signals := by
  unfold next at h
  cases hstep : n.step p e with
  | error k => simp [hstep, Except.map] at h
  | ok result =>
      obtain ⟨n'', outs⟩ := result
      simp only [hstep, Except.map, Except.ok.injEq] at h
      exact ⟨_, h ▸ move_of_step hstep⟩

end Nic

end MultiTechBus.Ieee80211
