import MultiTechBus.Ieee80211.ApList
import MultiTechBus.Ieee80211.Nic

/-! # Runtime errors of the agent and the management entity

The states in which an event stops the simulation.
-/

namespace MultiTechBus.Ieee80211

open MultiTechBus.Library

/-- The states and events that end in a runtime error. -/
inductive Fault (n : Nic) : Event → Prop
  | scanInProgress {ctrl : ScanRequest} {rest : List Request} (hq : n.toMgmt = .scan ctrl :: rest)
      (h : n.mgmt.isScanning = true) : Fault n .deliverRequest
  | scanAsserts {ctrl : ScanRequest} {rest : List Request} (hq : n.toMgmt = .scan ctrl :: rest)
      (h : ctrl.BSSType ≠ .BSSTYPE_INFRASTRUCTURE ∨ ctrl.maxChannelTime < ctrl.minChannelTime) :
      Fault n .deliverRequest
  | authenticateUnknown {a : MacAddress} {t : SimTime} {rest : List Request}
      (hq : n.toMgmt = .authenticate a t :: rest) (h : known n.mgmt.apList a = false) :
      Fault n .deliverRequest
  | authenticateBusy {a : MacAddress} {t : SimTime} {rest : List Request}
      (hq : n.toMgmt = .authenticate a t :: rest)
      (h : authTimer n.mgmt.apList a ≠ none ∨ authenticated n.mgmt.apList a = true) :
      Fault n .deliverRequest
  | associateBusy {a : MacAddress} {t : SimTime} {rest : List Request}
      (hq : n.toMgmt = .associate a t :: rest)
      (h : n.mgmt.mib.isAssociated = true ∨ n.mgmt.assocTimeoutMsg ≠ none) :
      Fault n .deliverRequest
  | associateNotAuthenticated {a : MacAddress} {t : SimTime} {rest : List Request}
      (hq : n.toMgmt = .associate a t :: rest) (h : authenticated n.mgmt.apList a = false) :
      Fault n .deliverRequest
  | foreign {req : Request} {rest : List Request} (hq : n.toMgmt = req :: rest)
      (h : req.isForeign = true) : Fault n .deliverRequest
  | unrecognized {className : String} {rest : List Confirm}
      (hq : n.toAgent = .unrecognized className :: rest) : Fault n .deliverConfirm
  | responseFromUnknown {f : MgmtFrame} {status : Int} (hbody : f.body = .associationResponse status)
      (hpending : n.mgmt.assocTimeoutMsg ≠ none)
      (h : known n.mgmt.apList f.transmitterAddress = false) : Fault n (.frame f)
  | beaconAsserts {f : MgmtFrame} {body : BeaconBody} (hbody : f.body = .beacon body)
      (hassociated : n.mgmt.mib.isAssociated = true) (h : n.mgmt.assocAP.beaconTimeoutMsg = none) :
      Fault n (.frame f)
  | channelRange {i : Nat} {t : ScanTimer} (ht : n.mgmt.scanTimers[i]? = some t)
      (h : (n.mgmt.scanning.channelList.length : Int) ≤
        (n.mgmt.scanning.currentChannelIndex + 1).toNat)
      (hlast : n.mgmt.scanning.currentChannelIndex ≠
        (n.mgmt.scanning.channelList.length : Int) - 1) : Fault n (.scanTimer i)

namespace Nic

variable {p : AgentParams} {n n₀ n' : Nic} {e : Event} {k : Halt}

theorem localStep_of_step_error (h : n.step p e = .error k) : n.localStep p e = .error k := by
  unfold step at h
  split at h
  · rename_i hlocal
    rw [hlocal, Except.error.inj h]
  · split at h <;> cases h

theorem error_of_ofMgmt {result : Except Halt (MgmtSta × List MgmtOut)}
    (h : n.ofMgmt result = .error k) : result = .error k := by
  cases result with
  | error k' => exact congrArg Except.error (Except.error.inj h)
  | ok r => cases h

private theorem known_eq_false {m : MgmtSta} {a : MacAddress} (h : m.lookupAP a = none) :
    known m.apList a = false := by
  simp [known, show lookupKey ApInfo.address a m.apList = none from h]

private theorem fault_scanRequest {ctrl : ScanRequest} {rest : List Request}
    (hq : n.toMgmt = .scan ctrl :: rest) (h : n.mgmt.processScanCommand ctrl = .error k) :
    Fault n .deliverRequest := by
  unfold MgmtSta.processScanCommand at h
  split at h
  · exact .scanInProgress hq ‹_›
  · split at h
    · exact .scanAsserts hq (.inl ‹_›)
    · split at h
      · exact .scanAsserts hq (.inr ‹_›)
      · -- the first channel is in range, or there is none to tune to
        unfold MgmtSta.scanNextChannel at h
        have hindex : (n.mgmt.endAssociation.startScanning ctrl).scanning.currentChannelIndex = -1 :=
          rfl
        rw [hindex] at h
        cases hlist : (n.mgmt.endAssociation.startScanning ctrl).scanning.channelList with
        | nil => simp [hlist] at h
        | cons channel channels =>
            rw [hlist, if_neg (by simp only [List.length_cons]; omega)] at h
            simp at h

private theorem fault_authenticateRequest {a : MacAddress} {t : SimTime} {rest : List Request}
    (hq : n.toMgmt = .authenticate a t :: rest)
    (h : n.mgmt.processAuthenticateCommand a t = .error k) : Fault n .deliverRequest := by
  unfold MgmtSta.processAuthenticateCommand at h
  split at h
  · exact .authenticateUnknown hq (known_eq_false ‹_›)
  · rename_i ap hap
    unfold MgmtSta.startAuthentication at h
    split at h
    · rename_i htimer
      exact .authenticateBusy hq (.inl (by rwa [authTimer_of_lookup hap]))
    · split at h
      · rename_i hauth
        exact .authenticateBusy hq (.inr (by rwa [authenticated_of_lookup hap]))
      · cases h

private theorem fault_associateRequest {a : MacAddress} {t : SimTime} {rest : List Request}
    (hq : n.toMgmt = .associate a t :: rest)
    (h : n.mgmt.processAssociateCommand a t = .error k) : Fault n .deliverRequest := by
  unfold MgmtSta.processAssociateCommand at h
  split at h
  · rename_i hnone
    have hnone' : lookupKey ApInfo.address a n.mgmt.apList = none := hnone
    exact .associateNotAuthenticated hq (by simp [authenticated, hnone'])
  · rename_i ap hap
    unfold MgmtSta.startAssociation at h
    split at h
    · exact .associateBusy hq ‹_›
    · split at h
      · rename_i hauth
        exact .associateNotAuthenticated hq (by rw [authenticated_of_lookup hap]; simpa using hauth)
      · cases h

private theorem fault_frame {f : MgmtFrame} (h : n.mgmt.processFrame f = .error k) :
    Fault n (.frame f) := by
  unfold MgmtSta.processFrame at h
  cases hbody : f.body with
  | associationResponse status =>
      rw [hbody] at h
      simp only [MgmtSta.handleAssociationResponseFrame] at h
      split at h
      · cases h
      · split at h
        · exact .responseFromUnknown hbody ‹_› (known_eq_false ‹_›)
        · split at h <;> cases h
  | beacon body =>
      rw [hbody] at h
      simp only [MgmtSta.handleBeaconFrame] at h
      obtain ⟨power, heq⟩ := n.mgmt.storeAPInfo_eq f body
      split at h
      · rename_i hassociated
        split at h
        · rename_i hnone
          rw [heq] at hassociated hnone
          exact .beaconAsserts hbody hassociated.1 hnone
        · cases h
      · cases h
  | authentication seq status isLast => simp [hbody] at h
  | deauthentication rc => simp [hbody] at h
  | associationRequest => simp [hbody] at h
  | reassociationRequest => simp [hbody] at h
  | reassociationResponse status => simp [hbody] at h
  | disassociation rc => simp [hbody] at h
  | probeRequest ssid => simp [hbody] at h
  | probeResponse body => simp [hbody] at h

private theorem fault_scanNext {i : Nat} {t : ScanTimer} (ht : n.mgmt.scanTimers[i]? = some t)
    {timers : List ScanTimer}
    (h : ({ n.mgmt with scanTimers := timers } : MgmtSta).scanNextChannelOrConfirm = .error k) :
    Fault n (.scanTimer i) := by
  unfold MgmtSta.scanNextChannelOrConfirm MgmtSta.scanNextChannel at h
  simp only [] at h
  by_cases hlast : n.mgmt.scanning.currentChannelIndex =
      (n.mgmt.scanning.channelList.length : Int) - 1
  · rw [if_pos hlast] at h
    cases h
  · rw [if_neg hlast] at h
    cases hchannel : n.mgmt.scanning.channelList[(n.mgmt.scanning.currentChannelIndex + 1).toNat]? with
    | none => exact .channelRange ht (by exact_mod_cast List.getElem?_eq_none_iff.mp hchannel) hlast
    | some channel =>
        rw [hchannel] at h
        cases h

private theorem fault_scanTimer {i : Nat} (h : n.mgmt.handleScanTimer i = .error k)
    (hk : k.isFailure = true) : Fault n (.scanTimer i) := by
  unfold MgmtSta.handleScanTimer at h
  split at h
  · exact (Halt.false_of_notEnabled h hk).elim
  · rename_i t ht
    simp only [] at h
    split at h
    · exact fault_scanNext ht h
    · cases h
    · split at h
      · cases h
      · exact fault_scanNext ht h

/-- Every runtime error has one of these causes. -/
theorem fault_of_step (h : n.step p e = .error k) (hk : k.isFailure = true) : Fault n e := by
  have hlocal := localStep_of_step_error h
  cases e with
  | startUp =>
      unfold localStep at hlocal
      simp only [] at hlocal
      split at hlocal
      · cases hlocal
      · exact (Halt.false_of_notEnabled hlocal hk).elim
  | deliverRequest =>
      unfold localStep at hlocal
      simp only [] at hlocal
      split at hlocal
      · exact (Halt.false_of_notEnabled hlocal hk).elim
      · rename_i req rest hq
        have hcommand := error_of_ofMgmt hlocal
        cases req with
        | scan ctrl => exact fault_scanRequest hq hcommand
        | authenticate a t => exact fault_authenticateRequest hq hcommand
        | associate a t => exact fault_associateRequest hq hcommand
        | deauthenticate a rc => exact .foreign hq rfl
        | reassociate a t => exact .foreign hq rfl
        | disassociate a rc => exact .foreign hq rfl
  | deliverConfirm =>
      unfold localStep at hlocal
      simp only [] at hlocal
      split at hlocal
      · exact (Halt.false_of_notEnabled hlocal hk).elim
      · rename_i c rest hq
        cases c with
        | unrecognized className => exact .unrecognized hq
        | scan rc bss => simp [AgentSta.handleResponse] at hlocal
        | authenticate rc a => simp [AgentSta.handleResponse] at hlocal
        | associate rc a => simp [AgentSta.handleResponse] at hlocal
        | reassociate rc a => simp [AgentSta.handleResponse] at hlocal
  | frame f => exact fault_frame (error_of_ofMgmt hlocal)
  | authTimeout a =>
      have hm := error_of_ofMgmt hlocal
      unfold MgmtSta.handleAuthTimeout at hm
      split at hm
      · exact (Halt.false_of_notEnabled hm hk).elim
      · split at hm
        · cases hm
        · exact (Halt.false_of_notEnabled hm hk).elim
  | assocTimeout =>
      have hm := error_of_ofMgmt hlocal
      unfold MgmtSta.handleAssocTimeout at hm
      split at hm
      · exact (Halt.false_of_notEnabled hm hk).elim
      · split at hm
        · cases hm
        · exact (Halt.false_of_notEnabled hm hk).elim
  | scanTimer i => exact fault_scanTimer (error_of_ofMgmt hlocal) hk
  | beaconTimeout =>
      have hm := error_of_ofMgmt hlocal
      unfold MgmtSta.handleBeaconTimeout at hm
      split at hm
      · cases hm
      · exact (Halt.false_of_notEnabled hm hk).elim
  | receptionState busy => cases hlocal

end Nic

end MultiTechBus.Ieee80211
