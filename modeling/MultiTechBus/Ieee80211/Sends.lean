import MultiTechBus.Ieee80211.Sound
import MultiTechBus.Ieee80211.Bss

/-! # What a station sends

An event makes a station send at most one frame. It sends authentication frames only
to an access point that it is not authenticated with, and an association request only
for an AssociateRequest of its agent.
-/

namespace MultiTechBus.Ieee80211

open MultiTechBus.Library

/-- The frames that a station sends as it handles an event and gets into state `m`. -/
inductive Sends (n : Nic) (m : MgmtSta) : Event → List (FrameBody × MacAddress) → Prop
  | nothing (e : Event) : Sends n m e []
  | probeRequest {e : Event} {SSID : String} {a : MacAddress} : Sends n m e [(.probeRequest SSID, a)]
  | authentication {e : Event} {seq : BitVec 16} {status : Int} {isLast : Bool} {a : MacAddress}
      (hknown : known m.apList a = true) (hnot : authenticated m.apList a = false) :
      Sends n m e [(.authentication seq status isLast, a)]
  | associationRequest {a : MacAddress} {t : SimTime} {rest : List Request}
      (hq : n.toMgmt = .associate a t :: rest) (hnot : m.mib.isAssociated = false)
      (hauth : authenticated m.apList a = true) :
      Sends n m .deliverRequest [(.associationRequest, a)]

def MgmtOut.frame? : MgmtOut → Option (FrameBody × MacAddress)
  | sendManagementFrame _ body address => some (body, address)
  | _ => none

namespace Nic

variable {p : AgentParams} {n n₀ n' : Nic} {e : Event} {outs : List NicOut}

theorem frame?_mgmt (outs : List MgmtOut) :
    (outs.map NicOut.mgmt).filterMap NicOut.frame? = outs.filterMap MgmtOut.frame? := by
  rw [List.filterMap_map]
  congr 1
  funext out
  cases out <;> rfl

theorem frame?_agent (outs : List AgentOut) :
    (outs.map NicOut.agent).filterMap NicOut.frame? = [] := by
  rw [List.filterMap_map]
  exact List.filterMap_eq_nil_iff.mpr fun _ _ => rfl

theorem frames_ofMgmt {m : MgmtSta} {mouts : List MgmtOut}
    (hlocal : n.localStep p e = n₀.ofMgmt (.ok (m, mouts))) (h : n.step p e = .ok (n', outs)) :
    n'.mgmt = m ∧ outs.filterMap NicOut.frame? = mouts.filterMap MgmtOut.frame? := by
  unfold step at h
  rw [hlocal] at h
  simp only [ofMgmt] at h
  split at h
  · obtain ⟨rfl, rfl⟩ := Prod.mk.inj (Except.ok.inj h)
    refine ⟨rfl, ?_⟩
    rw [List.filterMap_append, frame?_mgmt, hearBeaconLost, ofAgent, frame?_agent, List.append_nil]
  · obtain ⟨rfl, rfl⟩ := Prod.mk.inj (Except.ok.inj h)
    exact ⟨rfl, frame?_mgmt mouts⟩

theorem sends_ofMgmt (n₀ : Nic) {r : Except Halt (MgmtSta × List MgmtOut)}
    (hlocal : n.localStep p e = n₀.ofMgmt r) (h : n.step p e = .ok (n', outs))
    (hsends : ∀ m mouts, r = .ok (m, mouts) → Sends n m e (mouts.filterMap MgmtOut.frame?)) :
    Sends n n'.mgmt e (outs.filterMap NicOut.frame?) := by
  cases r with
  | error k =>
      rw [step_of_error hlocal] at h
      cases h
  | ok r =>
      obtain ⟨m, mouts⟩ := r
      obtain ⟨hm, hframes⟩ := frames_ofMgmt hlocal h
      rw [hm, hframes]
      exact hsends m mouts rfl

theorem sends_ofAgent (n₀ : Nic) (agent : AgentSta) (aouts : List AgentOut)
    (hlocal : n.localStep p e = .ok (n₀.ofAgent agent aouts)) (h : n.step p e = .ok (n', outs)) :
    Sends n n'.mgmt e (outs.filterMap NicOut.frame?) := by
  rw [(step_ofAgent hlocal h).2, frame?_agent]
  exact .nothing e

end Nic

/-! ## The handlers -/

namespace MgmtSta

variable {n : Nic} {m m' : MgmtSta} {e : Event} {outs : List MgmtOut}

theorem frames_scanNextChannel {last : Bool} (h : m.scanNextChannel = .ok (last, m', outs)) :
    outs.filterMap MgmtOut.frame? = [] := by
  unfold scanNextChannel at h
  split at h
  · cases h
    rfl
  · split at h
    · cases h
    · cases h
      rfl

theorem frames_scanNextChannelOrConfirm (h : m.scanNextChannelOrConfirm = .ok (m', outs)) :
    outs.filterMap MgmtOut.frame? = [] := by
  unfold scanNextChannelOrConfirm at h
  split at h
  · cases h
  · rename_i hscan
    cases h
    rw [List.filterMap_append, frames_scanNextChannel hscan]
    rfl
  · rename_i hscan
    cases h
    exact frames_scanNextChannel hscan

theorem frames_processScanCommand {ctrl : ScanRequest}
    (h : m.processScanCommand ctrl = .ok (m', outs)) : outs.filterMap MgmtOut.frame? = [] := by
  unfold processScanCommand at h
  split at h
  · cases h
  · split at h
    · cases h
    · split at h
      · cases h
      · split at h
        · cases h
        · rename_i hscan
          cases h
          exact frames_scanNextChannel hscan

theorem updateAP_not_authenticated {a : MacAddress} {ap : ApInfo} {f : ApInfo → ApInfo}
    (hap : lookupKey ApInfo.address a m.apList = some ap) (hnot : (f ap).isAuthenticated = false)
    (hf : ∀ ap, (f ap).address = ap.address) :
    known (m.updateAP a f).apList a = true ∧ authenticated (m.updateAP a f).apList a = false :=
  ⟨(known_update hf hap a).trans (known_of_lookup hap),
    (authenticated_update hf hap a).trans ((if_pos rfl).trans hnot)⟩

theorem sends_processAuthenticateCommand {a : MacAddress} {t : SimTime}
    (h : m.processAuthenticateCommand a t = .ok (m', outs)) :
    Sends n m' e (outs.filterMap MgmtOut.frame?) := by
  unfold processAuthenticateCommand lookupAP at h
  split at h
  · cases h
  · rename_i ap hap
    unfold startAuthentication at h
    split at h
    · cases h
    · split at h
      · cases h
      · rename_i hnot
        cases h
        obtain rfl := lookupKey_key hap
        obtain ⟨hknown, hfalse⟩ := m.updateAP_not_authenticated hap
          (f := fun ap => { ap with authSeqExpected := 2, authTimeoutMsg := some (.scheduled t) })
          (by simpa using hnot) (fun _ => rfl)
        exact .authentication hknown hfalse

theorem sends_processAssociateCommand {a : MacAddress} {t : SimTime} {rest : List Request}
    (hq : n.toMgmt = .associate a t :: rest) (h : m.processAssociateCommand a t = .ok (m', outs)) :
    Sends n m' .deliverRequest (outs.filterMap MgmtOut.frame?) := by
  unfold processAssociateCommand lookupAP at h
  split at h
  · cases h
  · rename_i ap hap
    unfold startAssociation at h
    split at h
    · cases h
    · rename_i hfree
      split at h
      · cases h
      · rename_i hauth
        cases h
        obtain rfl := lookupKey_key hap
        refine .associationRequest hq ?_ ?_
        · simpa using fun hassoc => hfree (.inl hassoc)
        · exact (authenticated_of_lookup hap).trans (by simpa using hauth)

theorem sends_handleAuthenticationFrame (a : MacAddress) (seq : BitVec 16) (status : Int)
    (isLast : Bool) :
    Sends n (m.handleAuthenticationFrame a seq status isLast).1 e
      ((m.handleAuthenticationFrame a seq status isLast).2.filterMap MgmtOut.frame?) := by
  unfold handleAuthenticationFrame lookupAP
  split
  · exact .nothing e
  · rename_i ap hap
    split
    · exact .nothing e
    · rename_i hnot
      have hfalse : ap.isAuthenticated = false := by simpa using hnot
      split
      · exact .nothing e
      · split
        · obtain ⟨hknown, hstill⟩ := m.updateAP_not_authenticated hap
            (f := fun ap => { ap with authTimeoutMsg := none }) hfalse (fun _ => rfl)
          exact .authentication hknown hstill
        · split
          · obtain ⟨hknown, hstill⟩ := m.updateAP_not_authenticated hap
              (f := fun ap => { ap with authSeqExpected := ap.authSeqExpected + 2 }) hfalse
              (fun _ => rfl)
            exact .authentication hknown hstill
          · exact .nothing e

theorem sends_handleAssociationResponseFrame {a : MacAddress} {status : Int}
    (h : m.handleAssociationResponseFrame a status = .ok (m', outs)) :
    Sends n m' e (outs.filterMap MgmtOut.frame?) := by
  unfold handleAssociationResponseFrame at h
  split at h
  · cases h
    exact .nothing e
  · split at h
    · cases h
    · dsimp only at h
      split at h <;> cases h <;> exact .nothing e

theorem sends_handleBeaconFrame {f : MgmtFrame} {body : BeaconBody}
    (h : m.handleBeaconFrame f body = .ok (m', outs)) :
    Sends n m' e (outs.filterMap MgmtOut.frame?) := by
  unfold handleBeaconFrame at h
  dsimp only at h
  split at h
  · split at h <;> cases h
    exact .nothing e
  · cases h
    exact .nothing e

theorem frames_handleDeauthenticationFrame (a : MacAddress) :
    (m.handleDeauthenticationFrame a).2 = [] := by
  unfold handleDeauthenticationFrame
  split
  · rfl
  · split
    · rfl
    · split <;> rfl

theorem frames_handleDisassociationFrame (a : MacAddress) :
    (m.handleDisassociationFrame a).2 = [] := by
  unfold handleDisassociationFrame
  dsimp only
  split <;> rfl

theorem sends_processFrame {f : MgmtFrame} (h : m.processFrame f = .ok (m', outs)) :
    Sends n m' e (outs.filterMap MgmtOut.frame?) := by
  have hsilent : ∀ r : MgmtSta × List MgmtOut, Except.ok r = (Except.ok (m', outs) : Except Halt _) →
      r.2 = [] → Sends n m' e (outs.filterMap MgmtOut.frame?) := by
    rintro r heq hnil
    obtain rfl := Except.ok.inj heq
    rw [show outs = [] from hnil]
    exact .nothing e
  unfold processFrame at h
  cases hbody : f.body with
  | authentication seq status isLast =>
      rw [hbody] at h
      have hsends := sends_handleAuthenticationFrame (n := n) (m := m) (e := e)
        f.transmitterAddress seq status isLast
      rwa [Except.ok.inj h] at hsends
  | deauthentication rc =>
      rw [hbody] at h
      exact hsilent _ h (frames_handleDeauthenticationFrame _)
  | associationResponse status =>
      rw [hbody] at h
      exact sends_handleAssociationResponseFrame h
  | disassociation rc =>
      rw [hbody] at h
      exact hsilent _ h (frames_handleDisassociationFrame _)
  | beacon body =>
      rw [hbody] at h
      exact sends_handleBeaconFrame h
  | associationRequest =>
      rw [hbody] at h
      exact hsilent _ h rfl
  | reassociationRequest =>
      rw [hbody] at h
      exact hsilent _ h rfl
  | reassociationResponse status =>
      rw [hbody] at h
      exact hsilent _ h rfl
  | probeRequest SSID =>
      rw [hbody] at h
      exact hsilent _ h rfl
  | probeResponse body =>
      rw [hbody] at h
      exact hsilent _ h rfl

theorem sends_handleScanTimer {i : Nat} (h : m.handleScanTimer i = .ok (m', outs)) :
    Sends n m' e (outs.filterMap MgmtOut.frame?) := by
  unfold handleScanTimer at h
  split at h
  · cases h
  · dsimp only at h
    split at h
    · rw [frames_scanNextChannelOrConfirm h]
      exact .nothing e
    · cases h
      exact .probeRequest
    · split at h
      · cases h
        exact .nothing e
      · rw [frames_scanNextChannelOrConfirm h]
        exact .nothing e

end MgmtSta

namespace Nic

variable {p : AgentParams} {n n' : Nic} {e : Event} {outs : List NicOut}

theorem sends_deliverRequest (hn : n.Sound p) (h : n.step p .deliverRequest = .ok (n', outs)) :
    Sends n n'.mgmt .deliverRequest (outs.filterMap NicOut.frame?) := by
  cases hq : n.toMgmt with
  | nil =>
      have hlocal : n.localStep p .deliverRequest = .error .notEnabled := by simp [localStep, hq]
      rw [step_of_error hlocal] at h
      cases h
  | cons req rest =>
      have hlocal : n.localStep p .deliverRequest =
          ({ n with toMgmt := rest } : Nic).ofMgmt (n.mgmt.handleCommand req) := by
        simp [localStep, hq]
      refine sends_ofMgmt _ hlocal h fun m mouts hr => ?_
      cases req with
      | scan ctrl =>
          rw [MgmtSta.frames_processScanCommand hr]
          exact .nothing _
      | authenticate a t => exact MgmtSta.sends_processAuthenticateCommand hr
      | associate a t => exact MgmtSta.sends_processAssociateCommand hq hr
      | deauthenticate _ _ | reassociate _ _ | disassociate _ _ => exact (hn.not_foreign hq rfl).elim

theorem sends_of_step (hn : n.Sound p) (h : n.step p e = .ok (n', outs)) :
    Sends n n'.mgmt e (outs.filterMap NicOut.frame?) := by
  cases e with
  | startUp =>
      cases hstart : n.agent.startUp with
      | true => exact sends_ofAgent n _ _ (by simp [localStep, hstart]; rfl) h
      | false =>
          have hlocal : n.localStep p .startUp = .error .notEnabled := by simp [localStep, hstart]
          rw [step_of_error hlocal] at h
          cases h
  | deliverRequest => exact sends_deliverRequest hn h
  | deliverConfirm =>
      cases hq : n.toAgent with
      | nil =>
          have hlocal : n.localStep p .deliverConfirm = .error .notEnabled := by
            simp [localStep, hq]
          rw [step_of_error hlocal] at h
          cases h
      | cons c rest =>
          cases hr : n.agent.handleResponse p c with
          | error k =>
              have hlocal : n.localStep p .deliverConfirm = .error k := by simp [localStep, hq, hr]
              rw [step_of_error hlocal] at h
              cases h
          | ok r =>
              exact sends_ofAgent { n with toAgent := rest } r.1 r.2
                (by simp [localStep, hq, hr]) h
  | frame f => exact sends_ofMgmt n rfl h fun m mouts hr => MgmtSta.sends_processFrame hr
  | authTimeout a =>
      refine sends_ofMgmt n rfl h fun m mouts hr => ?_
      unfold MgmtSta.handleAuthTimeout at hr
      split at hr
      · cases hr
      · split at hr <;> cases hr
        exact .nothing _
  | assocTimeout =>
      refine sends_ofMgmt n rfl h fun m mouts hr => ?_
      unfold MgmtSta.handleAssocTimeout at hr
      split at hr
      · cases hr
      · split at hr <;> cases hr
        exact .nothing _
  | scanTimer i => exact sends_ofMgmt n rfl h fun m mouts hr => MgmtSta.sends_handleScanTimer hr
  | beaconTimeout =>
      refine sends_ofMgmt n rfl h fun m mouts hr => ?_
      unfold MgmtSta.handleBeaconTimeout at hr
      split at hr <;> cases hr
      exact .nothing _
  | receptionState busy =>
      unfold step localStep at h
      simp only [List.contains_nil, Bool.false_eq_true, if_false, Except.ok.injEq,
        Prod.mk.injEq] at h
      obtain ⟨rfl, rfl⟩ := h
      exact .nothing _

end Nic

end MultiTechBus.Ieee80211
