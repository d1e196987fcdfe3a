import MultiTechBus.Library.Run
import MultiTechBus.Ieee80211.Moves

/-! # What holds of a card in every run

Facts that no order of events breaks: which primitives are under way, how the
timers of the management entity go with its state, and where a scan stands.
-/

namespace MultiTechBus.Ieee80211

open MultiTechBus.Library

def AgentParams.Issues (p : AgentParams) : Request → Prop
  | .scan ctrl => .scan ctrl = p.scanRequest
  | .authenticate _ _ => True
  | .associate _ _ => True
  | _ => False

def Confirm.IsSent : Confirm → Prop
  | scan _ _ => True
  | authenticate _ _ => True
  | associate _ address => address = MacAddress.UNSPECIFIED_ADDRESS
  | _ => False

namespace AgentParams

variable (p : AgentParams)

theorem issues_scanRequest : p.Issues p.scanRequest := rfl

theorem issues_answer {c : Confirm} (hc : c.IsSent) : p.Issues (c.answer p) := by
  cases c with
  | scan rc bss =>
      simp only [Confirm.answer]
      split
      · exact p.issues_scanRequest
      · trivial
  | authenticate rc a =>
      simp only [Confirm.answer]
      split
      · exact p.issues_scanRequest
      · trivial
  | associate rc a => exact p.issues_scanRequest
  | reassociate rc a => exact hc.elim
  | unrecognized className => exact hc.elim

theorem not_issues_of_isForeign {req : Request} (h : req.isForeign = true) : ¬ p.Issues req := by
  cases req <;> simp_all [Request.isForeign, Issues]

end AgentParams

namespace MgmtSta

section Operations

variable (m : MgmtSta)

@[simp] theorem breakAssociation_isAssociated : m.breakAssociation.mib.isAssociated = false := by
  unfold breakAssociation
  split
  · rfl
  · rename_i hnot
    simpa using hnot

@[simp] theorem breakAssociation_assocTimeoutMsg : m.breakAssociation.assocTimeoutMsg = none := by
  unfold breakAssociation
  rfl

@[simp] theorem breakAssociation_apList : m.breakAssociation.apList = m.apList := by
  unfold breakAssociation
  split <;> rfl

@[simp] theorem breakAssociation_isScanning : m.breakAssociation.isScanning = m.isScanning := by
  unfold breakAssociation
  split <;> rfl

@[simp] theorem scanStarted_apList (ctrl : ScanRequest) : (m.scanStarted ctrl).apList = [] := by
  unfold scanStarted
  split <;> rfl

@[simp] theorem scanStarted_isAssociated (ctrl : ScanRequest) :
    (m.scanStarted ctrl).mib.isAssociated = false := by
  have hend : m.endAssociation.mib.isAssociated = false := by
    unfold endAssociation
    split
    · rfl
    · rename_i hnot
      simpa using hnot
  unfold scanStarted
  split <;> exact hend

end Operations

/-- What every handler of the management entity preserves. -/
structure Sound (m : MgmtSta) : Prop where
  pending : ∀ a, authTimer m.apList a ≠ none → authenticated m.apList a = false
  index_ge : -1 ≤ m.scanning.currentChannelIndex
  index_lt : m.scanning.currentChannelIndex < m.scanning.channelList.length
  scanTimers : m.scanTimers.length = if m.isScanning then 1 else 0
  supervised : m.mib.isAssociated = true ↔ m.assocAP.beaconTimeoutMsg ≠ none
  exclusive : m.mib.isAssociated = true → m.assocTimeoutMsg = none
  bssid : m.mib.isAssociated = true → m.mib.bssid = m.assocAP.address

namespace Sound

variable {m : MgmtSta} {a : MacAddress} {ap : ApInfo} {l : List ApInfo} {f : ApInfo → ApInfo}

theorem not_associated (hm : m.Sound) (h : m.assocAP.beaconTimeoutMsg = none) :
    m.mib.isAssociated = false := by
  rw [← Bool.not_eq_true, hm.supervised]
  exact fun hne => hne h

/-- Another AP list, as far as it keeps the pending authentications in order. -/
theorem setApList (hm : m.Sound)
    (h : ∀ a, authTimer l a ≠ none → authenticated l a = false) :
    ({ m with apList := l } : MgmtSta).Sound :=
  { hm with pending := h }

theorem updateAP (hm : m.Sound) (hf : ∀ ap, (f ap).address = ap.address)
    (hap : lookupKey ApInfo.address a m.apList = some ap)
    (h : (f ap).authTimeoutMsg ≠ none → (f ap).isAuthenticated = false) :
    (m.updateAP a f).Sound := by
  refine hm.setApList fun b hb => ?_
  rw [authTimer_update hf hap] at hb
  rw [authenticated_update hf hap]
  split at hb
  · rename_i heq
    rw [if_pos heq]
    exact h hb
  · rename_i hne
    rw [if_neg hne]
    exact hm.pending b hb

theorem breakAssociation (hm : m.Sound) : m.breakAssociation.Sound := by
  unfold MgmtSta.breakAssociation
  split
  · refine { hm with supervised := ?_, exclusive := ?_, bssid := ?_ } <;> simp [disassociate]
  · rename_i hnot
    exact { hm with exclusive := fun _ => rfl }

theorem associated (hm : m.Sound) (hnone : m.assocTimeoutMsg = none) (ap : ApInfo) :
    (m.associated ap).Sound := by
  refine { hm with supervised := ?_, exclusive := fun _ => hnone, bssid := fun _ => rfl }
  simp [MgmtSta.associated]

theorem endAssociation (hm : m.Sound) : m.endAssociation.Sound := by
  unfold MgmtSta.endAssociation
  split
  · refine { hm with supervised := ?_, exclusive := ?_, bssid := ?_ } <;> simp [disassociate]
  · exact { hm with exclusive := fun _ => rfl }

theorem eraseIdx_scanTimers (hm : m.Sound) {i : Nat} {t : ScanTimer}
    (ht : m.scanTimers[i]? = some t) :
    m.isScanning = true ∧ m.scanTimers.eraseIdx i = [] := by
  have hlt := (List.getElem?_eq_some_iff.mp ht).1
  have hlen := hm.scanTimers
  cases hscan : m.isScanning with
  | true =>
      rw [hscan] at hlen
      refine ⟨rfl, List.eq_nil_of_length_eq_zero ?_⟩
      rw [List.length_eraseIdx_of_lt hlt, hlen]
      rfl
  | false =>
      rw [hscan] at hlen
      simp only [Bool.false_eq_true, if_false] at hlen
      omega

theorem scanStarted (hm : m.Sound) (hidle : m.isScanning = false) (ctrl : ScanRequest) :
    (m.scanStarted ctrl).Sound := by
  have hend := hm.endAssociation
  have htimers : m.endAssociation.scanTimers = [] := by
    have hlen := hend.scanTimers
    have hsame : m.endAssociation.isScanning = m.isScanning := by
      unfold MgmtSta.endAssociation
      split <;> rfl
    rw [hsame, hidle] at hlen
    exact List.eq_nil_of_length_eq_zero (by simpa using hlen)
  have hchannels : m.endAssociation.channelsOf ctrl = m.channelsOf ctrl := by
    have hnum : m.endAssociation.numChannels = m.numChannels := by
      unfold MgmtSta.endAssociation
      split <;> rfl
    unfold channelsOf
    rw [hnum]
  unfold MgmtSta.scanStarted
  split
  · refine { hend with pending := ?_, index_ge := ?_, index_lt := ?_, scanTimers := ?_ }
    · intro a ha
      exact absurd rfl ha
    · exact Int.le_refl _
    · show (-1 : Int) < _
      omega
    · show m.endAssociation.scanTimers.length = 0
      rw [htimers]
      rfl
  · rename_i hne
    refine { hend with pending := ?_, index_ge := ?_, index_lt := ?_, scanTimers := ?_ }
    · intro a ha
      exact absurd rfl ha
    · show (-1 : Int) ≤ -1 + 1
      omega
    · show (-1 : Int) + 1 < (m.endAssociation.channelsOf ctrl).length
      rw [hchannels]
      have hpos := List.length_pos_iff.mpr hne
      omega
    · show (m.endAssociation.scanTimers ++ _).length = 1
      rw [htimers]
      rfl

theorem scanStarted_assocTimeoutMsg (hm : m.Sound) (ctrl : ScanRequest) :
    (m.scanStarted ctrl).assocTimeoutMsg = none := by
  have hend : m.endAssociation.assocTimeoutMsg = none := by
    unfold MgmtSta.endAssociation
    split
    · rename_i hassociated
      exact hm.exclusive hassociated
    · rfl
  unfold MgmtSta.scanStarted
  split <;> exact hend

end Sound

end MgmtSta

namespace Nic

structure Sound (p : AgentParams) (n : Nic) : Prop where
  mgmt : n.mgmt.Sound
  issued : ∀ req ∈ n.toMgmt, p.Issues req
  sent : ∀ c ∈ n.toAgent, c.IsSent
  prevAP : n.agent.prevAP = MacAddress.UNSPECIFIED_ADDRESS

variable {p : AgentParams} {n n' : Nic} {e : Event} {signals : List Bool}

theorem sound_initial (numChannels : Nat) : (initial numChannels).Sound p where
  mgmt :=
    { pending := fun _ h => absurd rfl h
      index_ge := Int.le_refl _
      index_lt := (by decide : (-1 : Int) < 0)
      scanTimers := rfl
      supervised := by simp [initial]
      exclusive := fun _ => rfl
      bssid := by simp [initial] }
  issued := by simp [initial]
  sent := by simp [initial]
  prevAP := rfl

namespace Sound

/-- A management entity that keeps its facts, with the confirm that it sends. -/
theorem respond {m : MgmtSta} {c : Confirm} (hn : n.Sound p) (hm : m.Sound) (hc : c.IsSent) :
    ({ n with mgmt := m, toAgent := n.toAgent ++ [c] } : Nic).Sound p := by
  refine { hn with mgmt := hm, sent := ?_ }
  intro c' hc'
  rcases List.mem_append.mp hc' with hold | hnew
  · exact hn.sent c' hold
  · rw [List.mem_singleton.mp hnew]
    exact hc

theorem setMgmt {m : MgmtSta} (hn : n.Sound p) (hm : m.Sound) :
    ({ n with mgmt := m } : Nic).Sound p :=
  { hn with mgmt := hm }

/-- A management entity that keeps its facts while it takes a request. -/
theorem take {m : MgmtSta} {req : Request} {rest : List Request} (hn : n.Sound p)
    (hq : n.toMgmt = req :: rest) (hm : m.Sound) :
    ({ n with toMgmt := rest, mgmt := m } : Nic).Sound p :=
  { hn with mgmt := hm, issued := fun r hr => hn.issued r (by rw [hq]; exact .tail _ hr) }

theorem issued_append {req : Request} (hn : n.Sound p) (hreq : p.Issues req) :
    ∀ r ∈ n.toMgmt ++ [req], p.Issues r := by
  intro r hr
  rcases List.mem_append.mp hr with hold | hnew
  · exact hn.issued r hold
  · rw [List.mem_singleton.mp hnew]
    exact hreq

theorem not_foreign {req : Request} {rest : List Request} (hn : n.Sound p)
    (hq : n.toMgmt = req :: rest) : ¬ req.isForeign = true := fun h =>
  p.not_issues_of_isForeign h (hn.issued req (by simp [hq]))

theorem sent_of_cons {c : Confirm} {rest : List Confirm} (hn : n.Sound p)
    (hq : n.toAgent = c :: rest) : c.IsSent ∧ ∀ c ∈ rest, c.IsSent :=
  ⟨hn.sent c (by simp [hq]), fun c' hc' => hn.sent c' (by rw [hq]; exact .tail _ hc')⟩

end Sound

theorem Sound.move (hn : n.Sound p) (hmove : Move p n e n' signals) : n'.Sound p := by
  have hm := hn.mgmt
  cases hmove with
  | startUp h => exact { hn with issued := hn.issued_append p.issues_scanRequest }
  | scan hq hidle => exact hn.take hq (hm.scanStarted hidle _)
  | authenticate hq hap htimer hnot =>
      exact hn.take hq (hm.updateAP (fun _ => rfl) hap fun _ => hnot)
  | associate hq hap hauth hnot hnone =>
      refine hn.take hq { hm with exclusive := fun h => ?_ }
      exact absurd h (by simp [hnot])
  | foreign hq hreq => exact absurd hreq (hn.not_foreign hq)
  | confirmed hq hc =>
      obtain ⟨hsent, hrest⟩ := hn.sent_of_cons hq
      exact { hn with issued := hn.issued_append (p.issues_answer hsent), sent := hrest }
  | associated hq =>
      obtain ⟨hsent, hrest⟩ := hn.sent_of_cons hq
      refine { hn with sent := hrest, prevAP := ?_ }
      have haddress : _ = MacAddress.UNSPECIFIED_ADDRESS := hsent
      show (AgentSta.processAssociateConfirm p n.agent .PRC_SUCCESS _).1.prevAP = _
      unfold AgentSta.processAssociateConfirm
      split
      · exact hn.prevAP
      · split
        · exact haddress
        · exact hn.prevAP
  | reassociated hq => exact (hn.sent_of_cons hq).1.elim
  | ignored f => exact hn
  | authMore hbody hap hseq =>
      refine hn.setMgmt (hm.updateAP (fun _ => rfl) hap fun h => ?_)
      rw [← authenticated_of_lookup hap]
      exact hm.pending _ (by rw [authTimer_of_lookup hap]; exact h)
  | authEnded hbody hap htimer hnot hend haddress hdone hresult =>
      exact hn.respond (hm.updateAP haddress hap fun h => absurd hdone h) trivial
  | deauthCancelled hbody hap hauth htimer =>
      exact hn.setMgmt (hm.updateAP (fun _ => rfl) hap fun h => absurd rfl h)
  | deauthenticated hbody hap hauth htimer =>
      exact hn.setMgmt (hm.updateAP (fun _ => rfl) hap fun _ => rfl)
  | assocRefused hbody hx hap hstatus => exact hn.respond hm.breakAssociation rfl
  | assocDone hbody hx hap => exact hn.respond (hm.breakAssociation.associated (by simp) _) rfl
  | disassocIgnored hbody hother => exact hn.setMgmt { hm with exclusive := fun _ => rfl }
  | disassociated hbody hassoc haddress =>
      refine hn.setMgmt { hm with supervised := ?_, exclusive := fun _ => rfl, bssid := ?_ } <;>
        simp
  | stored hsame htimer =>
      refine hn.setMgmt { hm with pending := ?_, supervised := ?_ }
      · intro a ha
        rw [hsame.authenticated]
        exact hm.pending a (by rw [← hsame.authTimer]; exact ha)
      · rw [hm.supervised]
        rcases htimer with rfl | ⟨hne, d, rfl⟩
        · rfl
        · simp [hne]
  | authTimedOut hap htimer =>
      refine hn.respond (hm.updateAP (fun _ => rfl) hap fun _ => ?_) trivial
      rw [← authenticated_of_lookup hap]
      exact hm.pending _ (by rw [authTimer_of_lookup hap, htimer]; simp)
  | assocTimedOut hx hmsg =>
      refine hn.respond { hm with exclusive := fun h => ?_ } rfl
      rw [hm.exclusive h] at hx
      cases hx
  | scanTimerReplaced ht =>
      obtain ⟨hscan, hnil⟩ := hm.eraseIdx_scanTimers ht
      refine hn.setMgmt { hm with scanTimers := ?_ }
      simp [hnil, hscan]
  | nextChannel ht hnext =>
      obtain ⟨hscan, hnil⟩ := hm.eraseIdx_scanTimers ht
      have hge := hm.index_ge
      have hlt := hm.index_lt
      refine hn.setMgmt { hm with index_ge := ?_, index_lt := ?_, scanTimers := ?_ }
      · show (-1 : Int) ≤ n.mgmt.scanning.currentChannelIndex + 1
        omega
      · show n.mgmt.scanning.currentChannelIndex + 1 < (n.mgmt.scanning.channelList.length : Int)
        omega
      · simp [MgmtSta.tuneToNext, hnil, hscan]
  | scanDone ht hlast =>
      obtain ⟨hscan, hnil⟩ := hm.eraseIdx_scanTimers ht
      refine hn.respond { hm with scanTimers := ?_ } trivial
      simp [MgmtSta.finishScan, hnil]
  | beaconLost htimer =>
      refine { hn with mgmt := { hm with supervised := ?_ }, issued := ?_ }
      · rw [hm.supervised, htimer]
        simp
      · exact hn.issued_append p.issues_scanRequest
  | reception busy =>
      unfold MgmtSta.receiveReceptionState
      split
      · exact hn.setMgmt { hm with }
      · exact hn

theorem Sound.next (hn : n.Sound p) (h : n.next p e = .ok n') : n'.Sound p := by
  obtain ⟨signals, hmove⟩ := move_of_next h
  exact hn.move hmove

end Nic

end MultiTechBus.Ieee80211
