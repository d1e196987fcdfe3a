import MultiTechBus.Ieee80211.Discipline
import MultiTechBus.Ieee80211.Tracks

/-! # What excludes what

Scanning, a pending association and an association exclude each other, and nothing is
authenticated during a scan. A scan takes time, so the primitives that were in flight when
it began are delivered before it ends: its confirm, and the authentication that the agent
asks for on it, find no other primitive in flight.
-/

namespace MultiTechBus.Ieee80211

open MultiTechBus.Library

/-- No entry is authenticated or about to be, and no association exists or is pending. -/
structure MgmtSta.Blank (m : MgmtSta) : Prop where
  isAssociated : m.mib.isAssociated = false
  assocTimeoutMsg : m.assocTimeoutMsg = none
  authTimer : ∀ a, authTimer m.apList a = none
  authenticated : ∀ a, authenticated m.apList a = false

namespace MgmtSta.Blank

variable {m m' : MgmtSta} {a : MacAddress} {ap : ApInfo} {f : ApInfo → ApInfo}

theorem of_sameAuth (h : m.Blank) (hsame : SameAuth m.apList m'.apList)
    (hassoc : m'.mib.isAssociated = m.mib.isAssociated)
    (hpending : m'.assocTimeoutMsg = m.assocTimeoutMsg) : m'.Blank where
  isAssociated := hassoc.trans h.isAssociated
  assocTimeoutMsg := hpending.trans h.assocTimeoutMsg
  authTimer a := (hsame.authTimer a).trans (h.authTimer a)
  authenticated a := (hsame.authenticated a).trans (h.authenticated a)

theorem authTimeoutMsg_eq_none (h : m.Blank)
    (hap : lookupKey ApInfo.address a m.apList = some ap) : ap.authTimeoutMsg = none := by
  rw [← authTimer_of_lookup hap]
  exact h.authTimer a

theorem isAuthenticated_eq_false (h : m.Blank)
    (hap : lookupKey ApInfo.address a m.apList = some ap) : ap.isAuthenticated = false := by
  rw [← authenticated_of_lookup hap]
  exact h.authenticated a

theorem updateAP (h : m.Blank) (hf : ∀ ap, (f ap).address = ap.address)
    (hap : lookupKey ApInfo.address a m.apList = some ap)
    (htimer : (f ap).authTimeoutMsg = ap.authTimeoutMsg)
    (hauth : (f ap).isAuthenticated = ap.isAuthenticated) : (m.updateAP a f).Blank where
  isAssociated := h.isAssociated
  assocTimeoutMsg := h.assocTimeoutMsg
  authTimer b := by
    unfold MgmtSta.updateAP
    rw [authTimer_update hf hap]
    split
    · exact htimer.trans (h.authTimeoutMsg_eq_none hap)
    · exact h.authTimer b
  authenticated b := by
    unfold MgmtSta.updateAP
    rw [authenticated_update hf hap]
    split
    · exact hauth.trans (h.isAuthenticated_eq_false hap)
    · exact h.authenticated b

end MgmtSta.Blank

/-! ## What a blank state excludes -/

namespace MgmtSta

variable {m : MgmtSta} {a : MacAddress} {ap : ApInfo}

theorem not_blank_of_authTimeoutMsg (hap : lookupKey ApInfo.address a m.apList = some ap)
    (h : ap.authTimeoutMsg ≠ none) : ¬ m.Blank :=
  fun hb => h (hb.authTimeoutMsg_eq_none hap)

theorem not_blank_of_isAuthenticated (hap : lookupKey ApInfo.address a m.apList = some ap)
    (h : ap.isAuthenticated = true) : ¬ m.Blank := by
  intro hb
  rw [hb.isAuthenticated_eq_false hap] at h
  cases h

theorem not_blank_of_pending {x : AssocTimeout} (h : m.assocTimeoutMsg = some x) : ¬ m.Blank := by
  intro hb
  rw [hb.assocTimeoutMsg] at h
  cases h

theorem not_blank_of_isAssociated (h : m.mib.isAssociated = true) : ¬ m.Blank := by
  intro hb
  rw [hb.isAssociated] at h
  cases h

/-- A beacon timer belongs to an association. -/
theorem not_blank_of_beaconTimeoutMsg (hm : m.Sound) {timer : TimerMsg}
    (h : m.assocAP.beaconTimeoutMsg = some timer) : ¬ m.Blank :=
  not_blank_of_isAssociated (hm.supervised.mpr (by rw [h]; simp))

end MgmtSta

namespace Nic

def inFlight (n : Nic) : Nat := n.toMgmt.length + n.toAgent.length

/-- The confirm of a scan, or the authentication that the agent asks for on it, is in flight. -/
inductive Found (n : Nic) : Prop
  | confirm (rc : PrimResultCode) (bss : List BssDescription) (h : .scan rc bss ∈ n.toAgent)
  | request (a : MacAddress) (t : SimTime) (h : .authenticate a t ∈ n.toMgmt)

structure Phased (n : Nic) : Prop where
  starting : n.agent.startUp = true →
    n.mgmt.Blank ∧ n.mgmt.isScanning = false ∧ n.inFlight = 0
  found : n.Found → n.agent.startUp = false ∧ n.mgmt.Blank ∧ n.mgmt.isScanning = false ∧
    n.inFlight = 1
  scanning : n.mgmt.isScanning = true → n.agent.startUp = false ∧ n.mgmt.Blank

variable {p : AgentParams} {n n' : Nic} {e : Event} {signals : List Bool}

theorem inFlight_eq_zero_iff : n.inFlight = 0 ↔ n.toMgmt = [] ∧ n.toAgent = [] := by
  unfold inFlight
  rw [Nat.add_eq_zero_iff, List.length_eq_zero_iff, List.length_eq_zero_iff]

theorem Found.mono (h : n'.Found) (hreq : ∀ a t, .authenticate a t ∈ n'.toMgmt →
      .authenticate a t ∈ n.toMgmt)
    (hconfirm : ∀ rc bss, .scan rc bss ∈ n'.toAgent → .scan rc bss ∈ n.toAgent) : n.Found := by
  cases h with
  | confirm rc bss h => exact .confirm rc bss (hconfirm rc bss h)
  | request a t h => exact .request a t (hreq a t h)

/-- A confirm that is not of a scan was not found by one. -/
theorem Found.of_append {c : Confirm} {m : MgmtSta} (hc : ∀ rc bss, c ≠ .scan rc bss)
    (h : ({ n with mgmt := m, toAgent := n.toAgent ++ [c] } : Nic).Found) : n.Found := by
  refine h.mono (fun _ _ hmem => hmem) fun rc bss hmem => ?_
  cases List.mem_append.mp hmem with
  | inl hold => exact hold
  | inr hnew => exact absurd (List.mem_singleton.mp hnew).symm (hc rc bss)

theorem Found.inFlight_pos (h : n.Found) : 0 < n.inFlight := by
  apply Nat.pos_of_ne_zero
  intro hzero
  obtain ⟨hreq, hconfirm⟩ := inFlight_eq_zero_iff.mp hzero
  cases h with
  | confirm rc bss h => simp [hconfirm] at h
  | request a t h => simp [hreq] at h

namespace Phased

/-- With something authenticated, or an association on its way, no phase holds. -/
theorem of_not_blank (h : n.Phased) (hnot : ¬ n.mgmt.Blank)
    (hstart : n'.agent.startUp = n.agent.startUp) (hfound : n'.Found → n.Found)
    (hscan : n'.mgmt.isScanning = n.mgmt.isScanning) : n'.Phased where
  starting hs := absurd (h.starting (hstart ▸ hs)).1 hnot
  found hf := absurd (h.found (hfound hf)).2.1 hnot
  scanning hs := absurd (h.scanning (hscan ▸ hs)).2 hnot

theorem keep (h : n.Phased) (hblank : n.mgmt.Blank → n'.mgmt.Blank)
    (hstart : n'.agent.startUp = n.agent.startUp) (hreq : n'.toMgmt = n.toMgmt)
    (hconfirm : n'.toAgent = n.toAgent)
    (hscan : n'.mgmt.isScanning = n.mgmt.isScanning) : n'.Phased := by
  have hflight : n'.inFlight = n.inFlight := by
    unfold inFlight
    rw [hreq, hconfirm]
  refine ⟨fun hs => ?_, fun hf => ?_, fun hs => ?_⟩
  · obtain ⟨hb, hidle, hzero⟩ := h.starting (hstart ▸ hs)
    exact ⟨hblank hb, hscan.trans hidle, hflight.trans hzero⟩
  · obtain ⟨hs, hb, hidle, hone⟩ := h.found (hf.mono (by simp [hreq]) (by simp [hconfirm]))
    exact ⟨hstart.trans hs, hblank hb, hscan.trans hidle, hflight.trans hone⟩
  · obtain ⟨hs, hb⟩ := h.scanning (hscan ▸ hs)
    exact ⟨hstart.trans hs, hblank hb⟩

theorem consume (h : n.Phased) (hless : n'.inFlight < n.inFlight)
    (hstart : n'.agent.startUp = n.agent.startUp) (hfound : n'.Found → n.Found)
    (hscan : n'.mgmt.isScanning = true → n.mgmt.isScanning = true ∧ n'.mgmt.Blank) :
    n'.Phased where
  starting hs := by
    have hzero := (h.starting (hstart ▸ hs)).2.2
    omega
  found hf := by
    have hone := (h.found (hfound hf)).2.2.2
    have hpos := hf.inFlight_pos
    omega
  scanning hs := ⟨hstart.trans (h.scanning (hscan hs).1).1, (hscan hs).2⟩

/-- The scan that is asked for begins: whatever else is in flight was not found by one. -/
theorem scanStarts (h : n.Phased) (hn : n.Sound p) {ctrl : ScanRequest} {rest : List Request}
    (hq : n.toMgmt = .scan ctrl :: rest) :
    ({ n with toMgmt := rest, mgmt := n.mgmt.scanStarted ctrl } : Nic).Phased := by
  have hless : ({ n with toMgmt := rest, mgmt := n.mgmt.scanStarted ctrl } : Nic).inFlight <
      n.inFlight := by
    simp [inFlight, hq]
  have hblank : (n.mgmt.scanStarted ctrl).Blank :=
    { isAssociated := n.mgmt.scanStarted_isAssociated ctrl
      assocTimeoutMsg := hn.mgmt.scanStarted_assocTimeoutMsg ctrl
      authTimer := by simp
      authenticated := by simp }
  refine ⟨fun hs => ?_, fun hf => ?_, fun _ => ⟨?_, hblank⟩⟩
  · have hzero := (h.starting hs).2.2
    omega
  · have hone := (h.found (hf.mono (n := n) (fun a t hmem => by simp [hq, hmem])
      fun _ _ hmem => hmem)).2.2.2
    have hpos := hf.inFlight_pos
    omega
  · rw [← Bool.not_eq_true]
    intro hs
    have hzero := (h.starting hs).2.2
    simp [inFlight, hq] at hzero

/-- The agent answers a confirm: the answer asks for an authentication only if the confirm
was that of a scan. -/
theorem answered (h : n.Phased) {c : Confirm} {rest : List Confirm} (hq : n.toAgent = c :: rest) :
    ({ n with
        toAgent := rest
        toMgmt := n.toMgmt ++ [c.answer p]
        lastAssociateRequest := (c.answer p).associate?.or n.lastAssociateRequest } :
      Nic).Phased := by
  have hflight : n.inFlight = n.toMgmt.length + rest.length + 1 := by
    simp [inFlight, hq, Nat.add_assoc]
  refine ⟨fun hs => ?_, fun hf => ?_, h.scanning⟩
  · have hzero := (h.starting hs).2.2
    omega
  · have hold : n.Found := by
      cases hf with
      | confirm rc bss hmem => exact .confirm rc bss (by rw [hq]; exact .tail _ hmem)
      | request a t hmem =>
          cases List.mem_append.mp hmem with
          | inl hin => exact .request a t hin
          | inr hnew =>
              obtain ⟨rc, bss, rfl⟩ :=
                Confirm.eq_scan_of_answer (List.mem_singleton.mp hnew).symm
              exact .confirm rc bss (by simp [hq])
    obtain ⟨hs, hb, hidle, hone⟩ := h.found hold
    refine ⟨hs, hb, hidle, ?_⟩
    unfold inFlight
    rw [List.length_append, List.length_singleton]
    show n.toMgmt.length + 1 + rest.length = 1
    omega

/-- A scan that ends with nothing in flight leaves its confirm alone in flight. -/
theorem scanEnds (h : n.Phased) (hscan : n.mgmt.isScanning = true) (hquiet : n.inFlight = 0)
    (timers : List ScanTimer) (bss : List BssDescription) :
    ({ n with
        mgmt := ({ n.mgmt with scanTimers := timers } : MgmtSta).finishScan
        toAgent := n.toAgent ++ [.scan .PRC_SUCCESS bss] } : Nic).Phased := by
  obtain ⟨hs, hb⟩ := h.scanning hscan
  obtain ⟨hreq, hconfirm⟩ := inFlight_eq_zero_iff.mp hquiet
  refine ⟨fun hs' => ?_, fun _ => ⟨hs, ⟨hb.1, hb.2, hb.3, hb.4⟩, rfl, ?_⟩, nofun⟩
  · rw [show n.agent.startUp = true from hs'] at hs
    cases hs
  · simp [inFlight, hreq, hconfirm]

theorem move (h : n.Phased) (hn : n.Sound p) (hquiet : ∀ i, e = .scanTimer i → n.inFlight = 0)
    (hmove : Move p n e n' signals) : n'.Phased := by
  cases hmove with
  | startUp hstart =>
      obtain ⟨hb, hidle, hzero⟩ := h.starting hstart
      obtain ⟨hreq, hconfirm⟩ := inFlight_eq_zero_iff.mp hzero
      refine ⟨nofun, fun hf => ?_, fun hs => ?_⟩
      · cases hf with
        | confirm rc bss hmem => simp [hconfirm] at hmem
        | request a t hmem => simp [hreq, AgentParams.scanRequest] at hmem
      · rw [show n.mgmt.isScanning = true from hs] at hidle
        cases hidle
  | scan hq hidle => exact h.scanStarts hn hq
  | @authenticate a t rest ap hq hap htimer hnot =>
      obtain ⟨hs, hb, hidle, hone⟩ := h.found (.request a t (by simp [hq]))
      refine h.consume ?_ rfl (fun hf => hf.mono (by simp [hq]; tauto) fun _ _ hmem => hmem)
        fun hscan => ?_
      · simp [inFlight, hq]
      · rw [show n.mgmt.isScanning = true from hscan] at hidle
        cases hidle
  | associate hq hap hauth hnot hnone =>
      exact h.of_not_blank (MgmtSta.not_blank_of_isAuthenticated hap hauth) rfl
        (fun hf => hf.mono (by simp [hq]) fun _ _ hmem => hmem) rfl
  | foreign hq hreq => exact absurd hreq (hn.not_foreign hq)
  | confirmed hq hc => exact h.answered hq
  | associated hq | reassociated hq =>
      refine h.consume ?_ ?_ (fun hf => hf.mono (fun _ _ hmem => hmem) (by simp [hq]))
        fun hscan => ⟨hscan, (h.scanning hscan).2⟩
      · simp [inFlight, hq]
      · unfold AgentSta.processAssociateConfirm
        split_ifs <;> rfl
  | ignored f => exact h
  | authMore hbody hap hseq =>
      exact h.keep (fun hb => hb.updateAP (fun _ => rfl) hap rfl rfl) rfl rfl rfl rfl
  | authEnded hbody hap htimer hnot hend haddress hdone hresult =>
      exact h.of_not_blank (MgmtSta.not_blank_of_authTimeoutMsg hap htimer) rfl
        (Found.of_append (by simp)) rfl
  | deauthCancelled hbody hap hauth htimer =>
      exact h.of_not_blank (MgmtSta.not_blank_of_authTimeoutMsg hap htimer) rfl
        (fun hf => hf.mono (fun _ _ hmem => hmem) fun _ _ hmem => hmem) rfl
  | deauthenticated hbody hap hauth htimer =>
      exact h.of_not_blank (MgmtSta.not_blank_of_isAuthenticated hap hauth) rfl
        (fun hf => hf.mono (fun _ _ hmem => hmem) fun _ _ hmem => hmem) rfl
  | assocRefused hbody hx hap hstatus =>
      exact h.of_not_blank (MgmtSta.not_blank_of_pending hx) rfl (Found.of_append (by simp))
        n.mgmt.breakAssociation_isScanning
  | assocDone hbody hx hap =>
      exact h.of_not_blank (MgmtSta.not_blank_of_pending hx) rfl (Found.of_append (by simp))
        n.mgmt.breakAssociation_isScanning
  | disassocIgnored hbody hother =>
      exact h.keep (fun hb => ⟨hb.1, rfl, hb.3, hb.4⟩) rfl rfl rfl rfl
  | disassociated hbody hassoc haddress =>
      exact h.of_not_blank (MgmtSta.not_blank_of_isAssociated hassoc) rfl
        (fun hf => hf.mono (fun _ _ hmem => hmem) fun _ _ hmem => hmem) rfl
  | stored hsame htimer => exact h.keep (fun hb => hb.of_sameAuth hsame rfl rfl) rfl rfl rfl rfl
  | authTimedOut hap htimer =>
      exact h.of_not_blank (MgmtSta.not_blank_of_authTimeoutMsg hap (by rw [htimer]; simp)) rfl
        (Found.of_append (by simp)) rfl
  | assocTimedOut hx hmsg =>
      exact h.of_not_blank (MgmtSta.not_blank_of_pending hx) rfl (Found.of_append (by simp)) rfl
  | scanTimerReplaced ht => exact h.keep (fun hb => ⟨hb.1, hb.2, hb.3, hb.4⟩) rfl rfl rfl rfl
  | nextChannel ht hnext => exact h.keep (fun hb => ⟨hb.1, hb.2, hb.3, hb.4⟩) rfl rfl rfl rfl
  | scanDone ht hlast =>
      exact h.scanEnds (hn.mgmt.eraseIdx_scanTimers ht).1 (hquiet _ rfl) _ _
  | beaconLost htimer =>
      exact h.of_not_blank (MgmtSta.not_blank_of_beaconTimeoutMsg hn.mgmt htimer) rfl
        (fun hf => hf.mono (by simp [AgentParams.scanRequest]) fun _ _ hmem => hmem) rfl
  | reception busy =>
      unfold MgmtSta.receiveReceptionState
      split
      · exact h.keep (fun hb => ⟨hb.1, hb.2, hb.3, hb.4⟩) rfl rfl rfl rfl
      · exact h

/-- During a scan with nothing in flight, nothing comes in flight. -/
theorem quiet (h : n.Phased) (hn : n.Sound p) (hscan : n.mgmt.isScanning = true)
    (hnone : n.inFlight = 0) (hmove : Move p n e n' signals)
    (hscan' : n'.mgmt.isScanning = true) : n'.inFlight = 0 := by
  obtain ⟨hs, hb⟩ := h.scanning hscan
  obtain ⟨hreq, hconfirm⟩ := inFlight_eq_zero_iff.mp hnone
  cases hmove with
  | startUp hstart =>
      rw [hs] at hstart
      cases hstart
  | scan hq => simp [hreq] at hq
  | authenticate hq => simp [hreq] at hq
  | associate hq => simp [hreq] at hq
  | foreign hq => simp [hreq] at hq
  | confirmed hq => simp [hconfirm] at hq
  | associated hq => simp [hconfirm] at hq
  | reassociated hq => simp [hconfirm] at hq
  | authEnded hbody hap htimer =>
      exact absurd hb (MgmtSta.not_blank_of_authTimeoutMsg hap htimer)
  | assocRefused hbody hx => exact absurd hb (MgmtSta.not_blank_of_pending hx)
  | assocDone hbody hx => exact absurd hb (MgmtSta.not_blank_of_pending hx)
  | authTimedOut hap htimer =>
      exact absurd hb (MgmtSta.not_blank_of_authTimeoutMsg hap (by rw [htimer]; simp))
  | assocTimedOut hx => exact absurd hb (MgmtSta.not_blank_of_pending hx)
  | scanDone => cases hscan'
  | beaconLost htimer =>
      exact absurd hb (MgmtSta.not_blank_of_beaconTimeoutMsg hn.mgmt htimer)
  | _ => exact hnone

end Phased

/-- Only a scan command sets the minimum dwell time, and it is not handled during a scan. -/
theorem minChannelTime_move (hn : n.Sound p) (hscan : n.mgmt.isScanning = true)
    (hmove : Move p n e n' signals) :
    n'.mgmt.scanning.minChannelTime = n.mgmt.scanning.minChannelTime := by
  have hbreak : n.mgmt.breakAssociation.scanning = n.mgmt.scanning := by
    unfold MgmtSta.breakAssociation
    split <;> rfl
  cases hmove with
  | scan hq hidle => simp [hscan] at hidle
  | foreign hq hreq => exact absurd hreq (hn.not_foreign hq)
  | assocRefused => exact congrArg _ hbreak
  | assocDone => exact congrArg _ hbreak
  | reception busy =>
      unfold MgmtSta.receiveReceptionState
      split <;> rfl
  | _ => rfl

theorem scan_of_move (hn : n.Sound p) (hidle : n.mgmt.isScanning = false)
    (hmove : Move p n e n' signals) (hscan : n'.mgmt.isScanning = true) :
    e = .deliverRequest ∧ ∃ ctrl rest, n.toMgmt = .scan ctrl :: rest ∧
      n'.mgmt = n.mgmt.scanStarted ctrl := by
  have hbreak := n.mgmt.breakAssociation_isScanning
  cases hmove with
  | scan hq => exact ⟨rfl, _, _, hq, rfl⟩
  | foreign hq hreq => exact absurd hreq (hn.not_foreign hq)
  | assocRefused =>
      rw [show n.mgmt.breakAssociation.isScanning = true from hscan, hidle] at hbreak
      cases hbreak
  | assocDone =>
      rw [show n.mgmt.breakAssociation.isScanning = true from hscan, hidle] at hbreak
      cases hbreak
  | reception busy =>
      unfold MgmtSta.receiveReceptionState at hscan
      split at hscan <;> simp [hidle] at hscan
  | scanDone => cases hscan
  | _ => exact absurd (hidle.symm.trans hscan) (by simp)

/-- Scan timers are scheduled by scan commands and scan timers. -/
theorem scan_of_schedule (hn : n.Sound p) {d : SimTime} {kind : ScanTimerKind}
    (h : QueueOp.schedule d (.scan kind) ∈ n.timerOps e) :
    (∃ i, e = .scanTimer i) ∨
      e = .deliverRequest ∧ ∃ ctrl rest, n.toMgmt = .scan ctrl :: rest := by
  cases e with
  | scanTimer i => exact .inl ⟨i, rfl⟩
  | deliverRequest =>
      cases hq : n.toMgmt with
      | nil => simp [timerOps, hq] at h
      | cons req rest =>
          simp only [timerOps, hq] at h
          cases req with
          | scan ctrl => exact .inr ⟨rfl, ctrl, rest, rfl⟩
          | authenticate a t => simp [MgmtSta.handleCommandTimers] at h
          | associate a t => simp [MgmtSta.handleCommandTimers] at h
          | deauthenticate a rc => exact absurd rfl (hn.not_foreign hq)
          | reassociate a t => exact absurd rfl (hn.not_foreign hq)
          | disassociate a rc => exact absurd rfl (hn.not_foreign hq)
  | frame f => exact absurd h (n.mgmt.scan_not_mem_processFrameTimers f d kind)
  | _ => simp [timerOps] at h

theorem idle_of_scan_command (hn : n.Sound p) {ctrl : ScanRequest} {rest : List Request}
    (hq : n.toMgmt = .scan ctrl :: rest) (hmove : Move p n .deliverRequest n' signals) :
    n.mgmt.isScanning = false := by
  cases hmove with
  | scan _ hidle => exact hidle
  | authenticate hq' => simp [hq] at hq'
  | associate hq' => simp [hq] at hq'
  | foreign hq' hreq => exact absurd hreq (hn.not_foreign hq')

/-- After a probe, the timer for the minimum dwell time waits. -/
theorem next_sendProbe {j : Nat} {timer : ScanTimer} (hj : n.mgmt.scanTimers[j]? = some timer)
    (hkind : timer.kind = .MK_SCAN_SENDPROBE) (h : n.next p (.scanTimer j) = .ok n') :
    n' = { n with
        mgmt := { n.mgmt with
          scanTimers := n.mgmt.scanTimers.eraseIdx j ++
            [⟨.MK_SCAN_MINCHANNELTIME, n.mgmt.scanning.minChannelTime⟩] } } ∧
      n.timerOps (.scanTimer j) =
        [.schedule n.mgmt.scanning.minChannelTime (.scan .MK_SCAN_MINCHANNELTIME)] := by
  constructor
  · simp only [next, step, localStep, MgmtSta.handleScanTimer, hj, hkind, ofMgmt, absorbMgmt,
      MgmtSta.sendProbeRequest] at h
    simpa [Except.map, List.filterMap_cons, eq_comm] using h
  · simp only [timerOps, MgmtSta.handleScanTimerTimers, hj, hkind]

end Nic

/-! ## A scan takes time -/

/-- The least time that a scan spends on a channel. -/
def AgentParams.dwell (p : AgentParams) : SimTime :=
  if p.activeScan then p.probeDelay + p.minChannelTime else p.maxChannelTime

namespace TimedNic

variable {p : AgentParams} {t t' : TimedNic} {n' : Nic} {e : Event} {signals : List Bool}

/-- No scan timer that waits can end the scan now. -/
def Early (t : TimedNic) : Prop :=
  ∀ s ∈ t.events.messages, s.kind.isScan = true → t.events.now < s.due ∨
    s.kind = .scan .MK_SCAN_SENDPROBE ∧ 0 < t.nic.mgmt.scanning.minChannelTime

structure Kept (p : AgentParams) (t : TimedNic) : Prop where
  sound : t.nic.Sound p
  phased : t.nic.Phased
  tracks : t.nic.mgmt.Tracks t.events
  early : t.nic.mgmt.isScanning = true → t.nic.inFlight = 0 ∨ t.Early

theorem scan_of_isScan {kind : TimerKind} (h : kind.isScan = true) : ∃ k, kind = .scan k := by
  cases kind with
  | scan k => exact ⟨k, rfl⟩
  | _ => cases h

/-- The first timer of a scan. -/
theorem early_of_scan_command {q : FutureEvents TimerKind} {ctrl : ScanRequest}
    {rest : List Request} (h : t.Kept p) (hdwell : 0 < p.dwell)
    (hq : ∀ s ∈ q.messages, s ∈ t.events.messages) (hreq : t.nic.toMgmt = .scan ctrl :: rest)
    (hidle : t.nic.mgmt.isScanning = false) (hmgmt : n'.mgmt = t.nic.mgmt.scanStarted ctrl) :
    Early ⟨n', q.applyAll (t.nic.timerOps .deliverRequest)⟩ := by
  intro s hs hkind
  obtain ⟨kind, hk⟩ := scan_of_isScan hkind
  have hctrl : Request.scan ctrl = p.scanRequest :=
    h.sound.issued (.scan ctrl) (by simp [hreq])
  obtain rfl := Request.scan.inj hctrl
  cases q.mem_applyAll hs with
  | inl hold =>
      -- no scan timer waits while no scan is under way
      have hpos := h.tracks.pending_pos (hq s hold)
      have hnil := h.sound.mgmt.scanTimers
      rw [hidle] at hnil
      rw [hk, MgmtSta.pending, List.eq_nil_of_length_eq_zero hnil] at hpos
      cases hpos
  | inr hnew =>
      obtain ⟨d, hop, hdue⟩ := hnew
      simp only [Nic.timerOps, hreq, MgmtSta.handleCommandTimers] at hop
      obtain ⟨hd, hfirst⟩ := MgmtSta.schedule_of_processScanCommandTimers hop
      have hmin : n'.mgmt.scanning.minChannelTime = p.minChannelTime := by
        rw [hmgmt]
        unfold MgmtSta.scanStarted
        split <;> rfl
      have hnow : (q.applyAll (t.nic.timerOps .deliverRequest)).now = q.now := by simp
      unfold AgentParams.dwell at hdwell
      simp only [MgmtSta.channelTimer, MgmtSta.startScanning] at hd hfirst
      by_cases hactive : p.activeScan = true
      · rw [if_pos hactive] at hdwell hd hfirst
        cases Nat.add_pos_iff_pos_or_pos.mp hdwell with
        | inl hprobe =>
            left
            show _ < s.due
            rw [hnow, hdue, hd]
            exact Nat.lt_add_of_pos_right hprobe
        | inr hwait =>
            right
            exact ⟨hfirst, hmin ▸ hwait⟩
      · rw [if_neg hactive] at hdwell hd
        left
        show _ < s.due
        rw [hnow, hdue, hd]
        exact Nat.lt_add_of_pos_right hdwell

theorem Kept.early_of_move {q : FutureEvents TimerKind} (h : t.Kept p) (hdwell : 0 < p.dwell)
    (hq : ∀ s ∈ q.messages, s ∈ t.events.messages) (hnow : q.now = t.events.now)
    (hother : ∀ i, e ≠ .scanTimer i) (hmove : Move p t.nic e n' signals)
    (hscan' : n'.mgmt.isScanning = true) :
    n'.inFlight = 0 ∨ Early ⟨n', q.applyAll (t.nic.timerOps e)⟩ := by
  cases hscan : t.nic.mgmt.isScanning with
  | false =>
      obtain ⟨rfl, ctrl, rest, hreq, hmgmt⟩ := Nic.scan_of_move h.sound hscan hmove hscan'
      exact .inr (early_of_scan_command h hdwell hq hreq hscan hmgmt)
  | true =>
      cases h.early hscan with
      | inl hnone => exact .inl (h.phased.quiet h.sound hscan hnone hmove hscan')
      | inr hearly =>
          right
          intro s hs hkind
          rw [FutureEvents.now_applyAll, hnow, Nic.minChannelTime_move h.sound hscan hmove]
          cases q.mem_applyAll hs with
          | inl hold => exact hearly s (hq s hold) hkind
          | inr hnew =>
              obtain ⟨d, hop, -⟩ := hnew
              obtain ⟨kind, hk⟩ := scan_of_isScan hkind
              rw [hk] at hop
              cases Nic.scan_of_schedule h.sound hop with
              | inl htimer =>
                  obtain ⟨i, hi⟩ := htimer
                  exact absurd hi (hother i)
              | inr hcommand =>
                  obtain ⟨rfl, ctrl, rest, hreq⟩ := hcommand
                  rw [Nic.idle_of_scan_command h.sound hreq hmove] at hscan
                  cases hscan

/-! ## Steps and runs -/

theorem kept_initial (numChannels : Nat) : (initial numChannels).Kept p where
  sound := Nic.sound_initial numChannels
  phased :=
    { starting := fun _ => ⟨⟨rfl, rfl, fun _ => rfl, fun _ => rfl⟩, rfl, rfl⟩
      found := fun hf => absurd hf.inFlight_pos (Nat.lt_irrefl 0)
      scanning := nofun }
  tracks := .of_empty (fun k => by cases k <;> rfl) rfl rfl
  early := nofun

theorem Kept.handle {q : FutureEvents TimerKind} (h : t.Kept p) (hdwell : 0 < p.dwell)
    (hq : ∀ s ∈ q.messages, s ∈ t.events.messages) (hnow : q.now = t.events.now)
    (hother : ∀ i, e ≠ .scanTimer i) (hnext : t.nic.next p e = .ok n')
    (htracks : n'.mgmt.Tracks (q.applyAll (t.nic.timerOps e))) :
    Kept p ⟨n', q.applyAll (t.nic.timerOps e)⟩ := by
  obtain ⟨signals, hmove⟩ := Nic.move_of_next hnext
  exact
    { sound := h.sound.next hnext
      phased := h.phased.move h.sound (fun i hi => absurd hi (hother i)) hmove
      tracks := htracks
      early := h.early_of_move hdwell hq hnow hother hmove }

theorem Kept.handleScan {i : Nat} {s : Message TimerKind} {kind : ScanTimerKind} (h : t.Kept p)
    (hs : t.events.messages[i]? = some s) (hkind : s.kind = .scan kind)
    (hdue : s.due ≤ t.events.now) (hnext : t.nic.next p (t.delivery s.kind) = .ok n') :
    Kept p ⟨n', (t.events.remove i).applyAll (t.nic.timerOps (t.delivery s.kind))⟩ := by
  have hmem := List.mem_of_getElem? hs
  have htracks := h.tracks.delivered hs hnext
  have hsound := h.sound.next hnext
  obtain ⟨signals, hmove⟩ := Nic.move_of_next hnext
  obtain ⟨timer, hj, htimer⟩ := h.tracks.scanTimer_found hmem hkind
  have hscan := (h.sound.mgmt.eraseIdx_scanTimers hj).1
  cases h.early hscan with
  | inl hnone =>
      exact ⟨hsound, h.phased.move h.sound (fun _ _ => hnone) hmove, htracks,
        fun hscan' => .inl (h.phased.quiet h.sound hscan hnone hmove hscan')⟩
  | inr hearly =>
      -- the timer is due, so it only leads to a probe
      have hprobe : kind = .MK_SCAN_SENDPROBE ∧ 0 < t.nic.mgmt.scanning.minChannelTime := by
        cases hearly s hmem (by rw [hkind]; rfl) with
        | inl hlt => omega
        | inr hprobe =>
            rw [hkind] at hprobe
            exact ⟨TimerKind.scan.inj hprobe.1, hprobe.2⟩
      obtain ⟨rfl, hmin⟩ := hprobe
      rw [hkind] at hnext htracks ⊢
      obtain ⟨rfl, hops⟩ := Nic.next_sendProbe hj htimer hnext
      refine ⟨hsound, ?_, htracks, fun _ => .inr ?_⟩
      · exact h.phased.keep (fun hb => ⟨hb.1, hb.2, hb.3, hb.4⟩) rfl rfl rfl rfl
      · intro s' hs' hkind'
        rw [FutureEvents.now_applyAll]
        cases (t.events.remove i).mem_applyAll hs' with
        | inl hold => exact hearly s' (List.mem_of_mem_eraseIdx hold) hkind'
        | inr hnew =>
            obtain ⟨d, hop, hdue'⟩ := hnew
            have hops' : t.nic.timerOps (t.delivery (.scan .MK_SCAN_SENDPROBE)) = _ := hops
            rw [hops', List.mem_singleton] at hop
            have hd := (QueueOp.schedule.inj hop).1
            left
            show t.events.now < s'.due
            rw [hdue', hd]
            exact Nat.lt_add_of_pos_right hmin

theorem Kept.step {e : TimedEvent} (h : t.Kept p) (hdwell : 0 < p.dwell)
    (hstep : t.step p e = .ok t') : t'.Kept p := by
  cases e with
  | advance d =>
      simp only [TimedNic.step] at hstep
      split at hstep
      · rename_i hnone
        cases hstep
        exact ⟨h.sound, h.phased, ⟨h.tracks.count, h.tracks.distinct, h.tracks.listed,
          h.tracks.current⟩, fun _ => .inl (Nic.inFlight_eq_zero_iff.mpr hnone)⟩
      · cases hstep
  | untimed e =>
      simp only [TimedNic.step] at hstep
      split at hstep
      · cases hstep
      · rename_i htimer
        obtain ⟨n', hnext, rfl⟩ := map_ok_inv hstep
        have huntimed : e.isTimer = false := by simpa using htimer
        refine h.handle hdwell (fun _ hs => hs) rfl (fun i hi => ?_) hnext
          (h.tracks.untimed h.sound huntimed hnext)
        rw [hi] at huntimed
        cases huntimed
  | timer i =>
      simp only [TimedNic.step] at hstep
      cases hs : t.events.messages[i]? with
      | none => simp [hs] at hstep
      | some s =>
          simp only [hs] at hstep
          split_ifs at hstep with hlate hlive
          obtain ⟨n', hnext, rfl⟩ := map_ok_inv hstep
          cases hkind : s.kind with
          | scan kind =>
              have hdue : s.due ≤ t.events.now := by
                rw [not_and, Nat.not_lt] at hlate
                exact hlate (by rw [hkind]; rfl)
              rw [← hkind]
              exact h.handleScan hs hkind hdue hnext
          | _ =>
              have htracks := h.tracks.delivered hs hnext
              rw [hkind] at hnext htracks
              exact h.handle hdwell (fun _ hs => List.mem_of_mem_eraseIdx hs) rfl nofun hnext
                htracks

/-- What holds of a card at any time. -/
structure WellPhased (t : TimedNic) : Prop where
  scanning_pending : ¬ (t.nic.mgmt.isScanning = true ∧ t.nic.mgmt.assocTimeoutMsg ≠ none)
  scanning_associated : ¬ (t.nic.mgmt.isScanning = true ∧ t.nic.mgmt.mib.isAssociated = true)
  pending_associated :
    ¬ (t.nic.mgmt.assocTimeoutMsg ≠ none ∧ t.nic.mgmt.mib.isAssociated = true)
  supervised : t.nic.mgmt.mib.isAssociated = true ↔ t.nic.mgmt.assocAP.beaconTimeoutMsg ≠ none
  scanTimer : t.nic.mgmt.isScanning = true →
    (t.events.messages.filter fun s => s.kind.isScan).length = 1
  unauthenticated : t.nic.mgmt.isScanning = true →
    ∀ ap ∈ t.nic.mgmt.apList, ap.isAuthenticated = false
  contexts : ∀ s ∈ t.events.messages, ∀ a, s.kind.context? = some a →
    s.epoch = t.events.epoch ∧ ∃ ap ∈ t.nic.mgmt.apList, ap.address = a
  distinct : (t.nic.mgmt.apList.map ApInfo.address).Nodup

/-- The scan timers that wait, by kind. -/
theorem length_scan_messages (q : FutureEvents TimerKind) :
    (q.messages.filter fun s => s.kind.isScan).length =
      q.count (.scan .MK_SCAN_SENDPROBE) + q.count (.scan .MK_SCAN_MINCHANNELTIME) +
        q.count (.scan .MK_SCAN_MAXCHANNELTIME) := by
  unfold FutureEvents.count
  induction q.messages with
  | nil => rfl
  | cons s l ih =>
      rw [List.filter_cons, List.countP_cons, List.countP_cons, List.countP_cons]
      cases hkind : s.kind with
      | scan kind =>
          rw [if_pos (by rfl), List.length_cons, ih]
          cases kind <;> simp <;> omega
      | _ =>
          rw [if_neg (by simp [TimerKind.isScan]), ih]
          simp

theorem length_scanTimers (l : List ScanTimer) :
    l.length = (l.countP fun timer => timer.kind = .MK_SCAN_SENDPROBE) +
      (l.countP fun timer => timer.kind = .MK_SCAN_MINCHANNELTIME) +
        l.countP fun timer => timer.kind = .MK_SCAN_MAXCHANNELTIME := by
  induction l with
  | nil => rfl
  | cons timer l ih =>
      rw [List.length_cons, List.countP_cons, List.countP_cons, List.countP_cons, ih]
      cases timer.kind <;> simp <;> omega

theorem Kept.wellPhased (h : t.Kept p) : t.WellPhased where
  scanning_pending := by
    rintro ⟨hscan, hpending⟩
    exact hpending (h.phased.scanning hscan).2.assocTimeoutMsg
  scanning_associated := by
    rintro ⟨hscan, hassociated⟩
    rw [(h.phased.scanning hscan).2.isAssociated] at hassociated
    cases hassociated
  pending_associated := by
    rintro ⟨hpending, hassociated⟩
    exact hpending (h.sound.mgmt.exclusive hassociated)
  supervised := h.sound.mgmt.supervised
  scanTimer hscan := by
    have hone := h.sound.mgmt.scanTimers
    rw [hscan, if_pos rfl, length_scanTimers] at hone
    rw [length_scan_messages, h.tracks.count, h.tracks.count, h.tracks.count]
    exact hone
  unauthenticated hscan ap hap :=
    (h.phased.scanning hscan).2.isAuthenticated_eq_false (lookupKey_of_mem h.tracks.distinct hap)
  contexts s hs a ha := by
    refine ⟨h.tracks.current s hs (by simp [ha]), ?_⟩
    have hpos := h.tracks.pending_pos hs
    have hknown : known t.nic.mgmt.apList a = true := by
      cases hkind : s.kind with
      | MK_AUTH_TIMEOUT b =>
          rw [hkind] at ha hpos
          obtain rfl := Option.some.inj ha
          by_contra hnot
          have hnone : lookupKey ApInfo.address b t.nic.mgmt.apList = none := by
            simpa [known] using hnot
          simp [MgmtSta.pending, authTimer, hnone] at hpos
      | MK_ASSOC_TIMEOUT b =>
          rw [hkind] at ha hpos
          obtain rfl := Option.some.inj ha
          cases hx : t.nic.mgmt.assocTimeoutMsg with
          | none => simp [MgmtSta.pending, hx] at hpos
          | some x =>
              have hcontext : x.contextPointer = b := by
                by_contra hne
                simp [MgmtSta.pending, hx, hne] at hpos
              rw [← hcontext]
              exact h.tracks.listed x hx
      | scan kind => simp [hkind, TimerKind.context?] at ha
      | MK_BEACON_TIMEOUT => simp [hkind, TimerKind.context?] at ha
    exact List.mem_map.mp (MgmtSta.known_iff_mem.mp hknown)
  distinct := h.tracks.distinct

/-- As long as no error is thrown, the phases of a card exclude each other and its timers are
well formed. -/
theorem wellPhased_of_run {numChannels : Nat} {es : List TimedEvent} (hdwell : 0 < p.dwell)
    (h : run (step p) (initial numChannels) es = .ok t) : t.WellPhased :=
  (run_invariant (I := Kept p)
    (fun _ _ _ hkept _ hstep => hkept.step hdwell hstep) (kept_initial numChannels)
    (along_trivial (fun _ _ => trivial) _ _) h).wellPhased

def sampleTimedRun : List TimedEvent :=
  [.untimed .startUp, .untimed .deliverRequest, .untimed (sampleBeacon 1), .advance 300,
    .timer 0] ++
    (authentication 1 ++ associationRequest).map .untimed ++
    [.untimed (frameOf 1 (.associationResponse SC_SUCCESSFUL)), .untimed .deliverConfirm]

theorem wellPhased_of_run_sample :
    ∃ t, run (step sampleParams) (initial 1) sampleTimedRun = .ok t ∧
      t.nic.mgmt.mib.isAssociated = true ∧ t.WellPhased := by
  obtain ⟨t, hrun, hassociated⟩ :
      ∃ t, run (step sampleParams) (initial 1) sampleTimedRun = .ok t ∧
        t.nic.mgmt.mib.isAssociated = true :=
    exists_of_run_map (by decide +kernel)
  exact ⟨t, hrun, hassociated, wellPhased_of_run (by decide) hrun⟩

end TimedNic

end MultiTechBus.Ieee80211
