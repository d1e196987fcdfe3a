import Mathlib.Logic.Function.Basic
import MultiTechBus.Library.Run
import MultiTechBus.Ieee80211.Nic

/-! # A host with several WLAN cards

All agents of a host listen to the loss of beacons on the host, whichever card it is
about. Cards are independent of each other up to the first such loss.
-/

namespace MultiTechBus.Ieee80211

open MultiTechBus.Library

/-! ## Which events report a loss of beacons -/

namespace MgmtSta

variable {m m' : MgmtSta} {outs : List MgmtOut} {address : MacAddress}

theorem scanNextChannel_quiet {done : Bool} (h : m.scanNextChannel = .ok (done, m', outs)) :
    .l2BeaconLost ∉ outs := by
  unfold scanNextChannel at h
  split at h
  · cases h
    exact List.not_mem_nil
  · split at h
    · cases h
    · cases h
      simp

theorem scanNextChannelOrConfirm_quiet (h : m.scanNextChannelOrConfirm = .ok (m', outs)) :
    .l2BeaconLost ∉ outs := by
  unfold scanNextChannelOrConfirm at h
  split at h
  · cases h
  · rename_i hnext
    cases h
    simpa [sendScanConfirm] using scanNextChannel_quiet hnext
  · rename_i hnext
    cases h
    exact scanNextChannel_quiet hnext

theorem processScanCommand_quiet {ctrl : ScanRequest}
    (h : m.processScanCommand ctrl = .ok (m', outs)) : .l2BeaconLost ∉ outs := by
  unfold processScanCommand at h
  split at h
  · cases h
  split at h
  · cases h
  split at h
  · cases h
  split at h
  · cases h
  · rename_i hnext
    cases h
    exact scanNextChannel_quiet hnext

theorem processAuthenticateCommand_quiet {timeout : SimTime}
    (h : m.processAuthenticateCommand address timeout = .ok (m', outs)) :
    .l2BeaconLost ∉ outs := by
  unfold processAuthenticateCommand startAuthentication at h
  split at h
  · cases h
  split at h
  · cases h
  split at h
  · cases h
  · cases h
    simp

theorem processAssociateCommand_quiet {timeout : SimTime}
    (h : m.processAssociateCommand address timeout = .ok (m', outs)) :
    .l2BeaconLost ∉ outs := by
  unfold processAssociateCommand startAssociation at h
  split at h
  · cases h
  split at h
  · cases h
  split at h
  · cases h
  · cases h
    simp

theorem handleCommand_quiet {req : Request} (h : m.handleCommand req = .ok (m', outs)) :
    .l2BeaconLost ∉ outs := by
  cases req with
  | scan ctrl => exact processScanCommand_quiet h
  | authenticate address timeout => exact processAuthenticateCommand_quiet h
  | deauthenticate address reasonCode =>
      unfold handleCommand processDeauthenticateCommand at h
      dsimp only at h
      split at h
      · cases h
      · cases h
        simp
  | associate address timeout => exact processAssociateCommand_quiet h
  | reassociate address timeout => exact processAssociateCommand_quiet h
  | disassociate address reasonCode =>
      cases h
      simp

theorem handleAuthenticationFrame_quiet {sequenceNumber : BitVec 16} {statusCode : Int}
    {isLast : Bool} : .l2BeaconLost ∉
      (m.handleAuthenticationFrame address sequenceNumber statusCode isLast).2 := by
  unfold handleAuthenticationFrame
  split
  · exact List.not_mem_nil
  split
  · exact List.not_mem_nil
  split
  · exact List.not_mem_nil
  split
  · simp [sendAuthenticationConfirm]
  split
  · simp
  · simp [sendAuthenticationConfirm]

theorem handleAssociationResponseFrame_quiet {statusCode : Int}
    (h : m.handleAssociationResponseFrame address statusCode = .ok (m', outs)) :
    .l2BeaconLost ∉ outs := by
  unfold handleAssociationResponseFrame at h
  split at h
  · cases h
    exact List.not_mem_nil
  split at h
  · cases h
  dsimp only at h
  split at h
  · cases h
    simp [sendAssociationConfirm]
  · cases h
    simp [sendAssociationConfirm]

theorem handleDeauthenticationFrame_silent : (m.handleDeauthenticationFrame address).2 = [] := by
  unfold handleDeauthenticationFrame
  split
  · rfl
  split
  · rfl
  split
  · rfl
  · rfl

theorem handleDisassociationFrame_silent : (m.handleDisassociationFrame address).2 = [] := by
  unfold handleDisassociationFrame
  dsimp only
  split
  · rfl
  · rfl

theorem handleBeaconFrame_silent {f : MgmtFrame} {body : BeaconBody}
    (h : m.handleBeaconFrame f body = .ok (m', outs)) : outs = [] := by
  unfold handleBeaconFrame at h
  dsimp only at h
  split at h
  · split at h
    · cases h
    · cases h
      rfl
  · cases h
    rfl

theorem processFrame_quiet {f : MgmtFrame} (h : m.processFrame f = .ok (m', outs)) :
    .l2BeaconLost ∉ outs := by
  unfold processFrame at h
  cases hbody : f.body with
  | authentication sequenceNumber statusCode isLast =>
      have hquiet := @handleAuthenticationFrame_quiet m f.transmitterAddress sequenceNumber
        statusCode isLast
      rw [hbody] at h
      rwa [Except.ok.inj h] at hquiet
  | deauthentication reasonCode =>
      have hsilent : (m.handleDeauthenticationFrame f.address3).2 = [] :=
        handleDeauthenticationFrame_silent
      rw [hbody] at h
      rw [Except.ok.inj h] at hsilent
      rw [show outs = [] from hsilent]
      exact List.not_mem_nil
  | associationResponse statusCode =>
      rw [hbody] at h
      exact handleAssociationResponseFrame_quiet h
  | disassociation reasonCode =>
      have hsilent : (m.handleDisassociationFrame f.address3).2 = [] :=
        handleDisassociationFrame_silent
      rw [hbody] at h
      rw [Except.ok.inj h] at hsilent
      rw [show outs = [] from hsilent]
      exact List.not_mem_nil
  | beacon body =>
      rw [hbody] at h
      exact handleBeaconFrame_silent h ▸ List.not_mem_nil
  | associationRequest | reassociationRequest | reassociationResponse | probeRequest |
      probeResponse =>
      rw [hbody] at h
      cases h
      exact List.not_mem_nil

theorem handleScanTimer_quiet {i : Nat} (h : m.handleScanTimer i = .ok (m', outs)) :
    .l2BeaconLost ∉ outs := by
  unfold handleScanTimer at h
  split at h
  · cases h
  rename_i timer htimer
  dsimp only at h
  cases hkind : timer.kind with
  | MK_SCAN_MAXCHANNELTIME =>
      rw [hkind] at h
      exact scanNextChannelOrConfirm_quiet h
  | MK_SCAN_SENDPROBE =>
      rw [hkind] at h
      cases h
      simp [sendProbeRequest]
  | MK_SCAN_MINCHANNELTIME =>
      rw [hkind] at h
      dsimp only at h
      split at h
      · cases h
        exact List.not_mem_nil
      · exact scanNextChannelOrConfirm_quiet h

theorem handleAuthTimeout_quiet (h : m.handleAuthTimeout address = .ok (m', outs)) :
    .l2BeaconLost ∉ outs := by
  unfold handleAuthTimeout at h
  split at h
  · cases h
  split at h
  · cases h
    simp [sendAuthenticationConfirm]
  · cases h

theorem handleAssocTimeout_quiet (h : m.handleAssocTimeout = .ok (m', outs)) :
    .l2BeaconLost ∉ outs := by
  unfold handleAssocTimeout at h
  split at h
  · cases h
  split at h
  · cases h
    simp [sendAssociationConfirm]
  · cases h

end MgmtSta

namespace Nic

variable {p : AgentParams} {n n' : Nic} {e : Event} {outs : List NicOut}

theorem ofMgmt_quiet {result : Except Halt (MgmtSta × List MgmtOut)}
    (h : n.ofMgmt result = .ok (n', outs))
    (hquiet : ∀ m mouts, result = .ok (m, mouts) → .l2BeaconLost ∉ mouts) :
    .mgmt .l2BeaconLost ∉ outs := by
  cases result with
  | error k => cases h
  | ok r =>
      obtain ⟨m, mouts⟩ := r
      obtain ⟨-, rfl⟩ := Prod.mk.inj (Except.ok.inj h)
      simpa using hquiet m mouts rfl

theorem localStep_beaconLost_iff (h : n.localStep p e = .ok (n', outs)) :
    .mgmt .l2BeaconLost ∈ outs ↔ e = .beaconTimeout := by
  cases e with
  | startUp =>
      simp only [localStep] at h
      split at h
      · obtain ⟨-, rfl⟩ := Prod.mk.inj (Except.ok.inj h)
        simp
      · cases h
  | deliverRequest =>
      simp only [localStep] at h
      split at h
      · cases h
      · simpa using ofMgmt_quiet h fun _ _ hm => MgmtSta.handleCommand_quiet hm
  | deliverConfirm =>
      simp only [localStep] at h
      split at h
      · cases h
      · split at h
        · cases h
        · obtain ⟨-, rfl⟩ := Prod.mk.inj (Except.ok.inj h)
          simp
  | frame f => simpa using ofMgmt_quiet h fun _ _ hm => MgmtSta.processFrame_quiet hm
  | authTimeout address =>
      simpa using ofMgmt_quiet h fun _ _ hm => MgmtSta.handleAuthTimeout_quiet hm
  | assocTimeout => simpa using ofMgmt_quiet h fun _ _ hm => MgmtSta.handleAssocTimeout_quiet hm
  | scanTimer i => simpa using ofMgmt_quiet h fun _ _ hm => MgmtSta.handleScanTimer_quiet hm
  | beaconTimeout =>
      simp only [localStep, MgmtSta.handleBeaconTimeout] at h
      split at h
      · obtain ⟨-, rfl⟩ := Prod.mk.inj (Except.ok.inj h)
        simp
      · cases h
  | receptionState busy =>
      obtain ⟨-, rfl⟩ := Prod.mk.inj (Except.ok.inj h)
      simp

end Nic

/-! ## The host -/

structure Host (ι : Type*) where
  wlan : ι → Nic

namespace Host

variable {ι : Type*} [DecidableEq ι]

def initial (numChannels : ι → Nat) : Host ι := ⟨fun i => Nic.initial (numChannels i)⟩

/-- Card `e.1` handles an event; if that loses the beacons, every agent hears of it. The
result says what each card sends and emits. Management subscribes to the reception state on
the host too: `receptionState` at a card is what the management entity of that card hears. -/
def step (p : ι → AgentParams) (h : Host ι) (e : ι × Event) :
    Except Halt (Host ι × (ι → List NicOut)) :=
  match (h.wlan e.1).localStep (p e.1) e.2 with
  | .error k => .error k
  | .ok (n, outs) =>
      let wlan := Function.update h.wlan e.1 n
      let emitted := Function.update (fun _ => []) e.1 outs
      if outs.contains (.mgmt .l2BeaconLost) then
        .ok (⟨fun i => ((wlan i).hearBeaconLost (p i)).1⟩,
          fun i => emitted i ++ ((wlan i).hearBeaconLost (p i)).2)
      else .ok (⟨wlan⟩, emitted)

def next (p : ι → AgentParams) (h : Host ι) (e : ι × Event) : Except Halt (Host ι) :=
  (h.step p e).map Prod.fst

variable {p : ι → AgentParams} {h h₀ h' : Host ι} {i j : ι} {e : Event}
  {outs : ι → List NicOut} {es : List (ι × Event)}

/-- The card that handles an event does so as the only card of a host would. -/
theorem step_self (hstep : h.step p (i, e) = .ok (h', outs)) :
    (h.wlan i).step (p i) e = .ok (h'.wlan i, outs i) := by
  unfold step at hstep
  unfold Nic.step
  cases hlocal : (h.wlan i).localStep (p i) e with
  | error k => simp [hlocal] at hstep
  | ok r =>
      obtain ⟨n, nouts⟩ := r
      simp only [hlocal] at hstep ⊢
      split at hstep
      · rename_i hlost
        obtain ⟨rfl, rfl⟩ := Prod.mk.inj (Except.ok.inj hstep)
        rw [if_pos hlost]
        simp
      · rename_i hquiet
        obtain ⟨rfl, rfl⟩ := Prod.mk.inj (Except.ok.inj hstep)
        rw [if_neg hquiet]
        simp

theorem step_other (hij : i ≠ j) (he : e ≠ .beaconTimeout)
    (hstep : h.step p (i, e) = .ok (h', outs)) :
    h'.wlan j = h.wlan j ∧ outs j = [] := by
  unfold step at hstep
  cases hlocal : (h.wlan i).localStep (p i) e with
  | error k => simp [hlocal] at hstep
  | ok r =>
      obtain ⟨n, nouts⟩ := r
      have hquiet : nouts.contains (.mgmt .l2BeaconLost) = false := by
        simpa using fun hmem => he ((Nic.localStep_beaconLost_iff hlocal).mp hmem)
      simp only [hlocal, hquiet, Bool.false_eq_true, if_false] at hstep
      obtain ⟨rfl, rfl⟩ := Prod.mk.inj (Except.ok.inj hstep)
      simp [Function.update_of_ne (Ne.symm hij)]

/-- A beacon timeout makes every other agent send a ScanRequest and report that it is
not associated. -/
theorem step_beaconTimeout (hij : i ≠ j) (hstep : h.step p (i, .beaconTimeout) = .ok (h', outs)) :
    h'.wlan j = { h.wlan j with toMgmt := (h.wlan j).toMgmt ++ [(p j).scanRequest] } ∧
      (outs j).filterMap NicOut.stateAssociation? = [false] := by
  unfold step at hstep
  cases hlocal : (h.wlan i).localStep (p i) .beaconTimeout with
  | error k => simp [hlocal] at hstep
  | ok r =>
      obtain ⟨n, nouts⟩ := r
      have hlost : nouts.contains (.mgmt .l2BeaconLost) = true := by
        simpa using (Nic.localStep_beaconLost_iff hlocal).mpr rfl
      simp only [hlocal, hlost, if_true] at hstep
      obtain ⟨rfl, rfl⟩ := Prod.mk.inj (Except.ok.inj hstep)
      simp [Function.update_of_ne (Ne.symm hij), Nic.hearBeaconLost, Nic.ofAgent, Nic.absorbAgent,
        AgentSta.receiveBeaconLost, AgentParams.sendScanRequest, AgentParams.scanRequest,
        Request.associate?, NicOut.stateAssociation?, List.filterMap_cons]

/-! ## Isolation -/

/-- Neither the modules of a card nor its association is touched. -/
structure Undisturbed (n n' : Nic) (outs : List NicOut) : Prop where
  agent : n'.agent = n.agent
  mgmt : n'.mgmt = n.mgmt
  toMgmt : n'.toMgmt = n.toMgmt
  signals : outs.filterMap NicOut.stateAssociation? = []

def LeavesAlone (p : ι → AgentParams) (j : ι) (h : Host ι) (e : ι × Event) : Prop :=
  e.1 ≠ j → ∀ h' outs, h.step p e = .ok (h', outs) → Undisturbed (h.wlan j) (h'.wlan j) (outs j)

theorem leavesAlone_of_ne (he : e ≠ .beaconTimeout) : LeavesAlone p j h (i, e) := by
  intro hij h' outs hstep
  obtain ⟨hwlan, houts⟩ := step_other hij he hstep
  rw [hwlan, houts]
  exact ⟨rfl, rfl, rfl, rfl⟩

theorem not_leavesAlone_of_beaconTimeout (hij : i ≠ j)
    (hstep : h.step p (i, .beaconTimeout) = .ok (h', outs)) :
    ¬ LeavesAlone p j h (i, .beaconTimeout) := by
  intro halone
  have hsignals := (halone hij h' outs hstep).signals
  rw [(step_beaconTimeout hij hstep).2] at hsignals
  cases hsignals

theorem step_of_next {e : ι × Event} (hnext : h.next p e = .ok h') :
    ∃ outs, h.step p e = .ok (h', outs) := by
  unfold next at hnext
  cases hstep : h.step p e with
  | error k => simp [hstep, Except.map] at hnext
  | ok r =>
      obtain ⟨h'', outs⟩ := r
      simp only [hstep, Except.map, Except.ok.injEq] at hnext
      exact ⟨outs, by rw [hnext]⟩

def eventAt (j : ι) (e : ι × Event) : Option Event := if e.1 = j then some e.2 else none

theorem run_alone (hnone : ∀ e ∈ es, e.1 ≠ j → e.2 ≠ .beaconTimeout)
    (hrun : run (next p) h₀ es = .ok h) :
    run (Nic.next (p j)) (h₀.wlan j) (es.filterMap (eventAt j)) = .ok (h.wlan j) := by
  induction es generalizing h₀ with
  | nil =>
      obtain rfl := Except.ok.inj hrun
      rfl
  | cons e es ih =>
      obtain ⟨i, e⟩ := e
      obtain ⟨h₁, hnext, hrest⟩ := run_cons_inv hrun
      obtain ⟨outs, hstep⟩ := step_of_next hnext
      have hrest := ih (fun e he => hnone e (.tail _ he)) hrest
      by_cases hij : i = j
      · subst hij
        have hown : (h₀.wlan i).next (p i) e = .ok (h₁.wlan i) := by
          simp [Nic.next, step_self hstep, Except.map]
        rw [List.filterMap_cons_some (b := e) (by simp [eventAt]), run_cons_ok _ hown]
        exact hrest
      · rw [List.filterMap_cons_none (by simp [eventAt, hij]),
          ← (step_other hij (hnone (i, e) (.head _) hij) hstep).1]
        exact hrest

/-- Every event at another card leaves card `j` alone in exactly those runs in which no
other card has a beacon timeout; in these, card `j` runs as if it were alone. -/
theorem leavesAlone_iff (p : ι → AgentParams) (j : ι) (es : List (ι × Event))
    (hrun : run (next p) h₀ es = .ok h) :
    (Along (next p) (LeavesAlone p j) h₀ es ↔ ∀ e ∈ es, e.1 ≠ j → e.2 ≠ .beaconTimeout) ∧
      ((∀ e ∈ es, e.1 ≠ j → e.2 ≠ .beaconTimeout) →
        run (Nic.next (p j)) (h₀.wlan j) (es.filterMap (eventAt j)) = .ok (h.wlan j)) := by
  refine ⟨⟨fun halong => ?_, fun hnone => ?_⟩, fun hnone => run_alone hnone hrun⟩
  · induction es generalizing h₀ with
    | nil => simp
    | cons e es ih =>
        obtain ⟨i, e⟩ := e
        obtain ⟨h₁, hnext, hrest⟩ := run_cons_inv hrun
        obtain ⟨outs, hstep⟩ := step_of_next hnext
        rintro e' he' hne heq
        rcases List.mem_cons.mp he' with rfl | hmem
        · obtain rfl : e = .beaconTimeout := heq
          exact not_leavesAlone_of_beaconTimeout hne hstep halong.1
        · exact ih hrest (halong.2 h₁ hnext) e' hmem hne heq
  · refine along_of_forall_mem (fun e he h hne => ?_) h₀
    exact leavesAlone_of_ne (hnone e he hne) hne

def associatedHostRun : List (Fin 2 × Event) := (untilAssociated 1).map fun e => (0, e)

theorem leavesAlone_sample :
    ∃ h, run (next fun _ => sampleParams) (initial fun _ : Fin 2 => 1) associatedHostRun = .ok h ∧
      (Along (next fun _ => sampleParams) (LeavesAlone (fun _ => sampleParams) 1)
        (initial fun _ : Fin 2 => 1) associatedHostRun ↔
          ∀ e ∈ associatedHostRun, e.1 ≠ 1 → e.2 ≠ .beaconTimeout) ∧
      ((∀ e ∈ associatedHostRun, e.1 ≠ 1 → e.2 ≠ .beaconTimeout) →
        run (Nic.next sampleParams) (Nic.initial 1) (associatedHostRun.filterMap (eventAt 1)) =
          .ok (h.wlan 1)) := by
  have hok : (run (next fun _ => sampleParams) (initial fun _ : Fin 2 => 1)
      associatedHostRun).toOption.map (fun h => (h.wlan 0).mgmt.mib.isAssociated) = some true := by
    decide +kernel
  obtain ⟨h, hrun, -⟩ := exists_of_run_map hok
  exact ⟨h, hrun, leavesAlone_iff _ 1 associatedHostRun hrun⟩

theorem other_card_disturbed :
    ¬ ∀ (n : Nat), 2 ≤ n → ∀ (p : Fin n → AgentParams) (numChannels : Fin n → Nat)
      (es : List (Fin n × Event)) (h : Host (Fin n)),
      run (next p) (initial numChannels) es = .ok h → ∀ (i j : Fin n), i ≠ j →
        ∀ h' outs, h.step p (i, .beaconTimeout) = .ok (h', outs) →
          Undisturbed (h.wlan j) (h'.wlan j) (outs j) := by
  intro hclaim
  have hlost : (run (next fun _ => sampleParams) (initial fun _ : Fin 2 => 1)
      (associatedHostRun ++ [(0, .beaconTimeout)])).toOption.map
        (fun h => (h.wlan 1).toMgmt.length) = some 1 := by
    decide +kernel
  obtain ⟨h', hrun, -⟩ := exists_of_run_map hlost
  obtain ⟨h, hbefore, hafter⟩ := run_append_inv hrun
  obtain ⟨h'', hnext, hend⟩ := run_cons_inv hafter
  obtain ⟨outs, hstep⟩ := step_of_next hnext
  have halone := hclaim 2 (Nat.le_refl 2) (fun _ => sampleParams) (fun _ => 1) associatedHostRun h
    hbefore 0 1 (by decide) h'' outs hstep
  have hsignals := halone.signals
  rw [(step_beaconTimeout (by decide) hstep).2] at hsignals
  cases hsignals

end Host

end MultiTechBus.Ieee80211
