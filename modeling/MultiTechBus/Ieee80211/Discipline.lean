import MultiTechBus.Ieee80211.Faults
import MultiTechBus.Ieee80211.Phase

/-! # When the management entity accepts every request

No runtime error is reached while the agent and the management entity take turns,
every response to a pending association comes from a listed access point, and no
Deauthentication undoes an authentication that the agent is about to use.
-/

namespace MultiTechBus.Ieee80211

open MultiTechBus.Library

/-! ## The chosen access point was found -/

theorem known_of_mem {l : List ApInfo} {ap : ApInfo} (h : ap ∈ l) : known l ap.address = true := by
  unfold known lookupKey
  rw [List.find?_isSome]
  exact ⟨ap, h, by simp⟩

namespace AgentParams

theorem stronger_foldl_mem (first : BssDescription) (l : List BssDescription) :
    l.foldl stronger first ∈ first :: l := by
  induction l generalizing first with
  | nil => simp
  | cons b l ih =>
      have hmem := ih (stronger first b)
      have hstronger : stronger first b = first ∨ stronger first b = b := by
        unfold stronger
        split <;> simp
      rw [List.foldl_cons]
      rcases List.mem_cons.mp hmem with h | h
      · rw [h]
        rcases hstronger with h' | h' <;> rw [h'] <;> simp
      · simp [h]

theorem choose_mem (p : AgentParams) {bssList : List BssDescription} {d : BssDescription}
    (h : p.choose bssList = some d) : d ∈ bssList := by
  unfold choose at h
  split at h
  · cases bssList with
    | nil => cases h
    | cons first rest =>
        rw [← Option.some.inj h]
        exact stronger_foldl_mem first rest
  · exact List.mem_of_find?_eq_some h

end AgentParams

namespace Confirm

variable {p : AgentParams} {c : Confirm} {a : MacAddress} {t : SimTime}

theorem eq_scan_of_answer (h : c.answer p = .authenticate a t) :
    ∃ rc bss, c = .scan rc bss := by
  cases c with
  | scan rc bss => exact ⟨rc, bss, rfl⟩
  | authenticate rc b =>
      simp only [answer] at h
      split at h <;> cases h
  | _ => cases h

/-- The agent authenticates with an access point that the scan reported. -/
theorem mem_of_answer {rc : PrimResultCode} {bss : List BssDescription}
    (h : (Confirm.scan rc bss).answer p = .authenticate a t) : ∃ d ∈ bss, d.BSSID = a := by
  simp only [answer] at h
  split at h
  · cases h
  · rename_i d hd
    exact ⟨d, p.choose_mem hd, (Request.authenticate.inj h).1⟩

theorem eq_authenticate_of_answer (h : c.answer p = .associate a t) :
    c = .authenticate .PRC_SUCCESS a := by
  cases c with
  | scan rc bss =>
      simp only [answer] at h
      split at h <;> cases h
  | authenticate rc b =>
      simp only [answer] at h
      split at h
      · cases h
      · rename_i hrc
        rw [not_not.mp hrc, (Request.associate.inj h).1]
  | _ => cases h

end Confirm

/-! ## The guard -/

/-- The agent is told, or has been told, that `a` accepted the station, and has not yet
been served. -/
def Nic.aboutToAssociate (n : Nic) (a : MacAddress) : Bool :=
  n.toAgent.contains (.authenticate .PRC_SUCCESS a) ||
    n.toMgmt.any fun req => req.associate? == some a

namespace Nic

/-- The frame leads to no request that the management entity refuses. -/
def StaysDisciplined (n : Nic) (e : Event) : Prop :=
  n.StaysSingle e ∧
    match e with
    | .frame f =>
        match f.body with
        | .associationResponse _ =>
            n.mgmt.assocTimeoutMsg ≠ none → known n.mgmt.apList f.transmitterAddress = true
        | .deauthentication _ => n.aboutToAssociate f.address3 = false
        | _ => True
    | _ => True

instance (n : Nic) (e : Event) : Decidable (n.StaysDisciplined e) :=
  match e with
  | .frame ⟨_, _, body, _⟩ =>
      match body with
      | .deauthentication _ => inferInstanceAs (Decidable (_ ∧ _ = false))
      | .associationResponse _ => inferInstanceAs (Decidable (_ ∧ (_ → _)))
      | .authentication .. | .associationRequest | .reassociationRequest | .reassociationResponse _
      | .disassociation _ | .beacon _ | .probeRequest _ | .probeResponse _ =>
          inferInstanceAs (Decidable (_ ∧ True))
  | .startUp | .deliverRequest | .deliverConfirm | .authTimeout _ | .assocTimeout | .beaconTimeout
  | .scanTimer _ | .receptionState _ => inferInstanceAs (Decidable (_ ∧ True))

/-- The station has scanned and not yet started to authenticate. -/
inductive Searching (n : Nic) : Prop
  | scanning (h : n.mgmt.isScanning = true)
  | confirm (rc : PrimResultCode) (bss : List BssDescription) (h : .scan rc bss ∈ n.toAgent)
  | request (a : MacAddress) (t : SimTime) (h : .authenticate a t ∈ n.toMgmt)

/-- What the primitives in flight say still holds of the AP list. -/
structure Ready (n : Nic) : Prop where
  fresh : n.Searching → ∀ a, authenticated n.mgmt.apList a = false
  found : ∀ rc bss, .scan rc bss ∈ n.toAgent → ∀ d ∈ bss, known n.mgmt.apList d.BSSID = true
  chosen : ∀ a t, .authenticate a t ∈ n.toMgmt → known n.mgmt.apList a = true
  accepted : ∀ a, .authenticate .PRC_SUCCESS a ∈ n.toAgent → authenticated n.mgmt.apList a = true
  wanted : ∀ a t, .associate a t ∈ n.toMgmt → authenticated n.mgmt.apList a = true

variable {p : AgentParams} {n n' : Nic} {e : Event} {signals : List Bool} {ph : Phase}

theorem At.restarts_eq_false (hat : n.At ph) (hph : ph.toAgent = []) {c : Confirm}
    (hc : c ∈ n.toAgent) : c.restarts = false := by
  have hnil := hat.toAgent.trans hph
  rw [List.filter_eq_nil_iff] at hnil
  simpa using hnil c hc

theorem Searching.mono (h : n'.Searching)
    (hscan : n'.mgmt.isScanning = true → n.mgmt.isScanning = true)
    (hreq : ∀ req ∈ n'.toMgmt, req ∈ n.toMgmt ∨ req.isScan = true)
    (hconfirm : ∀ c ∈ n'.toAgent, c ∈ n.toAgent ∨ c.fails = true ∨ c.restarts = false) :
    n.Searching := by
  cases h with
  | scanning h => exact .scanning (hscan h)
  | confirm rc bss h =>
      rcases hconfirm _ h with hold | hfails | hrestarts
      · exact .confirm rc bss hold
      · cases hfails
      · cases hrestarts
  | request a t h =>
      rcases hreq _ h with hold | hscan
      · exact .request a t hold
      · cases hscan

/-- Moves that start no new search and report no success. -/
theorem Ready.mono (hready : n.Ready) (hscan : n'.mgmt.isScanning = true → n.mgmt.isScanning = true)
    (hreq : ∀ req ∈ n'.toMgmt, req ∈ n.toMgmt ∨ req.isScan = true)
    (hconfirm : ∀ c ∈ n'.toAgent, c ∈ n.toAgent ∨ c.fails = true ∨ c.restarts = false)
    (hknown : ∀ a, known n.mgmt.apList a = true → known n'.mgmt.apList a = true)
    (hauth : ∀ a, authenticated n'.mgmt.apList a = authenticated n.mgmt.apList a) : n'.Ready where
  fresh := fun hsearching a => by rw [hauth, hready.fresh (hsearching.mono hscan hreq hconfirm)]
  found := fun rc bss h d hd => by
    rcases hconfirm _ h with hold | hfails | hrestarts
    · exact hknown _ (hready.found rc bss hold d hd)
    · cases hfails
    · cases hrestarts
  chosen := fun a t h => by
    rcases hreq _ h with hold | hscan
    · exact hknown _ (hready.chosen a t hold)
    · cases hscan
  accepted := fun a h => by
    rcases hconfirm _ h with hold | hfails | hrestarts
    · rw [hauth, hready.accepted a hold]
    · cases hfails
    · cases hrestarts
  wanted := fun a t h => by
    rcases hreq _ h with hold | hscan
    · rw [hauth, hready.wanted a t hold]
    · cases hscan

/-- A move that writes to an entry but not to its authentication flag. -/
theorem Ready.updateAP (hready : n.Ready) {a : MacAddress} {ap : ApInfo} {f : ApInfo → ApInfo}
    (hap : lookupKey ApInfo.address a n.mgmt.apList = some ap)
    (hmgmt : n'.mgmt = n.mgmt.updateAP a f) (hf : ∀ ap, (f ap).address = ap.address)
    (hflag : (f ap).isAuthenticated = ap.isAuthenticated)
    (hreq : ∀ req ∈ n'.toMgmt, req ∈ n.toMgmt ∨ req.isScan = true)
    (hconfirm : ∀ c ∈ n'.toAgent, c ∈ n.toAgent ∨ c.fails = true ∨ c.restarts = false) :
    n'.Ready := by
  refine hready.mono (fun h => by rwa [hmgmt] at h) hreq hconfirm (fun b hb => ?_) fun b => ?_
  · rw [hmgmt]
    exact (known_update hf hap b).trans hb
  · rw [hmgmt]
    refine (authenticated_update hf hap b).trans ?_
    split
    · rename_i heq
      rw [heq, hflag, authenticated_of_lookup hap]
    · rfl

private theorem mem_append_or {α : Type} {P : α → Prop} {l : List α} {a : α} (ha : P a) :
    ∀ x ∈ l ++ [a], x ∈ l ∨ P x := by
  intro x hx
  rcases List.mem_append.mp hx with hold | hnew
  · exact .inl hold
  · rw [List.mem_singleton.mp hnew]
    exact .inr ha

private theorem mem_tail_or {α : Type} {P : α → Prop} {l rest : List α} {a : α}
    (h : l = a :: rest) : ∀ x ∈ rest, x ∈ l ∨ P x := by
  intro x hx
  rw [h]
  exact .inl (.tail _ hx)

private theorem ready_scan {ctrl : ScanRequest} (hat : n.At (.requesting (.scan ctrl))) :
    ({ n with toMgmt := [], mgmt := n.mgmt.scanStarted ctrl } : Nic).Ready where
  fresh := by simp
  found := fun rc bss h => by cases hat.restarts_eq_false rfl h
  chosen := nofun
  accepted := fun a h => by cases hat.restarts_eq_false rfl h
  wanted := nofun

private theorem ready_confirmed {c : Confirm} {rest : List Confirm} (hready : n.Ready)
    (hat : n.At ph) (hq : n.toAgent = c :: rest) (hc : c.restarts = true) :
    ({ n with
        toAgent := rest
        toMgmt := n.toMgmt ++ [c.answer p]
        lastAssociateRequest := (c.answer p).associate?.or n.lastAssociateRequest } : Nic).Ready := by
  have hagent := hat.toAgent
  rw [hq, List.filter_cons_of_pos hc] at hagent
  obtain ⟨rfl, hrest⟩ := Phase.toAgent_eq_cons hagent.symm
  have hreqs : n.toMgmt = [] := hat.toMgmt
  have hmem : c ∈ n.toAgent := by simp [hq]
  have hlate : ∀ c' ∈ rest, c'.restarts = false := by
    simpa [List.filter_eq_nil_iff] using hrest
  -- the confirms that are left are not answered; the answer is the only request
  have hanswer : ∀ req ∈ n.toMgmt ++ [c.answer p], req = c.answer p := by
    simp [hreqs]
  refine ⟨fun hsearching => ?_, fun rc bss h => ?_, fun a t h => ?_, fun a h => ?_, fun a t h => ?_⟩
  · cases hsearching with
    | scanning h => cases hat.isScanning h
    | confirm rc bss h => cases hlate _ h
    | request a t h =>
        obtain ⟨rc, bss, rfl⟩ := Confirm.eq_scan_of_answer (hanswer _ h).symm
        exact hready.fresh (.confirm rc bss hmem)
  · cases hlate _ h
  · obtain ⟨rc, bss, rfl⟩ := Confirm.eq_scan_of_answer (hanswer _ h).symm
    obtain ⟨d, hd, rfl⟩ := Confirm.mem_of_answer (hanswer _ h).symm
    exact hready.found rc bss hmem d hd
  · cases hlate _ h
  · obtain rfl := Confirm.eq_authenticate_of_answer (hanswer _ h).symm
    exact hready.accepted a hmem

private theorem ready_authEnded {a : MacAddress} {ap : ApInfo} {g : ApInfo → ApInfo}
    {rc : PrimResultCode} (hat : n.At (.authenticating a))
    (hap : lookupKey ApInfo.address a n.mgmt.apList = some ap)
    (haddress : ∀ ap, (g ap).address = ap.address)
    (hresult : (g ap).isAuthenticated = true ↔ rc = .PRC_SUCCESS) :
    ({ n with mgmt := n.mgmt.updateAP a g, toAgent := n.toAgent ++ [.authenticate rc a] } :
      Nic).Ready := by
  have hreqs : n.toMgmt = [] := hat.toMgmt
  -- the only confirm that the agent answers is the new one
  have hconfirm : ∀ c ∈ n.toAgent ++ [.authenticate rc a], c.restarts = true →
      c = .authenticate rc a := by
    intro c hc hrestarts
    rcases List.mem_append.mp hc with hold | hnew
    · simp [hat.restarts_eq_false rfl hold] at hrestarts
    · exact List.mem_singleton.mp hnew
  refine ⟨fun hsearching => ?_, fun rc bss h => ?_, fun b t h => ?_, fun b h => ?_, fun b t h => ?_⟩
  · cases hsearching with
    | scanning h => cases hat.isScanning h
    | confirm rc bss h => cases hconfirm _ h rfl
    | request b t h => simp [hreqs] at h
  · cases hconfirm _ h rfl
  · simp [hreqs] at h
  · obtain ⟨rfl, rfl⟩ := Confirm.authenticate.inj (hconfirm _ h rfl)
    refine (authenticated_update haddress hap b).trans ?_
    rw [if_pos rfl]
    exact hresult.mpr rfl
  · simp [hreqs] at h

private theorem ready_scanDone {timers : List ScanTimer} (hat : n.At .scanning)
    (hfresh : ∀ a, authenticated n.mgmt.apList a = false) :
    ({ n with
        mgmt := ({ n.mgmt with scanTimers := timers } : MgmtSta).finishScan
        toAgent := n.toAgent ++ [.scan .PRC_SUCCESS (n.mgmt.apList.map MgmtSta.bssDescription)] } :
      Nic).Ready := by
  have hreqs : n.toMgmt = [] := hat.toMgmt
  have hconfirm : ∀ c ∈ n.toAgent ++
      [.scan .PRC_SUCCESS (n.mgmt.apList.map MgmtSta.bssDescription)], c.restarts = true →
      c = .scan .PRC_SUCCESS (n.mgmt.apList.map MgmtSta.bssDescription) := by
    intro c hc hrestarts
    rcases List.mem_append.mp hc with hold | hnew
    · simp [hat.restarts_eq_false rfl hold] at hrestarts
    · exact List.mem_singleton.mp hnew
  refine ⟨fun _ => hfresh, fun rc bss h d hd => ?_, fun b t h => ?_, fun b h => ?_, fun b t h => ?_⟩
  · obtain ⟨-, rfl⟩ := Confirm.scan.inj (hconfirm _ h rfl)
    obtain ⟨ap, hap, rfl⟩ := List.mem_map.mp hd
    exact known_of_mem hap
  · simp [hreqs] at h
  · cases hconfirm _ h rfl
  · simp [hreqs] at h

private theorem ready_deauthenticated {a : MacAddress} {ap : ApInfo} (hready : n.Ready)
    (hap : lookupKey ApInfo.address a n.mgmt.apList = some ap)
    (hother : n.aboutToAssociate a = false) :
    ({ n with mgmt := n.mgmt.updateAP a fun ap => { ap with isAuthenticated := false } } :
      Nic).Ready := by
  have hauth := fun b => authenticated_update (f := fun ap => { ap with isAuthenticated := false })
    (fun _ => rfl) hap b
  have hknown := fun b => known_update (f := fun ap => { ap with isAuthenticated := false })
    (fun _ => rfl) hap b
  rw [aboutToAssociate, Bool.or_eq_false_iff] at hother
  refine ⟨fun hsearching b => ?_, fun rc bss h d hd => ?_, fun b t h => ?_, fun b h => ?_,
    fun b t h => ?_⟩
  · refine (hauth b).trans ?_
    split
    · rfl
    · exact hready.fresh (hsearching.mono id (fun _ h => .inl h) fun _ h => .inl h) b
  · exact (hknown _).trans (hready.found rc bss h d hd)
  · exact (hknown b).trans (hready.chosen b t h)
  · refine (hauth b).trans ?_
    rw [if_neg ?_]
    · exact hready.accepted b h
    · rintro rfl
      simp [h] at hother
  · refine (hauth b).trans ?_
    rw [if_neg ?_]
    · exact hready.wanted b t h
    · rintro rfl
      have hnone := List.any_eq_false.mp hother.2 _ h
      simp [Request.associate?] at hnone

theorem Ready.move (hn : n.Sound p) (hat : n.At ph) (hready : n.Ready)
    (hguard : n.StaysDisciplined e) (hmove : Move p n e n' signals) : n'.Ready := by
  have hsame : ∀ req ∈ n.toMgmt, req ∈ n.toMgmt ∨ req.isScan = true := fun _ h => .inl h
  have hkeep : ∀ c ∈ n.toAgent, c ∈ n.toAgent ∨ c.fails = true ∨ c.restarts = false :=
    fun _ h => .inl h
  cases hmove with
  | startUp h => exact hready.mono id (mem_append_or rfl) hkeep (fun _ h => h) fun _ => rfl
  | scan hq hidle =>
      obtain ⟨rfl, rfl⟩ := hat.requesting_of_cons hq
      exact ready_scan hat
  | authenticate hq hap htimer hnot =>
      exact hready.updateAP hap rfl (fun _ => rfl) rfl (mem_tail_or hq) hkeep
  | associate hq hap hauth hnot hnone =>
      exact hready.mono id (mem_tail_or hq) hkeep (fun _ h => h) fun _ => rfl
  | foreign hq hreq => exact absurd hreq (hn.not_foreign hq)
  | confirmed hq hc => exact ready_confirmed hready hat hq hc
  | associated hq => exact hready.mono id hsame (mem_tail_or hq) (fun _ h => h) fun _ => rfl
  | reassociated hq => exact hready.mono id hsame (mem_tail_or hq) (fun _ h => h) fun _ => rfl
  | ignored f => exact hready
  | authMore hbody hap hseq => exact hready.updateAP hap rfl (fun _ => rfl) rfl hsame hkeep
  | authEnded hbody hap htimer hnot hend haddress hdone hresult =>
      obtain rfl := hat.authenticating_of_end hguard.1 hbody hap htimer hend
      exact ready_authEnded hat hap haddress hresult
  | deauthCancelled hbody hap hauth htimer =>
      exact hready.updateAP hap rfl (fun _ => rfl) rfl hsame hkeep
  | deauthenticated hbody hap hauth htimer =>
      have hother := hguard.2
      simp only [hbody] at hother
      exact ready_deauthenticated hready hap hother
  | assocRefused hbody hx hap hstatus =>
      refine hready.mono (fun h => ?_) hsame (mem_append_or (.inl rfl)) (fun a ha => ?_) fun a => ?_
      · exact (n.mgmt.breakAssociation_isScanning).symm.trans h
      · exact (congrArg (known · a) n.mgmt.breakAssociation_apList).trans ha
      · exact congrArg (authenticated · a) n.mgmt.breakAssociation_apList
  | assocDone hbody hx hap =>
      refine hready.mono (fun h => ?_) hsame (mem_append_or (.inr rfl)) (fun a ha => ?_) fun a => ?_
      · exact (n.mgmt.breakAssociation_isScanning).symm.trans h
      · exact (congrArg (known · a) n.mgmt.breakAssociation_apList).trans ha
      · exact congrArg (authenticated · a) n.mgmt.breakAssociation_apList
  | disassocIgnored hbody hother => exact hready.mono id hsame hkeep (fun _ h => h) fun _ => rfl
  | disassociated hbody hassoc haddress =>
      exact hready.mono id hsame hkeep (fun _ h => h) fun _ => rfl
  | stored hsameAuth htimer =>
      exact hready.mono id hsame hkeep hsameAuth.known hsameAuth.authenticated
  | authTimedOut hap htimer =>
      exact hready.updateAP hap rfl (fun _ => rfl) rfl hsame (mem_append_or (.inl rfl))
  | assocTimedOut hx hmsg =>
      exact hready.mono id hsame (mem_append_or (.inl rfl)) (fun _ h => h) fun _ => rfl
  | scanTimerReplaced ht => exact hready.mono id hsame hkeep (fun _ h => h) fun _ => rfl
  | nextChannel ht hnext => exact hready.mono id hsame hkeep (fun _ h => h) fun _ => rfl
  | scanDone ht hlast =>
      have hscan := (hn.mgmt.eraseIdx_scanTimers ht).1
      obtain rfl := hat.isScanning hscan
      exact ready_scanDone hat (hready.fresh (.scanning hscan))
  | beaconLost htimer => exact hready.mono id (mem_append_or rfl) hkeep (fun _ h => h) fun _ => rfl
  | reception busy =>
      unfold MgmtSta.receiveReceptionState
      split
      · exact hready.mono id hsame hkeep (fun _ h => h) fun _ => rfl
      · exact hready

/-- None of the causes of a runtime error is present. -/
theorem Ready.not_fault (hn : n.Sound p) (hat : n.At ph) (hready : n.Ready)
    (hguard : n.StaysDisciplined e) : ¬ Fault n e := by
  intro hfault
  cases hfault with
  | scanInProgress hq h =>
      obtain ⟨rfl, -⟩ := hat.requesting_of_cons hq
      cases hat.isScanning h
  | @scanAsserts ctrl rest hq h =>
      have hissued := hn.issued _ (by rw [hq]; exact .head _)
      obtain rfl := Request.scan.inj (show Request.scan ctrl = p.scanRequest from hissued)
      rcases h with htype | htime
      · exact htype rfl
      · exact absurd p.minChannelTime_le (Nat.not_le.mpr htime)
  | authenticateUnknown hq h => simp [hready.chosen _ _ (by rw [hq]; exact .head _)] at h
  | authenticateBusy hq h =>
      obtain ⟨rfl, -⟩ := hat.requesting_of_cons hq
      rcases h with htimer | hauth
      · exact htimer (hat.authTimer_eq_none rfl nofun)
      · simp [hready.fresh (.request _ _ (by rw [hq]; exact .head _))] at hauth
  | associateBusy hq h =>
      obtain ⟨rfl, -⟩ := hat.requesting_of_cons hq
      rcases h with hassociated | hpending
      · simp [hat.not_associated rfl nofun] at hassociated
      · exact hpending (hat.assocTimeoutMsg_eq_none rfl nofun)
  | associateNotAuthenticated hq h => simp [hready.wanted _ _ (by rw [hq]; exact .head _)] at h
  | foreign hq h => exact hn.not_foreign hq h
  | unrecognized hq => exact (hn.sent_of_cons hq).1
  | responseFromUnknown hbody hpending h =>
      have hlisted := hguard.2
      simp only [hbody] at hlisted
      simp [hlisted hpending] at h
  | beaconAsserts hbody hassociated h => exact hn.mgmt.supervised.mp hassociated h
  | channelRange ht h hlast =>
      have hlt := hn.mgmt.index_lt
      have hge := hn.mgmt.index_ge
      omega

/-- In a run whose steps all stay disciplined, no runtime error is reached. -/
theorem no_runtime_error (p : AgentParams) (numChannels : Nat) (es : List Event) {k : Halt}
    (hguard : Along (next p) StaysDisciplined (initial numChannels) es)
    (hrun : run (next p) (initial numChannels) es = .error k) : k.isFailure = false := by
  rw [← Bool.not_eq_true]
  refine run_never_halts (I := fun n : Nic => n.Sound p ∧ n.Ready ∧ ∃ ph, n.At ph)
    (B := fun k => k.isFailure = true) ?_ ?_
    ⟨sound_initial numChannels, ?_, .starting, at_initial numChannels⟩ hguard hrun
  · rintro n e n' ⟨hn, hready, ph, hat⟩ hguard hnext
    obtain ⟨signals, hmove⟩ := move_of_next hnext
    exact ⟨hn.move hmove, hready.move hn hat hguard hmove, hat.move hn hguard.1 hmove⟩
  · rintro n e k ⟨hn, hready, ph, hat⟩ hguard hnext hk
    refine hready.not_fault hn hat hguard (fault_of_step (p := p) (k := k) ?_ hk)
    unfold next at hnext
    cases hstep : n.step p e with
    | error k' => simpa [hstep, Except.map] using hnext
    | ok r => simp [hstep, Except.map] at hnext
  · exact ⟨fun _ _ => rfl, nofun, nofun, nofun, nofun⟩

theorem no_runtime_error_sample : Halt.notEnabled.isFailure = false :=
  no_runtime_error sampleParams 1 (untilAssociated 1 ++ [.startUp]) (by decide +kernel)
    (by decide +kernel)

/-- The answer of access point `1` arrives with the timeout of the authentication. -/
def crossingRun : List Event :=
  .startUp :: (scanFinding 1 ++
    [.deliverConfirm, .deliverRequest, .authTimeout 1,
      frameOf 1 (.authentication 2 SC_SUCCESSFUL true),
      .deliverConfirm, .deliverConfirm, .deliverRequest, .deliverRequest])

theorem runtime_error_after_crossing :
    ¬ ∀ (p : AgentParams) (numChannels : Nat) (es : List Event) (k : Halt),
      run (next p) (initial numChannels) es = .error k → k.isFailure = false := by
  intro h
  have hrun : run (next sampleParams) (initial 1) crossingRun = .error (.cRuntimeError
      "processAssociateCommand: AP not known: address = 00-00-00-00-00-01") := by
    decide +kernel
  cases h sampleParams 1 crossingRun _ hrun

end Nic

end MultiTechBus.Ieee80211
