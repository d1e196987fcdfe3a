import MultiTechBus.Ieee80211.Phase

/-! # Whether a station is associated with the access point it asked for

The association, a pending one and a request for one all name the address in the
last AssociateRequest, whose entry stays authenticated, as long as the requested
access point is the one that answers and does not deauthenticate the station.
-/

namespace MultiTechBus.Ieee80211

open MultiTechBus.Library

namespace Nic

/-- The frame does not accept for another access point, nor revoke the authentication
with the one of the last AssociateRequest. -/
def StaysFaithful (n : Nic) (e : Event) : Prop :=
  n.StaysSingle e ∧
    match e with
    | .frame f =>
        match f.body with
        | .associationResponse status =>
            status = SC_SUCCESSFUL →
              n.mgmt.assocTimeoutMsg.all (fun x => x.contextPointer == f.transmitterAddress) = true
        | .deauthentication _ =>
            n.mgmt.mib.isAssociated = true ∨ n.mgmt.assocTimeoutMsg ≠ none →
              n.lastAssociateRequest ≠ some f.address3
        | _ => True
    | _ => True

instance (n : Nic) (e : Event) : Decidable (n.StaysFaithful e) :=
  match e with
  | .frame ⟨_, _, body, _⟩ =>
      match body with
      | .associationResponse _ => inferInstanceAs (Decidable (_ ∧ (_ → _)))
      | .deauthentication _ => inferInstanceAs (Decidable (_ ∧ (_ ∨ _ → _)))
      | .authentication .. | .associationRequest | .reassociationRequest | .reassociationResponse _
      | .disassociation _ | .beacon _ | .probeRequest _ | .probeResponse _ =>
          inferInstanceAs (Decidable (_ ∧ True))
  | .startUp | .deliverRequest | .deliverConfirm | .authTimeout _ | .assocTimeout | .scanTimer _
  | .beaconTimeout | .receptionState _ => inferInstanceAs (Decidable (_ ∧ True))

/-- An association, a pending one and a request for one go back to the last
AssociateRequest. -/
structure Faithful (n : Nic) : Prop where
  associated : n.mgmt.mib.isAssociated = true →
    n.lastAssociateRequest = some n.mgmt.mib.bssid ∧
      authenticated n.mgmt.apList n.mgmt.mib.bssid = true
  pending : ∀ x, n.mgmt.assocTimeoutMsg = some x →
    n.lastAssociateRequest = some x.contextPointer ∧
      authenticated n.mgmt.apList x.contextPointer = true
  wanted : ∀ a t, .associate a t ∈ n.toMgmt → n.lastAssociateRequest = some a

variable {p : AgentParams} {n n' : Nic} {e : Event} {signals : List Bool} {ph : Phase}

theorem faithful_initial (numChannels : Nat) : (initial numChannels).Faithful :=
  ⟨nofun, nofun, nofun⟩

namespace Faithful

/-- A station that neither is nor wants to be associated. -/
theorem of_none (hnot : n.mgmt.mib.isAssociated = false) (hnone : n.mgmt.assocTimeoutMsg = none)
    (hreq : ∀ a t, .associate a t ∈ n.toMgmt → n.lastAssociateRequest = some a) : n.Faithful where
  associated := fun h => by rw [hnot] at h; cases h
  pending := fun x h => by rw [hnone] at h; cases h
  wanted := hreq

theorem setApList (h : n.Faithful) {l : List ApInfo}
    (hauth : ∀ a, authenticated n.mgmt.apList a = true → n.lastAssociateRequest = some a →
      n.mgmt.mib.isAssociated = true ∨ n.mgmt.assocTimeoutMsg ≠ none → authenticated l a = true) :
    ({ n with mgmt := { n.mgmt with apList := l } } : Nic).Faithful where
  associated := fun hassociated =>
    have hold := h.associated hassociated
    ⟨hold.1, hauth _ hold.2 hold.1 (.inl hassociated)⟩
  pending := fun x hx =>
    have hold := h.pending x hx
    ⟨hold.1, hauth _ hold.2 hold.1 (.inr (by rw [hx]; nofun))⟩
  wanted := h.wanted

/-- A write to an entry that keeps its authentication flag, with no new request. -/
theorem updateAP (h : n.Faithful) {a : MacAddress} {ap : ApInfo} {f : ApInfo → ApInfo}
    (hap : lookupKey ApInfo.address a n.mgmt.apList = some ap)
    (hmgmt : n'.mgmt = n.mgmt.updateAP a f) (hf : ∀ ap, (f ap).address = ap.address)
    (hflag : (f ap).isAuthenticated = ap.isAuthenticated)
    (hlast : n'.lastAssociateRequest = n.lastAssociateRequest)
    (hreq : ∀ req ∈ n'.toMgmt, req ∈ n.toMgmt) : n'.Faithful := by
  have hauth : ∀ b, authenticated n'.mgmt.apList b = authenticated n.mgmt.apList b := by
    intro b
    rw [hmgmt]
    refine (authenticated_update hf hap b).trans ?_
    split
    · rename_i heq
      rw [hflag, ← authenticated_of_lookup hap, ← heq]
    · rfl
  refine ⟨fun hassociated => ?_, fun x hx => ?_, fun b t hb => ?_⟩
  · rw [hlast, hauth]
    rw [hmgmt] at hassociated ⊢
    exact h.associated hassociated
  · rw [hlast, hauth]
    rw [hmgmt] at hx
    exact h.pending x hx
  · rw [hlast]
    exact h.wanted b t (hreq _ hb)

theorem setToMgmt (h : n.Faithful) {reqs : List Request}
    (hreq : ∀ a t, .associate a t ∈ reqs → .associate a t ∈ n.toMgmt) :
    ({ n with toMgmt := reqs } : Nic).Faithful :=
  { h with wanted := fun a t ha => h.wanted a t (hreq a t ha) }

end Faithful

private theorem associate_mem_append {a : MacAddress} {t : SimTime} {reqs : List Request}
    {req : Request} (hreq : req.isScan = true) (h : .associate a t ∈ reqs ++ [req]) :
    .associate a t ∈ reqs := by
  rcases List.mem_append.mp h with hold | hnew
  · exact hold
  · rw [← List.mem_singleton.mp hnew] at hreq
    cases hreq

private theorem faithful_confirmed {c : Confirm} {rest : List Confirm} (h : n.Faithful)
    (hat : n.At ph) (hq : n.toAgent = c :: rest) (hc : c.restarts = true) :
    ({ n with
        toAgent := rest
        toMgmt := n.toMgmt ++ [c.answer p]
        lastAssociateRequest := (c.answer p).associate?.or n.lastAssociateRequest } :
      Nic).Faithful := by
  have hagent := hat.toAgent
  rw [hq, List.filter_cons_of_pos hc] at hagent
  obtain ⟨rfl, -⟩ := Phase.toAgent_eq_cons hagent.symm
  have hreqs : n.toMgmt = [] := hat.toMgmt
  cases hanswer : (c.answer p).associate? with
  | none =>
      refine { h with wanted := fun a t ha => ?_ }
      rw [hreqs] at ha
      rw [← List.mem_singleton.mp ha] at hanswer
      cases hanswer
  | some a =>
      -- the agent asks for an association only when there is and will be none
      have hfails : (Phase.confirming c).restarting = false := by
        rw [← Bool.not_eq_true]
        intro hfails
        rw [c.answer_eq_scanRequest p hfails] at hanswer
        cases hanswer
      refine .of_none (hat.not_associated hfails nofun) (hat.assocTimeoutMsg_eq_none hfails nofun) ?_
      intro b t hb
      rw [hreqs] at hb
      rw [← List.mem_singleton.mp hb] at hanswer
      exact hanswer.symm

theorem Faithful.move (hn : n.Sound p) (hat : n.At ph) (h : n.Faithful)
    (hguard : n.StaysFaithful e) (hmove : Move p n e n' signals) : n'.Faithful := by
  cases hmove with
  | startUp hstart => exact { h.setToMgmt fun _ _ => associate_mem_append rfl with }
  | scan hq hidle =>
      obtain ⟨rfl, rfl⟩ := hat.requesting_of_cons hq
      exact .of_none (MgmtSta.scanStarted_isAssociated ..) (hn.mgmt.scanStarted_assocTimeoutMsg _)
        fun _ _ h => nomatch h
  | authenticate hq hap htimer hnot =>
      obtain ⟨rfl, rfl⟩ := hat.requesting_of_cons hq
      exact h.updateAP hap rfl (fun _ => rfl) rfl rfl (by simp)
  | associate hq hap hauth hnot hnone =>
      obtain ⟨rfl, rfl⟩ := hat.requesting_of_cons hq
      refine ⟨fun hassociated => ?_, fun x hx => ?_, nofun⟩
      · cases hnot.symm.trans hassociated
      · obtain rfl := Option.some.inj hx
        exact ⟨h.wanted _ _ (by rw [hq]; exact .head _), (authenticated_of_lookup hap).trans hauth⟩
  | foreign hq hreq => exact absurd hreq (hn.not_foreign hq)
  | confirmed hq hc => exact faithful_confirmed h hat hq hc
  | associated hq => exact { h with }
  | reassociated hq => exact { h with }
  | ignored f => exact h
  | authMore hbody hap hseq => exact h.updateAP hap rfl (fun _ => rfl) rfl rfl fun _ h => h
  | authEnded hbody hap htimer hnot hend haddress hdone hresult =>
      obtain rfl := hat.authenticating_of_end hguard.1 hbody hap htimer hend
      exact .of_none (hat.not_associated rfl nofun) (hat.assocTimeoutMsg_eq_none rfl nofun) h.wanted
  | deauthCancelled hbody hap hauth htimer =>
      exact h.updateAP hap rfl (fun _ => rfl) rfl rfl fun _ h => h
  | @deauthenticated f rc ap hbody hap hauth htimer =>
      have hother := hguard.2
      simp only [hbody] at hother
      refine h.setApList fun b hb hlast hneeded => ?_
      refine (authenticated_update ?_ hap b).trans ?_
      · exact fun _ => rfl
      rw [if_neg ?_]
      · exact hb
      · rintro rfl
        exact hother hneeded hlast
  | assocRefused hbody hx hap hstatus =>
      exact .of_none (MgmtSta.breakAssociation_isAssociated _)
        (MgmtSta.breakAssociation_assocTimeoutMsg _) h.wanted
  | @assocDone f x ap hbody hx hap =>
      have hsender := hguard.2
      simp only [hbody, hx, Option.all_some, beq_iff_eq] at hsender
      have hsender := hsender trivial
      have haddress : ap.address = f.transmitterAddress := lookupKey_key hap
      have hpending := h.pending x hx
      refine ⟨fun _ => ?_, nofun, h.wanted⟩
      show n.lastAssociateRequest = some ap.address ∧
        authenticated n.mgmt.breakAssociation.apList ap.address = true
      rw [haddress, ← hsender, MgmtSta.breakAssociation_apList]
      exact hpending
  | disassocIgnored hbody hother => exact { h with pending := nofun }
  | disassociated hbody hassoc haddress => exact { h with associated := nofun, pending := nofun }
  | stored hsame htimer =>
      exact { h.setApList fun a ha _ _ => (hsame.authenticated a).trans ha with }
  | authTimedOut hap htimer => exact h.updateAP hap rfl (fun _ => rfl) rfl rfl fun _ h => h
  | @assocTimedOut x d hx hmsg =>
      refine { h with pending := fun y hy => ?_ }
      obtain rfl := Option.some.inj hy
      exact h.pending x hx
  | scanTimerReplaced ht => exact { h with }
  | nextChannel ht hnext => exact { h with }
  | scanDone ht hlast => exact { h with }
  | beaconLost htimer => exact { h.setToMgmt fun _ _ => associate_mem_append rfl with }
  | reception busy =>
      unfold MgmtSta.receiveReceptionState
      split
      · exact { h with }
      · exact h

/-- In every state of a run whose steps all stay faithful, an associated station is
associated with the access point of the last AssociateRequest, and its entry is
authenticated. -/
theorem associated_as_requested (p : AgentParams) (numChannels : Nat) (es : List Event)
    (hguard : Along (next p) StaysFaithful (initial numChannels) es)
    (hrun : run (next p) (initial numChannels) es = .ok n)
    (hassociated : n.mgmt.mib.isAssociated = true) :
    n.lastAssociateRequest = some n.mgmt.mib.bssid ∧
      authenticated n.mgmt.apList n.mgmt.mib.bssid = true := by
  refine (run_invariant (I := fun n : Nic => n.Sound p ∧ n.Faithful ∧ ∃ ph, n.At ph) ?_
    ⟨sound_initial numChannels, faithful_initial numChannels, .starting, at_initial numChannels⟩
    hguard hrun).2.1.associated hassociated
  rintro n e n' ⟨hn, hfaithful, ph, hat⟩ hguard hnext
  obtain ⟨signals, hmove⟩ := move_of_next hnext
  exact ⟨hn.move hmove, hfaithful.move hn hat hguard hmove, hat.move hn hguard.1 hmove⟩

theorem associated_as_requested_sample :
    ∃ n, run (next sampleParams) (initial 1) (untilAssociated 1) = .ok n ∧
      n.lastAssociateRequest = some n.mgmt.mib.bssid ∧
        authenticated n.mgmt.apList n.mgmt.mib.bssid = true := by
  have hassociated : (run (next sampleParams) (initial 1) (untilAssociated 1)).toOption.map
      (fun n => n.mgmt.mib.isAssociated) = some true := by
    decide +kernel
  obtain ⟨n, hrun, hn⟩ := exists_of_run_map hassociated
  exact ⟨n, hrun, associated_as_requested sampleParams 1 _ (by decide +kernel) hrun hn⟩

/-- The association with access point `1` is pending when access point `2` accepts. -/
def otherAnswersRun : List Event :=
  untilAssociating 1 ++ [sampleBeacon 2, frameOf 2 (.associationResponse SC_SUCCESSFUL)]

theorem associated_with_other :
    ¬ ∀ (p : AgentParams) (numChannels : Nat) (es : List Event) (n : Nic),
      run (next p) (initial numChannels) es = .ok n → n.mgmt.mib.isAssociated = true →
        n.lastAssociateRequest = some n.mgmt.mib.bssid ∧
          authenticated n.mgmt.apList n.mgmt.mib.bssid = true := by
  intro h
  have hother : (run (next sampleParams) (initial 1) otherAnswersRun).toOption.map
      (fun n => (n.mgmt.mib.isAssociated, n.mgmt.mib.bssid, n.lastAssociateRequest)) =
        some (true, 2, some 1) := by
    decide +kernel
  obtain ⟨n, hrun, hn⟩ := exists_of_run_map hother
  simp only [Prod.mk.injEq] at hn
  obtain ⟨hassociated, hbssid, hlast⟩ := hn
  have hsame := (h sampleParams 1 otherAnswersRun n hrun hassociated).1
  rw [hbssid, hlast] at hsame
  exact absurd hsame (by decide)

end Nic

end MultiTechBus.Ieee80211
