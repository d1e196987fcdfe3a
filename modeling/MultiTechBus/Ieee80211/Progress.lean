import MultiTechBus.Ieee80211.Sound

/-! # Whether a station can come to rest

Every handler that ends what keeps the station going starts something else, save
for the one for Disassociation frames.
-/

namespace MultiTechBus.Ieee80211

open MultiTechBus.Library

def MgmtSta.isSupervised (m : MgmtSta) : Bool :=
  m.mib.isAssociated && m.assocAP.beaconTimeoutMsg.any TimerMsg.isScheduled

namespace Nic

/-- Something that the two modules will still act on. -/
def hasProgressItem (n : Nic) : Bool :=
  n.agent.startUp || !n.toMgmt.isEmpty || !n.toAgent.isEmpty || !n.mgmt.scanTimers.isEmpty ||
    n.mgmt.apList.any (fun ap => ap.authTimeoutMsg.any TimerMsg.isScheduled) ||
    n.mgmt.assocTimeoutMsg.any fun x => x.msg.isScheduled

/-- What keeps the station going whatever frame arrives. -/
inductive Underway (n : Nic) : Prop
  | startUp (h : n.agent.startUp = true)
  | request (h : n.toMgmt ≠ [])
  | confirm (c : Confirm) (hc : c ∈ n.toAgent) (h : c.restarts = true)
  | scanTimer (h : n.mgmt.scanTimers ≠ [])
  | authTimeout (a : MacAddress) (d : SimTime) (h : authTimer n.mgmt.apList a = some (.scheduled d))

inductive Going (n : Nic) : Prop
  | underway (h : n.Underway)
  | associating (x : AssocTimeout) (d : SimTime) (hx : n.mgmt.assocTimeoutMsg = some x)
      (h : x.msg = .scheduled d)
  | supervised (h : n.mgmt.isSupervised = true)

/-- A Disassociation frame finds more to keep the station going than what it cancels:
a pending association, or the association with its sender. -/
def KeepsGoing (n : Nic) (e : Event) : Prop :=
  match e with
  | .frame f =>
      match f.body with
      | .disassociation _ =>
          n.Underway ∨ n.mgmt.isSupervised = true ∧ f.address3 ≠ n.mgmt.assocAP.address
      | _ => True
  | _ => True

variable {p : AgentParams} {n n' : Nic} {e : Event} {signals : List Bool}

theorem Underway.mono (h : n.Underway) (hstart : n.agent.startUp = n'.agent.startUp)
    (hreq : n.toMgmt = n'.toMgmt) (hconfirm : ∀ c ∈ n.toAgent, c.restarts = true → c ∈ n'.toAgent)
    (hscan : n.mgmt.scanTimers = n'.mgmt.scanTimers)
    (hauth : ∀ a, authTimer n'.mgmt.apList a = authTimer n.mgmt.apList a) : n'.Underway := by
  cases h with
  | startUp h => exact .startUp (hstart ▸ h)
  | request h => exact .request (hreq ▸ h)
  | confirm c hc h => exact .confirm c (hconfirm c hc h) h
  | scanTimer h => exact .scanTimer (hscan ▸ h)
  | authTimeout a d h => exact .authTimeout a d (by rw [hauth, h])

theorem Going.of_confirm {l : List Confirm} {c : Confirm} (h : n.toAgent = l ++ [c])
    (hc : c.restarts = true) : n.Going :=
  .underway (.confirm c (by simp [h]) hc)

/-- A move that only writes to an entry and leaves its timer alone. -/
theorem Going.updateAP (hgoing : n.Going) {a : MacAddress} {ap : ApInfo} {f : ApInfo → ApInfo}
    (hap : lookupKey ApInfo.address a n.mgmt.apList = some ap)
    (hf : ∀ ap, (f ap).address = ap.address) (htimer : (f ap).authTimeoutMsg = ap.authTimeoutMsg) :
    ({ n with mgmt := n.mgmt.updateAP a f } : Nic).Going := by
  have hauth : ∀ b, authTimer (n.mgmt.updateAP a f).apList b = authTimer n.mgmt.apList b := by
    intro b
    refine (authTimer_update hf hap b).trans ?_
    split
    · rename_i hb
      rw [hb, htimer, authTimer_of_lookup hap]
    · rfl
  cases hgoing with
  | underway h => exact .underway (h.mono rfl rfl (fun _ hc _ => hc) rfl hauth)
  | associating x d hx h => exact .associating x d hx h
  | supervised h => exact .supervised h

def HasChannels (p : AgentParams) (n : Nic) : Prop := p.channelsToScan ≠ [] ∨ 0 < n.mgmt.numChannels

theorem HasChannels.channelsOf_ne_nil (h : n.HasChannels p) {ctrl : ScanRequest}
    (hctrl : Request.scan ctrl = p.scanRequest) : n.mgmt.channelsOf ctrl ≠ [] := by
  obtain rfl := Request.scan.inj hctrl
  unfold MgmtSta.channelsOf
  split
  · rename_i hnil
    rcases h with hne | hpos
    · exact absurd hnil hne
    · simpa [List.range_eq_nil] using Nat.ne_of_gt hpos
  · assumption

theorem numChannels_move (hn : n.Sound p) (hmove : Move p n e n' signals) :
    n'.mgmt.numChannels = n.mgmt.numChannels := by
  cases hmove with
  | foreign hq hreq => exact absurd hreq (hn.not_foreign hq)
  | scan hq hidle =>
      unfold MgmtSta.scanStarted MgmtSta.endAssociation
      split <;> split <;> rfl
  | assocRefused hbody hx hap hstatus =>
      unfold MgmtSta.breakAssociation
      split <;> rfl
  | assocDone hbody hx hap =>
      unfold MgmtSta.breakAssociation
      split <;> rfl
  | reception busy =>
      unfold MgmtSta.receiveReceptionState
      split <;> rfl
  | _ => rfl

/-- A move keeps the station going, unless it is a Disassociation frame that ends the
last thing that did. -/
theorem Going.move (hn : n.Sound p) (hchannels : n.HasChannels p) (hgoing : n.Going)
    (hguard : n.KeepsGoing e) (hmove : Move p n e n' signals) : n'.Going := by
  cases hmove with
  | startUp h => exact .underway (.request (by simp))
  | scan hq hidle =>
      have hissued := hn.issued _ (by rw [hq]; exact .head _)
      refine .underway (.scanTimer ?_)
      simp [MgmtSta.scanStarted, hchannels.channelsOf_ne_nil hissued, MgmtSta.tuneToNext]
  | @authenticate a t rest ap hq hap htimer hnot =>
      refine .underway (.authTimeout a t ?_)
      refine (authTimer_update ?_ hap a).trans (if_pos rfl)
      exact fun _ => rfl
  | associate hq hap hauth hnot hnone => exact .associating _ _ rfl rfl
  | foreign hq hreq => exact absurd hreq (hn.not_foreign hq)
  | confirmed hq hc => exact .underway (.request (by simp))
  | associated hq =>
      -- the confirm that goes is one that the agent does not answer
      cases hgoing with
      | underway h =>
          refine .underway (h.mono ?_ rfl (fun c hc hrestarts => ?_) rfl fun _ => rfl)
          · unfold AgentSta.processAssociateConfirm
            split
            · rfl
            · split <;> rfl
          · rw [hq] at hc
            rcases List.mem_cons.mp hc with rfl | hrest
            · cases hrestarts
            · exact hrest
      | associating x d hx h => exact .associating x d hx h
      | supervised h => exact .supervised h
  | reassociated hq => exact False.elim (hn.sent_of_cons hq).1
  | ignored f => exact hgoing
  | authMore hbody hap hseq => exact hgoing.updateAP hap (fun _ => rfl) rfl
  | authEnded hbody hap htimer hnot hend haddress hdone hresult =>
      exact .of_confirm rfl rfl
  | deauthCancelled hbody hap hauth htimer =>
      rw [← authTimer_of_lookup hap] at htimer
      rw [← authenticated_of_lookup hap, hn.mgmt.pending _ htimer] at hauth
      cases hauth
  | deauthenticated hbody hap hauth htimer => exact hgoing.updateAP hap (fun _ => rfl) rfl
  | assocRefused hbody hx hap hstatus => exact .of_confirm rfl rfl
  | assocDone hbody hx hap => exact .supervised rfl
  | disassocIgnored hbody hother =>
      simp only [KeepsGoing, hbody] at hguard
      rcases hguard with h | ⟨h, -⟩
      · exact .underway (h.mono rfl rfl (fun _ hc _ => hc) rfl fun _ => rfl)
      · exact .supervised h
  | disassociated hbody hassoc haddress =>
      simp only [KeepsGoing, hbody] at hguard
      rcases hguard with h | ⟨-, hne⟩
      · exact .underway (h.mono rfl rfl (fun _ hc _ => hc) rfl fun _ => rfl)
      · exact absurd haddress hne
  | stored hsame htimer =>
      cases hgoing with
      | underway h => exact .underway (h.mono rfl rfl (fun _ hc _ => hc) rfl hsame.authTimer)
      | associating x d hx h => exact .associating x d hx h
      | supervised h =>
          refine .supervised ?_
          rcases htimer with rfl | ⟨hne, d, rfl⟩
          · exact h
          · rw [MgmtSta.isSupervised, Bool.and_eq_true] at h ⊢
            exact ⟨h.1, rfl⟩
  | authTimedOut hap htimer => exact .of_confirm rfl rfl
  | assocTimedOut hx hmsg => exact .of_confirm rfl rfl
  | scanTimerReplaced ht => exact .underway (.scanTimer (by simp))
  | nextChannel ht hnext => exact .underway (.scanTimer (by simp [MgmtSta.tuneToNext]))
  | scanDone ht hlast => exact .of_confirm rfl rfl
  | beaconLost htimer => exact .underway (.request (by simp))
  | reception busy =>
      unfold MgmtSta.receiveReceptionState
      split
      · cases hgoing with
        | underway h => exact .underway (h.mono rfl rfl (fun _ hc _ => hc) rfl fun _ => rfl)
        | associating x d hx h => exact .associating x d hx h
        | supervised h => exact .supervised h
      · exact hgoing

theorem Going.hasProgressItem (h : n.Going) :
    n.mgmt.isSupervised = true ∨ n.hasProgressItem = true := by
  unfold Nic.hasProgressItem
  cases h with
  | underway h =>
      cases h with
      | startUp h => simp [h]
      | request h => simp [h]
      | confirm c hc h => simp [List.ne_nil_of_mem hc]
      | scanTimer h => simp [h]
      | authTimeout a d h =>
          obtain ⟨ap, hap, htimer⟩ := Option.bind_eq_some_iff.mp h
          have hany : n.mgmt.apList.any (fun ap => ap.authTimeoutMsg.any TimerMsg.isScheduled) =
              true :=
            List.any_eq_true.mpr
              ⟨ap, List.mem_of_find?_eq_some hap, by simp [htimer, TimerMsg.isScheduled]⟩
          simp [hany]
  | associating x d hx h => simp [hx, h, TimerMsg.isScheduled]
  | supervised h => exact .inl h

/-- Unless a Disassociation frame ends the last thing that keeps it going, a station is
associated under supervision or has a progress item, in every state of every run. -/
theorem never_at_rest (p : AgentParams) (numChannels : Nat)
    (hchannels : (initial numChannels).HasChannels p) (es : List Event)
    (hguard : Along (next p) KeepsGoing (initial numChannels) es)
    (hrun : run (next p) (initial numChannels) es = .ok n) :
    n.mgmt.isSupervised = true ∨ n.hasProgressItem = true := by
  refine Going.hasProgressItem (run_invariant (I := fun n => n.Sound p ∧ n.HasChannels p ∧ n.Going)
    ?_ ⟨sound_initial numChannels, hchannels, .underway (.startUp rfl)⟩ hguard hrun).2.2
  intro n e n' hinv hguard hnext
  obtain ⟨hn, hchannels, hgoing⟩ := hinv
  obtain ⟨signals, hmove⟩ := move_of_next hnext
  refine ⟨hn.move hmove, ?_, hgoing.move hn hchannels hguard hmove⟩
  unfold HasChannels
  rw [numChannels_move hn hmove]
  exact hchannels

theorem never_at_rest_sample :
    ∃ n, run (next sampleParams) (initial 1) (untilAssociated 1) = .ok n ∧
      (n.mgmt.isSupervised = true ∨ n.hasProgressItem = true) := by
  have hok : (run (next sampleParams) (initial 1) (untilAssociated 1)).toOption.map
      (fun n => n.mgmt.isSupervised) = some true := by
    decide +kernel
  have hguard : ∀ e ∈ untilAssociated 1, ∀ n : Nic, n.KeepsGoing e := by
    simp [untilAssociated, untilAssociating, scanFinding, authentication, associationRequest,
      sampleBeacon, frameOf, KeepsGoing]
  obtain ⟨n, hrun, -⟩ := exists_of_run_map hok
  exact ⟨n, hrun, never_at_rest sampleParams 1 (.inl (by decide)) _
    (along_of_forall_mem hguard _) hrun⟩

/-- The association with access point `1` is pending when it sends a Disassociation. -/
def restingRun : List Event := untilAssociating 1 ++ [frameOf 1 (.disassociation 8)]

theorem rests_after_disassociation :
    ¬ ∀ (p : AgentParams) (numChannels : Nat), (initial numChannels).HasChannels p →
      ∀ (es : List Event) (n : Nic), run (next p) (initial numChannels) es = .ok n →
        n.mgmt.isSupervised = true ∨ n.hasProgressItem = true := by
  intro h
  have hrest : (run (next sampleParams) (initial 1) restingRun).toOption.map
      (fun n => n.mgmt.isSupervised || n.hasProgressItem) = some false := by
    decide +kernel
  obtain ⟨n, hrun, hn⟩ := exists_of_run_map hrest
  have hprogress := h sampleParams 1 (.inl (by decide)) restingRun n hrun
  rw [← Bool.or_eq_true, hn] at hprogress
  cases hprogress

end Nic

end MultiTechBus.Ieee80211
