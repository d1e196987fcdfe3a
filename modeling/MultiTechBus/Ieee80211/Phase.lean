import MultiTechBus.Ieee80211.Sound

/-! # One operation at a time

The agent and the management entity of a card take turns, as long as no event
starts a second round: a late answer that ends an authentication or an association
whose timeout was already reported, or a loss of beacons while the agent is about
to scan anyway.
-/

namespace MultiTechBus.Ieee80211

open MultiTechBus.Library

/-- Whose turn it is. -/
inductive Phase
  | starting
  | requesting (req : Request)
  | scanning
  | authenticating (address : MacAddress)
  | associating
  | confirming (confirm : Confirm)
  | settled
deriving DecidableEq, Repr

/-- The agent answers this confirm with a scan. -/
def Confirm.fails : Confirm → Bool
  | scan _ _ => false
  | authenticate resultCode _ => resultCode ≠ .PRC_SUCCESS
  | associate resultCode _ => resultCode ≠ .PRC_SUCCESS
  | reassociate resultCode _ => resultCode ≠ .PRC_SUCCESS
  | unrecognized _ => false

def Request.isScan : Request → Bool
  | scan _ => true
  | _ => false

namespace Phase

def toMgmt : Phase → List Request
  | requesting req => [req]
  | _ => []

def toAgent : Phase → List Confirm
  | confirming c => [c]
  | _ => []

def agentsTurn : Phase → Bool
  | starting => true
  | confirming _ => true
  | settled => true
  | _ => false

/-- A scan is on its way that nothing can avert. -/
def restarting : Phase → Bool
  | requesting req => req.isScan
  | confirming c => c.fails
  | _ => false

theorem toMgmt_eq_cons {ph : Phase} {req : Request} {rest : List Request}
    (h : ph.toMgmt = req :: rest) : ph = requesting req ∧ rest = [] := by
  cases ph <;> simp_all [toMgmt]

theorem toAgent_eq_cons {ph : Phase} {c : Confirm} {rest : List Confirm}
    (h : ph.toAgent = c :: rest) : ph = confirming c ∧ rest = [] := by
  cases ph <;> simp_all [toAgent]

/-- With no primitive in flight that the other side acts on, no scan is on its way. -/
theorem restarting_eq_false {ph : Phase} (hreq : ph.toMgmt = []) (hconfirm : ph.toAgent = []) :
    ph.restarting = false := by
  cases ph <;> simp_all [toMgmt, toAgent, restarting]

end Phase

theorem Confirm.answer_eq_scanRequest (p : AgentParams) {c : Confirm} (h : c.fails = true) :
    c.answer p = p.scanRequest := by
  cases c <;> simp_all [Confirm.fails, Confirm.answer]

/-- The sequence number that an entry waits for. -/
def authSeqExpected (l : List ApInfo) (a : MacAddress) : Option Int :=
  (lookupKey ApInfo.address a l).map ApInfo.authSeqExpected

namespace Nic

/-- The card is in phase `ph`: what else is under way fits in with it. -/
structure At (n : Nic) (ph : Phase) : Prop where
  startUp : n.agent.startUp = true → ph = .starting
  toMgmt : n.toMgmt = ph.toMgmt
  toAgent : n.toAgent.filter Confirm.restarts = ph.toAgent
  isScanning : n.mgmt.isScanning = true → ph = .scanning
  authScheduled : ∀ a d, authTimer n.mgmt.apList a = some (.scheduled d) → ph = .authenticating a
  authFired : ∀ a, authTimer n.mgmt.apList a = some .fired → ph.restarting = true
  assocScheduled : ∀ x d, n.mgmt.assocTimeoutMsg = some x → x.msg = .scheduled d → ph = .associating
  assocFired : ∀ x, n.mgmt.assocTimeoutMsg = some x → x.msg = .fired → ph.restarting = true
  isAssociated : n.mgmt.mib.isAssociated = true → ph = .settled ∨ ph.restarting = true

/-- The event does not start a second round. -/
def StaysSingle (n : Nic) (e : Event) : Prop :=
  match e with
  | .frame f =>
      match f.body with
      | .authentication seq status isLast =>
          authTimer n.mgmt.apList f.transmitterAddress = some .fired →
            authSeqExpected n.mgmt.apList f.transmitterAddress = some (seq.toNat : Int) ∧
              status = SC_SUCCESSFUL ∧ isLast = false
      | .associationResponse status =>
          n.mgmt.assocTimeoutMsg.any (fun x => !x.msg.isScheduled) = true → status = SC_SUCCESSFUL
      | _ => True
  | .beaconTimeout => n.toMgmt = [] ∧ n.toAgent.filter Confirm.restarts = []
  | _ => True

instance (n : Nic) (e : Event) : Decidable (n.StaysSingle e) :=
  match e with
  | .frame ⟨_, _, body, _⟩ =>
      match body with
      | .authentication .. => inferInstanceAs (Decidable (_ → _ ∧ _ ∧ _))
      | .associationResponse _ => inferInstanceAs (Decidable (_ → _))
      | .deauthentication _ | .associationRequest | .reassociationRequest
      | .reassociationResponse _ | .disassociation _ | .beacon _ | .probeRequest _
      | .probeResponse _ => inferInstanceAs (Decidable True)
  | .beaconTimeout => inferInstanceAs (Decidable (_ ∧ _))
  | .startUp | .deliverRequest | .deliverConfirm | .authTimeout _ | .assocTimeout | .scanTimer _
  | .receptionState _ => inferInstanceAs (Decidable True)

variable {p : AgentParams} {n n' : Nic} {e : Event} {signals : List Bool} {ph : Phase}

theorem at_initial (numChannels : Nat) : (initial numChannels).At .starting where
  startUp := fun _ => rfl
  toMgmt := rfl
  toAgent := rfl
  isScanning := nofun
  authScheduled := nofun
  authFired := nofun
  assocScheduled := nofun
  assocFired := nofun
  isAssociated := nofun

namespace At

theorem requesting_of_cons (hat : n.At ph) {req : Request} {rest : List Request}
    (hq : n.toMgmt = req :: rest) : ph = .requesting req ∧ rest = [] :=
  Phase.toMgmt_eq_cons (hat.toMgmt ▸ hq)

/-- While the turn is with the management entity, or a request that is no scan is in flight,
no timer is set and there is no association. -/
theorem authTimer_eq_none (hat : n.At ph) (hph : ph.restarting = false) {a : MacAddress}
    (hother : ph ≠ .authenticating a) : authTimer n.mgmt.apList a = none := by
  cases h : authTimer n.mgmt.apList a with
  | none => rfl
  | some t =>
      cases t with
      | scheduled d => exact absurd (hat.authScheduled a d h) hother
      | fired => simp [hat.authFired a h] at hph

theorem assocTimeoutMsg_eq_none (hat : n.At ph) (hph : ph.restarting = false)
    (hother : ph ≠ .associating) : n.mgmt.assocTimeoutMsg = none := by
  cases h : n.mgmt.assocTimeoutMsg with
  | none => rfl
  | some x =>
      cases hmsg : x.msg with
      | scheduled d => exact absurd (hat.assocScheduled x d h hmsg) hother
      | fired => simp [hat.assocFired x h hmsg] at hph

theorem not_scanning (hat : n.At ph) (hother : ph ≠ .scanning) : n.mgmt.isScanning = false :=
  Bool.eq_false_iff.mpr fun h => hother (hat.isScanning h)

theorem not_associated (hat : n.At ph) (hph : ph.restarting = false) (hother : ph ≠ .settled) :
    n.mgmt.mib.isAssociated = false := by
  cases h : n.mgmt.mib.isAssociated with
  | false => rfl
  | true =>
      rcases hat.isAssociated h with hsettled | hrestart
      · exact absurd hsettled hother
      · simp [hrestart] at hph

theorem setApList (hat : n.At ph) {l : List ApInfo}
    (h : ∀ a t, authTimer l a = some t → authTimer n.mgmt.apList a = some t) :
    ({ n with mgmt := { n.mgmt with apList := l } } : Nic).At ph :=
  { hat with
    authScheduled := fun a d ha => hat.authScheduled a d (h a _ ha)
    authFired := fun a ha => hat.authFired a (h a _ ha) }

theorem updateAP (hat : n.At ph) {a : MacAddress} {ap : ApInfo} {f : ApInfo → ApInfo}
    (hap : lookupKey ApInfo.address a n.mgmt.apList = some ap)
    (hf : ∀ ap, (f ap).address = ap.address)
    (htimer : ∀ t, (f ap).authTimeoutMsg = some t → ap.authTimeoutMsg = some t) :
    ({ n with mgmt := n.mgmt.updateAP a f } : Nic).At ph := by
  refine hat.setApList fun b t hb => ?_
  rw [authTimer_update hf hap] at hb
  split at hb
  · rename_i heq
    rw [heq, authTimer_of_lookup hap]
    exact htimer t hb
  · exact hb

theorem confirm (hat : n.At ph) (hph : ph.toMgmt = []) (hpa : ph.toAgent = [])
    (hstart : ph ≠ .starting) {c : Confirm} (hc : c.restarts = true) {m : MgmtSta}
    (hscan : m.isScanning = false)
    (hauth : ∀ a t, authTimer m.apList a = some t → t = .fired ∧ c.fails = true)
    (hassoc : ∀ x, m.assocTimeoutMsg = some x → x.msg = .fired ∧ c.fails = true)
    (hnot : m.mib.isAssociated = false) :
    ({ n with mgmt := m, toAgent := n.toAgent ++ [c] } : Nic).At (.confirming c) where
  startUp := fun h => absurd (hat.startUp h) hstart
  toMgmt := hat.toMgmt.trans hph
  toAgent := by
    show (n.toAgent ++ [c]).filter Confirm.restarts = [c]
    rw [List.filter_append, hat.toAgent, hpa]
    simp [hc]
  isScanning := fun h => by rw [hscan] at h; cases h
  authScheduled := fun a d h => by cases (hauth a _ h).1
  authFired := fun a h => (hauth a _ h).2
  assocScheduled := fun x d h hmsg => by rw [(hassoc x h).1] at hmsg; cases hmsg
  assocFired := fun x h _ => (hassoc x h).2
  isAssociated := fun h => by rw [hnot] at h; cases h

/-- A frame that ends an authentication finds its timeout scheduled. -/
theorem authenticating_of_end (hat : n.At ph) {f : MgmtFrame} {seq : BitVec 16} {status : Int}
    {isLast : Bool} {ap : ApInfo} (hguard : n.StaysSingle (.frame f))
    (hbody : f.body = .authentication seq status isLast)
    (hap : lookupKey ApInfo.address f.transmitterAddress n.mgmt.apList = some ap)
    (htimer : ap.authTimeoutMsg ≠ none)
    (hend : ¬ ((seq.toNat : Int) = ap.authSeqExpected ∧ status = SC_SUCCESSFUL ∧ isLast = false)) :
    ph = .authenticating f.transmitterAddress := by
  rw [← authTimer_of_lookup hap] at htimer
  cases ht : authTimer n.mgmt.apList f.transmitterAddress with
  | none => exact absurd ht htimer
  | some t =>
      cases t with
      | scheduled d => exact hat.authScheduled _ d ht
      | fired =>
          simp only [StaysSingle, hbody] at hguard
          obtain ⟨hseq, hrest⟩ := hguard ht
          simp only [authSeqExpected, hap, Option.map_some, Option.some.injEq] at hseq
          exact absurd ⟨hseq.symm, hrest⟩ hend

/-- A response that refuses an association finds its timeout scheduled. -/
theorem associating_of_refusal (hat : n.At ph) {f : MgmtFrame} {status : Int} {x : AssocTimeout}
    (hguard : n.StaysSingle (.frame f)) (hbody : f.body = .associationResponse status)
    (hx : n.mgmt.assocTimeoutMsg = some x) (hstatus : status ≠ SC_SUCCESSFUL) :
    ph = .associating := by
  cases hmsg : x.msg with
  | scheduled d => exact hat.assocScheduled x d hx hmsg
  | fired =>
      simp only [StaysSingle, hbody, hx] at hguard
      exact absurd (hguard (by simp [hmsg, TimerMsg.isScheduled])) hstatus

/-! ### From one phase to the next -/

theorem request (hat : n.At ph) (hturn : ph.agentsTurn = true) {agent : AgentSta}
    (hstart : agent.startUp = false) {confirms : List Confirm}
    (hconfirms : confirms.filter Confirm.restarts = []) {req : Request} {last : Option MacAddress}
    (hscan : ph.restarting = true ∨ ph = .settled → req.isScan = true) :
    ({ n with
        agent := agent
        toMgmt := n.toMgmt ++ [req]
        toAgent := confirms
        lastAssociateRequest := last } : Nic).At (.requesting req) where
  startUp := fun h => by cases hstart.symm.trans h
  toMgmt := by
    rw [hat.toMgmt]
    cases ph with
    | requesting req => cases hturn
    | _ => rfl
  toAgent := hconfirms
  isScanning := fun h => by
    obtain rfl := hat.isScanning h
    cases hturn
  authScheduled := fun a d h => by
    obtain rfl := hat.authScheduled a d h
    cases hturn
  authFired := fun a h => hscan (.inl (hat.authFired a h))
  assocScheduled := fun x d h hmsg => by
    obtain rfl := hat.assocScheduled x d h hmsg
    cases hturn
  assocFired := fun x h hmsg => hscan (.inl (hat.assocFired x h hmsg))
  isAssociated := fun h => .inr (hscan (hat.isAssociated h).symm)

theorem startScan {ctrl : ScanRequest} (hn : n.Sound p) (hat : n.At (.requesting (.scan ctrl))) :
    ({ n with toMgmt := [], mgmt := n.mgmt.scanStarted ctrl } : Nic).At .scanning where
  startUp := fun h => by cases hat.startUp h
  toMgmt := rfl
  toAgent := hat.toAgent
  isScanning := fun _ => rfl
  authScheduled := by simp
  authFired := by simp
  assocScheduled := by simp [hn.mgmt.scanStarted_assocTimeoutMsg]
  assocFired := by simp [hn.mgmt.scanStarted_assocTimeoutMsg]
  isAssociated := by simp

theorem startAuthentication {a : MacAddress} {t : SimTime} {ap : ApInfo}
    (hat : n.At (.requesting (.authenticate a t)))
    (hap : lookupKey ApInfo.address a n.mgmt.apList = some ap) :
    ({ n with
        toMgmt := []
        mgmt := n.mgmt.updateAP a fun ap =>
          { ap with authSeqExpected := 2, authTimeoutMsg := some (.scheduled t) } } : Nic).At
      (.authenticating a) where
  startUp := fun h => by cases hat.startUp h
  toMgmt := rfl
  toAgent := hat.toAgent
  isScanning := fun h => by cases hat.isScanning h
  authScheduled := fun b d hb => by
    rcases authTimer_update_cases hap hb (fun _ => rfl) with ⟨rfl, -⟩ | ⟨-, hold⟩
    · rfl
    · cases hat.authScheduled b d hold
  authFired := fun b hb => by
    rcases authTimer_update_cases hap hb (fun _ => rfl) with ⟨-, hnew⟩ | ⟨-, hold⟩
    · cases hnew
    · cases hat.authFired b hold
  assocScheduled := fun x d h hmsg => by cases hat.assocScheduled x d h hmsg
  assocFired := fun x h hmsg => by cases hat.assocFired x h hmsg
  isAssociated := fun h => by cases (hat.not_associated rfl (by simp)).symm.trans h

theorem startAssociation {a : MacAddress} {t : SimTime}
    (hat : n.At (.requesting (.associate a t))) :
    ({ n with
        toMgmt := []
        mgmt := { n.mgmt with
          assocTimeoutMsg := some { contextPointer := a, msg := .scheduled t } } } : Nic).At
      .associating where
  startUp := fun h => by cases hat.startUp h
  toMgmt := rfl
  toAgent := hat.toAgent
  isScanning := fun h => by cases hat.isScanning h
  authScheduled := fun a d h => by cases hat.authScheduled a d h
  authFired := fun a h => by cases hat.authFired a h
  assocScheduled := fun _ _ _ _ => rfl
  assocFired := fun x h hmsg => by
    obtain rfl := Option.some.inj h
    cases hmsg
  isAssociated := fun h => by cases (hat.not_associated rfl (by simp)).symm.trans h

theorem endAuthentication {a : MacAddress} {ap : ApInfo} {f : ApInfo → ApInfo} {rc : PrimResultCode}
    (hat : n.At (.authenticating a)) (hap : lookupKey ApInfo.address a n.mgmt.apList = some ap)
    (hf : ∀ ap, (f ap).address = ap.address)
    (htimer : ∀ t, (f ap).authTimeoutMsg = some t →
      t = .fired ∧ (Confirm.authenticate rc a).fails = true) :
    ({ n with
        mgmt := n.mgmt.updateAP a f
        toAgent := n.toAgent ++ [.authenticate rc a] } : Nic).At
      (.confirming (.authenticate rc a)) := by
  refine hat.confirm rfl rfl (by simp) rfl (hat.not_scanning (by simp)) (fun b t hb => ?_)
    (fun x hx => ?_) (hat.not_associated rfl (by simp))
  · rcases authTimer_update_cases hap hb hf with ⟨-, hnew⟩ | ⟨hne, hold⟩
    · exact htimer t hnew
    · rw [hat.authTimer_eq_none rfl (by simpa using Ne.symm hne)] at hold
      cases hold
  · cases (hat.assocTimeoutMsg_eq_none rfl (by simp)).symm.trans hx

theorem refuseAssociation (hat : n.At .associating) :
    ({ n with
        mgmt := n.mgmt.breakAssociation
        toAgent := n.toAgent ++ [.associate .PRC_REFUSED MacAddress.UNSPECIFIED_ADDRESS] } : Nic).At
      (.confirming (.associate .PRC_REFUSED MacAddress.UNSPECIFIED_ADDRESS)) := by
  refine hat.confirm rfl rfl (by simp) rfl ?_ (fun b t hb => ?_) (fun x hx => ?_) (by simp)
  · exact n.mgmt.breakAssociation_isScanning.trans (hat.not_scanning (by simp))
  · rw [MgmtSta.breakAssociation_apList] at hb
    cases (hat.authTimer_eq_none rfl (by simp)).symm.trans hb
  · simp at hx

theorem timeOutAssociation {x : AssocTimeout} (hat : n.At .associating) :
    ({ n with
        mgmt := { n.mgmt with assocTimeoutMsg := some { x with msg := .fired } }
        toAgent := n.toAgent ++ [.associate .PRC_TIMEOUT MacAddress.UNSPECIFIED_ADDRESS] } : Nic).At
      (.confirming (.associate .PRC_TIMEOUT MacAddress.UNSPECIFIED_ADDRESS)) := by
  refine hat.confirm rfl rfl (by simp) rfl (hat.not_scanning (by simp)) (fun b t hb => ?_)
    (fun x hx => ?_) (hat.not_associated rfl (by simp))
  · cases (hat.authTimer_eq_none rfl (by simp)).symm.trans hb
  · obtain rfl := Option.some.inj hx
    exact ⟨rfl, rfl⟩

/-- An association succeeds, in time or after its timeout was reported. -/
theorem associated {ph' : Phase} (hat : n.At ph) (ap : ApInfo)
    (hph : ph = .associating ∧ ph' = .settled ∨ ph.restarting = true ∧ ph' = ph) :
    ({ n with
        mgmt := n.mgmt.breakAssociation.associated ap
        toAgent := n.toAgent ++
          [.associate .PRC_SUCCESS MacAddress.UNSPECIFIED_ADDRESS] } : Nic).At ph' := by
  have hagent : (n.toAgent ++ [Confirm.associate .PRC_SUCCESS
        MacAddress.UNSPECIFIED_ADDRESS]).filter Confirm.restarts =
      n.toAgent.filter Confirm.restarts := by
    simp [Confirm.restarts]
  have hlist : (n.mgmt.breakAssociation.associated ap).apList = n.mgmt.apList :=
    n.mgmt.breakAssociation_apList
  have hscan : (n.mgmt.breakAssociation.associated ap).isScanning = n.mgmt.isScanning :=
    n.mgmt.breakAssociation_isScanning
  rcases hph with ⟨rfl, rfl⟩ | ⟨hrestart, rfl⟩
  · exact
      { startUp := fun h => by cases hat.startUp h
        toMgmt := hat.toMgmt
        toAgent := hagent.trans hat.toAgent
        isScanning := fun h => by cases hat.isScanning (hscan.symm.trans h)
        authScheduled := fun a d h => by cases hat.authScheduled a d (hlist ▸ h)
        authFired := fun a h => by cases hat.authFired a (hlist ▸ h)
        assocScheduled := by simp [MgmtSta.associated]
        assocFired := by simp [MgmtSta.associated]
        isAssociated := fun _ => .inl rfl }
  · exact
      { startUp := hat.startUp
        toMgmt := hat.toMgmt
        toAgent := hagent.trans hat.toAgent
        isScanning := fun h => hat.isScanning (hscan.symm.trans h)
        authScheduled := fun a d h => hat.authScheduled a d (hlist ▸ h)
        authFired := fun a h => hat.authFired a (hlist ▸ h)
        assocScheduled := by simp [MgmtSta.associated]
        assocFired := by simp [MgmtSta.associated]
        isAssociated := fun _ => .inr hrestart }

theorem finishScan {scanTimers : List ScanTimer} {bss : List BssDescription}
    (hat : n.At .scanning) :
    ({ n with
        mgmt := ({ n.mgmt with scanTimers := scanTimers } : MgmtSta).finishScan
        toAgent := n.toAgent ++ [.scan .PRC_SUCCESS bss] } : Nic).At
      (.confirming (.scan .PRC_SUCCESS bss)) := by
  refine hat.confirm rfl rfl (by simp) rfl rfl (fun b t hb => ?_) (fun x hx => ?_)
    (hat.not_associated rfl (by simp))
  · cases (hat.authTimer_eq_none rfl (by simp)).symm.trans hb
  · cases (hat.assocTimeoutMsg_eq_none rfl (by simp)).symm.trans hx

end At

/-- Events that start no second round lead from phase to phase. -/
theorem At.move (hn : n.Sound p) (hat : n.At ph) (hguard : n.StaysSingle e)
    (hmove : Move p n e n' signals) : ∃ ph', n'.At ph' := by
  cases hmove with
  | startUp h =>
      obtain rfl := hat.startUp h
      exact ⟨_, hat.request rfl rfl hat.toAgent fun _ => rfl⟩
  | scan hq hidle =>
      obtain ⟨rfl, rfl⟩ := hat.requesting_of_cons hq
      exact ⟨_, hat.startScan hn⟩
  | authenticate hq hap htimer hnot =>
      obtain ⟨rfl, rfl⟩ := hat.requesting_of_cons hq
      exact ⟨_, hat.startAuthentication hap⟩
  | associate hq hap hauth hnot hnone =>
      obtain ⟨rfl, rfl⟩ := hat.requesting_of_cons hq
      exact ⟨_, hat.startAssociation⟩
  | foreign hq hreq => exact absurd hreq (hn.not_foreign hq)
  | @confirmed c rest hq hc =>
      have hagent := hat.toAgent
      rw [hq, List.filter_cons_of_pos hc] at hagent
      obtain ⟨rfl, hrest⟩ := Phase.toAgent_eq_cons hagent.symm
      have hstart : n.agent.startUp = false :=
        Bool.eq_false_iff.mpr fun h => by cases hat.startUp h
      refine ⟨_, hat.request rfl hstart hrest fun h => ?_⟩
      -- a failure is answered with a scan
      rcases h with hfails | hsettled
      · rw [c.answer_eq_scanRequest p hfails]
        rfl
      · cases hsettled
  | associated hq =>
      have hstart : ∀ a, (n.agent.processAssociateConfirm p .PRC_SUCCESS a).1.startUp =
          n.agent.startUp := by
        intro a
        unfold AgentSta.processAssociateConfirm
        split
        · rfl
        · split <;> rfl
      refine ⟨ph,
        { hat with startUp := fun h => hat.startUp ((hstart _).symm.trans h), toAgent := ?_ }⟩
      have hagent := hat.toAgent
      rwa [hq, List.filter_cons_of_neg (by simp [Confirm.restarts])] at hagent
  | reassociated hq => exact False.elim (hn.sent_of_cons hq).1
  | ignored f => exact ⟨ph, hat⟩
  | authMore hbody hap hseq => exact ⟨ph, hat.updateAP hap (fun _ => rfl) fun _ h => h⟩
  | authEnded hbody hap htimer hnot hend haddress hdone hresult =>
      obtain rfl := hat.authenticating_of_end hguard hbody hap htimer hend
      exact ⟨_, hat.endAuthentication hap haddress (by simp [hdone])⟩
  | deauthCancelled hbody hap hauth htimer => exact ⟨ph, hat.updateAP hap (fun _ => rfl) (by simp)⟩
  | deauthenticated hbody hap hauth htimer =>
      exact ⟨ph, hat.updateAP hap (fun _ => rfl) fun _ h => h⟩
  | assocRefused hbody hx hap hstatus =>
      obtain rfl := hat.associating_of_refusal hguard hbody hx hstatus
      exact ⟨_, hat.refuseAssociation⟩
  | @assocDone f x ap hbody hx hap =>
      cases hmsg : x.msg with
      | scheduled d =>
          obtain rfl := hat.assocScheduled x d hx hmsg
          exact ⟨.settled, hat.associated ap (.inl ⟨rfl, rfl⟩)⟩
      | fired => exact ⟨ph, hat.associated ap (.inr ⟨hat.assocFired x hx hmsg, rfl⟩)⟩
  | disassocIgnored hbody hother =>
      exact ⟨ph, { hat with assocScheduled := by simp, assocFired := by simp }⟩
  | disassociated hbody hassoc haddress =>
      exact ⟨ph,
        { hat with assocScheduled := by simp, assocFired := by simp, isAssociated := by simp }⟩
  | stored hsame htimer =>
      exact ⟨ph, { hat.setApList fun a t h => by rw [← hsame.authTimer, h] with }⟩
  | authTimedOut hap htimer =>
      obtain rfl := hat.authScheduled _ _ ((authTimer_of_lookup hap).trans htimer)
      exact ⟨_, hat.endAuthentication hap (fun _ => rfl) (by simp [Confirm.fails])⟩
  | assocTimedOut hx hmsg =>
      obtain rfl := hat.assocScheduled _ _ hx hmsg
      exact ⟨_, hat.timeOutAssociation⟩
  | scanTimerReplaced ht => exact ⟨ph, { hat with }⟩
  | nextChannel ht hnext => exact ⟨ph, { hat with }⟩
  | scanDone ht hlast =>
      obtain rfl := hat.isScanning (hn.mgmt.eraseIdx_scanTimers ht).1
      exact ⟨_, hat.finishScan⟩
  | beaconLost htimer =>
      have hassociated := hn.mgmt.supervised.mpr (by rw [htimer]; simp)
      have hphase := Phase.restarting_eq_false (hat.toMgmt ▸ hguard.1) (hat.toAgent ▸ hguard.2)
      obtain rfl : ph = .settled := by
        rcases hat.isAssociated hassociated with h | h
        · exact h
        · simp [hphase] at h
      have hstart : n.agent.startUp = false :=
        Bool.eq_false_iff.mpr fun h => by cases hat.startUp h
      have hlost : ({ n with
          mgmt := { n.mgmt with
            assocAP := { n.mgmt.assocAP with beaconTimeoutMsg := some .fired } } } : Nic).At
          .settled := { hat with }
      exact ⟨_, hlost.request rfl hstart hat.toAgent fun _ => rfl⟩
  | reception busy =>
      unfold MgmtSta.receiveReceptionState
      split
      · exact ⟨ph, { hat with }⟩
      · exact ⟨ph, hat⟩

end Nic

end MultiTechBus.Ieee80211
