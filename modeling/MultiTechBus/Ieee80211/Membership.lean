import Mathlib.Data.List.Pairwise
import MultiTechBus.Ieee80211.Sends

/-! # Membership in the service set

A station that is associated is held as associated by the access point, as long as the
answers of different association attempts do not meet. What carries this for one
station: while its association is pending, an answer on the way means that the access
point holds it as associated and that nothing on the way to the access point undoes it.
-/

namespace MultiTechBus.Ieee80211

open MultiTechBus.Library

/-! ## Kinds of frames -/

namespace FrameBody

def asks : FrameBody → Bool
  | associationRequest => true
  | _ => false

def answers : FrameBody → Bool
  | associationResponse _ => true
  | deauthentication _ => true
  | _ => false

def isAuthentication : FrameBody → Bool
  | authentication _ _ _ => true
  | _ => false

def isStationFrame : FrameBody → Bool
  | authentication _ _ _ => true
  | associationRequest => true
  | probeRequest _ => true
  | _ => false

end FrameBody

/-! ## The access point -/

namespace MgmtAp

variable (p : ApParams) (a : MgmtAp) {b sta : MacAddress} {f : MgmtFrame}

theorem createSTA_stations (hb : b ≠ sta) : (a.createSTA sta).stations b = a.stations b := by
  unfold createSTA
  split
  · rfl
  · exact Function.update_of_ne hb _ _

theorem resetAuthentication_stations (hb : b ≠ sta) :
    (a.resetAuthentication sta).1.stations b = a.stations b :=
  Function.update_of_ne hb _ _

theorem handleAuthenticationFrame_stations (seq : BitVec 16) (hb : b ≠ sta) :
    (a.handleAuthenticationFrame p sta seq).1.stations b = a.stations b := by
  unfold handleAuthenticationFrame
  dsimp only
  split
  · split
    · exact (resetAuthentication_stations _ hb).trans (a.createSTA_stations hb)
    · split
      · exact (Function.update_of_ne hb _ _).trans
          ((resetAuthentication_stations _ hb).trans (a.createSTA_stations hb))
      · exact (resetAuthentication_stations _ hb).trans (a.createSTA_stations hb)
  · split
    · exact a.createSTA_stations hb
    · split
      · exact (Function.update_of_ne hb _ _).trans (a.createSTA_stations hb)
      · exact a.createSTA_stations hb

theorem processFrame_stations (hb : b ≠ f.transmitterAddress) :
    (a.processFrame p f).1.stations b = a.stations b := by
  unfold processFrame
  split
  · exact a.handleAuthenticationFrame_stations p _ hb
  · unfold handleDeauthenticationFrame
    split
    · rfl
    · exact a.resetAuthentication_stations hb
  · unfold handleAssociationRequestFrame
    split
    · rfl
    · exact Function.update_of_ne hb _ _
  · rfl
  · unfold handleReassociationRequestFrame
    split
    · rfl
    · exact Function.update_of_ne hb _ _
  · rfl
  · unfold handleDisassociationFrame
    split
    · rfl
    · exact Function.update_of_ne hb _ _
  all_goals rfl

/-! ## Replies -/

/-- All that is sent goes to one receiver. -/
def SendsTo (sta : MacAddress) (outs : List ApOut) : Prop :=
  ∀ frame ∈ outs.filterMap ApOut.frame?, frame.2 = sta

theorem sendsTo_append {outs outs' : List ApOut} (h : SendsTo sta outs) (h' : SendsTo sta outs') :
    SendsTo sta (outs ++ outs') := by
  intro frame hframe
  rw [List.filterMap_append, List.mem_append] at hframe
  exact hframe.elim (h frame) (h' frame)

theorem sendsTo_leaveFor (status : BssMemberStatus) : SendsTo sta (a.leaveFor sta status).2 := by
  unfold leaveFor
  dsimp only
  split <;> simp [SendsTo, ApOut.frame?]

theorem sendsTo_resetAuthentication : SendsTo sta (a.resetAuthentication sta).2 :=
  a.sendsTo_leaveFor .NOT_AUTHENTICATED

theorem sendsTo_handleAuthenticationFrame (seq : BitVec 16) :
    SendsTo sta (a.handleAuthenticationFrame p sta seq).2 := by
  have hnotified : SendsTo sta (if seq = 1 then (a.createSTA sta).resetAuthentication sta
      else (a.createSTA sta, [])).2 := by
    split
    · exact sendsTo_resetAuthentication _
    · simp [SendsTo]
  unfold handleAuthenticationFrame
  dsimp only
  generalize (if seq = 1 then (a.createSTA sta).resetAuthentication sta
    else (a.createSTA sta, [])) = r at hnotified ⊢
  split
  · exact sendsTo_append hnotified (by simp [SendsTo, ApOut.frame?])
  · split
    · refine sendsTo_append hnotified ?_
      have hone : SendsTo sta [.sendManagementFrame "Auth-OK"
          (.authentication (seq + 1) SC_SUCCESSFUL true) sta] := by
        simp [SendsTo, ApOut.frame?]
      exact sendsTo_append hone (sendsTo_leaveFor _ _)
    · exact sendsTo_append hnotified (by simp [SendsTo, ApOut.frame?])

theorem sendsTo_processFrame : SendsTo f.transmitterAddress (a.processFrame p f).2 := by
  have hnothing : ∀ sta, SendsTo sta [] := fun _ => by simp [SendsTo]
  unfold processFrame
  split
  · exact a.sendsTo_handleAuthenticationFrame p _
  · unfold handleDeauthenticationFrame
    split
    · exact hnothing _
    · exact a.sendsTo_resetAuthentication
  · unfold handleAssociationRequestFrame
    split
    · simp [SendsTo, ApOut.frame?, refuseAssociation]
    · refine sendsTo_append ?_ (by simp [SendsTo, ApOut.frame?])
      split <;> simp [SendsTo, ApOut.frame?]
  · exact hnothing _
  · unfold handleReassociationRequestFrame
    split <;> simp [SendsTo, ApOut.frame?, refuseAssociation]
  · exact hnothing _
  · unfold handleDisassociationFrame
    split
    · exact hnothing _
    · exact a.sendsTo_leaveFor _
  · exact hnothing _
  · unfold handleProbeRequestFrame
    split <;> simp [SendsTo, ApOut.frame?]
  · exact hnothing _

/-- What the access point makes of a frame of a station in state `status`: the next
state and the frames that it replies. -/
inductive Replies (status : Option BssMemberStatus) :
    FrameBody → Option BssMemberStatus → List FrameBody → Prop
  | probeRequest {SSID : String} {replies : List FrameBody}
      (h : ∀ b ∈ replies, b.answers = false) : Replies status (.probeRequest SSID) status replies
  | authentication {seq : BitVec 16} {code : Int} {isLast : Bool}
      {status' : Option BssMemberStatus} {replies : List FrameBody}
      (h : ∀ b ∈ replies, b.answers = false) :
      Replies status (.authentication seq code isLast) status' replies
  | refused {rc : Int} : Replies status .associationRequest status [.deauthentication rc]
  | accepted {code : Int} :
      Replies status .associationRequest (some .ASSOCIATED) [.associationResponse code]

def bodies (outs : List ApOut) : List FrameBody := (outs.filterMap ApOut.frame?).map Prod.fst

theorem bodies_append (outs outs' : List ApOut) :
    bodies (outs ++ outs') = bodies outs ++ bodies outs' := by
  simp [bodies]

theorem bodies_leaveFor (status : BssMemberStatus) : bodies (a.leaveFor sta status).2 = [] := by
  unfold leaveFor
  dsimp only
  split <;> rfl

theorem answers_handleAuthenticationFrame (seq : BitVec 16) :
    ∀ b ∈ bodies (a.handleAuthenticationFrame p sta seq).2, b.answers = false := by
  have hnotified : bodies (if seq = 1 then (a.createSTA sta).resetAuthentication sta
      else (a.createSTA sta, [])).2 = [] := by
    split
    · exact bodies_leaveFor _ .NOT_AUTHENTICATED
    · rfl
  unfold handleAuthenticationFrame
  dsimp only
  generalize (if seq = 1 then (a.createSTA sta).resetAuthentication sta
    else (a.createSTA sta, [])) = r at hnotified ⊢
  have hreply : ∀ (name : String) (code : Int) (seq' : BitVec 16) (isLast : Bool),
      ∀ b ∈ bodies [.sendManagementFrame name (.authentication seq' code isLast) sta],
        b.answers = false := by
    simp [bodies, ApOut.frame?, FrameBody.answers]
  split
  · rw [bodies_append, hnotified, List.nil_append]
    exact hreply _ _ _ _
  · split
    · rw [bodies_append, hnotified, ← List.singleton_append, bodies_append, bodies_leaveFor,
        List.append_nil, List.nil_append]
      exact hreply _ _ _ _
    · rw [bodies_append, hnotified, List.nil_append]
      exact hreply _ _ _ _

theorem answers_handleProbeRequestFrame (SSID : String) :
    ∀ b ∈ bodies (a.handleProbeRequestFrame p sta SSID), b.answers = false := by
  unfold handleProbeRequestFrame
  split <;> simp [bodies, ApOut.frame?, FrameBody.answers]

theorem replies_processFrame (hbody : f.body.isStationFrame = true) :
    Replies (a.stations f.transmitterAddress) f.body
      ((a.processFrame p f).1.stations f.transmitterAddress) (bodies (a.processFrame p f).2) := by
  unfold processFrame
  cases h : f.body with
  | authentication seq code isLast =>
      exact .authentication (a.answers_handleAuthenticationFrame p seq)
  | probeRequest SSID => exact .probeRequest (a.answers_handleProbeRequestFrame p SSID)
  | associationRequest =>
      dsimp only
      unfold handleAssociationRequestFrame
      split
      · exact .refused
      · simp only [Function.update_self, bodies_append]
        have hnone : bodies (if a.stations f.transmitterAddress ≠ some .ASSOCIATED then
            [.l2ApAssociated f.transmitterAddress] else []) = [] := by
          split <;> rfl
        rw [hnone]
        exact .accepted
  | _ =>
      rw [h] at hbody
      cases hbody

end MgmtAp

/-! ## One station and the access point -/

/-- What is on the way of an association: the request, or the answer to it. -/
def exchange (up down : List FrameBody) : List FrameBody :=
  up.filter FrameBody.asks ++ down.filter FrameBody.answers

/-- The access point holds the station as associated, and nothing that is on the way to
it changes that. -/
def Held (up : List FrameBody) (status : Option BssMemberStatus) : Prop :=
  status = some .ASSOCIATED ∧ ∀ b ∈ up, b.isAuthentication = false

/-- What holds between a station and the access point with address `ap`. -/
structure Link (p : AgentParams) (ap : MacAddress) (n : Nic) (up down : List FrameBody)
    (status : Option BssMemberStatus) : Prop where
  sound : n.Sound p
  onlyAp : ∀ a, known n.mgmt.apList a = true → a = ap
  sent : ∀ b ∈ up, b.isStationFrame = true
  single : (exchange up down).length ≤ 1
  ordered : n.mgmt.assocTimeoutMsg ≠ none →
    up.Pairwise fun b c => b.asks = true → c.isAuthentication = false
  answered : n.mgmt.assocTimeoutMsg ≠ none →
    ∀ code, .associationResponse code ∈ down → Held up status
  pending : n.mgmt.assocTimeoutMsg ≠ none → exchange up down ≠ [] →
    authenticated n.mgmt.apList ap = true
  associated : n.mgmt.mib.isAssociated = true →
    authenticated n.mgmt.apList ap = true ∧ exchange up down = [] ∧ Held up status

theorem exchange_eq_nil {up down : List FrameBody} :
    exchange up down = [] ↔
      (∀ b ∈ up, b.asks = false) ∧ ∀ b ∈ down, b.answers = false := by
  simp [exchange, List.filter_eq_nil_iff]

theorem exchange_sublist {up up' down down' : List FrameBody} (hup : up'.Sublist up)
    (hdown : down'.Sublist down) : (exchange up' down').Sublist (exchange up down) :=
  (hup.filter _).append (hdown.filter _)

namespace Link

variable {p : AgentParams} {ap : MacAddress} {n n' : Nic} {e : Event} {signals : List Bool}
  {up down up' down' : List FrameBody} {status status' : Option BssMemberStatus} {b : FrameBody}

theorem initial (numChannels : Nat) : Link p ap (Nic.initial numChannels) [] [] none where
  sound := Nic.sound_initial numChannels
  onlyAp := fun _ h => nomatch h
  sent := by simp
  single := Nat.zero_le 1
  ordered := fun h => absurd rfl h
  answered := fun h => absurd rfl h
  pending := fun h => absurd rfl h
  associated := fun h => nomatch h

/-! ### The channels -/

theorem lose (h : Link p ap n up down status) (hup : up'.Sublist up)
    (hdown : down'.Sublist down) : Link p ap n up' down' status where
  sound := h.sound
  onlyAp := h.onlyAp
  sent := fun b hb => h.sent b (hup.subset hb)
  single := Nat.le_trans (exchange_sublist hup hdown).length_le h.single
  ordered := fun hp => (h.ordered hp).sublist hup
  answered := fun hp code hcode =>
    have hheld := h.answered hp code (hdown.subset hcode)
    ⟨hheld.1, fun b hb => hheld.2 b (hup.subset hb)⟩
  pending := fun hp hne => h.pending hp fun hnil =>
    hne (List.sublist_nil.mp (hnil ▸ exchange_sublist hup hdown))
  associated := fun ha => by
    obtain ⟨hauth, hnil, hstatus, hquiet⟩ := h.associated ha
    exact ⟨hauth, List.sublist_nil.mp (hnil ▸ exchange_sublist hup hdown), hstatus,
      fun b hb => hquiet b (hup.subset hb)⟩

/-- Frames that answer no association request reach the channel to the station. -/
theorem hear (h : Link p ap n up down status) {replies : List FrameBody}
    (hreplies : ∀ b ∈ replies, b.answers = false) : Link p ap n up (down ++ replies) status := by
  have hexchange : exchange up (down ++ replies) = exchange up down := by
    have hnil : replies.filter FrameBody.answers = [] :=
      List.filter_eq_nil_iff.mpr fun b hb => by simp [hreplies b hb]
    simp [exchange, hnil]
  refine { h with single := ?_, answered := ?_, pending := ?_, associated := ?_ }
  · exact hexchange ▸ h.single
  · intro hp code hcode
    rcases List.mem_append.mp hcode with hdown | hnew
    · exact h.answered hp code hdown
    · exact nomatch hreplies _ hnew
  · exact hexchange ▸ h.pending
  · exact hexchange ▸ h.associated

theorem exchange_append_up (up down : List FrameBody) (b : FrameBody) (hasks : b.asks = false) :
    exchange (up ++ [b]) down = exchange up down := by
  simp [exchange, hasks]

/-- The station sends a frame that is no request. An authentication frame is sent only
while nothing is on the way of a pending association, and no association holds. -/
theorem sendOther (h : Link p ap n up down status) (hsent : b.isStationFrame = true)
    (hasks : b.asks = false)
    (hidle : b.isAuthentication = true → authenticated n.mgmt.apList ap = false) :
    Link p ap n (up ++ [b]) down status := by
  have hexchange := exchange_append_up up down b hasks
  have hquiet : authenticated n.mgmt.apList ap = true → b.isAuthentication = false := by
    intro hauth
    cases hb : b.isAuthentication with
    | false => rfl
    | true => exact nomatch (hidle hb).symm.trans hauth
  have hheld : Held up status → b.isAuthentication = false → Held (up ++ [b]) status := by
    rintro ⟨hstatus, hup⟩ hb
    refine ⟨hstatus, fun c hc => ?_⟩
    rcases List.mem_append.mp hc with hc | hc
    · exact hup c hc
    · rwa [List.mem_singleton.mp hc]
  refine { h with sent := ?_, single := ?_, ordered := ?_, answered := ?_, pending := ?_,
                  associated := ?_ }
  · intro c hc
    rcases List.mem_append.mp hc with hc | hc
    · exact h.sent c hc
    · rwa [List.mem_singleton.mp hc]
  · exact hexchange ▸ h.single
  · intro hp
    refine List.pairwise_append.mpr ⟨h.ordered hp, List.pairwise_singleton _ _, ?_⟩
    intro c hc d hd hask
    rw [List.mem_singleton.mp hd]
    have hne : exchange up down ≠ [] := fun hnil =>
      nomatch ((exchange_eq_nil.mp hnil).1 c hc).symm.trans hask
    exact hquiet (h.pending hp hne)
  · intro hp code hcode
    have hne : exchange up down ≠ [] := fun hnil =>
      nomatch (exchange_eq_nil.mp hnil).2 _ hcode
    exact hheld (h.answered hp code hcode) (hquiet (h.pending hp hne))
  · exact hexchange ▸ h.pending
  · intro ha
    obtain ⟨hauth, hnil, hup⟩ := h.associated ha
    exact ⟨hauth, hexchange ▸ hnil, hheld hup (hquiet hauth)⟩

/-- The station sends an association request while nothing is on the way of another. -/
theorem sendRequest (h : Link p ap n up down status) (hfresh : exchange up down = [])
    (hauth : authenticated n.mgmt.apList ap = true) (hnot : n.mgmt.mib.isAssociated = false) :
    Link p ap n (up ++ [.associationRequest]) down status := by
  obtain ⟨hup, hdown⟩ := exchange_eq_nil.mp hfresh
  refine { h with sent := ?_, single := ?_, ordered := ?_, answered := ?_, pending := ?_,
                  associated := ?_ }
  · intro c hc
    rcases List.mem_append.mp hc with hc | hc
    · exact h.sent c hc
    · rw [List.mem_singleton.mp hc]
      rfl
  · have hone : exchange (up ++ [.associationRequest]) down = [.associationRequest] := by
      have hnil : up.filter FrameBody.asks = [] ∧ down.filter FrameBody.answers = [] :=
        List.append_eq_nil_iff.mp hfresh
      simp [exchange, hnil, FrameBody.asks]
    rw [hone]
    exact Nat.le_refl 1
  · intro _
    refine List.pairwise_append.mpr ⟨List.pairwise_iff_forall_sublist.mpr fun hsub hask => ?_,
      List.pairwise_singleton _ _, fun c hc d hd hask => ?_⟩
    · exact nomatch (hup _ (hsub.subset List.mem_cons_self)).symm.trans hask
    · exact nomatch (hup c hc).symm.trans hask
  · intro _ code hcode
    exact nomatch hdown _ hcode
  · exact fun _ _ => hauth
  · exact fun ha => nomatch hnot.symm.trans ha

/-- The station sends what it sends in the step that leads to its state. -/
theorem send {n₀ : Nic} {frames : List (FrameBody × MacAddress)} (h : Link p ap n up down status)
    (hsends : Sends n₀ n.mgmt e frames)
    (hfresh : ∀ a t rest, e = .deliverRequest → n₀.toMgmt = .associate a t :: rest →
      exchange up down = []) :
    Link p ap n (up ++ frames.filterMap (receivedAt ap)) down status := by
  have hone : ∀ (b : FrameBody) (a : MacAddress), Link p ap n (up ++ [b]) down status →
      Link p ap n (up ++ [(b, a)].filterMap (receivedAt ap)) down status := by
    intro b a hb
    unfold receivedAt
    by_cases ha : a = ap ∨ a = MacAddress.BROADCAST_ADDRESS
    · simpa [ha] using hb
    · simpa [ha] using h
  cases hsends with
  | nothing => simpa using h
  | probeRequest => exact hone _ _ (h.sendOther rfl rfl fun hb => nomatch hb)
  | authentication hknown hnot =>
      obtain rfl := h.onlyAp _ hknown
      exact hone _ _ (h.sendOther rfl rfl fun _ => hnot)
  | associationRequest hq hnot hauth =>
      obtain rfl := h.onlyAp _ (known_of_authenticated hauth)
      exact hone _ _ (h.sendRequest (hfresh _ _ _ rfl hq) hauth hnot)

/-! ### The access point takes a frame -/

/-- While a request is on the way, no other is, and no answer. -/
theorem nothing_else (h : Link p ap n (.associationRequest :: up) down status) :
    exchange up down = [] ∧ n.mgmt.mib.isAssociated = false := by
  have hcons :
      exchange (.associationRequest :: up) down = .associationRequest :: exchange up down := by
    unfold exchange
    rw [List.filter_cons_of_pos rfl, List.cons_append]
  refine ⟨?_, ?_⟩
  · have hlen := h.single
    rw [hcons, List.length_cons] at hlen
    exact List.eq_nil_of_length_eq_zero (by omega)
  · cases ha : n.mgmt.mib.isAssociated with
    | false => rfl
    | true => exact nomatch hcons.symm.trans (h.associated ha).2.1

theorem answer {reply : FrameBody} (h : Link p ap n (.associationRequest :: up) down status)
    (hreply : reply.answers = true)
    (hheld : n.mgmt.assocTimeoutMsg ≠ none → ∀ code, .associationResponse code = reply →
      Held up status') : Link p ap n up (down ++ [reply]) status' := by
  obtain ⟨hnil, hnot⟩ := h.nothing_else
  have hlost := h.lose (List.sublist_cons_self _ up) (List.Sublist.refl down)
  refine { hlost with single := ?_, answered := ?_, pending := ?_, associated := ?_ }
  · have hone : exchange up (down ++ [reply]) = exchange up down ++ [reply] := by
      simp [exchange, hreply]
    rw [hone, hnil]
    exact Nat.le_refl 1
  · intro hp code hcode
    rcases List.mem_append.mp hcode with hdown | hnew
    · exact nomatch (exchange_eq_nil.mp hnil).2 _ hdown
    · exact hheld hp code (List.mem_singleton.mp hnew)
  · intro hp _
    exact h.pending hp (by simp [exchange, FrameBody.asks])
  · exact fun ha => nomatch hnot.symm.trans ha

theorem reply {replies : List FrameBody} (h : Link p ap n (b :: up) down status)
    (hreplies : MgmtAp.Replies status b status' replies) :
    Link p ap n up (down ++ replies) status' := by
  have hlost := h.lose (List.sublist_cons_self b up) (List.Sublist.refl down)
  cases hreplies with
  | probeRequest hnone => exact hlost.hear hnone
  | authentication hnone =>
      -- an authentication frame on the way excludes that the station relies on its state
      refine Link.hear { hlost with answered := ?_, associated := ?_ } hnone
      · intro hp code hcode
        exact nomatch (h.answered hp code hcode).2 _ List.mem_cons_self
      · intro ha
        exact nomatch (h.associated ha).2.2.2 _ List.mem_cons_self
  | refused => exact h.answer rfl fun _ _ hcode => nomatch hcode
  | accepted =>
      refine h.answer rfl fun hp _ _ => ⟨rfl, fun c hc => ?_⟩
      exact (List.pairwise_cons.mp (h.ordered hp)).1 c hc rfl

/-! ### The station -/

/-- A step of the station after which it relies on no more than before. -/
theorem mono (h : Link p ap n up down status) (hsound : n'.Sound p)
    (hknown : ∀ a, known n'.mgmt.apList a = true → a = ap)
    (hpending : n'.mgmt.assocTimeoutMsg ≠ none → n.mgmt.assocTimeoutMsg ≠ none)
    (hassoc : n'.mgmt.mib.isAssociated = true → n.mgmt.mib.isAssociated = true)
    (hauth : n'.mgmt.assocTimeoutMsg ≠ none ∧ exchange up down ≠ [] ∨
        n'.mgmt.mib.isAssociated = true →
      authenticated n.mgmt.apList ap = true → authenticated n'.mgmt.apList ap = true) :
    Link p ap n' up down status where
  sound := hsound
  onlyAp := hknown
  sent := h.sent
  single := h.single
  ordered := fun hp => h.ordered (hpending hp)
  answered := fun hp => h.answered (hpending hp)
  pending := fun hp hne => hauth (.inl ⟨hp, hne⟩) (h.pending (hpending hp) hne)
  associated := fun ha => ⟨hauth (.inr ha) (h.associated (hassoc ha)).1,
    (h.associated (hassoc ha)).2⟩

/-- A step that touches no association and no entry of the list. -/
theorem same (h : Link p ap n up down status) (hsound : n'.Sound p)
    (hlist : n'.mgmt.apList = n.mgmt.apList)
    (hpending : n'.mgmt.assocTimeoutMsg ≠ none → n.mgmt.assocTimeoutMsg ≠ none)
    (hassoc : n'.mgmt.mib.isAssociated = true → n.mgmt.mib.isAssociated = true) :
    Link p ap n' up down status :=
  h.mono hsound (hlist ▸ h.onlyAp) hpending hassoc fun _ hauth => hlist ▸ hauth

/-- A step that writes to an entry of the list and leaves its flag as it is or sets it. -/
theorem entry (h : Link p ap n up down status) (hsound : n'.Sound p) {a : MacAddress} {x : ApInfo}
    {f : ApInfo → ApInfo} (hx : lookupKey ApInfo.address a n.mgmt.apList = some x)
    (hmgmt : n'.mgmt = n.mgmt.updateAP a f) (hf : ∀ x, (f x).address = x.address)
    (hflag : x.isAuthenticated = true → (f x).isAuthenticated = true) :
    Link p ap n' up down status := by
  refine h.mono hsound ?_ (hmgmt ▸ id) (hmgmt ▸ id) fun _ hauth => ?_
  · intro b hb
    rw [hmgmt] at hb
    exact h.onlyAp b ((known_update hf hx b).symm.trans hb)
  · rw [hmgmt]
    refine (authenticated_update hf hx ap).trans ?_
    split
    · rename_i heq
      exact hflag (authenticated_of_lookup (heq ▸ hx) ▸ hauth)
    · exact hauth

theorem move (h : Link p ap n up down status) (hmove : Move p n e n' signals)
    (hlocal : e.isReception = false)
    (hfresh : ∀ a t rest, e = .deliverRequest → n.toMgmt = .associate a t :: rest →
      exchange up down = []) : Link p ap n' up down status := by
  have hsound := h.sound.move hmove
  cases hmove with
  | startUp | confirmed | associated | reassociated | scanTimerReplaced | nextChannel | scanDone |
    beaconLost => exact h.same hsound rfl id id
  | scan hq hidle =>
      have hnone := h.sound.mgmt.scanStarted_assocTimeoutMsg ‹ScanRequest›
      have hnot := n.mgmt.scanStarted_isAssociated ‹ScanRequest›
      refine h.mono hsound (fun a ha => ?_) (fun hp => (hp hnone).elim)
        (fun ha => nomatch hnot.symm.trans ha) fun hrelies => ?_
      · unfold known at ha
        rw [MgmtSta.scanStarted_apList] at ha
        cases ha
      · rcases hrelies with ⟨hp, _⟩ | ha
        · exact (hp hnone).elim
        · exact nomatch hnot.symm.trans ha
  | authenticate hq hap htimer hnot => exact h.entry hsound hap rfl (fun _ => rfl) id
  | associate hq hap hauth hnot hnone =>
      have hnil := hfresh _ _ _ rfl hq
      obtain ⟨hup, hdown⟩ := exchange_eq_nil.mp hnil
      exact
        { h with
          sound := hsound
          ordered := fun _ => List.pairwise_iff_forall_sublist.mpr fun hsub hask =>
            nomatch (hup _ (hsub.subset List.mem_cons_self)).symm.trans hask
          answered := fun _ code hcode => nomatch hdown _ hcode
          pending := fun _ hne => (hne hnil).elim }
  | foreign hq hreq => exact (h.sound.not_foreign hq hreq).elim
  | authTimedOut hap htimer => exact h.entry hsound hap rfl (fun _ => rfl) id
  | assocTimedOut hx hmsg => exact h.same hsound rfl (fun _ => by simp [hx]) id
  | reception busy =>
      have hbusy : (n.mgmt.receiveReceptionState busy).apList = n.mgmt.apList ∧
          (n.mgmt.receiveReceptionState busy).assocTimeoutMsg = n.mgmt.assocTimeoutMsg ∧
          (n.mgmt.receiveReceptionState busy).mib = n.mgmt.mib := by
        unfold MgmtSta.receiveReceptionState
        split <;> exact ⟨rfl, rfl, rfl⟩
      obtain ⟨hlist, hpending, hmib⟩ := hbusy
      exact h.same hsound hlist (fun hp => hpending ▸ hp) fun ha => hmib ▸ ha
  | _ => cases hlocal

theorem only_answer (h : Link p ap n up (b :: down) status) (hb : b.answers = true) :
    exchange up (b :: down) ≠ [] ∧ exchange up down = [] ∧ n.mgmt.mib.isAssociated = false := by
  have hcons : exchange up (b :: down) =
      up.filter FrameBody.asks ++ b :: down.filter FrameBody.answers := by
    unfold exchange
    rw [List.filter_cons_of_pos hb]
  have hne : exchange up (b :: down) ≠ [] := by simp [hcons]
  refine ⟨hne, ?_, ?_⟩
  · have hlen := h.single
    rw [hcons, List.length_append, List.length_cons] at hlen
    exact List.eq_nil_of_length_eq_zero (by rw [exchange, List.length_append]; omega)
  · cases ha : n.mgmt.mib.isAssociated with
    | false => rfl
    | true => exact (hne (h.associated ha).2.1).elim

theorem receive {f : MgmtFrame} (h : Link p ap n up (f.body :: down) status)
    (hmove : Move p n (.frame f) n' signals) (ht : f.transmitterAddress = ap) :
    Link p ap n' up down status := by
  have hsound := h.sound.move hmove
  have hlost := h.lose (List.Sublist.refl up) (List.sublist_cons_self f.body down)
  cases hmove with
  | ignored => exact hlost
  | authMore hbody hap hseq => exact hlost.entry hsound hap rfl (fun _ => rfl) id
  | authEnded hbody hap htimer hnot hend haddress hdone hresult =>
      exact hlost.entry hsound hap rfl haddress fun hauth => nomatch hnot.symm.trans hauth
  | deauthCancelled hbody hap hauth htimer => exact hlost.entry hsound hap rfl (fun _ => rfl) id
  | deauthenticated hbody hap hauth htimer =>
      obtain ⟨_, hnil, hnot⟩ := h.only_answer (by rw [hbody]; rfl)
      refine hlost.mono hsound (fun b hb => ?_) id id fun hrelies => ?_
      · exact h.onlyAp b ((known_update (f := fun ap => { ap with isAuthenticated := false })
          (fun _ => rfl) hap b).symm.trans hb)
      · rcases hrelies with ⟨_, hne⟩ | ha
        · exact (hne hnil).elim
        · exact nomatch hnot.symm.trans ha
  | assocRefused hbody hx hap hstatus =>
      exact hlost.same hsound (MgmtSta.breakAssociation_apList _) (fun hp => (hp rfl).elim)
        fun ha => nomatch (MgmtSta.breakAssociation_isAssociated _).symm.trans ha
  | assocDone hbody hx hap =>
      obtain ⟨hne, hnil, _⟩ := h.only_answer (by rw [hbody]; rfl)
      have hp : n.mgmt.assocTimeoutMsg ≠ none := by simp [hx]
      have hlist := n.mgmt.breakAssociation_apList
      have hheld := h.answered hp SC_SUCCESSFUL (by simp [hbody])
      exact
        { sound := hsound
          onlyAp := fun b hb => h.onlyAp b (hlist ▸ hb)
          sent := hlost.sent
          single := hlost.single
          ordered := fun hp => (hp rfl).elim
          answered := fun hp => (hp rfl).elim
          pending := fun hp => (hp rfl).elim
          associated := fun _ => ⟨hlist.symm ▸ h.pending hp hne, hnil, hheld⟩ }
  | disassocIgnored hbody hother => exact hlost.same hsound rfl (fun hp => (hp rfl).elim) id
  | disassociated hbody hassoc haddress =>
      exact hlost.same hsound rfl (fun hp => (hp rfl).elim) fun ha => nomatch ha
  | stored hsame htimer hother =>
      refine hlost.mono hsound (fun a ha => ?_) id id fun _ hauth => ?_
      · by_cases hat : a = f.transmitterAddress
        · exact hat.trans ht
        · exact h.onlyAp a ((hother a hat).symm.trans ha)
      · exact (hsame.authenticated ap).trans hauth

end Link

/-! ## The service set -/

namespace Bss

variable {ι : Type*} {p : BssParams ι} {s s' : Bss ι} {e : BssEvent ι}

/-- The station that takes a request of its agent. -/
def takesRequest : BssEvent ι → Option ι
  | .station i .deliverRequest => some i
  | _ => none

/-- The condition on the runs: a station takes an AssociateRequest of its agent only while
no association request of an earlier attempt and no answer to one is on the way. -/
def FreshAssociation (s : Bss ι) (e : BssEvent ι) : Prop :=
  ∀ i ∈ takesRequest e, (s.sta i).toMgmt.head?.any (fun req => req.associate?.isSome) = true →
    exchange (s.up i) (s.down i) = []

instance (s : Bss ι) (e : BssEvent ι) : Decidable (FreshAssociation s e) :=
  inferInstanceAs (Decidable (∀ i ∈ takesRequest e, _ → _))

def Linked (p : BssParams ι) (s : Bss ι) : Prop :=
  ∀ i, Link (p.agent i) p.ap.address (s.sta i) (s.up i) (s.down i) (s.ap.stations (p.address i))

theorem linked_initial (p : BssParams ι) (numChannels : ι → Nat) : (initial numChannels).Linked p :=
  fun i => .initial (numChannels i)

/-- Frames from the access point to other stations are not received. -/
theorem received_other {i j : ι} {outs : List ApOut} (hto : MgmtAp.SendsTo (p.address i) outs)
    (hj : j ≠ i) : (outs.filterMap ApOut.frame?).filterMap (receivedAt (p.address j)) = [] := by
  refine List.filterMap_eq_nil_iff.mpr fun frame hframe => ?_
  unfold receivedAt
  rw [hto frame hframe, if_neg]
  rintro (heq | heq)
  · exact hj (p.address_injective heq).symm
  · exact p.address_ne i heq

theorem received_own {i : ι} {outs : List ApOut} (hto : MgmtAp.SendsTo (p.address i) outs) :
    (outs.filterMap ApOut.frame?).filterMap (receivedAt (p.address i)) = MgmtAp.bodies outs := by
  unfold MgmtAp.bodies
  rw [← List.filterMap_eq_map]
  refine List.filterMap_congr fun frame hframe => ?_
  unfold receivedAt
  rw [if_pos (.inl (hto frame hframe))]
  rfl

variable [DecidableEq ι]

theorem linked_stationStep {i : ι} {ev : Event} (hstep : s.stationStep p i ev = .ok s')
    (hother : ∀ j, j ≠ i → Link (p.agent j) p.ap.address (s.sta j) (s.up j) (s.down j)
      (s.ap.stations (p.address j)))
    (hown : ∀ n signals, Move (p.agent i) (s.sta i) ev n signals →
      Link (p.agent i) p.ap.address n (s.up i) (s.down i) (s.ap.stations (p.address i)))
    (hsound : (s.sta i).Sound (p.agent i))
    (hfresh : ∀ a t rest, ev = .deliverRequest → (s.sta i).toMgmt = .associate a t :: rest →
      exchange (s.up i) (s.down i) = []) : s'.Linked p := by
  unfold stationStep at hstep
  split at hstep
  · cases hstep
  · rename_i n outs hnic
    obtain rfl := Except.ok.inj hstep
    intro j
    by_cases hj : j = i
    · subst hj
      simp only [Function.update_self]
      exact (hown n _ (Nic.move_of_step hnic)).send (Nic.sends_of_step hsound hnic) hfresh
    · simp only [Function.update_of_ne hj]
      exact hother j hj

theorem linked_toAp {i : ι} {body : FrameBody} {rest : List FrameBody} (h : s.Linked p)
    (hup : s.up i = body :: rest) (hstep : s.step p (.toAp i) = .ok s') : s'.Linked p := by
  simp only [step, hup] at hstep
  obtain rfl := Except.ok.inj hstep
  have hto := s.ap.sendsTo_processFrame p.ap
    (f := ⟨p.address i, MacAddress.UNSPECIFIED_ADDRESS, body, 0⟩)
  intro j
  by_cases hj : j = i
  · subst hj
    have hlink := h j
    rw [hup] at hlink
    have hreplies := s.ap.replies_processFrame p.ap
      (f := ⟨p.address j, MacAddress.UNSPECIFIED_ADDRESS, body, 0⟩)
      (hlink.sent body List.mem_cons_self)
    simp only [apStep, Function.update_self, received_own hto]
    exact hlink.reply hreplies
  · have hstations := s.ap.processFrame_stations p.ap (b := p.address j)
      (f := ⟨p.address i, MacAddress.UNSPECIFIED_ADDRESS, body, 0⟩)
      (fun heq => hj (p.address_injective heq))
    simp only [apStep, Function.update_of_ne hj, received_other hto hj, List.append_nil]
    exact hstations ▸ h j

theorem step_linked (h : s.Linked p) (hfresh : s.FreshAssociation e)
    (hstep : s.step p e = .ok s') : s'.Linked p := by
  cases e with
  | station i ev =>
      cases hlocal : ev.isReception with
      | true => simp [step, hlocal] at hstep
      | false =>
          have hfresh' : ∀ a t rest, ev = .deliverRequest →
              (s.sta i).toMgmt = .associate a t :: rest → exchange (s.up i) (s.down i) = [] :=
            fun a t rest hev hq => hfresh i (by rw [hev]; rfl) (by rw [hq]; rfl)
          simp only [step, hlocal, Bool.false_eq_true, if_false] at hstep
          exact linked_stationStep hstep (fun j _ => h j)
            (fun n _ hmove => (h i).move hmove hlocal hfresh') (h i).sound hfresh'
  | toStation i signalPower =>
      cases hdown : s.down i with
      | nil => simp [step, hdown] at hstep
      | cons body rest =>
          simp only [step, hdown] at hstep
          refine linked_stationStep hstep (fun j hj => ?_) (fun n _ hmove => ?_) (h i).sound
            (fun _ _ _ hev => nomatch hev)
          · simp only [Function.update_of_ne hj]
            exact h j
          · simp only [Function.update_self]
            have hlink := h i
            rw [hdown] at hlink
            exact hlink.receive (f := ⟨p.ap.address, p.ap.address, body, signalPower⟩) hmove rfl
  | toAp i =>
      cases hup : s.up i with
      | nil => simp [step, hup] at hstep
      | cons body rest => exact linked_toAp h hup hstep
  | loseUp i k =>
      obtain rfl := Except.ok.inj hstep
      intro j
      by_cases hj : j = i
      · subst hj
        simp only [Function.update_self]
        exact (h j).lose (List.eraseIdx_sublist _ k) (List.Sublist.refl _)
      · simp only [Function.update_of_ne hj]
        exact h j
  | loseDown i k =>
      obtain rfl := Except.ok.inj hstep
      intro j
      by_cases hj : j = i
      · subst hj
        simp only [Function.update_self]
        exact (h j).lose (List.Sublist.refl _) (List.eraseIdx_sublist _ k)
      · simp only [Function.update_of_ne hj]
        exact h j
  | beacon =>
      obtain rfl := Except.ok.inj hstep
      intro j
      refine (h j).hear fun b hb => ?_
      obtain ⟨frame, hframe, hreceived⟩ := List.mem_filterMap.mp hb
      obtain rfl := List.mem_singleton.mp hframe
      unfold receivedAt at hreceived
      rw [if_pos (.inr rfl)] at hreceived
      obtain rfl := Option.some.inj hreceived
      rfl
  | channelChanged channelNumber =>
      obtain rfl := Except.ok.inj hstep
      exact h

/-- In every run in which association attempts do not meet, a station that is associated
with the access point is held as associated by it. -/
theorem associated_is_held (p : BssParams ι) (numChannels : ι → Nat) (es : List (BssEvent ι))
    (hrun : run (step p) (initial numChannels) es = .ok s)
    (hfresh : Along (step p) FreshAssociation (initial numChannels) es) (i : ι)
    (hassoc : (s.sta i).mgmt.mib.isAssociated = true)
    (_hbssid : (s.sta i).mgmt.mib.bssid = p.ap.address) :
    s.ap.stations (p.address i) = some .ASSOCIATED :=
  ((run_invariant (fun _ _ _ h hfresh hstep => step_linked h hfresh hstep)
    (linked_initial p numChannels) hfresh hrun i).associated hassoc).2.2.1

/-! ## Sample runs -/

/-- One station and an access point that authenticates in two steps. -/
def sampleBss : BssParams (Fin 1) where
  ap := { address := 1#48, numAuthSteps := 2 }
  agent := fun _ => sampleParams
  address := fun _ => 2#48
  address_injective := fun i j _ => Subsingleton.elim i j
  address_ne := by decide

/-- The station hears a beacon in a scan and asks for authentication. -/
def scanAndAuthenticate : List (BssEvent (Fin 1)) :=
  [.station 0 .deliverRequest, .toStation 0 0, .station 0 (.scanTimer 0),
    .station 0 .deliverConfirm, .station 0 .deliverRequest]

/-- The station takes an authentication reply and asks for association. -/
def authenticateAndAssociate : List (BssEvent (Fin 1)) :=
  [.toStation 0 0, .station 0 .deliverConfirm, .station 0 .deliverRequest]

def directRun : List (BssEvent (Fin 1)) :=
  [.channelChanged 1, .station 0 .startUp, .beacon] ++ scanAndAuthenticate ++ [.toAp 0] ++
    authenticateAndAssociate ++ [.toAp 0, .toStation 0 0]

theorem associated_is_held_sample :
    ∃ s : Bss (Fin 1), run (step sampleBss) (initial fun _ => 1) directRun = .ok s ∧
      (s.sta 0).mgmt.mib.isAssociated = true ∧
      s.ap.stations (sampleBss.address 0) = some .ASSOCIATED := by
  have hdirect : (run (step sampleBss) (initial fun _ => 1) directRun).toOption.map
      (fun s => ((s.sta 0).mgmt.mib.isAssociated, (s.sta 0).mgmt.mib.bssid)) =
        some (true, 1#48) := by
    decide +kernel
  have hfresh : Along (step sampleBss) FreshAssociation (initial fun _ => 1) directRun := by
    decide +kernel
  obtain ⟨s, hrun, hend⟩ := exists_of_run_map hdirect
  obtain ⟨hassoc, hbssid⟩ := Prod.mk.inj hend
  exact ⟨s, hrun, hassoc,
    associated_is_held sampleBss (fun _ => 1) directRun hrun hfresh 0 hassoc hbssid⟩

/-- The first request for authentication gets a reply and, after a beacon, the second one
too. The station takes the first reply and asks for association; that times out while the
answer follows the beacon and the second reply. -/
def staleAnswerRun : List (BssEvent (Fin 1)) :=
  [.channelChanged 1, .station 0 .startUp, .beacon] ++ scanAndAuthenticate ++
    [.station 0 (.authTimeout 1#48), .station 0 .deliverConfirm, .beacon] ++ scanAndAuthenticate ++
    [.toAp 0, .beacon, .toAp 0] ++ authenticateAndAssociate ++
    [.toAp 0, .station 0 .assocTimeout, .station 0 .deliverConfirm] ++ scanAndAuthenticate ++
    authenticateAndAssociate ++ [.toStation 0 0, .toAp 0]

/-- A station takes the answer to its former request while the access point starts anew. -/
theorem associated_not_held :
    ¬ ∀ (n : Nat) (p : BssParams (Fin n)) (numChannels : Fin n → Nat) (es : List (BssEvent (Fin n)))
      (s : Bss (Fin n)), run (step p) (initial numChannels) es = .ok s → ∀ i,
        (s.sta i).mgmt.mib.isAssociated = true → (s.sta i).mgmt.mib.bssid = p.ap.address →
          s.ap.stations (p.address i) = some .ASSOCIATED := by
  intro hclaim
  have hstale : (run (step sampleBss) (initial fun _ => 1) staleAnswerRun).toOption.map
      (fun s => ((s.sta 0).mgmt.mib.isAssociated, (s.sta 0).mgmt.mib.bssid, s.ap.stations 2#48)) =
        some (true, 1#48, some .AUTHENTICATED) := by
    decide +kernel
  obtain ⟨s, hrun, hend⟩ := exists_of_run_map hstale
  obtain ⟨hassoc, hrest⟩ := Prod.mk.inj hend
  obtain ⟨hbssid, hstatus⟩ := Prod.mk.inj hrest
  have hheld := hclaim 1 sampleBss (fun _ => 1) staleAnswerRun s hrun 0 hassoc hbssid
  exact nomatch hstatus.symm.trans hheld

end Bss

end MultiTechBus.Ieee80211
