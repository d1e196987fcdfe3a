import MultiTechBus.App.Tick
import MultiTechBus.Ieee80211.Phase

/-! # The association flag of the application

A bus with one WLAN card. The application learns of the association from the signal
of the agent alone, and only after it has subscribed in its first control tick.
-/

namespace MultiTechBus.App

open MultiTechBus.Library MultiTechBus.Ieee80211

namespace AppBusDataCollection

/-- The application hears the emitted association values if it has subscribed. -/
def hear (app : AppBusDataCollection) (signals : List Bool) : AppBusDataCollection :=
  if app.haveForwarded then
    signals.foldl (fun app l => app.receiveSignal (if l then 1 else 0)) app
  else app

def heard (haveForwarded flag : Bool) : List Bool → Bool
  | [] => flag
  | l :: signals => heard haveForwarded (if haveForwarded then l else flag) signals

theorem hear_ConnectionToAP (app : AppBusDataCollection) (signals : List Bool) :
    (app.hear signals).ConnectionToAP = heard app.haveForwarded app.ConnectionToAP signals := by
  unfold hear
  cases hfwd : app.haveForwarded with
  | true =>
      rw [if_pos rfl]
      induction signals generalizing app with
      | nil => rfl
      | cons l signals ih =>
          rw [List.foldl_cons, ih (app.receiveSignal (if l then 1 else 0)) hfwd]
          cases l <;> rfl
  | false =>
      rw [if_neg (by simp)]
      induction signals with
      | nil => rfl
      | cons l signals ih => exact ih

theorem hear_haveForwarded (app : AppBusDataCollection) (signals : List Bool) :
    (app.hear signals).haveForwarded = app.haveForwarded ∧
      (app.hear signals).wlanAgentFound = app.wlanAgentFound := by
  unfold hear
  split
  · induction signals generalizing app with
    | nil => exact ⟨rfl, rfl⟩
    | cons l signals ih => exact ih _ ‹_›
  · exact ⟨rfl, rfl⟩

theorem subscribeToAgent_haveForwarded {app : AppBusDataCollection}
    (h : app.wlanAgentFound = true) :
    app.subscribeToAgent.haveForwarded = true ∧ app.subscribeToAgent.wlanAgentFound = true := by
  unfold subscribeToAgent
  cases hfwd : app.haveForwarded <;> simp [h, hfwd]

end AppBusDataCollection

theorem controlInterface_app {app app' : AppBusDataCollection} {node node' : Network.Node}
    (h : controlInterface app node = .ok (app', node')) : app' = app.subscribeToAgent := by
  unfold controlInterface at h
  simp only [] at h
  split at h
  · split at h
    · cases hswitch : switchPath node .DOWN "wlan0" wlanGateway <;>
        simp_all [Bind.bind, Except.bind, Pure.pure, Except.pure]
    · cases hswitch : switchPath node .UP "cellular" cellularGateway <;>
        simp_all [Bind.bind, Except.bind, Pure.pure, Except.pure]
  · exact (Prod.mk.inj (Except.ok.inj h)).1.symm

structure WlanBus where
  nic : Nic
  bus : Bus

inductive WlanEvent
  /-- The card handles an event. -/
  | nic (e : Event)
  /-- The control timer of the application fires. -/
  | tick
deriving DecidableEq, Repr

namespace WlanBus

def next (p : AgentParams) (s : WlanBus) : WlanEvent → Except Halt WlanBus
  | .nic e =>
      match s.nic.step p e with
      | .error k => .error k
      | .ok (nic, outs) =>
          .ok
            { nic := nic
              bus := { s.bus with app := s.bus.app.hear (outs.filterMap NicOut.stateAssociation?) } }
  | .tick =>
      match controlInterface s.bus.app s.bus.node with
      | .error k => .error k
      | .ok (app, node) => .ok { s with bus := { app := app, node := node } }

/-- Before the start: the application has neither subscribed nor heard anything. -/
structure Initial (numChannels : Nat) (s : WlanBus) : Prop where
  nic : s.nic = Nic.initial numChannels
  wlanAgentFound : s.bus.app.wlanAgentFound = true
  haveForwarded : s.bus.app.haveForwarded = false
  ConnectionToAP : s.bus.app.ConnectionToAP = false

/-- No primitive is in flight between the agent and the management entity. -/
def isQuiet (s : WlanBus) : Bool := s.nic.toMgmt.isEmpty && s.nic.toAgent.isEmpty

/-- The event is reported to the application in time, if it has to be. -/
def StaysReported (s : WlanBus) (e : WlanEvent) : Prop :=
  match e with
  | .nic e =>
      s.nic.StaysSingle e ∧
        match e with
        | .frame f =>
            match f.body with
            | .associationResponse status =>
                status = SC_SUCCESSFUL →
                  s.nic.mgmt.assocTimeoutMsg.all (fun x => x.msg.isScheduled) = true
            | .disassociation _ =>
                s.nic.mgmt.mib.isAssociated = true → f.address3 = s.nic.mgmt.assocAP.address →
                  s.nic.toMgmt ≠ [] ∨ s.bus.app.haveForwarded = false ∧ s.nic.toAgent = []
            | _ => True
        | .beaconTimeout => s.nic.toAgent = []
        | _ => True
  | .tick =>
      s.bus.app.haveForwarded = false → s.nic.mgmt.mib.isAssociated = true → s.isQuiet = false

instance (s : WlanBus) (e : WlanEvent) : Decidable (s.StaysReported e) :=
  match e with
  | .tick => inferInstanceAs (Decidable (_ → _ → _))
  | .nic (.frame ⟨_, _, body, _⟩) =>
      match body with
      | .associationResponse _ => inferInstanceAs (Decidable (_ ∧ (_ → _)))
      | .disassociation _ => inferInstanceAs (Decidable (_ ∧ (_ → _ → _ ∨ _)))
      | .authentication .. | .deauthentication _ | .associationRequest | .reassociationRequest
      | .reassociationResponse _ | .beacon _ | .probeRequest _ | .probeResponse _ =>
          inferInstanceAs (Decidable (_ ∧ True))
  | .nic .beaconTimeout => inferInstanceAs (Decidable (_ ∧ _))
  | .nic .startUp | .nic .deliverRequest | .nic .deliverConfirm | .nic (.authTimeout _)
  | .nic .assocTimeout | .nic (.scanTimer _) | .nic (.receptionState _) =>
      inferInstanceAs (Decidable (_ ∧ True))

end WlanBus

/-- What the application knows of the association of the card. -/
inductive Reported (n : Nic) (haveForwarded : Bool) : Bool → Prop
  /-- There is no association, and none is reported. -/
  | apart (hnot : n.mgmt.mib.isAssociated = false)
      (hconfirm : ∀ c ∈ n.toAgent, c.restarts = true) : Reported n haveForwarded false
  /-- The association was reported, to the application if it was listening. -/
  | told (h : n.mgmt.mib.isAssociated = true) (hreq : n.toMgmt = []) (hconfirm : n.toAgent = []) :
      Reported n haveForwarded haveForwarded
  /-- The association is about to be reported. -/
  | telling {a : MacAddress} (h : n.mgmt.mib.isAssociated = true) (hreq : n.toMgmt = [])
      (hconfirm : n.toAgent = [.associate .PRC_SUCCESS a]) : Reported n haveForwarded false
  /-- The association is about to end, which was reported. -/
  | leaving (h : n.mgmt.mib.isAssociated = true) (hreq : n.toMgmt ≠ []) (hconfirm : n.toAgent = []) :
      Reported n haveForwarded false

namespace Reported

variable {n n' : Nic} {haveForwarded flag : Bool} {ph : Phase}

theorem congr (h : Reported n haveForwarded flag)
    (hassociated : n'.mgmt.mib.isAssociated = n.mgmt.mib.isAssociated)
    (hreq : n'.toMgmt = n.toMgmt) (hconfirm : n'.toAgent = n.toAgent) :
    Reported n' haveForwarded flag := by
  cases h with
  | apart hnot hrestarts => exact .apart (hassociated.trans hnot) (hconfirm ▸ hrestarts)
  | told h hreq' hconfirm' =>
      exact .told (hassociated.trans h) (hreq.trans hreq') (hconfirm.trans hconfirm')
  | telling h hreq' hconfirm' =>
      exact .telling (hassociated.trans h) (hreq.trans hreq') (hconfirm.trans hconfirm')
  | leaving h hreq' hconfirm' =>
      exact .leaving (hassociated.trans h) (hreq ▸ hreq') (hconfirm.trans hconfirm')

theorem of_apart (h : Reported n haveForwarded flag) (hnot : n.mgmt.mib.isAssociated = false) :
    flag = false ∧ ∀ c ∈ n.toAgent, c.restarts = true := by
  cases h with
  | apart _ hconfirm => exact ⟨rfl, hconfirm⟩
  | told h => simp [hnot] at h
  | telling h => simp [hnot] at h
  | leaving h => simp [hnot] at h

/-- A station that was not associated and goes on without a success. -/
theorem stays_apart (h : Reported n haveForwarded flag) (hnot : n.mgmt.mib.isAssociated = false)
    (hnot' : n'.mgmt.mib.isAssociated = false)
    (hconfirm : ∀ c ∈ n'.toAgent, c ∈ n.toAgent ∨ c.restarts = true) :
    Reported n' haveForwarded flag := by
  obtain ⟨rfl, hrestarts⟩ := h.of_apart hnot
  refine .apart hnot' fun c hc => ?_
  rcases hconfirm c hc with hold | hnew
  · exact hrestarts c hold
  · exact hnew

theorem scan (h : Reported n haveForwarded flag) {req : Request} {rest : List Request}
    (hq : n.toMgmt = req :: rest) (hnot : n'.mgmt.mib.isAssociated = false)
    (hconfirm : n'.toAgent = n.toAgent) : Reported n' haveForwarded flag := by
  cases h with
  | apart _ hrestarts => exact .apart hnot (hconfirm ▸ hrestarts)
  | told _ hreq => cases hq.symm.trans hreq
  | telling _ hreq => cases hq.symm.trans hreq
  | leaving _ _ hnil => exact .apart hnot (by simp [hconfirm, hnil])

theorem confirmed (h : Reported n haveForwarded flag) {c : Confirm} {rest : List Confirm}
    (hq : n.toAgent = c :: rest) (hc : c.restarts = true)
    (hassociated : n'.mgmt.mib.isAssociated = n.mgmt.mib.isAssociated)
    (hrest : n'.toAgent = rest) : Reported n' haveForwarded flag := by
  cases h with
  | apart hnot hconfirm =>
      refine .apart (hassociated.trans hnot) fun c' hmem => hconfirm c' ?_
      rw [hq]
      exact .tail _ (hrest ▸ hmem)
  | told _ _ hconfirm => cases hq.symm.trans hconfirm
  | telling _ _ hconfirm =>
      obtain ⟨rfl, -⟩ := List.cons.inj (hq.symm.trans hconfirm)
      cases hc
  | leaving _ _ hconfirm => cases hq.symm.trans hconfirm

theorem associated (h : Reported n haveForwarded flag) {a : MacAddress} {rest : List Confirm}
    (hq : n.toAgent = .associate .PRC_SUCCESS a :: rest)
    (hassociated : n'.mgmt.mib.isAssociated = n.mgmt.mib.isAssociated)
    (hreq : n'.toMgmt = n.toMgmt) (hrest : n'.toAgent = rest) :
    Reported n' haveForwarded (AppBusDataCollection.heard haveForwarded flag [true]) := by
  cases h with
  | apart hnot hconfirm => cases hconfirm _ (by rw [hq]; exact .head _)
  | told _ _ hconfirm => cases hq.symm.trans hconfirm
  | telling h hreq' hconfirm =>
      obtain ⟨-, rfl⟩ := List.cons.inj (hq.symm.trans hconfirm)
      have htrue : AppBusDataCollection.heard haveForwarded false [true] = haveForwarded := by
        cases haveForwarded <;> rfl
      rw [htrue]
      exact .told (hassociated.trans h) (hreq.trans hreq') hrest
  | leaving _ _ hconfirm => cases hq.symm.trans hconfirm

/-- A disassociation ends an association that was reported as ended, or that the application
did not hear of. -/
theorem disassociated (h : Reported n haveForwarded flag)
    (hlost : n.toMgmt ≠ [] ∨ haveForwarded = false ∧ n.toAgent = [])
    (hnot : n'.mgmt.mib.isAssociated = false) (hconfirm : n'.toAgent = n.toAgent) :
    Reported n' haveForwarded flag := by
  cases h with
  | apart _ hrestarts => exact .apart hnot (hconfirm ▸ hrestarts)
  | told _ hreq hnil =>
      rcases hlost with hne | ⟨rfl, -⟩
      · exact absurd hreq hne
      · exact .apart hnot (by simp [hconfirm, hnil])
  | telling _ hreq htelling =>
      rcases hlost with hne | ⟨-, hnil⟩
      · exact absurd hreq hne
      · cases htelling.symm.trans hnil
  | leaving _ _ hnil => exact .apart hnot (by simp [hconfirm, hnil])

theorem beaconLost (h : Reported n haveForwarded flag)
    (hassociated : n'.mgmt.mib.isAssociated = true) (hreq : n'.toMgmt ≠ [])
    (hconfirm : n'.toAgent = []) :
    Reported n' haveForwarded (AppBusDataCollection.heard haveForwarded flag [false]) := by
  have hfalse : AppBusDataCollection.heard haveForwarded flag [false] = false := by
    cases h with
    | told => cases haveForwarded <;> rfl
    | apart => cases haveForwarded <;> rfl
    | telling => cases haveForwarded <;> rfl
    | leaving => cases haveForwarded <;> rfl
  rw [hfalse]
  exact .leaving hassociated hreq hconfirm

/-- The events of the card keep the application informed. -/
theorem move {p : AgentParams} {e : Event} {signals : List Bool} {bus : Bus} (hn : n.Sound p)
    (hat : n.At ph) (h : Reported n haveForwarded flag)
    (hforwarded : bus.app.haveForwarded = haveForwarded)
    (hguard : WlanBus.StaysReported ⟨n, bus⟩ (.nic e)) (hmove : Move p n e n' signals) :
    Reported n' haveForwarded (AppBusDataCollection.heard haveForwarded flag signals) := by
  have hkeep : ∀ c ∈ n.toAgent, c ∈ n.toAgent ∨ c.restarts = true := fun _ h => .inl h
  have hnew : ∀ c : Confirm, c.restarts = true →
      ∀ c' ∈ n.toAgent ++ [c], c' ∈ n.toAgent ∨ c'.restarts = true := by
    intro c hc c' hc'
    rcases List.mem_append.mp hc' with hold | hnew
    · exact .inl hold
    · exact .inr (List.mem_singleton.mp hnew ▸ hc)
  cases hmove with
  | startUp hstart =>
      obtain rfl := hat.startUp hstart
      have hnot := hat.not_associated rfl (by simp)
      exact h.stays_apart hnot hnot hkeep
  | scan hq hidle =>
      exact h.scan hq (MgmtSta.scanStarted_isAssociated n.mgmt _) rfl
  | authenticate hq hap htimer hnot =>
      obtain ⟨rfl, rfl⟩ := hat.requesting_of_cons hq
      have hnot := hat.not_associated rfl (by simp)
      exact h.stays_apart hnot hnot hkeep
  | associate hq hap hauth hnot hnone =>
      exact h.stays_apart hnot hnot hkeep
  | foreign hq hreq => exact absurd hreq (hn.not_foreign hq)
  | confirmed hq hc => exact h.confirmed hq hc rfl rfl
  | associated hq =>
      rw [hn.prevAP]
      simp only [MacAddress.isUnspecified, MacAddress.UNSPECIFIED_ADDRESS, BEq.rfl, Bool.true_or,
        if_true]
      exact h.associated hq rfl rfl rfl
  | reassociated hq => exact False.elim (hn.sent_of_cons hq).1
  | ignored f => exact h
  | authMore hbody hap hseq => exact h.congr rfl rfl rfl
  | authEnded hbody hap htimer hnot hend haddress hdone hresult =>
      obtain rfl := hat.authenticating_of_end hguard.1 hbody hap htimer hend
      have hnot := hat.not_associated rfl (by simp)
      exact h.stays_apart hnot hnot (hnew _ rfl)
  | deauthCancelled hbody hap hauth htimer => exact h.congr rfl rfl rfl
  | deauthenticated hbody hap hauth htimer => exact h.congr rfl rfl rfl
  | assocRefused hbody hx hap hstatus =>
      obtain rfl := hat.associating_of_refusal hguard.1 hbody hx hstatus
      exact h.stays_apart (hat.not_associated rfl (by simp)) (MgmtSta.breakAssociation_isAssociated _)
        (hnew _ rfl)
  | @assocDone f x ap hbody hx hap =>
      have hlate := hguard.2
      simp only [hbody, hx, Option.all_some] at hlate
      cases hmsg : x.msg with
      | fired => simp [hmsg, TimerMsg.isScheduled] at hlate
      | scheduled d =>
          obtain rfl := hat.assocScheduled x d hx hmsg
          obtain ⟨rfl, hconfirm⟩ := h.of_apart (hat.not_associated rfl (by simp))
          have hnil : n.toAgent = [] := by
            rw [← List.filter_eq_self.mpr hconfirm, hat.toAgent]
            rfl
          rw [hnil]
          exact .telling rfl hat.toMgmt rfl
  | disassocIgnored hbody hother => exact h.congr rfl rfl rfl
  | disassociated hbody hassoc haddress =>
      have hlost := hguard.2
      simp only [hbody] at hlost
      rw [hforwarded] at hlost
      exact h.disassociated (hlost hassoc haddress) rfl rfl
  | stored hsame htimer => exact h.congr rfl rfl rfl
  | authTimedOut hap htimer =>
      obtain rfl := hat.authScheduled _ _ ((authTimer_of_lookup hap).trans htimer)
      have hnot := hat.not_associated rfl (by simp)
      exact h.stays_apart hnot hnot (hnew _ rfl)
  | assocTimedOut hx hmsg =>
      obtain rfl := hat.assocScheduled _ _ hx hmsg
      have hnot := hat.not_associated rfl (by simp)
      exact h.stays_apart hnot hnot (hnew _ rfl)
  | scanTimerReplaced ht => exact h.congr rfl rfl rfl
  | nextChannel ht hnext => exact h.congr rfl rfl rfl
  | scanDone ht hlast =>
      obtain rfl := hat.isScanning (hn.mgmt.eraseIdx_scanTimers ht).1
      have hnot := hat.not_associated rfl (by simp)
      exact h.stays_apart hnot hnot (hnew _ rfl)
  | beaconLost htimer =>
      have hassociated := hn.mgmt.supervised.mpr (by rw [htimer]; simp)
      exact h.beaconLost hassociated (by simp) hguard.2
  | reception busy =>
      unfold MgmtSta.receiveReceptionState
      split
      · exact h.congr rfl rfl rfl
      · exact h

/-- The first tick subscribes the application, unless it is late for a report. -/
theorem tick {bus : Bus} (h : Reported n haveForwarded flag)
    (hforwarded : bus.app.haveForwarded = haveForwarded)
    (hguard : WlanBus.StaysReported ⟨n, bus⟩ .tick) : Reported n true flag := by
  cases h with
  | apart hnot hconfirm => exact .apart hnot hconfirm
  | told h hreq hconfirm =>
      cases haveForwarded with
      | true => exact .told h hreq hconfirm
      | false =>
          have hquiet := hguard hforwarded h
          simp [WlanBus.isQuiet, hreq, hconfirm] at hquiet
  | telling h hreq hconfirm => exact .telling h hreq hconfirm
  | leaving h hreq hconfirm => exact .leaving h hreq hconfirm

theorem eq_isAssociated (h : Reported n true flag) (hreq : n.toMgmt = [])
    (hconfirm : n.toAgent = []) :
    flag = n.mgmt.mib.isAssociated := by
  cases h with
  | apart hnot _ => exact hnot.symm
  | told h _ _ => exact h.symm
  | telling _ _ hconfirm' => cases hconfirm.symm.trans hconfirm'
  | leaving _ hreq' _ => exact absurd hreq hreq'

end Reported

namespace WlanBus

variable {p : AgentParams} {s s' : WlanBus} {e : WlanEvent}

/-- What holds of a bus in every run whose events are all reported. -/
structure Informed (p : AgentParams) (s : WlanBus) : Prop where
  sound : s.nic.Sound p
  phase : ∃ ph, s.nic.At ph
  wlanAgentFound : s.bus.app.wlanAgentFound = true
  reported : Reported s.nic s.bus.app.haveForwarded s.bus.app.ConnectionToAP

theorem next_nic {e : Event} (h : s.next p (.nic e) = .ok s') :
    ∃ signals, Move p s.nic e s'.nic signals ∧
      s'.bus = { s.bus with app := s.bus.app.hear signals } := by
  unfold next at h
  simp only [] at h
  cases hstep : s.nic.step p e with
  | error k => simp [hstep] at h
  | ok result =>
      obtain ⟨nic, outs⟩ := result
      rw [hstep] at h
      obtain rfl := Except.ok.inj h
      exact ⟨_, Nic.move_of_step hstep, rfl⟩

theorem next_tick (h : s.next p .tick = .ok s') :
    s'.nic = s.nic ∧ s'.bus.app = s.bus.app.subscribeToAgent := by
  unfold next at h
  simp only [] at h
  cases hcontrol : controlInterface s.bus.app s.bus.node with
  | error k => simp [hcontrol] at h
  | ok result =>
      obtain ⟨app, node⟩ := result
      rw [hcontrol] at h
      obtain rfl := Except.ok.inj h
      exact ⟨rfl, controlInterface_app hcontrol⟩

theorem Informed.next (h : s.Informed p) (hguard : s.StaysReported e)
    (hnext : s.next p e = .ok s') :
    s'.Informed p := by
  obtain ⟨ph, hat⟩ := h.phase
  cases e with
  | nic e =>
      obtain ⟨signals, hmove, hbus⟩ := next_nic hnext
      have happ := congrArg Bus.app hbus
      refine ⟨h.sound.move hmove, hat.move h.sound hguard.1 hmove, ?_, ?_⟩
      · rw [happ, (s.bus.app.hear_haveForwarded signals).2]
        exact h.wlanAgentFound
      · rw [happ, (s.bus.app.hear_haveForwarded signals).1,
          AppBusDataCollection.hear_ConnectionToAP]
        exact h.reported.move h.sound hat rfl hguard hmove
  | tick =>
      obtain ⟨hnic, happ⟩ := next_tick hnext
      have hsubscribed := AppBusDataCollection.subscribeToAgent_haveForwarded h.wlanAgentFound
      refine ⟨hnic ▸ h.sound, ⟨ph, hnic ▸ hat⟩, happ ▸ hsubscribed.2, ?_⟩
      rw [hnic, happ, hsubscribed.1, subscribeToAgent_ConnectionToAP]
      exact h.reported.tick rfl hguard

theorem haveForwarded_of_tick {es : List WlanEvent} (hagent : s.bus.app.wlanAgentFound = true)
    (htick : .tick ∈ es) (hrun : run (next p) s es = .ok s') : s'.bus.app.haveForwarded = true := by
  have hfound : ∀ (s : WlanBus) (e : WlanEvent) (s' : WlanBus),
      s.bus.app.wlanAgentFound = true → s.next p e = .ok s' → s'.bus.app.wlanAgentFound = true ∧
        (s.bus.app.haveForwarded = true ∨ e = .tick → s'.bus.app.haveForwarded = true) := by
    intro s e s' hagent hnext
    cases e with
    | nic e =>
        obtain ⟨signals, -, hbus⟩ := next_nic hnext
        have hheard := s.bus.app.hear_haveForwarded signals
        rw [congrArg Bus.app hbus, hheard.1, hheard.2]
        exact ⟨hagent, by simp⟩
    | tick =>
        have hsubscribed := AppBusDataCollection.subscribeToAgent_haveForwarded hagent
        rw [(next_tick hnext).2]
        exact ⟨hsubscribed.2, fun _ => hsubscribed.1⟩
  -- the tick is somewhere in the run; before it the agent is found, after it also subscribed to
  obtain ⟨before, after, rfl⟩ := List.append_of_mem htick
  obtain ⟨m, hbefore, hrest⟩ := run_append_inv hrun
  obtain ⟨m', hnext, hafter⟩ := run_cons_inv hrest
  have hm := run_invariant (I := fun s : WlanBus => s.bus.app.wlanAgentFound = true)
    (fun s e s' hs _ h => (hfound s e s' hs h).1) hagent
    (along_trivial (fun _ _ => trivial) s before) hbefore
  have hm' := hfound m .tick m' hm hnext
  exact (run_invariant
    (I := fun s : WlanBus => s.bus.app.wlanAgentFound = true ∧ s.bus.app.haveForwarded = true)
    (fun s e s' hs _ h => ⟨(hfound s e s' hs.1 h).1, (hfound s e s' hs.1 h).2 (.inl hs.2)⟩)
    ⟨hm'.1, hm'.2 (.inr rfl)⟩ (along_trivial (fun _ _ => trivial) m' after) hafter).2

theorem Initial.informed {numChannels : Nat} (h : s.Initial numChannels) : s.Informed p where
  sound := h.nic ▸ Nic.sound_initial numChannels
  phase := ⟨.starting, h.nic ▸ Nic.at_initial numChannels⟩
  wlanAgentFound := h.wlanAgentFound
  reported := by
    rw [h.nic, h.ConnectionToAP]
    exact .apart rfl nofun

/-- In every run whose events are all reported, the flag of the application is the
association of the station in every state after the first tick in which no primitive
is in flight. -/
theorem connectionToAP_eq_isAssociated (p : AgentParams) {numChannels : Nat} {s₀ : WlanBus}
    (h₀ : s₀.Initial numChannels) (es : List WlanEvent) (htick : .tick ∈ es)
    (hguard : Along (next p) StaysReported s₀ es) (hrun : run (next p) s₀ es = .ok s)
    (hquiet : s.isQuiet = true) : s.bus.app.ConnectionToAP = s.nic.mgmt.mib.isAssociated := by
  have hinformed := run_invariant (I := Informed p)
    (fun _ _ _ hs hg h => hs.next hg h) h₀.informed hguard hrun
  have hreported := hinformed.reported
  rw [haveForwarded_of_tick h₀.wlanAgentFound htick hrun] at hreported
  rw [isQuiet, Bool.and_eq_true, List.isEmpty_iff, List.isEmpty_iff] at hquiet
  exact hreported.eq_isAssociated hquiet.1 hquiet.2

def sample : WlanBus := { nic := Nic.initial 1, bus := sampleBus }

theorem sample_initial : sample.Initial 1 := ⟨rfl, rfl, rfl, rfl⟩

def untilConnected : List WlanEvent := .tick :: (untilAssociated 1).map .nic

theorem connectionToAP_sample :
    ∃ s, run (next sampleParams) sample untilConnected = .ok s ∧
      s.bus.app.ConnectionToAP = s.nic.mgmt.mib.isAssociated := by
  have hquiet : (run (next sampleParams) sample untilConnected).toOption.map isQuiet = some true := by
    decide +kernel
  obtain ⟨s, hrun, hs⟩ := exists_of_run_map hquiet
  exact ⟨s, hrun, connectionToAP_eq_isAssociated sampleParams sample_initial untilConnected
    (.head _) (by decide +kernel) hrun hs⟩

theorem connectionToAP_after_disassociation :
    ¬ ∀ (p : AgentParams) (numChannels : Nat) (s₀ : WlanBus), s₀.Initial numChannels →
      ∀ (es : List WlanEvent) (s : WlanBus), .tick ∈ es → run (next p) s₀ es = .ok s →
        s.isQuiet = true → s.bus.app.ConnectionToAP = s.nic.mgmt.mib.isAssociated := by
  intro h
  have hstale : (run (next sampleParams) sample
      (untilConnected ++ [.nic (frameOf 1 (.disassociation 8))])).toOption.map
        (fun s => (s.isQuiet, s.bus.app.ConnectionToAP, s.nic.mgmt.mib.isAssociated)) =
      some (true, true, false) := by
    decide +kernel
  obtain ⟨s, hrun, hs⟩ := exists_of_run_map hstale
  simp only [Prod.mk.injEq] at hs
  obtain ⟨hquiet, hflag, hassociated⟩ := hs
  have hsame := h sampleParams 1 sample sample_initial _ s (.head _) hrun hquiet
  rw [hflag, hassociated] at hsame
  cases hsame

end WlanBus

end MultiTechBus.App
