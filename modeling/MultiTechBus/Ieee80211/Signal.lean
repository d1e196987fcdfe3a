import Mathlib.Data.List.Induction
import MultiTechBus.Library.Run
import MultiTechBus.Ieee80211.AgentSta

/-! # What the agent says on `stateAssociationSignal`

The agent emits true in one branch of one confirm handler, and false when the
beacons are lost. Which value it emitted last is compared here with what happened
last: a successful confirm or a loss of the beacons. The addresses in the confirms
are any; the management entity itself never sets the one of an associate confirm.
-/

namespace MultiTechBus.Ieee80211

open MultiTechBus.Library

/-- What the agent handles: a confirm of the management entity, or `l2BeaconLostSignal`. -/
inductive AgentEvent
  | response (c : Confirm)
  | beaconLost
deriving DecidableEq, Repr

def AgentOut.stateAssociation? : AgentOut → Option Bool
  | stateAssociation l => some l
  | _ => none

/-- The agent, and the values it has emitted on `stateAssociationSignal`. -/
structure Emitter where
  agent : AgentSta := {}
  emitted : List Bool := []

namespace Emitter

def handle (p : AgentParams) (agent : AgentSta) :
    AgentEvent → Except Halt (AgentSta × List AgentOut)
  | .response c => agent.handleResponse p c
  | .beaconLost => .ok (agent, AgentSta.receiveBeaconLost p)

def step (p : AgentParams) (s : Emitter) (e : AgentEvent) : Except Halt Emitter :=
  (handle p s.agent e).map fun r =>
    { agent := r.1, emitted := s.emitted ++ r.2.filterMap AgentOut.stateAssociation? }

end Emitter

/-! ## What happened last -/

/-- The confirm says that the station is associated now. -/
def Confirm.isJoin : Confirm → Bool
  | associate rc _ => rc == .PRC_SUCCESS
  | reassociate rc _ => rc == .PRC_SUCCESS
  | _ => false

/-- The address of a confirm that says so. -/
def Confirm.joined? : Confirm → Option MacAddress
  | associate rc address => if rc = .PRC_SUCCESS then some address else none
  | reassociate rc address => if rc = .PRC_SUCCESS then some address else none
  | _ => none

namespace AgentEvent

/-- The address of a successful associate or reassociate confirm. -/
def associated? : AgentEvent → Option MacAddress
  | response c => c.joined?
  | beaconLost => none

/-- What the event decides about the association: a successful confirm says that
there is one, a loss of the beacons that there is none. -/
def decides? : AgentEvent → Option Bool
  | response c => if c.isJoin then some true else none
  | beaconLost => some false

end AgentEvent

/-- The address of the last successful confirm. -/
def lastAssociated (es : List AgentEvent) : Option MacAddress :=
  (es.filterMap AgentEvent.associated?).getLast?

/-- The last event that decides is a successful confirm. -/
def Joined (es : List AgentEvent) : Prop :=
  (es.filterMap AgentEvent.decides?).getLast? = some true

/-- A successful confirm for `a` does not repeat the one before it. -/
def NewAp (es : List AgentEvent) (a : MacAddress) : Prop :=
  ∀ b, lastAssociated es = some b → b.isUnspecified = true ∨ b ≠ a

/-- Since the beacons were lost, a successful confirm was for an access point other
than the one before it. -/
def Renewed (es : List AgentEvent) : Prop :=
  ∃ xs e ys a, es = xs ++ e :: ys ∧ e.associated? = some a ∧ .beaconLost ∉ ys ∧ NewAp xs a

/-- The value emitted last is true exactly if the station joined last, and there is
none before the first event that decides. -/
def SignalLaw (es : List AgentEvent) (emitted : List Bool) : Prop :=
  (emitted.getLast? = some true ↔ Joined es) ∧
    (es.filterMap AgentEvent.decides? = [] → emitted = [])

/-- A confirm with the address of an access point is one that decides. -/
theorem AgentEvent.decides?_of_associated? {e : AgentEvent} {a : MacAddress}
    (h : e.associated? = some a) : e.decides? = some true := by
  cases e with
  | beaconLost => cases h
  | response c =>
      cases c with
      | scan rc bssList => cases h
      | authenticate rc address => cases h
      | unrecognized className => cases h
      | associate rc address =>
          by_cases hrc : rc = .PRC_SUCCESS
          · simp [decides?, Confirm.isJoin, hrc]
          · simp [associated?, Confirm.joined?, hrc] at h
      | reassociate rc address =>
          by_cases hrc : rc = .PRC_SUCCESS
          · simp [decides?, Confirm.isJoin, hrc]
          · simp [associated?, Confirm.joined?, hrc] at h

theorem AgentEvent.ne_beaconLost_of_associated? {e : AgentEvent} {a : MacAddress}
    (h : e.associated? = some a) : e ≠ .beaconLost := by
  rintro rfl
  cases h

theorem lastAssociated_snoc (es : List AgentEvent) (e : AgentEvent) :
    lastAssociated (es ++ [e]) = e.associated?.or (lastAssociated es) := by
  unfold lastAssociated
  cases h : e.associated? with
  | none => simp [h]
  | some a => simp [h]

/-- A new event renews the association by itself, or leaves it renewed. -/
theorem renewed_snoc (es : List AgentEvent) (e : AgentEvent) :
    Renewed (es ++ [e]) ↔
      e ≠ .beaconLost ∧ (Renewed es ∨ ∃ a, e.associated? = some a ∧ NewAp es a) := by
  constructor
  · rintro ⟨xs, d, ys, a, hsplit, hd, hys, hnew⟩
    induction ys using List.reverseRecOn with
    | nil =>
        obtain ⟨rfl, he⟩ := List.append_inj' hsplit rfl
        obtain rfl := List.singleton_inj.mp he
        exact ⟨AgentEvent.ne_beaconLost_of_associated? hd, .inr ⟨a, hd, hnew⟩⟩
    | append_singleton ys y _ =>
        have hshift : es ++ [e] = (xs ++ d :: ys) ++ [y] := by
          rw [hsplit, List.append_assoc, List.cons_append]
        obtain ⟨rfl, he⟩ := List.append_inj' hshift rfl
        obtain rfl := List.singleton_inj.mp he
        simp only [List.mem_append, List.mem_singleton, not_or] at hys
        exact ⟨Ne.symm hys.2, .inl ⟨xs, d, ys, a, rfl, hd, hys.1, hnew⟩⟩
  · rintro ⟨hlost, ⟨xs, d, ys, a, rfl, hd, hys, hnew⟩ | ⟨a, ha, hnew⟩⟩
    · refine ⟨xs, d, ys ++ [e], a, by simp, hd, ?_, hnew⟩
      simp only [List.mem_append, List.mem_singleton, not_or]
      exact ⟨hys, Ne.symm hlost⟩
    · exact ⟨es, e, [], a, rfl, ha, by simp, hnew⟩

theorem decides?_of_ne_beaconLost {e : AgentEvent} {l : Bool} (hlost : e ≠ .beaconLost)
    (h : e.decides? = some l) : l = true := by
  cases e with
  | beaconLost => exact absurd rfl hlost
  | response c =>
      simp only [AgentEvent.decides?] at h
      split at h
      · exact (Option.some.inj h).symm
      · cases h

theorem Renewed.joined {es : List AgentEvent} (h : Renewed es) : Joined es := by
  obtain ⟨xs, e, ys, a, rfl, he, hys, -⟩ := h
  have hjoin := AgentEvent.decides?_of_associated? he
  unfold Joined
  rw [List.filterMap_append, List.filterMap_cons_some hjoin, List.getLast?_append, List.getLast?_cons]
  cases hlast : (ys.filterMap AgentEvent.decides?).getLast? with
  | none => rfl
  | some l =>
      obtain ⟨e, he, hdecides⟩ := List.mem_filterMap.mp (List.mem_of_getLast? hlast)
      have hl := decides?_of_ne_beaconLost (fun h => hys (h ▸ he)) hdecides
      simp [hl]

/-! ## What one event does -/

/-- The ways in which an event can change the agent and be heard. -/
inductive Emission (s : Emitter) : AgentEvent → Emitter → Prop
  | lost : Emission s .beaconLost { s with emitted := s.emitted ++ [false] }
  | newAp {e : AgentEvent} {a : MacAddress} (he : e.associated? = some a)
      (h : s.agent.prevAP.isUnspecified = true ∨ s.agent.prevAP ≠ a) :
      Emission s e { agent := { s.agent with prevAP := a }, emitted := s.emitted ++ [true] }
  | oldAp {e : AgentEvent} {a : MacAddress} (he : e.associated? = some a)
      (h : ¬ (s.agent.prevAP.isUnspecified = true ∨ s.agent.prevAP ≠ a)) : Emission s e s
  | silent {e : AgentEvent} (hlost : e ≠ .beaconLost) (h : e.associated? = none) : Emission s e s

namespace AgentSta

variable {p : AgentParams} {agent : AgentSta} {address : MacAddress}

theorem processAssociateConfirm_newAp
    (h : agent.prevAP.isUnspecified = true ∨ agent.prevAP ≠ address) :
    agent.processAssociateConfirm p .PRC_SUCCESS address =
      ({ agent with prevAP := address }, [.l2AssociatedNewAp, .stateAssociation true]) := by
  simp [processAssociateConfirm, h]

theorem processAssociateConfirm_oldAp
    (h : ¬ (agent.prevAP.isUnspecified = true ∨ agent.prevAP ≠ address)) :
    agent.processAssociateConfirm p .PRC_SUCCESS address = (agent, [.l2AssociatedOldAp]) := by
  unfold processAssociateConfirm
  rw [if_neg (by simp), if_neg (by simpa using h)]

theorem processAssociateConfirm_failed {rc : PrimResultCode} (h : rc ≠ .PRC_SUCCESS) :
    agent.processAssociateConfirm p rc address = (agent, [p.sendScanRequest]) := by
  simp [processAssociateConfirm, h]

end AgentSta

namespace Emitter

variable {p : AgentParams} {s s' : Emitter} {e : AgentEvent} {es : List AgentEvent}

theorem step_response {c : Confirm} {agent : AgentSta} {outs : List AgentOut}
    (hc : s.agent.handleResponse p c = .ok (agent, outs)) (h : step p s (.response c) = .ok s') :
    s' = { agent := agent, emitted := s.emitted ++ outs.filterMap AgentOut.stateAssociation? } := by
  simp only [step, handle, hc] at h
  exact (Except.ok.inj h).symm

/-- An answer without an emission leaves no trace. -/
theorem step_quiet {c : Confirm} {outs : List AgentOut}
    (hc : s.agent.handleResponse p c = .ok (s.agent, outs))
    (houts : outs.filterMap AgentOut.stateAssociation? = [])
    (h : step p s (.response c) = .ok s') : s' = s := by
  rw [step_response hc h, houts, List.append_nil]

/-- Both kinds of associate confirms are handled alike. -/
theorem emission_of_associateConfirm {c : Confirm} {rc : PrimResultCode} {address : MacAddress}
    (hc : s.agent.handleResponse p c = .ok (s.agent.processAssociateConfirm p rc address))
    (hjoined : c.joined? = if rc = .PRC_SUCCESS then some address else none)
    (h : step p s (.response c) = .ok s') : Emission s (.response c) s' := by
  by_cases hrc : rc = .PRC_SUCCESS
  · subst hrc
    rw [if_pos rfl] at hjoined
    by_cases hnew : s.agent.prevAP.isUnspecified = true ∨ s.agent.prevAP ≠ address
    · rw [AgentSta.processAssociateConfirm_newAp hnew] at hc
      obtain rfl := step_response hc h
      exact .newAp hjoined hnew
    · rw [AgentSta.processAssociateConfirm_oldAp hnew] at hc
      obtain rfl := step_quiet hc rfl h
      exact .oldAp hjoined hnew
  · rw [if_neg hrc] at hjoined
    rw [AgentSta.processAssociateConfirm_failed hrc] at hc
    obtain rfl := step_quiet hc rfl h
    exact .silent (by simp) hjoined

theorem emission_of_step (h : step p s e = .ok s') : Emission s e s' := by
  cases e with
  | beaconLost =>
      obtain rfl := Except.ok.inj h
      exact .lost
  | response c =>
      cases c with
      | unrecognized className => cases h
      | scan rc bssList =>
          have hquiet : (p.processScanConfirm bssList).filterMap AgentOut.stateAssociation? = [] := by
            unfold AgentParams.processScanConfirm
            split <;> rfl
          obtain rfl := step_quiet rfl hquiet h
          exact .silent (by simp) rfl
      | authenticate rc address =>
          have hquiet : (p.processAuthenticateConfirm rc address).filterMap
              AgentOut.stateAssociation? = [] := by
            unfold AgentParams.processAuthenticateConfirm
            split <;> rfl
          obtain rfl := step_quiet rfl hquiet h
          exact .silent (by simp) rfl
      | associate rc address => exact emission_of_associateConfirm rfl rfl h
      | reassociate rc address => exact emission_of_associateConfirm rfl rfl h

/-! ## What a run emits -/

/-- The agent remembers the last successful confirm, and the last value is true
exactly if the association was renewed. -/
structure Follows (es : List AgentEvent) (s : Emitter) : Prop where
  prevAP : s.agent.prevAP = (lastAssociated es).getD MacAddress.UNSPECIFIED_ADDRESS
  last : s.emitted.getLast? = some true ↔ Renewed es
  silent : es.filterMap AgentEvent.decides? = [] → s.emitted = []

theorem follows_nil : Follows [] {} where
  prevAP := rfl
  last := by simp [Renewed]
  silent := fun _ => rfl

/-- The test of the handler compares with the successful confirm before. -/
theorem Follows.newAp_iff (h : Follows es s) (a : MacAddress) :
    NewAp es a ↔ s.agent.prevAP.isUnspecified = true ∨ s.agent.prevAP ≠ a := by
  rw [h.prevAP]
  unfold NewAp
  cases lastAssociated es with
  | none => simp [MacAddress.isUnspecified, MacAddress.UNSPECIFIED_ADDRESS]
  | some b => simp

theorem Follows.snoc (h : Follows es s) (hemission : Emission s e s') : Follows (es ++ [e]) s' := by
  cases hemission with
  | lost =>
      refine ⟨?_, ?_, ?_⟩
      · rw [lastAssociated_snoc]
        exact h.prevAP
      · rw [renewed_snoc]
        simp
      · simp [AgentEvent.decides?, Confirm.isJoin]
  | @newAp _ a ha hnew =>
      refine ⟨?_, ?_, ?_⟩
      · rw [lastAssociated_snoc, ha]
        rfl
      · rw [renewed_snoc]
        have hrenews := (h.newAp_iff a).mpr hnew
        simp [ha, hrenews, AgentEvent.ne_beaconLost_of_associated? ha]
      · simp [AgentEvent.decides?_of_associated? ha]
  | @oldAp _ a ha hold =>
      have hsame : s.agent.prevAP = a := by
        simp only [not_or, not_not] at hold
        exact hold.2
      refine ⟨?_, ?_, ?_⟩
      · rw [lastAssociated_snoc, ha]
        exact hsame
      · rw [renewed_snoc, h.last]
        have hrepeats := mt (h.newAp_iff a).mp hold
        simp [ha, hrepeats, AgentEvent.ne_beaconLost_of_associated? ha]
      · simp [AgentEvent.decides?_of_associated? ha]
  | silent hlost hnone =>
      refine ⟨?_, ?_, ?_⟩
      · rw [lastAssociated_snoc, hnone]
        exact h.prevAP
      · rw [renewed_snoc, h.last]
        simp [hlost, hnone]
      · intro hdecides
        rw [List.filterMap_append, List.append_eq_nil_iff] at hdecides
        exact h.silent hdecides.1

theorem follows_of_run (hrun : run (step p) {} es = .ok s) : Follows es s := by
  induction es using List.reverseRecOn generalizing s with
  | nil =>
      obtain rfl := Except.ok.inj hrun
      exact follows_nil
  | append_singleton es e ih =>
      obtain ⟨t, hes, hlast⟩ := run_append_inv hrun
      obtain ⟨s', hstep, hend⟩ := run_cons_inv hlast
      obtain rfl := Except.ok.inj hend
      exact (ih hes).snoc (emission_of_step hstep)

end Emitter

/-- The last value tells whether the station joined last, exactly if a station that
did has been associated since the beacons were lost with an access point other than
the one before. -/
theorem signalLaw_iff {p : AgentParams} {es : List AgentEvent} {s : Emitter}
    (hrun : run (Emitter.step p) {} es = .ok s) :
    SignalLaw es s.emitted ↔ (Joined es → Renewed es) := by
  have h := Emitter.follows_of_run hrun
  unfold SignalLaw
  rw [h.last]
  constructor
  · intro hlaw
    exact hlaw.1.mpr
  · intro hrenewed
    exact ⟨⟨Renewed.joined, hrenewed⟩, h.silent⟩

/-- A station that loses one access point and joins another. -/
theorem signalLaw_sample :
    SignalLaw [.response (.associate .PRC_SUCCESS 1), .beaconLost,
        .response (.reassociate .PRC_SUCCESS 2)] [true, false, true] ↔
      (Joined [.response (.associate .PRC_SUCCESS 1), .beaconLost,
          .response (.reassociate .PRC_SUCCESS 2)] →
        Renewed [.response (.associate .PRC_SUCCESS 1), .beaconLost,
          .response (.reassociate .PRC_SUCCESS 2)]) :=
  signalLaw_iff (p := {}) (s := ⟨{ prevAP := 2 }, [true, false, true]⟩) rfl

/-- A station that loses its access point and comes back to it. -/
theorem not_signalLaw_after_return :
    ∃ s, run (Emitter.step {}) {} [.response (.associate .PRC_SUCCESS 1), .beaconLost,
        .response (.associate .PRC_SUCCESS 1)] = .ok s ∧
      ¬ SignalLaw [.response (.associate .PRC_SUCCESS 1), .beaconLost,
        .response (.associate .PRC_SUCCESS 1)] s.emitted := by
  refine ⟨⟨{ prevAP := 1 }, [true, false]⟩, rfl, ?_⟩
  intro hlaw
  exact absurd (hlaw.1.mpr rfl) (by decide)

end MultiTechBus.Ieee80211
