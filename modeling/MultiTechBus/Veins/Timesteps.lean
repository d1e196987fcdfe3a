import MultiTechBus.Veins.Vehicles

/-! # Time steps

The manager advances the simulator at regular times, until it has shut down.
-/

namespace MultiTechBus.Veins

open MultiTechBus.Library

namespace TraCIScenarioManager

variable {setup : Setup} {s s' s₀ : TraCIScenarioManager} {e : Event} {events : List Event}

def begun? : Emitted → Option Int
  | .traciTimestepBegin t => some t
  | _ => none

def ended? : Emitted → Option Int
  | .traciTimestepEnd t => some t
  | _ => none

def begun (s : TraCIScenarioManager) : List Int := s.emitted.filterMap begun?

def ended (s : TraCIScenarioManager) : List Int := s.emitted.filterMap ended?

/-- What no move changes, and that a shutdown is not taken back. -/
structure Framed (s s' : TraCIScenarioManager) : Prop where
  simTime : s'.simTime = s.simTime
  trigger : s'.executeOneTimestepTrigger = s.executeOneTimestepTrigger
  connect : s'.connectAndStartTrigger = s.connectAndStartTrigger
  begun : s'.begun = s.begun
  ended : s'.ended = s.ended
  shutdown : s.autoShutdownTriggered = true → s'.autoShutdownTriggered = true

theorem Move.framed (h : Move s s') : Framed s s' := by
  cases h with
  | equips mod hunknown hindex hid =>
      refine ⟨rfl, rfl, rfl, ?_, ?_, id⟩
      · unfold TraCIScenarioManager.begun
        rw [List.append_assoc, List.filterMap_append]
        exact List.append_nil _
      · unfold TraCIScenarioManager.ended
        rw [List.append_assoc, List.filterMap_append]
        exact List.append_nil _
  | deletes hmod =>
      refine ⟨rfl, rfl, rfl, ?_, ?_, id⟩
      · unfold TraCIScenarioManager.begun
        rw [List.filterMap_append]
        exact List.append_nil _
      · unfold TraCIScenarioManager.ended
        rw [List.filterMap_append]
        exact List.append_nil _
  | leaves count triggered =>
      refine ⟨rfl, rfl, rfl, rfl, rfl, fun h => ?_⟩
      show (s.autoShutdownTriggered || triggered) = true
      rw [h, Bool.true_or]
  | _ => exact ⟨rfl, rfl, rfl, rfl, rfl, id⟩

theorem framed_of_moves (h : Relation.ReflTransGen Move s s') : Framed s s' := by
  induction h with
  | refl => exact ⟨rfl, rfl, rfl, rfl, rfl, id⟩
  | tail _ hmove ih =>
      have hlast := hmove.framed
      exact ⟨hlast.simTime.trans ih.simTime, hlast.trigger.trans ih.trigger,
        hlast.connect.trans ih.connect,
        hlast.begun.trans ih.begun, hlast.ended.trans ih.ended,
        fun h => hlast.shutdown (ih.shutdown h)⟩

def stepTimes (setup : Setup) (k : Nat) : List Int :=
  (List.range k).map fun i : Nat => setup.firstStepAt + (i : Int) * setup.updateInterval

/-- After `k` time steps; the first one comes after the connection. -/
structure Timed (setup : Setup) (k : Nat) (s : TraCIScenarioManager) : Prop where
  begun : s.begun = stepTimes setup k
  ended : s.ended = stepTimes setup k
  connect : ∀ t, s.connectAndStartTrigger = some t → t = setup.connectAt ∧ k = 0
  trigger : ∀ t, s.executeOneTimestepTrigger = some t →
    t = setup.firstStepAt + k * setup.updateInterval
  shutdown : s.autoShutdownTriggered = true → s.executeOneTimestepTrigger = none ∨ k = 0

theorem stepTimes_succ (setup : Setup) (k : Nat) :
    stepTimes setup (k + 1) =
      stepTimes setup k ++ [setup.firstStepAt + k * setup.updateInterval] := by
  unfold stepTimes
  rw [List.range_succ, List.map_append, List.map_singleton]

theorem Timed.step {k : Nat} (hlt : setup.connectAt < setup.firstStepAt) (h : Timed setup k s)
    (hstep : step setup s e = .ok s') : ∃ k', Timed setup k' s' := by
  cases handled_of_step hstep with
  | @connects s₁ t ht hmoves =>
      have hframed := framed_of_moves hmoves
      refine ⟨k, ?_, ?_, ?_, fun t' ht' => h.trigger t' (hframed.trigger ▸ ht'), ?_⟩
      · refine Eq.trans ?_ (hframed.begun.trans h.begun)
        exact (List.filterMap_append ..).trans (List.append_nil _)
      · refine Eq.trans ?_ (hframed.ended.trans h.ended)
        exact (List.filterMap_append ..).trans (List.append_nil _)
      · intro t' ht'
        have hconnect := hframed.connect.symm.trans ht'
        cases hconnect
      · exact fun _ => .inr (h.connect t ht).2
  | @advances s₁ t ht hdue hmoves =>
      have hframed := framed_of_moves hmoves
      obtain rfl := h.trigger t ht
      refine ⟨k + 1, ?_, ?_, fun t' ht' => ?_, fun t' ht' => ?_, fun hdown => .inl ?_⟩
      · rw [stepTimes_succ, ← h.begun]
        refine Eq.trans ?_ (hframed.begun.trans (List.filterMap_append ..))
        exact (List.filterMap_append ..).trans (List.append_nil _)
      · rw [stepTimes_succ, ← h.ended]
        refine (List.filterMap_append ..).trans (congrArg (· ++ _) ?_)
        refine hframed.ended.trans ((List.filterMap_append ..).trans (List.append_nil _))
      · -- the connection is due before the first time step
        have hconnect : s.connectAndStartTrigger = some t' := hframed.connect.symm.trans ht'
        obtain ⟨rfl, rfl⟩ := h.connect t' hconnect
        rw [hconnect, Option.any_some, decide_eq_false_iff_not] at hdue
        omega
      · have htime : s₁.simTime = setup.firstStepAt + k * setup.updateInterval := hframed.simTime
        have ht'' : (if s₁.autoShutdownTriggered then none
          else some (s₁.simTime + setup.updateInterval)) = some t' := ht'
        split at ht''
        · cases ht''
        · rw [← Option.some.inj ht'', htime, Int.natCast_succ, Int.add_mul, Int.one_mul, Int.add_assoc]
      · show (if s₁.autoShutdownTriggered then none
          else some (s₁.simTime + setup.updateInterval)) = none
        exact if_pos hdown
  | @finishes s₁ hmoves hhosts =>
      have hframed := framed_of_moves hmoves
      exact ⟨k, hframed.begun.trans h.begun, hframed.ended.trans h.ended, nofun, nofun,
        fun _ => .inl rfl⟩

/-- Whatever the server sends, the time steps begin and end at the time of the first step and
one interval after the other, none is left out, and none follows one in which the manager was
shut down. -/
theorem timesteps_regular {incoming : List Received} (hinit : initial setup incoming = .ok s₀)
    (hrun : run (step setup) s₀ events = .ok s) :
    ∃ k, s.begun = stepTimes setup k ∧ s.ended = stepTimes setup k ∧
      (∀ t, s.executeOneTimestepTrigger = some t →
        t = setup.firstStepAt + k * setup.updateInterval) ∧
      (s.autoShutdownTriggered = true → s.executeOneTimestepTrigger = none ∨ k = 0) := by
  obtain ⟨⟨⟩, hassert, hpure⟩ := bind_ok_inv hinit
  obtain rfl := Except.ok.inj hpure
  have hlt : setup.connectAt < setup.firstStepAt := by
    by_contra hge
    rw [assert, if_neg (by simpa using hge)] at hassert
    cases hassert
  obtain ⟨k, h⟩ := run_invariant (I := fun s => ∃ k, Timed setup k s)
    (fun _ _ _ ⟨_, h⟩ _ hstep => h.step hlt hstep)
    ⟨0, rfl, rfl, fun t ht => ⟨(Option.some.inj ht).symm, rfl⟩,
      fun t ht => by rw [← Option.some.inj ht, Int.ofNat_zero, Int.zero_mul, Int.add_zero],
      fun _ => .inr rfl⟩
    (along_trivial (fun _ _ => trivial) _ _) hrun
  exact ⟨k, h.begun, h.ended, h.trigger, h.shutdown⟩

/-- Both steps of the example. -/
theorem timesteps_regular_twoVehicles :
    ∃ s, run (TraCIScenarioManager.step everyVehicle) exampleManager twoSteps = .ok s ∧
      s.begun = [100, 200] ∧ ∃ k, s.begun = stepTimes everyVehicle k := by
  obtain ⟨s, hrun, hbegun⟩ : ∃ s,
      run (TraCIScenarioManager.step everyVehicle) exampleManager twoSteps = .ok s ∧
        s.begun = [100, 200] := exists_of_run_map (by decide +kernel)
  obtain ⟨k, hk, -⟩ := timesteps_regular initial_exampleManager hrun
  exact ⟨s, hrun, hbegun, k, hk⟩

end TraCIScenarioManager

end MultiTechBus.Veins
