import MultiTechBus.Library.Register
import MultiTechBus.Library.Run
import MultiTechBus.Veins.Moves

/-! # Runs of the scenario manager

The nodes of the vehicles over whole runs, whatever the server sends: they are numbered in
the order in which they are created, and each is deleted once.
-/

namespace MultiTechBus.Veins

open MultiTechBus.Library TraCIConstants TraCIConnection TraCICommandInterface

namespace TraCIScenarioManager

variable {setup : Setup} {s s' s₀ : TraCIScenarioManager} {e : Event} {events : List Event}

/-! ### Events -/

/-- The manager when it connects. -/
def connecting (s : TraCIScenarioManager) (t : Int) : TraCIScenarioManager :=
  { s with connectAndStartTrigger := none, simTime := t, connected := true }

/-- The manager when it begins a time step. -/
def advancing (s : TraCIScenarioManager) (t : Int) : TraCIScenarioManager :=
  { s with executeOneTimestepTrigger := none, simTime := t }

inductive Handled (setup : Setup) : TraCIScenarioManager → Event → TraCIScenarioManager → Prop
  | connects {s s₁ : TraCIScenarioManager} {t : Int} (ht : s.connectAndStartTrigger = some t)
      (hmoves : Relation.ReflTransGen Move (s.connecting t) s₁) :
      Handled setup s .connectAndStartTrigger { s₁ with
        traciInitialized := true
        emitted := s₁.emitted ++ [.traciInitialized] }
  | advances {s s₁ : TraCIScenarioManager} {t : Int} (ht : s.executeOneTimestepTrigger = some t)
      (hconnected : s.connectAndStartTrigger.any (decide <| · ≤ t) = false)
      (hmoves : Relation.ReflTransGen Move
        { s.advancing t with emitted := s.emitted ++ [.traciTimestepBegin t] } s₁) :
      Handled setup s .executeOneTimestepTrigger { s₁ with
        emitted := s₁.emitted ++ [.traciTimestepEnd t]
        executeOneTimestepTrigger :=
          if s₁.autoShutdownTriggered then none else some (s₁.simTime + setup.updateInterval) }
  | finishes {s s₁ : TraCIScenarioManager} (hmoves : Relation.ReflTransGen Move s s₁)
      (hhosts : s₁.hosts.entries = []) :
      Handled setup s .preNetworkFinish { s₁ with
        connectAndStartTrigger := none
        executeOneTimestepTrigger := none }

def enabled (s : TraCIScenarioManager) : Event → Bool
  | .connectAndStartTrigger => s.connectAndStartTrigger.any fun t =>
      !s.executeOneTimestepTrigger.any (decide <| · < t)
  | .executeOneTimestepTrigger => s.executeOneTimestepTrigger.any fun t =>
      !s.connectAndStartTrigger.any (decide <| · ≤ t)
  | .preNetworkFinish => true

theorem triple_initTraci {n : Nat} :
    Triple (Reaches s₀ n) (initTraci setup n)
      (fun _ s' => ∃ s₁, Reaches s₀ n s₁ ∧ s' = { s₁ with
        traciInitialized := true, emitted := s₁.emitted ++ [.traciInitialized] }) Outside := by
  refine Triple.bind (Keeps.onConnection fun _ => talks_launch setup) fun _ => ?_
  refine Triple.bind (Keeps.onConnection fun _ => talks_getVersion) ?_
  rintro ⟨apiVersion, serverVersion⟩
  have hversion : Keeps s₀ n (liftM (setApiVersion apiVersion)) := by
    refine .lift (fun _ _ _ hs => hs) fun k hk => ?_
    unfold setApiVersion at hk
    split at hk
    · cases hk
    · rw [← Except.error.inj hk]
      exact outside_of_head (head?_append (head?_append rfl)) (by decide) (by decide)
  refine Triple.bind hversion fun versionConfig => ?_
  refine Triple.bind (Keeps.modify (fun s => .configures s versionConfig _) fun _ => rfl) fun _ => ?_
  refine Triple.bind (Keeps.onConnection fun _ => talks_initNetworkBoundaries versionConfig)
    fun _ => ?_
  have hsubscribe : ∀ commandId objectId vars, Keeps s₀ n
      (subscribe setup (processSubcriptionResult setup n) commandId objectId vars) := by
    intro commandId objectId vars
    cases n with
    | zero => exact fun s hs => absurd hs.fewer (Nat.not_lt_zero _)
    | succ n => exact keeps_subscribe (keeps_processSubcriptionResult (Nat.le_succ n)) _ _ _
  refine Triple.bind (hsubscribe _ _ _) fun _ => Triple.bind (hsubscribe _ _ _) fun _ => ?_
  refine Triple.bind (Keeps.onConnection fun _ => talks_readPolygons setup) fun _ => ?_
  exact fun s₁ hs₁ => ⟨s₁, hs₁, rfl⟩

theorem triple_executeOneTimestep {n : Nat}
    (hs₀ : (Received.stream s₀.connection.incoming).length < n) :
    Triple (· = s₀) (executeOneTimestep setup n)
      (fun _ s' => ∃ s₁, Reaches { s₀ with
          emitted := s₀.emitted ++ [.traciTimestepBegin s₀.simTime] } n s₁ ∧
        s' = { s₁ with
          emitted := s₁.emitted ++ [.traciTimestepEnd s₀.simTime]
          executeOneTimestepTrigger :=
            if s₁.autoShutdownTriggered then none else some (s₁.simTime + setup.updateInterval) })
      Outside := by
  refine Triple.get ?_
  rintro s rfl
  refine Triple.bind (Q := fun _ => Reaches { s with
    emitted := s.emitted ++ [.traciTimestepBegin s.simTime] } n) ?_ fun _ => ?_
  · rintro s rfl
    exact Reaches.refl hs₀
  refine .ite (fun _ => ?_) fun _ => fun s₁ hs₁ => ⟨s₁, hs₁, rfl⟩
  refine Triple.bind (Keeps.of_succ fun n => (keeps_query CMD_SIMSTEP2 _).mono (fun _ => id)
    fun _ _ hs => hs.more) fun buf => reading (.read 32 4) fun count buf => ?_
  refine Triple.bind (Keeps.loop (keeps_processSubcriptionResult le_rfl) _ _) fun _ => ?_
  exact fun s₁ hs₁ => ⟨s₁, hs₁, rfl⟩

theorem triple_deleteAll {n k : Nat} :
    Triple (fun s => Reaches s₀ n s ∧ s.hosts.entries.length = k) (deleteAll k)
      (fun _ s => Reaches s₀ n s ∧ s.hosts.entries = []) Outside := by
  induction k with
  | zero => exact .pure fun s hs => ⟨hs.1, List.eq_nil_of_length_eq_zero hs.2⟩
  | succ k ih =>
      refine Triple.get fun s hs => ?_
      obtain ⟨hs, hlength⟩ := hs
      cases hentries : s.hosts.entries with
      | nil =>
          rw [hentries] at hlength
          cases hlength
      | cons host rest =>
          have hmod : s.hosts.find? host.1 = some host.2 :=
            OrderedMap.find?_eq_some_iff.mpr (hentries ▸ List.mem_cons_self)
          refine Triple.bind (Q := fun _ s => Reaches s₀ n s ∧ s.hosts.entries.length = k) ?_
            fun _ => ih
          rintro s rfl
          rw [deleteManagedModule_of_find hmod]
          refine ⟨hs.move (.deletes s hmod) rfl, ?_⟩
          show (s.hosts.erase host.1).entries.length = k
          rw [OrderedMap.entries_erase_head hentries]
          rw [hentries] at hlength
          exact Nat.succ.inj hlength

theorem triple_handle : Triple (· = s) (handle setup e) (fun _ s' => Handled setup s e s')
    fun k => enabled s e = true → Outside k := by
  refine Triple.get ?_
  rintro s rfl
  cases e with
  | connectAndStartTrigger =>
      cases ht : s.connectAndStartTrigger with
      | none =>
          refine .throw fun henabled => ?_
          rw [enabled, ht] at henabled
          cases henabled
      | some t =>
          refine .ite (fun hearly =>
            .bind (Q := fun _ _ => False) (.throw ?_) fun _ _ h => h.elim) fun _ => ?_
          · intro henabled
            rw [enabled, ht, Option.any_some, hearly] at henabled
            cases henabled
          refine Triple.bind (Q := fun _ s' => s' = s.connecting t) (.set rfl) fun _ => ?_
          refine ((@triple_initTraci setup (s.connecting t) _).mono ?_ ?_).weaken fun _ h _ => h
          · rintro s' rfl
            exact .refl (Nat.lt_succ_self _)
          · rintro _ s' ⟨s₁, hs₁, rfl⟩
            exact .connects ht hs₁.moves
  | executeOneTimestepTrigger =>
      cases ht : s.executeOneTimestepTrigger with
      | none =>
          refine .throw fun henabled => ?_
          rw [enabled, ht] at henabled
          cases henabled
      | some t =>
          refine .ite (fun hearly =>
            .bind (Q := fun _ _ => False) (.throw ?_) fun _ _ h => h.elim) fun hdue => ?_
          · intro henabled
            rw [enabled, ht, Option.any_some, hearly] at henabled
            cases henabled
          refine Triple.bind (Q := fun _ s' => s' = s.advancing t) (.set rfl) fun _ => ?_
          refine ((triple_executeOneTimestep (Nat.lt_succ_self _)).mono (fun _ => id) ?_).weaken
            fun _ h _ => h
          rintro _ s' ⟨s₁, hs₁, rfl⟩
          exact .advances ht (Bool.eq_false_of_not_eq_true hdue) hs₁.moves
  | preNetworkFinish =>
      refine Triple.get ?_
      rintro s rfl
      have hdelete := (@triple_deleteAll s s.depthBound s.hosts.entries.length).weaken
        fun k (h : Outside k) (_ : s.enabled .preNetworkFinish = true) => h
      refine Triple.bind (hdelete.mono ?_ fun _ _ => id) fun _ => ?_
      · rintro s' rfl
        exact ⟨.refl (Nat.lt_succ_self _), rfl⟩
      · exact fun s₁ hs₁ => .finishes hs₁.1.moves hs₁.2

theorem handled_of_step (h : step setup s e = .ok s') : Handled setup s e s' := by
  obtain ⟨⟨⟨⟩, s₁⟩, hhandle, rfl⟩ := map_ok_inv h
  exact triple_handle.ok rfl hhandle

/-- An event that is due fails only because of what the server sends or of the parameters. -/
theorem outside_of_step {k : Halt} (henabled : s.enabled e = true) (h : step setup s e = .error k) :
    Outside k := by
  cases hhandle : handle setup e s with
  | ok x =>
      rw [step, hhandle] at h
      cases h
  | error k' =>
      rw [step, hhandle] at h
      obtain rfl : k' = k := Except.error.inj h
      exact triple_handle.error rfl hhandle henabled

/-! ### What every move keeps -/

/-- Nodes that come and go, as entries of a register. -/
def entry? : Emitted → Option (Entry Str)
  | .traciModuleAdded nodeId nodeVectorIndex => some (.entered nodeId nodeVectorIndex)
  | .traciModuleRemoved nodeId nodeVectorIndex => some (.left nodeId nodeVectorIndex)
  | _ => none

def number? (s : TraCIScenarioManager) (nodeId : Str) : Option Nat :=
  (s.hosts.find? nodeId).map Node.nodeVectorIndex

structure Consistent (s : TraCIScenarioManager) : Prop where
  register : Register (s.emitted.filterMap entry?) s.number? s.nextNodeVectorIndex
  apart : ∀ nodeId, s.hosts.find? nodeId ≠ none → s.unEquippedHosts.find? nodeId = none
  ids : ∀ nodeId mod, s.hosts.find? nodeId = some mod → mod.mobility.externalId = nodeId
  counts : s.activeVehicleCount = s.drivingVehicleCount + s.parkingVehicleCount
  wire : s.connection.outgoing =
    s.connection.sent.flatMap fun command => message (makeTraCICommand command.1 command.2)

namespace Consistent

theorem communicates {c : TraCIConnection} (h : Consistent s)
    (hmove : TraCIConnection.Move s.connection c) : Consistent { s with connection := c } := by
  refine { h with wire := ?_ }
  have hwire := h.wire
  generalize s.connection = c₀ at hmove hwire
  cases hmove with
  | sends commandId buf =>
      show c₀.outgoing ++ _ = (c₀.sent ++ [(commandId, buf)]).flatMap _
      rw [List.flatMap_append, ← hwire, List.flatMap_singleton]
  | receives incoming => exact hwire
  | bounds nb => exact hwire

theorem equips {nodeId : Str} {mod : Node} (h : Consistent s) (hunknown : s.Unknown nodeId)
    (hindex : mod.nodeVectorIndex = s.nextNodeVectorIndex)
    (hid : mod.mobility.externalId = nodeId) :
    Consistent { s with
      hosts := s.hosts.insert nodeId mod
      nextNodeVectorIndex := s.nextNodeVectorIndex + 1
      emitted := s.emitted ++ [.traciModulePreInit s.nextNodeVectorIndex] ++
        [.traciModuleAdded nodeId s.nextNodeVectorIndex] } := by
  have hnone : s.number? nodeId = none := by
    unfold number?
    rw [hunknown.hosts]
    rfl
  refine { h with register := ?_, apart := fun nodeId' hne => ?_, ids := fun nodeId' mod' hmod' => ?_ }
  · have hregister := h.register.enter hnone
    have hnumbers : (fun nodeId' => ((s.hosts.insert nodeId mod).find? nodeId').map
        Node.nodeVectorIndex) = Function.update s.number? nodeId (some s.nextNodeVectorIndex) := by
      funext nodeId'
      rw [OrderedMap.find?_insert, Function.update_apply]
      split
      · rw [Option.map_some, hindex]
      · rfl
    show Register _ (fun nodeId' => ((s.hosts.insert nodeId mod).find? nodeId').map
      Node.nodeVectorIndex) _
    rw [hnumbers, List.append_assoc, List.filterMap_append]
    exact hregister
  · rw [OrderedMap.find?_insert] at hne
    split at hne
    · rename_i heq
      exact heq ▸ hunknown.unEquippedHosts
    · exact h.apart nodeId' hne
  · rw [OrderedMap.find?_insert] at hmod'
    split at hmod'
    · rename_i heq
      rw [← Option.some.inj hmod', hid, heq]
    · exact h.ids nodeId' mod' hmod'

theorem deletes {nodeId : Str} {mod : Node} (h : Consistent s)
    (hmod : s.hosts.find? nodeId = some mod) :
    Consistent { s with
      hosts := s.hosts.erase nodeId
      emitted := s.emitted ++ [.traciModuleRemoved nodeId mod.nodeVectorIndex] } := by
  have hnumber : s.number? nodeId = some mod.nodeVectorIndex := by
    unfold number?
    rw [hmod]
    rfl
  refine { h with register := ?_, apart := fun nodeId' hne => ?_, ids := fun nodeId' mod' hmod' => ?_ }
  · have hregister := h.register.leave hnumber
    have hnumbers : (fun nodeId' => ((s.hosts.erase nodeId).find? nodeId').map
        Node.nodeVectorIndex) = Function.update s.number? nodeId none := by
      funext nodeId'
      rw [OrderedMap.find?_erase, Function.update_apply]
      split
      · rfl
      · rfl
    show Register _ (fun nodeId' => ((s.hosts.erase nodeId).find? nodeId').map
      Node.nodeVectorIndex) _
    rw [hnumbers, List.filterMap_append]
    exact hregister
  · rw [OrderedMap.find?_erase] at hne
    split at hne
    · exact absurd rfl hne
    · exact h.apart nodeId' hne
  · rw [OrderedMap.find?_erase] at hmod'
    split at hmod'
    · cases hmod'
    · exact h.ids nodeId' mod' hmod'

theorem drives {nodeId : Str} {mod mod' : Node} (h : Consistent s)
    (hmod : s.hosts.find? nodeId = some mod) (hindex : mod'.nodeVectorIndex = mod.nodeVectorIndex)
    (hid : mod'.mobility.externalId = mod.mobility.externalId) :
    Consistent { s with hosts := s.hosts.insert nodeId mod' } := by
  refine { h with register := ?_, apart := fun nodeId' hne => ?_, ids := fun nodeId' mod₁ hmod₁ => ?_ }
  · have hnumbers : (fun nodeId' => ((s.hosts.insert nodeId mod').find? nodeId').map
        Node.nodeVectorIndex) = s.number? := by
      funext nodeId'
      unfold number?
      rw [OrderedMap.find?_insert]
      split
      · rename_i heq
        rw [heq, hmod, Option.map_some, Option.map_some, hindex]
      · rfl
    show Register _ (fun nodeId' => ((s.hosts.insert nodeId mod').find? nodeId').map
      Node.nodeVectorIndex) _
    rw [hnumbers]
    exact h.register
  · rw [OrderedMap.find?_insert] at hne
    refine h.apart nodeId' ?_
    split at hne
    · rename_i heq
      rw [heq, hmod]
      exact Option.some_ne_none mod
    · exact hne
  · rw [OrderedMap.find?_insert] at hmod₁
    split at hmod₁
    · rename_i heq
      rw [← Option.some.inj hmod₁, hid, h.ids nodeId mod hmod, heq]
    · exact h.ids nodeId' mod₁ hmod₁

theorem move (h : Consistent s) (hmove : Move s s') : Consistent s' := by
  cases hmove with
  | communicates hc => exact h.communicates hc
  | configures versionConfig timeAsDouble => exact { h with }
  | equips mod hunknown hindex hid => exact h.equips hunknown hindex hid
  | @ignores nodeId hunknown =>
      refine { h with apart := fun nodeId' hne => ?_ }
      show (s.unEquippedHosts.insert nodeId ()).find? nodeId' = none
      rw [OrderedMap.find?_insert_ne]
      · exact h.apart nodeId' hne
      · rintro rfl
        exact hne hunknown.hosts
  | deletes hmod => exact h.deletes hmod
  | forgets nodeId =>
      refine { h with apart := fun nodeId' hne => ?_ }
      show (s.unEquippedHosts.erase nodeId).find? nodeId' = none
      rw [OrderedMap.find?_erase, h.apart nodeId' hne, ite_self]
  | drives p speed heading hmod => exact h.drives hmod rfl rfl
  | subscribes vehicleId => exact { h with }
  | unsubscribes vehicleId => exact { h with }
  | departs count =>
      refine { h with counts := ?_ }
      show s.activeVehicleCount + count = s.drivingVehicleCount + count + s.parkingVehicleCount
      rw [h.counts, BitVec.add_assoc, BitVec.add_comm s.parkingVehicleCount, BitVec.add_assoc]
  | leaves count triggered =>
      refine { h with counts := ?_ }
      show s.activeVehicleCount - count = s.drivingVehicleCount - count + s.parkingVehicleCount
      have hcounts := h.counts
      bv_omega
  | parks count =>
      refine { h with counts := ?_ }
      show s.activeVehicleCount =
        s.drivingVehicleCount - count + (s.parkingVehicleCount + count)
      have hcounts := h.counts
      bv_omega
  | unparks count =>
      refine { h with counts := ?_ }
      show s.activeVehicleCount =
        s.drivingVehicleCount + count + (s.parkingVehicleCount - count)
      have hcounts := h.counts
      bv_omega

theorem moves (h : Consistent s) (hmoves : Relation.ReflTransGen Move s s') : Consistent s' := by
  induction hmoves with
  | refl => exact h
  | tail _ hmove ih => exact ih.move hmove

theorem signals {signal : Emitted} (h : Consistent s) (hsignal : entry? signal = none) :
    Consistent { s with emitted := s.emitted ++ [signal] } := by
  refine { h with register := ?_ }
  have hentries : (s.emitted ++ [signal]).filterMap entry? = s.emitted.filterMap entry? := by
    rw [List.filterMap_append, List.filterMap_cons_none hsignal]
    exact List.append_nil _
  show Register ((s.emitted ++ [signal]).filterMap entry?) s.number? s.nextNodeVectorIndex
  rw [hentries]
  exact h.register

theorem step (h : Consistent s) (hstep : step setup s e = .ok s') : Consistent s' := by
  cases handled_of_step hstep with
  | @connects s₁ t ht hmoves =>
      have hbegin : Consistent (s.connecting t) := { h with }
      have hend := @signals _ .traciInitialized (hbegin.moves hmoves) rfl
      exact { hend with }
  | @advances s₁ t ht hdue hmoves =>
      have hadvancing : Consistent (s.advancing t) := { h with }
      have hbegin := @signals _ (.traciTimestepBegin t) hadvancing rfl
      have hend := @signals _ (.traciTimestepEnd t) (hbegin.moves hmoves) rfl
      exact { hend with }
  | @finishes s₁ hmoves hhosts =>
      have hend := h.moves hmoves
      exact { hend with }

theorem initial {incoming : List Received} (h : initial setup incoming = .ok s) :
    Consistent s := by
  obtain ⟨⟨⟩, -, hpure⟩ := bind_ok_inv h
  obtain rfl := Except.ok.inj hpure
  exact ⟨.nil, fun _ hne => absurd rfl hne, nofun, rfl, rfl⟩

end Consistent

theorem consistent_of_run {incoming : List Received} (hinit : initial setup incoming = .ok s₀)
    (hrun : run (step setup) s₀ events = .ok s) : Consistent s :=
  run_invariant (fun _ _ _ h _ hstep => h.step hstep) (.initial hinit)
    (along_trivial (fun _ _ => trivial) _ _) hrun

/-! ### An example -/

section Example

open TraCIBuffer

/-- Every vehicle becomes a bus, wherever it is. -/
def everyVehicle : Setup where
  connectAt := 0
  firstStepAt := 100
  updateInterval := 100
  autoShutdown := true
  launchConfig := []
  moduleType := OrderedMap.insert ∅ [0x2a] [0x62]
  moduleName := OrderedMap.insert ∅ [0x2a] [0x62]
  moduleDisplayString := ∅
  roiRoads := ∅
  hasRectangles := false
  onAnyRectangle := fun _ => true
  leavesUnequipped := fun _ _ => false
  hasObstacles := false
  isTypeSupported := fun _ => false
  traci2omnet := fun _ p => p
  traci2omnetHeading := id
  toDouble := fun t => BitVec.ofInt 64 t
  ofDouble := fun d => d.toInt
  maxTime := 0
  fixed := fun _ => ""

def answer (commandId : BitVec 8) (rest : TraCIBuffer) : List (BitVec 8) :=
  message (writeU8 7 ++ writeU8 commandId ++ writeU8 RTYPE_OK ++ writeString [] ++ rest)

def result (responseId : BitVec 8) (objectId : Str) (values : List TraCIBuffer) : TraCIBuffer :=
  writeU8 0 ++ writeU32 0 ++ writeU8 responseId ++ writeString objectId ++
    writeU8 (BitVec.ofNat 8 values.length) ++ values.flatten

def value (var type : BitVec 8) (bytes : TraCIBuffer) : TraCIBuffer :=
  writeU8 var ++ writeU8 RTYPE_OK ++ writeU8 type ++ bytes

def idsOf (var : BitVec 8) (ids : List Str) : TraCIBuffer :=
  value var TYPE_STRINGLIST (writeU32 (BitVec.ofNat 32 ids.length) ++ ids.flatMap writeString)

def connectBytes : List (BitVec 8) :=
  answer CMD_GETVERSION (writeU8 0 ++ writeU8 CMD_GETVERSION ++ writeU32 1 ++ writeString []) ++
    message (writeU8 0 ++ writeU8 CMD_FILE_SEND ++ writeU8 RTYPE_OK ++ writeString []) ++
    answer CMD_GETVERSION (writeU8 0 ++ writeU8 CMD_GETVERSION ++ writeU32 20 ++ writeString []) ++
    answer CMD_GET_SIM_VARIABLE (writeU8 0 ++ writeU8 RESPONSE_GET_SIM_VARIABLE ++
      writeU8 VAR_NET_BOUNDING_BOX ++ writeString [] ++ writeU8 TYPE_POLYGON ++ writeU8 2 ++
      [0, 0, 0, 0].flatMap writeDouble) ++
    answer CMD_SUBSCRIBE_SIM_VARIABLE (result RESPONSE_SUBSCRIBE_SIM_VARIABLE [] []) ++
    answer CMD_SUBSCRIBE_VEHICLE_VARIABLE (result RESPONSE_SUBSCRIBE_VEHICLE_VARIABLE [] [])

def vehicleBytes (vehicleId : Str) : List (BitVec 8) :=
  answer CMD_SUBSCRIBE_VEHICLE_VARIABLE (result RESPONSE_SUBSCRIBE_VEHICLE_VARIABLE vehicleId
      [value VAR_POSITION POSITION_2D (writeDouble 5 ++ writeDouble 6),
        value VAR_ROAD_ID TYPE_STRING (writeString []), value VAR_SPEED TYPE_DOUBLE (writeDouble 3),
        value VAR_ANGLE TYPE_DOUBLE (writeDouble 0), value VAR_SIGNALS TYPE_INTEGER (writeU32 0),
        value VAR_LENGTH TYPE_DOUBLE (writeDouble 9), value VAR_HEIGHT TYPE_DOUBLE (writeDouble 3),
        value VAR_WIDTH TYPE_DOUBLE (writeDouble 2)]) ++
    answer CMD_GET_VEHICLE_VARIABLE (writeU8 7 ++ writeU8 RESPONSE_GET_VEHICLE_VARIABLE ++
      writeU8 VAR_TYPE ++ writeString vehicleId ++ writeU8 TYPE_STRING ++ writeString [0x62])

/-- Two vehicles depart, and the first of them arrives one step later. -/
def twoVehicles : List (BitVec 8) :=
  connectBytes ++
    answer CMD_SIMSTEP2 (writeU32 2 ++
      result RESPONSE_SUBSCRIBE_SIM_VARIABLE [] [idsOf VAR_DEPARTED_VEHICLES_IDS [[1], [2]]] ++
      result RESPONSE_SUBSCRIBE_VEHICLE_VARIABLE [] [idsOf ID_LIST [[1], [2]]]) ++
    vehicleBytes [1] ++ vehicleBytes [2] ++
    answer CMD_SIMSTEP2 (writeU32 1 ++
      result RESPONSE_SUBSCRIBE_SIM_VARIABLE [] [idsOf VAR_ARRIVED_VEHICLES_IDS [[1]]])

def twoSteps : List Event :=
  [.connectAndStartTrigger, .executeOneTimestepTrigger, .executeOneTimestepTrigger]

/-- The manager of the example, with the bytes in two pieces. -/
def exampleManager : TraCIScenarioManager where
  connection := { incoming := [.bytes (twoVehicles.take 50), .again, .bytes (twoVehicles.drop 50)] }
  connectAndStartTrigger := some 0
  executeOneTimestepTrigger := some 100

theorem initial_exampleManager : TraCIScenarioManager.initial everyVehicle
    [.bytes (twoVehicles.take 50), .again, .bytes (twoVehicles.drop 50)] = .ok exampleManager :=
  rfl

end Example

/-! ### Results -/

def addedNodes (s : TraCIScenarioManager) : List Nat :=
  (s.emitted.filterMap entry?).filterMap Entry.given?

def removedNodes (s : TraCIScenarioManager) : List Nat :=
  (s.emitted.filterMap entry?).filterMap Entry.returned?

/-- Whatever the server sends, the nodes are numbered in the order in which they are added, no
node is removed twice, and the nodes that were added and not removed are those of the vehicles
in the table, one for each. -/
theorem nodes_numbered {incoming : List Received} (hinit : initial setup incoming = .ok s₀)
    (hrun : run (step setup) s₀ events = .ok s) :
    s.addedNodes = List.range s.nextNodeVectorIndex ∧ s.removedNodes.Nodup ∧
      (∀ i < s.nextNodeVectorIndex, (∃ nodeId, s.number? nodeId = some i) ↔ i ∉ s.removedNodes) ∧
      ∀ nodeId nodeId' i, s.number? nodeId = some i → s.number? nodeId' = some i →
        nodeId = nodeId' := by
  have h := (consistent_of_run hinit hrun).register
  exact ⟨h.given, h.nodup_returned, fun _ hi => h.held_or_returned hi, fun _ _ _ => h.unique⟩

/-- The vehicle that arrives had the first node. -/
theorem nodes_numbered_twoVehicles :
    ∃ s, run (step everyVehicle) exampleManager twoSteps = .ok s ∧ s.nextNodeVectorIndex = 2 ∧
      s.removedNodes = [0] ∧ s.addedNodes = List.range 2 := by
  obtain ⟨s, hrun, hvalues⟩ : ∃ s, run (step everyVehicle) exampleManager twoSteps = .ok s ∧
      (s.nextNodeVectorIndex, s.removedNodes) = (2, [0]) := exists_of_run_map (by decide +kernel)
  obtain ⟨hnext, hremoved⟩ := Prod.mk.inj hvalues
  have hnodes := nodes_numbered initial_exampleManager hrun
  exact ⟨s, hrun, hnext, hremoved, hnext ▸ hnodes.1⟩

/-- When the network is finished, every node that was ever added has been removed, once. -/
theorem nodes_removed {incoming : List Received} (hinit : initial setup incoming = .ok s₀)
    (hrun : run (step setup) s₀ (events ++ [.preNetworkFinish]) = .ok s) :
    s.removedNodes.Perm s.addedNodes ∧ s.hosts = ∅ := by
  have h := consistent_of_run hinit hrun
  obtain ⟨s₁, -, hlast⟩ := run_append_inv hrun
  obtain ⟨s₂, hstep, hend⟩ := run_cons_inv hlast
  obtain rfl := Except.ok.inj hend
  cases handled_of_step hstep with
  | @finishes s₃ hmoves hhosts =>
      have hempty : s₃.hosts = ∅ := OrderedMap.ext_find? fun k => by
        unfold OrderedMap.find?
        rw [hhosts]
        rfl
      refine ⟨?_, hempty⟩
      have hnone : ∀ nodeId, number? { s₃ with
          connectAndStartTrigger := none, executeOneTimestepTrigger := none } nodeId = none := by
        intro nodeId
        show (s₃.hosts.find? nodeId).map Node.nodeVectorIndex = none
        rw [hempty]
        rfl
      exact (h.register.returned_perm hnone).trans (h.register.given ▸ List.Perm.refl _)

/-- The node of the vehicle that is left is removed at the end. -/
theorem nodes_removed_twoVehicles :
    ∃ s, run (step everyVehicle) exampleManager (twoSteps ++ [.preNetworkFinish]) = .ok s ∧
      s.removedNodes = [0, 1] ∧ s.removedNodes.Perm s.addedNodes := by
  obtain ⟨s, hrun, hremoved⟩ : ∃ s,
      run (step everyVehicle) exampleManager (twoSteps ++ [.preNetworkFinish]) = .ok s ∧
        s.removedNodes = [0, 1] := exists_of_run_map (by decide +kernel)
  exact ⟨s, hrun, hremoved, (nodes_removed initial_exampleManager hrun).1⟩

/-- Whatever the server sends, no vehicle is in both tables, every node belongs to the vehicle
that it is filed under, and the active vehicles are those that drive and those that park. -/
theorem tables_agree {incoming : List Received} (hinit : initial setup incoming = .ok s₀)
    (hrun : run (step setup) s₀ events = .ok s) :
    (∀ nodeId mod, s.hosts.find? nodeId = some mod →
      s.unEquippedHosts.find? nodeId = none ∧ mod.mobility.externalId = nodeId) ∧
      s.activeVehicleCount = s.drivingVehicleCount + s.parkingVehicleCount := by
  have h := consistent_of_run hinit hrun
  refine ⟨fun nodeId mod hmod => ⟨h.apart nodeId ?_, h.ids nodeId mod hmod⟩, h.counts⟩
  rw [hmod]
  exact Option.some_ne_none mod

/-- One of the two vehicles is still there. -/
theorem tables_agree_twoVehicles :
    ∃ s, run (step everyVehicle) exampleManager twoSteps = .ok s ∧
      s.hosts.entries.map Prod.fst = [[2]] ∧
      s.activeVehicleCount = s.drivingVehicleCount + s.parkingVehicleCount := by
  obtain ⟨s, hrun, hhosts⟩ : ∃ s, run (step everyVehicle) exampleManager twoSteps = .ok s ∧
      s.hosts.entries.map Prod.fst = [[2]] := exists_of_run_map (by decide +kernel)
  exact ⟨s, hrun, hhosts, (tables_agree initial_exampleManager hrun).2⟩

/-- Whatever the server sends, it can read the commands of the manager, in the order in which
they were sent, out of what the manager wrote, in whatever pieces that arrives. -/
theorem commands_readable {incoming incoming' : List Received}
    (hinit : initial setup incoming = .ok s₀) (hrun : run (step setup) s₀ events = .ok s)
    (hcommands : ∀ command ∈ s.connection.sent, 10 + command.2.length < 2 ^ 32)
    (hstays : Received.Stays incoming')
    (hstream : Received.stream incoming' = s.connection.outgoing) :
    ∃ messages rest,
      many Received.receiveMessage s.connection.sent.length incoming' = .ok (messages, rest) ∧
        Received.stream rest = [] ∧
        messages.map readCommand = s.connection.sent.map fun command => .ok (command, []) :=
  readCommand_segmented hstays hcommands (hstream.trans (consistent_of_run hinit hrun).wire)

/-- The manager has sent twelve commands. -/
theorem commands_readable_twoVehicles :
    ∃ s, run (step everyVehicle) exampleManager twoSteps = .ok s ∧
      ∃ messages rest, many Received.receiveMessage 12
          [.again, .bytes s.connection.outgoing] = .ok (messages, rest) ∧
        messages.map readCommand = s.connection.sent.map fun command => .ok (command, []) := by
  obtain ⟨s, hrun, hvalues⟩ : ∃ s, run (step everyVehicle) exampleManager twoSteps = .ok s ∧
      (s.connection.sent.length, s.connection.sent.all fun command => 10 + command.2.length < 2 ^ 32,
        s.connection.outgoing.isEmpty) = (12, true, false) := exists_of_run_map (by decide +kernel)
  simp only [Prod.mk.injEq, List.all_eq_true, decide_eq_true_eq] at hvalues
  obtain ⟨hlength, hcommands, hne⟩ := hvalues
  have hstays : Received.Stays [.again, .bytes s.connection.outgoing] := by
    intro received hmem
    rcases List.mem_pair.mp hmem with rfl | rfl
    · exact ⟨nofun, nofun⟩
    · refine ⟨fun heq => ?_, nofun⟩
      rw [Received.bytes.inj heq] at hne
      cases hne
  obtain ⟨messages, rest, hmany, -, hread⟩ := commands_readable
    initial_exampleManager hrun hcommands hstays (List.append_nil s.connection.outgoing)
  exact ⟨s, hrun, messages, rest, hlength ▸ hmany, hread⟩

/-- Whatever the server sends, a run whose triggers are due does not halt because a vehicle is
added twice or is missing, nor because answers are nested too deeply. -/
theorem checks_hold {k : Halt}
    (henabled : Along (step setup) (fun s e => s.enabled e = true) s₀ events)
    (hrun : run (step setup) s₀ events = .error k) :
    k ≠ .notEnabled ∧ k ≠ .cRuntimeError "tried adding duplicate module" ∧
      ∀ nodeId : Str, k ≠ .cRuntimeError ("no vehicle with Id \"" ++ nodeId.text ++ "\" found") := by
  have houtside : ¬ ¬ Outside k := run_never_halts (I := fun _ => True) (fun _ _ _ _ _ _ => trivial)
    (fun _ _ _ _ hguard hstep => not_not_intro (outside_of_step hguard hstep)) trivial henabled hrun
  have h := not_not.mp houtside
  exact ⟨h.enabled, h.duplicate, h.vehicle⟩

/-- The server closes the connection instead of sending an answer. -/
theorem checks_hold_closed :
    run (step everyVehicle) exampleManager (twoSteps ++ [.executeOneTimestepTrigger]) =
        .error Received.closed ∧
      Received.closed ≠ .notEnabled := by
  have hrun : run (step everyVehicle) exampleManager (twoSteps ++ [.executeOneTimestepTrigger]) =
      .error Received.closed := by decide +kernel
  exact ⟨hrun, (checks_hold (by decide +kernel) hrun).1⟩

end TraCIScenarioManager

end MultiTechBus.Veins
