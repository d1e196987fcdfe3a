import MultiTechBus.Veins.Talks

/-! # What the scenario manager can do

Whatever the server sends, the manager only makes moves of a few kinds. Each function of the
manager is followed once; what holds in every run is derived from the moves.
-/

namespace MultiTechBus.Veins

open MultiTechBus.Library TraCIConstants TraCIConnection TraCICommandInterface

namespace TraCIScenarioManager

/-- A vehicle has no entry in either table of the vehicles in the region of interest. -/
structure Unknown (s : TraCIScenarioManager) (nodeId : Str) : Prop where
  hosts : s.hosts.find? nodeId = none
  unEquippedHosts : s.unEquippedHosts.find? nodeId = none

inductive Move : TraCIScenarioManager → TraCIScenarioManager → Prop
  | communicates (s : TraCIScenarioManager) {c : TraCIConnection}
      (h : TraCIConnection.Move s.connection c) : Move s { s with connection := c }
  | configures (s : TraCIScenarioManager) (versionConfig : VersionConfig) (timeAsDouble : Bool) :
      Move s { s with versionConfig := versionConfig, timeAsDouble := timeAsDouble }
  | equips (s : TraCIScenarioManager) {nodeId : Str} (mod : Node) (h : s.Unknown nodeId)
      (hindex : mod.nodeVectorIndex = s.nextNodeVectorIndex)
      (hid : mod.mobility.externalId = nodeId) :
      Move s { s with
        hosts := s.hosts.insert nodeId mod
        nextNodeVectorIndex := s.nextNodeVectorIndex + 1
        emitted := s.emitted ++ [.traciModulePreInit s.nextNodeVectorIndex] ++
          [.traciModuleAdded nodeId s.nextNodeVectorIndex] }
  | ignores (s : TraCIScenarioManager) {nodeId : Str} (h : s.Unknown nodeId) :
      Move s { s with unEquippedHosts := s.unEquippedHosts.insert nodeId () }
  | deletes (s : TraCIScenarioManager) {nodeId : Str} {mod : Node}
      (h : s.hosts.find? nodeId = some mod) :
      Move s { s with
        hosts := s.hosts.erase nodeId
        emitted := s.emitted ++ [.traciModuleRemoved nodeId mod.nodeVectorIndex] }
  | forgets (s : TraCIScenarioManager) (nodeId : Str) :
      Move s { s with unEquippedHosts := s.unEquippedHosts.erase nodeId }
  | drives (s : TraCIScenarioManager) {nodeId : Str} {mod : Node} (p : TraCICoord)
      (speed heading : Double) (h : s.hosts.find? nodeId = some mod) :
      Move s { s with
        hosts := s.hosts.insert nodeId { mod with
          mobility := { mod.mobility with lastPosition := p, speed := speed, heading := heading } } }
  | subscribes (s : TraCIScenarioManager) (vehicleId : Str) :
      Move s { s with subscribedVehicles := s.subscribedVehicles.insert vehicleId () }
  | unsubscribes (s : TraCIScenarioManager) (vehicleId : Str) :
      Move s { s with subscribedVehicles := s.subscribedVehicles.erase vehicleId }
  | departs (s : TraCIScenarioManager) (count : BitVec 32) :
      Move s { s with
        activeVehicleCount := s.activeVehicleCount + count
        drivingVehicleCount := s.drivingVehicleCount + count }
  | leaves (s : TraCIScenarioManager) (count : BitVec 32) (triggered : Bool) :
      Move s { s with
        autoShutdownTriggered := s.autoShutdownTriggered || triggered
        activeVehicleCount := s.activeVehicleCount - count
        drivingVehicleCount := s.drivingVehicleCount - count }
  | parks (s : TraCIScenarioManager) (count : BitVec 32) :
      Move s { s with
        parkingVehicleCount := s.parkingVehicleCount + count
        drivingVehicleCount := s.drivingVehicleCount - count }
  | unparks (s : TraCIScenarioManager) (count : BitVec 32) :
      Move s { s with
        parkingVehicleCount := s.parkingVehicleCount - count
        drivingVehicleCount := s.drivingVehicleCount + count }

/-- The manager came here by its moves, and fewer than `n` bytes are to come. -/
structure Reaches (s₀ : TraCIScenarioManager) (n : Nat) (s : TraCIScenarioManager) : Prop where
  moves : Relation.ReflTransGen Move s₀ s
  fewer : (Received.stream s.connection.incoming).length < n

/-- A program of the manager only makes moves. -/
def Keeps {α : Type} (s₀ : TraCIScenarioManager) (n : Nat) (m : Scenario α) : Prop :=
  Triple (Reaches s₀ n) m (fun _ => Reaches s₀ n) Outside

variable {setup : Setup} {s₀ s : TraCIScenarioManager} {n : Nat}

namespace Reaches

theorem refl (h : (Received.stream s.connection.incoming).length < n) : Reaches s n s :=
  ⟨.refl, h⟩

theorem move {s' : TraCIScenarioManager} (h : Reaches s₀ n s) (hmove : Move s s')
    (hincoming : s'.connection = s.connection) : Reaches s₀ n s' :=
  ⟨h.moves.tail hmove, hincoming ▸ h.fewer⟩

theorem more (h : Reaches s₀ n s) : Reaches s₀ (n + 1) s := ⟨h.moves, Nat.lt_succ_of_lt h.fewer⟩

theorem connection {c : TraCIConnection} {k : Nat} (h : Reaches s₀ n s)
    (htalks : Talks s.connection k c) : Reaches s₀ k { s with connection := c } := by
  refine ⟨h.moves.trans ?_, htalks.fewer⟩
  have hlift : ∀ c, Relation.ReflTransGen TraCIConnection.Move s.connection c →
      Relation.ReflTransGen Move s { s with connection := c } := by
    intro c hc
    induction hc with
    | refl => exact .refl
    | tail _ hmove ih => exact ih.tail (.communicates _ hmove)
  exact hlift c htalks.moves

end Reaches

/-- What the manager does on its connection leaves everything else as it is. -/
theorem triple_onConnection {α : Type} {k : Nat} {commands : Commands α}
    {F : TraCIScenarioManager → Prop} (hF : ∀ s c, F s → F { s with connection := c })
    (h : ∀ c₀, Triple (Talks c₀ n) commands (fun _ => Talks c₀ k) Outside) :
    Triple (fun s => Reaches s₀ n s ∧ F s) (onConnection commands)
      (fun _ s => Reaches s₀ k s ∧ F s) Outside := by
  intro s hs
  have hspec := h s.connection s.connection ⟨.refl, hs.1.fewer⟩
  have hrun : onConnection commands s =
      (commands s.connection).map fun x => (x.1, { s with connection := x.2 }) := rfl
  rw [hrun]
  cases hcommands : commands s.connection with
  | error k =>
      rw [hcommands] at hspec
      exact hspec
  | ok x =>
      rw [hcommands] at hspec
      exact ⟨hs.1.connection hspec, hF s _ hs.2⟩

namespace Keeps

variable {α : Type}

theorem pure (a : α) : Keeps s₀ n (Pure.pure a) := Triple.pure fun _ => id

theorem throw {k : Halt} (h : Outside k) : Keeps s₀ n (throw k : Scenario α) := Triple.throw h

theorem bind {β : Type} {m : Scenario α} {f : α → Scenario β} (h : Keeps s₀ n m)
    (hf : ∀ a, Keeps s₀ n (f a)) : Keeps s₀ n (m >>= f) := Triple.bind h hf

theorem map {β : Type} {m : Scenario α} (h : Keeps s₀ n m) (g : α → β) : Keeps s₀ n (g <$> m) :=
  Triple.map h fun _ _ => id

theorem get {f : TraCIScenarioManager → Scenario α} (h : ∀ s, Keeps s₀ n (f s)) :
    Keeps s₀ n (get >>= f) :=
  Triple.get fun s hs => (h s).mono (fun _ heq => heq ▸ hs) fun _ _ => id

theorem modify {g : TraCIScenarioManager → TraCIScenarioManager} (h : ∀ s, Move s (g s))
    (hconnection : ∀ s, (g s).connection = s.connection) : Keeps s₀ n (modify g) :=
  Triple.modify fun s hs => hs.move (h s) (hconnection s)

theorem loop {β : Type} {body : β → Scenario β} (h : ∀ b, Keeps s₀ n (body b)) (k : Nat) (b : β) :
    Keeps s₀ n (loop body k b) := by
  induction k generalizing b with
  | zero => exact .pure b
  | succ k ih => exact (h b).bind ih

/-- What is done with the connection, when nothing is left to come, is not done. -/
theorem of_succ {m : Scenario α} (h : ∀ n, Keeps s₀ (n + 1) m) : Keeps s₀ n m := by
  cases n with
  | zero => exact fun s hs => absurd hs.fewer (Nat.not_lt_zero _)
  | succ n => exact h n

theorem onConnection {commands : Commands α}
    (h : ∀ c₀, Triple (Talks c₀ n) commands (fun _ => Talks c₀ n) Outside) :
    Keeps s₀ n (onConnection commands) :=
  (triple_onConnection (F := fun _ => True) (fun _ _ h => h) h).mono (fun _ hs => ⟨hs, trivial⟩)
    fun _ _ hs => hs.1

end Keeps

/-! ### Nodes -/

theorem keeps_addModule (nodeId type name displayString : Str) (position : TraCICoord)
    (speed heading : Double) :
    Triple (fun s => Reaches s₀ n s ∧ s.Unknown nodeId)
      (addModule setup nodeId type name displayString position speed heading)
      (fun _ => Reaches s₀ n) Outside := by
  refine Triple.get fun s ⟨hs, hunknown⟩ => ?_
  rw [hunknown.hosts]
  refine .ite (fun h => absurd h Bool.false_ne_true) fun _ => .ite (fun _ => ?_) fun _ => ?_
  · exact .set (hs.move (.ignores s hunknown) rfl)
  · rintro s rfl
    exact hs.move (.equips s ⟨s.nextNodeVectorIndex, type, name, displayString,
      ⟨nodeId, position, speed, heading⟩⟩ hunknown rfl rfl) rfl

theorem deleteManagedModule_of_find {nodeId : Str} {mod : Node}
    (h : s.hosts.find? nodeId = some mod) :
    deleteManagedModule nodeId s = .ok ((), { s with
      hosts := s.hosts.erase nodeId
      emitted := s.emitted ++ [.traciModuleRemoved nodeId mod.nodeVectorIndex] }) := by
  unfold deleteManagedModule
  simp only [bind, StateT.bind, get, getThe, MonadStateOf.get, StateT.get, Except.bind, pure,
    Except.pure, h]
  rfl

theorem keeps_deleteManagedModule (nodeId : Str) :
    Triple (fun s => Reaches s₀ n s ∧ (s.hosts.find? nodeId).isSome = true)
      (deleteManagedModule nodeId) (fun _ => Reaches s₀ n) Outside := by
  rintro s ⟨hs, hsome⟩
  obtain ⟨mod, hmod⟩ := Option.isSome_iff_exists.mp hsome
  rw [deleteManagedModule_of_find hmod]
  exact hs.move (.deletes s hmod) rfl

theorem keeps_removeVehicle (idstring : Str) : Keeps s₀ n (removeVehicle idstring) := by
  have hforget : Keeps s₀ n (modify fun s =>
      { s with unEquippedHosts := s.unEquippedHosts.erase idstring }) :=
    .modify (fun s => .forgets s idstring) fun _ => rfl
  refine Triple.get fun s hs => .ite (fun h => ?_) fun _ => ?_
  · refine .bind ((keeps_deleteManagedModule idstring).mono ?_ fun _ _ => id) fun _ => hforget
    rintro _ rfl
    exact ⟨hs, h⟩
  · exact hforget.mono (fun _ heq => heq ▸ hs) fun _ _ => id

theorem keeps_createNode (objectId : Str) (p : TraCICoord) (speed heading : Double) :
    Triple (fun s => Reaches s₀ n s ∧ s.Unknown objectId)
      (createNode setup objectId p speed heading) (fun _ => Reaches s₀ n) Outside := by
  refine (triple_onConnection (fun _ _ h => ⟨h.1, h.2⟩) fun _ => talks_getTypeId objectId).bind
    fun vType => ?_
  have hadd : ∀ mType mName mDisplayString,
      Triple (fun s => Reaches s₀ n s ∧ s.Unknown objectId)
        (if mType ≠ [0x30] then addModule setup objectId mType mName mDisplayString p speed heading
          else pure ()) (fun _ => Reaches s₀ n) Outside := fun mType mName mDisplayString =>
    .ite (fun _ => keeps_addModule _ _ _ _ _ _ _) fun _ => .pure fun _ hs => hs.1
  cases findMapping setup.moduleType vType with
  | none => exact .throw (outside_of_head (head?_append (head?_append rfl)) (by decide) (by decide))
  | some mType =>
      cases findMapping setup.moduleName vType with
      | none =>
          exact .throw (outside_of_head (head?_append (head?_append rfl)) (by decide) (by decide))
      | some mName =>
          refine .ite (fun _ => .bind (.pure fun _ hs => hs) fun _ => hadd _ _ _) fun _ => ?_
          cases findMapping setup.moduleDisplayString vType with
          | some mDisplayString => exact .bind (.pure fun _ hs => hs) fun _ => hadd _ _ _
          | none =>
              exact .bind (.throw (outside_of_head (head?_append (head?_append rfl)) (by decide)
                (by decide))) fun _ => hadd _ _ _

theorem keeps_updateVehicle (objectId : Str) (v : VehicleValues) :
    Keeps s₀ n (updateVehicle setup objectId v) := by
  refine Triple.get fun s hs => ?_
  cases s.connection.coordinateTransformation with
  | none => exact .throw (outside_of_head rfl (by decide) (by decide))
  | some bounds =>
      refine .guard ?_ fun _ => .ite (fun _ => .ite (fun hsome => ?_) fun _ => ?_) fun _ => ?_
      · exact outside_of_head (head?_append (head?_append (head?_append (head?_append (head?_append
          (head?_append (head?_append (head?_append rfl)))))))) (by decide) (by decide)
      · refine (keeps_deleteManagedModule objectId).mono ?_ fun _ _ => id
        rintro _ rfl
        exact ⟨hs, hsome⟩
      · rintro s rfl
        exact hs.move (.forgets s objectId) rfl
      · refine .ite (fun _ => .pure fun _ heq => heq ▸ hs) fun hignored => ?_
        have hnone : s.unEquippedHosts.find? objectId = none :=
          Option.not_isSome_iff_eq_none.mp hignored
        cases hmod : s.hosts.find? objectId with
        | none =>
            refine (keeps_createNode objectId _ _ _).mono ?_ fun _ _ => id
            rintro _ rfl
            exact ⟨hs, hmod, hnone⟩
        | some mod =>
            rintro s rfl
            exact hs.move (.drives s _ _ _ hmod) rfl

/-! ### Subscriptions -/

theorem keeps_query (commandId : BitVec 8) (buf : TraCIBuffer) :
    Triple (Reaches s₀ (n + 1)) (onConnection (query commandId buf)) (fun _ => Reaches s₀ n)
      Outside :=
  (triple_onConnection (F := fun _ => True) (fun _ _ h => h) fun _ => talks_query commandId buf).mono
    (fun _ hs => ⟨hs, trivial⟩) fun _ _ hs => hs.1

theorem keeps_assert {holds : Bool} {condition : String} :
    Keeps s₀ n (liftM (assert holds condition)) := triple_assert.mono (fun _ => id) fun _ _ hs => hs.2

section

variable {nested : TraCIBuffer → Scenario TraCIBuffer}

/-- The answer to a subscription takes bytes, and so what is nested in it has fewer left. -/
theorem keeps_subscribe (hnested : ∀ buf, Keeps s₀ n (nested buf)) (commandId : BitVec 8)
    (objectId : Str) (vars : List (BitVec 8)) :
    Keeps s₀ (n + 1) (subscribe setup nested commandId objectId vars) := by
  refine Keeps.get fun s => (keeps_query _ _).bind fun buf =>
    Triple.bind (hnested buf) fun buf => ?_
  exact keeps_assert.mono (fun _ => id) fun _ _ hs => hs.more

theorem keeps_unsubscribe (vehicleId : Str) :
    Keeps s₀ n (unsubscribeFromVehicleVariables setup vehicleId) := by
  refine .of_succ fun n => Keeps.get fun s => (keeps_query _ _).bind fun buf => ?_
  exact keeps_assert.mono (fun _ => id) fun _ _ hs => hs.more

theorem keeps_idList (hnested : ∀ buf, Keeps s₀ n (nested buf)) (buf : TraCIBuffer) :
    Keeps s₀ (n + 1) (idList setup nested buf) := by
  refine reading (.read 8 1) fun _ _ => asserting fun _ => reading (.read 32 4) fun count _ => ?_
  refine Keeps.get fun s => asserting fun _ => reading (Fails.readString.many _) fun ids buf => ?_
  refine Keeps.bind (.forM fun id _ => ?_) fun _ => Keeps.get fun s => ?_
  · refine Keeps.bind (.modify (fun s => .subscribes s id) fun _ => rfl) fun _ => ?_
    exact keeps_subscribe hnested _ _ _
  · refine Keeps.bind (.forM fun id _ => ?_) fun _ => .pure buf
    exact Keeps.bind (.modify (fun s => .unsubscribes s id) fun _ => rfl) fun _ =>
      keeps_unsubscribe id

theorem keeps_typed {α : Type} {read : TraCIBuffer.Read α} (hread : Fails read) (type : BitVec 8)
    (condition : String) (buf : TraCIBuffer) : Keeps s₀ n (typed type condition read buf) :=
  reading (.read 8 1) fun _ _ => asserting fun _ =>
    .lift (fun _ _ _ hs => hs) fun _ hk => hread.error trivial hk

theorem outside_subscriptionError (what : String) (var isokay : BitVec 8) (description : Str) :
    Outside (subscriptionError what var isokay description) := by
  unfold subscriptionError
  split
  · exact outside_of_head (head?_append (head?_append (head?_append (head?_append (head?_append
      (head?_append rfl)))))) (by decide) (by decide)
  · exact outside_of_head (head?_append (head?_append (head?_append (head?_append (head?_append
      (head?_append rfl)))))) (by decide) (by decide)

theorem keeps_processVehicleVariable (hnested : ∀ buf, Keeps s₀ n (nested buf))
    (isSubscribed : Bool) (x : VehicleValues × TraCIBuffer) :
    Keeps s₀ (n + 1) (processVehicleVariable setup nested isSubscribed x) := by
  obtain ⟨v, buf⟩ := x
  refine reading (.read 8 1) fun var _ => reading (.read 8 1) fun isokay buf => ?_
  refine .ite (fun _ => .bind (keeps_typed .readString _ _ _) ?_) fun _ => ?_
  · rintro ⟨errormsg, buf⟩
    exact .guard (outside_subscriptionError _ _ _ _) fun _ => Keeps.pure _
  refine .ite (fun _ => (keeps_idList hnested buf).map (Prod.mk v)) fun _ => ?_
  refine .ite (fun _ => .bind (keeps_typed .readCoord _ _ _) fun _ => Keeps.pure _) fun _ => ?_
  refine .ite (fun _ => .bind (keeps_typed .readString _ _ _) fun _ => Keeps.pure _) fun _ => ?_
  refine .ite (fun _ => .bind (keeps_typed (.read 64 8) _ _ _) fun _ => Keeps.pure _) fun _ => ?_
  refine .ite (fun _ => .bind (keeps_typed (.read 64 8) _ _ _) fun _ => Keeps.pure _) fun _ => ?_
  refine .ite (fun _ => .bind (keeps_typed (.read 32 4) _ _ _) fun _ => Keeps.pure _) fun _ => ?_
  refine .ite (fun _ => .bind (keeps_typed (.read 64 8) _ _ _) fun _ => Keeps.pure _) fun _ => ?_
  refine .ite (fun _ => .bind (keeps_typed (.read 64 8) _ _ _) fun _ => Keeps.pure _) fun _ => ?_
  refine .ite (fun _ => .bind (keeps_typed (.read 64 8) _ _ _) fun _ => Keeps.pure _) fun _ => ?_
  exact .throw (outside_of_head rfl (by decide) (by decide))

theorem keeps_processVehicleSubscription (hnested : ∀ buf, Keeps s₀ n (nested buf))
    (objectId : Str) (buf : TraCIBuffer) :
    Keeps s₀ (n + 1) (processVehicleSubscription setup nested objectId buf) := by
  refine Keeps.get fun s => reading (.read 8 1) fun variableNumber buf => ?_
  refine Keeps.bind (.loop (keeps_processVehicleVariable hnested _) _ _) ?_
  rintro ⟨v, buf⟩
  refine .ite (fun _ => (keeps_updateVehicle objectId v).bind fun _ => Keeps.pure _) fun _ => ?_
  exact Keeps.pure _

end

/-! ### The simulation -/

theorem keeps_forIds {handle : Str → Scenario Unit} (h : ∀ idstring, Keeps s₀ n (handle idstring))
    (buf : TraCIBuffer) : Keeps s₀ n (forIds handle buf) := by
  refine reading (.read 8 1) fun _ _ => asserting fun _ => reading (.read 32 4) fun count buf => ?_
  refine Keeps.bind (.loop (fun buf => ?_) _ _) fun buf => .pure (count, buf)
  exact reading .readString fun idstring buf => (h idstring).bind fun _ => Keeps.pure _

section Counts

variable (buf : TraCIBuffer)

theorem keeps_departed : Keeps s₀ n (departed buf) := by
  refine Keeps.bind (keeps_forIds (fun _ => .pure ()) buf) ?_
  rintro ⟨count, buf⟩
  exact .bind (.modify (fun s => .departs s count) fun _ => rfl) fun _ => .pure buf

theorem keeps_arrived : Keeps s₀ n (arrived setup buf) := by
  refine Keeps.bind (keeps_forIds (fun idstring => ?_) buf) ?_
  · exact .bind (.modify (fun s => .unsubscribes s idstring) fun _ => rfl)
      fun _ => keeps_removeVehicle idstring
  · rintro ⟨count, buf⟩
    exact .bind (.modify (fun s => .leaves s count _) fun _ => rfl) fun _ => .pure buf

theorem keeps_teleportStarting : Keeps s₀ n (teleportStarting buf) := by
  refine Keeps.bind (keeps_forIds keeps_removeVehicle buf) ?_
  rintro ⟨count, buf⟩
  refine .bind (.modify (fun s => ?_) fun _ => rfl) fun _ => .pure buf
  have hmove := Move.leaves s count false
  rwa [Bool.or_false] at hmove

theorem keeps_changeParkingState (idstring : Str) : Keeps s₀ n (changeParkingState idstring) :=
  Keeps.get fun _ => .ite (fun _ => .throw outside_nullPointer) fun _ => Keeps.pure _

theorem keeps_parkingStarting : Keeps s₀ n (parkingStarting buf) := by
  refine Keeps.bind (keeps_forIds keeps_changeParkingState buf) ?_
  rintro ⟨count, buf⟩
  exact .bind (.modify (fun s => .parks s count) fun _ => rfl) fun _ => .pure buf

theorem keeps_parkingEnding : Keeps s₀ n (parkingEnding buf) := by
  refine Keeps.bind (keeps_forIds keeps_changeParkingState buf) ?_
  rintro ⟨count, buf⟩
  exact .bind (.modify (fun s => .unparks s count) fun _ => rfl) fun _ => .pure buf

theorem keeps_timeStep : Keeps s₀ n (timeStep setup buf) := by
  refine Keeps.get fun s => reading (.read 8 1) fun _ _ => asserting fun _ => ?_
  exact reading (.readTime setup _) fun _ _ => asserting fun _ => Keeps.pure _

end Counts

theorem keeps_processSimVariable (buf : TraCIBuffer) :
    Keeps s₀ n (processSimVariable setup buf) := by
  refine Keeps.get fun s => reading (.read 8 1) fun var _ => reading (.read 8 1) fun isokay buf => ?_
  refine .ite (fun _ => reading (.read 8 1) fun _ _ => asserting fun _ => ?_) fun _ => ?_
  · exact reading .readString fun _ _ => .throw (outside_subscriptionError _ _ _ _)
  refine .ite (fun _ => keeps_departed buf) fun _ => .ite (fun _ => keeps_arrived buf) fun _ => ?_
  refine .ite (fun _ => keeps_teleportStarting buf) fun _ => ?_
  refine .ite (fun _ => keeps_departed buf) fun _ => ?_
  refine .ite (fun _ => keeps_parkingStarting buf) fun _ => ?_
  refine .ite (fun _ => keeps_parkingEnding buf) fun _ => .ite (fun _ => keeps_timeStep buf) fun _ => ?_
  refine .ite (fun _ => (keeps_forIds (fun _ => .pure ()) buf).map _) fun _ => ?_
  exact .throw (outside_of_head rfl (by decide) (by decide))

/-- Where the bound on the depth is not below the number of bytes to come, it is not reached. -/
theorem keeps_processSubcriptionResult {depth : Nat} (hn : n ≤ depth) (buf : TraCIBuffer) :
    Keeps s₀ n (processSubcriptionResult setup depth buf) := by
  induction depth generalizing n buf with
  | zero =>
      obtain rfl := Nat.le_zero.mp hn
      exact fun s hs => absurd hs.fewer (Nat.not_lt_zero _)
  | succ depth ih =>
      cases n with
      | zero => exact fun s hs => absurd hs.fewer (Nat.not_lt_zero _)
      | succ n =>
          refine reading (.read 8 1) fun _ _ => reading (.read 32 4) fun _ _ => ?_
          refine reading (.read 8 1) fun commandId _ => reading .readString fun objectId buf => ?_
          refine .ite (fun _ => ?_) fun _ => .ite (fun _ => ?_) fun _ => .ite (fun _ => ?_) fun _ => ?_
          · exact keeps_processVehicleSubscription (ih (Nat.le_of_succ_le_succ hn)) objectId buf
          · exact reading (.read 8 1) fun _ buf => Keeps.loop keeps_processSimVariable _ buf
          · exact .throw outside_nullPointer
          · exact .throw (outside_of_head rfl (by decide) (by decide))

end TraCIScenarioManager

end MultiTechBus.Veins
