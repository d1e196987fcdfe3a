import Mathlib.Data.List.Induction
import MultiTechBus.App.Tick
import MultiTechBus.Lifecycle

/-! # Starting, stopping and crashing the application

`AppBusDataCollection` owns a self-message, the control timer, which it handles
before the lifecycle dispatcher sees it. Starting schedules the timer, stopping
cancels it, and the crash handler of the base class does not know of it.
-/

namespace MultiTechBus.App

open MultiTechBus.Library MultiTechBus.Network

/-- `OperationalMixin::State`. -/
inductive OperationalState
  | STARTING_OPERATION | OPERATING | STOPPING_OPERATION | CRASHING_OPERATION | NOT_OPERATING
deriving DecidableEq, Repr

/-- A scheduled self-message; times are in milliseconds. -/
structure Timer where
  message : Nat
  arrivalTime : Nat
deriving DecidableEq, Repr

/-- The module with what its lifecycle needs: a message is its number, and a
pointer that may be null is an option. -/
structure AppModule where
  app : AppBusDataCollection
  node : Node
  /-- The parameter `interface`. -/
  interface : String := "wlan0"
  operationalState : OperationalState := .NOT_OPERATING
  controlTimer : Option Nat := none
  /-- The self-messages in the future event set, the earliest first. -/
  timers : List Timer := []
  /-- The number of the next message object. -/
  nextMessage : Nat := 0
  simTime : Nat := 0
  /-- The destinations and ports of the packets handed to the socket. -/
  sent : List (Ipv4Address × Nat) := []

namespace AppModule

/-- `224.0.0.1`, which `handleStartOperation` resolves. -/
def destAddress : Ipv4Address := Ipv4Address.ofDBytes 224 0 0 1

def isScheduled (s : AppModule) (message : Nat) : Bool :=
  s.timers.any fun t => t.message == message

def scheduleAt (s : AppModule) (time message : Nat) : Except Halt AppModule :=
  if time < s.simTime then .error (.cRuntimeError "scheduleAt(): Cannot schedule message to the past")
  else if s.isScheduled message then
    .error (.cRuntimeError "scheduleAt(): Message 'controlTimer' is already scheduled")
  else
    .ok { s with
      timers := s.timers.orderedInsert (fun a b => a.arrivalTime < b.arrivalTime) ⟨message, time⟩ }

def cancelAndDelete (s : AppModule) (message : Nat) : AppModule :=
  { s with timers := s.timers.filter fun t => t.message != message }

/-- `SimTime(0.1, SIMTIME_S)` takes a whole number of seconds: it is zero. -/
def startDelay : Nat := 0

def startApplication (s : AppModule) : Except Halt AppModule :=
  match s.controlTimer with
  | some _ => .ok s
  | none =>
      scheduleAt { s with controlTimer := some s.nextMessage, nextMessage := s.nextMessage + 1 }
        (s.simTime + startDelay) s.nextMessage

def stopApplication (s : AppModule) : AppModule :=
  match s.controlTimer with
  | some message => { s.cancelAndDelete message with controlTimer := none }
  | none => s

def handleStartOperation (s : AppModule) : Except Halt AppModule :=
  if destAddress.isUnspecified then .error (.cRuntimeError "ASSERT: !destAddress.isUnspecified()")
  else if s.interface.isEmpty then .error (.cRuntimeError "ASSERT: interface[0]")
  else
    match s.node.ift.findInterfaceByName s.interface with
    | none => .error (.cRuntimeError "ASSERT: ie")
    | some _ => s.startApplication

def handleStopOperation (s : AppModule) : AppModule := s.stopApplication

/-- Only the socket is destroyed. -/
def handleCrashOperation (s : AppModule) : AppModule := s

def finishActiveOperation (s : AppModule) (endState : OperationalState) : AppModule :=
  { s with operationalState := endState }

def handleOperationStage (s : AppModule) : LifecycleOperation → Except Halt AppModule
  | .ModuleStartOperation =>
      (handleStartOperation { s with operationalState := .STARTING_OPERATION }).map fun s =>
        s.finishActiveOperation .OPERATING
  | .ModuleStopOperation =>
      .ok ((handleStopOperation { s with operationalState := .STOPPING_OPERATION }).finishActiveOperation
        .NOT_OPERATING)
  | .ModuleCrashOperation =>
      .ok ((handleCrashOperation { s with operationalState := .CRASHING_OPERATION }).finishActiveOperation
        .NOT_OPERATING)

/-- `controlInterface`, and the packet that it sends on a bus. -/
def runControl (s : AppModule) : Except Halt AppModule :=
  (controlInterface s.app s.node).map fun r =>
    { s with
      app := r.1
      node := r.2
      sent := if r.1.isBus then s.sent ++ [(Ipv4Address.ofDBytes 15 0 0 1, 3000)] else s.sent }

/-- What the base class does with a self-message. -/
def handleSelfMessage (s : AppModule) : Except Halt AppModule :=
  match s.operationalState with
  | .STARTING_OPERATION | .OPERATING | .STOPPING_OPERATION =>
      .error (.cRuntimeError "This module does not use custom self messages")
  | .NOT_OPERATING =>
      .error (.cRuntimeError
        "Self message 'controlTimer' received when AppBusDataCollection is down")
  | .CRASHING_OPERATION => .error (.cRuntimeError "Invalid operational state: 3")

def handleMessage (s : AppModule) (message : Nat) : Except Halt AppModule :=
  if s.controlTimer = some message then do
    let s ← s.runControl
    s.scheduleAt (s.simTime + 1000) message
  else s.handleSelfMessage

end AppModule

/-- What can happen: a lifecycle operation at some time, the expiry of the earliest
self-message, or anything that the other modules do to the node and to the flag. -/
inductive AppEvent
  | operation (operation : LifecycleOperation) (time : Nat)
  | expiry
  | others (node : Node) (ConnectionToAP : Bool)

namespace AppModule

def step (s : AppModule) : AppEvent → Except Halt AppModule
  | .operation operation time =>
      if s.simTime ≤ time ∧ ∀ t ∈ s.timers, time ≤ t.arrivalTime then
        handleOperationStage { s with simTime := time } operation
      else .error .notEnabled
  | .expiry =>
      match s.timers with
      | [] => .error .notEnabled
      | t :: rest => handleMessage { s with simTime := t.arrivalTime, timers := rest } t.message
  | .others node ConnectionToAP =>
      .ok { s with node := node, app := { s.app with ConnectionToAP := ConnectionToAP } }

/-- What `initialize` does in the stage of the application, on a node that is up or down. -/
def initializeStage (s : AppModule) (up : Bool) : Except Halt AppModule :=
  if up then handleStartOperation { s with operationalState := .OPERATING }
  else .ok { s with operationalState := .NOT_OPERATING }

/-! ## The control timer -/

/-- The control timer is the only self-message, and it is scheduled if it exists. -/
def Tidy (s : AppModule) : Prop := s.timers.map Timer.message = s.controlTimer.toList

section Timers

variable {s s' : AppModule}

theorem Tidy.length_le (h : s.Tidy) : s.timers.length ≤ 1 := by
  have hlen := congrArg List.length h
  rw [List.length_map] at hlen
  rw [hlen]
  cases s.controlTimer <;> simp

theorem Tidy.timers_eq_nil (h : s.Tidy) (hnone : s.controlTimer = none) : s.timers = [] := by
  unfold Tidy at h
  rw [hnone] at h
  exact List.map_eq_nil_iff.mp h

theorem Tidy.length_eq_one (h : s.Tidy) (hsome : s.controlTimer ≠ none) : s.timers.length = 1 := by
  have hlen := congrArg List.length h
  rw [List.length_map] at hlen
  rw [hlen]
  cases hc : s.controlTimer with
  | none => exact absurd hc hsome
  | some message => rfl

/-- The self-message that expires is the control timer. -/
theorem Tidy.of_cons (h : s.Tidy) {t : Timer} {rest : List Timer} (hcons : s.timers = t :: rest) :
    s.controlTimer = some t.message ∧ rest = [] := by
  unfold Tidy at h
  rw [hcons] at h
  cases hc : s.controlTimer with
  | none => simp [hc] at h
  | some message =>
      rw [hc, List.map_cons, Option.toList_some, List.cons.injEq, List.map_eq_nil_iff] at h
      exact ⟨by rw [h.1], h.2⟩

theorem scheduleAt_ok {time message : Nat} (h : s.scheduleAt time message = .ok s')
    (hempty : s.timers = []) : s' = { s with timers := [⟨message, time⟩] } := by
  unfold scheduleAt at h
  split at h
  · cases h
  · split at h
    · cases h
    · rw [hempty] at h
      exact (Except.ok.inj h).symm

/-- Starting leaves the control timer scheduled, and the rest as it was. -/
structure Started (s s' : AppModule) : Prop where
  tidy : s'.Tidy
  controlTimer : s'.controlTimer ≠ none
  operationalState : s'.operationalState = s.operationalState
  node : s'.node = s.node
  sent : s'.sent = s.sent

theorem started_startApplication (htidy : s.Tidy) (h : s.startApplication = .ok s') :
    Started s s' := by
  unfold startApplication at h
  cases hc : s.controlTimer with
  | some message =>
      simp only [hc] at h
      obtain rfl := Except.ok.inj h
      exact ⟨htidy, by simp [hc], rfl, rfl, rfl⟩
  | none =>
      simp only [hc] at h
      obtain rfl := scheduleAt_ok h (htidy.timers_eq_nil hc)
      exact ⟨rfl, by simp, rfl, rfl, rfl⟩

theorem started_handleStartOperation (htidy : s.Tidy) (h : s.handleStartOperation = .ok s') :
    Started s s' := by
  unfold handleStartOperation at h
  split at h
  · cases h
  · split at h
    · cases h
    · split at h
      · cases h
      · exact started_startApplication htidy h

theorem stopApplication_spec (htidy : s.Tidy) :
    s.stopApplication.Tidy ∧ s.stopApplication.controlTimer = none ∧
      s.stopApplication.node = s.node ∧ s.stopApplication.sent = s.sent := by
  unfold stopApplication
  cases hc : s.controlTimer with
  | none => exact ⟨htidy, hc, rfl, rfl⟩
  | some message =>
      refine ⟨?_, rfl, rfl, rfl⟩
      have hmessages : ∀ t ∈ s.timers, t.message = message := by
        intro t ht
        have hmem := List.mem_map_of_mem (f := Timer.message) ht
        unfold Tidy at htidy
        rw [htidy, hc] at hmem
        simpa using hmem
      have hnone : (s.timers.filter fun t => t.message != message) = [] := by
        rw [List.filter_eq_nil_iff]
        intro t ht
        simp [hmessages t ht]
      simp [Tidy, cancelAndDelete, hnone]

end Timers

end AppModule

/-! ## Operations and expiries in order -/

def AppEvent.operation? : AppEvent → Option LifecycleOperation
  | operation op _ => some op
  | _ => none

def AppEvent.isOthers : AppEvent → Bool
  | others _ _ => true
  | _ => false

def lastOperation (es : List AppEvent) : Option LifecycleOperation :=
  (es.filterMap AppEvent.operation?).getLast?

/-- The state that the operations so far leave the module in. -/
def stateAfter (up : Bool) : Option LifecycleOperation → OperationalState
  | none => if up then .OPERATING else .NOT_OPERATING
  | some .ModuleStartOperation => .OPERATING
  | some .ModuleStopOperation => .NOT_OPERATING
  | some .ModuleCrashOperation => .NOT_OPERATING

/-- What is asked of one step: the control function runs, the node changes and packets
leave only while the module operates, and starting leaves one timer. -/
structure StepLaw (s : AppModule) (e : AppEvent) (s' : AppModule) : Prop where
  runs : e = .expiry → s.operationalState = .OPERATING
  quiet : s.operationalState ≠ .OPERATING → e.isOthers = false →
    s'.node = s.node ∧ s'.sent = s.sent
  single : s'.timers.length ≤ 1
  started : ∀ time, e = .operation .ModuleStartOperation time → s'.timers.length = 1

/-- What is asked of a module that was initialized on a node in state `up`, and of
every step of a run from there. -/
structure LifecycleLaw (up : Bool) (s₀ : AppModule) (es : List AppEvent) : Prop where
  single : s₀.timers.length ≤ 1
  started : up = true → s₀.timers.length = 1
  steps : ∀ xs e ys s s', es = xs ++ e :: ys → run AppModule.step s₀ xs = .ok s →
    AppModule.step s e = .ok s' → StepLaw s e s'

/-- No self-message expires between a crash and the next operation. -/
def NoExpiryAfterCrash (es : List AppEvent) : Prop :=
  ∀ xs ys, es = xs ++ .expiry :: ys → lastOperation xs ≠ some .ModuleCrashOperation

theorem stateAfter_cases (up : Bool) (op : Option LifecycleOperation) :
    stateAfter up op = .OPERATING ∨ stateAfter up op = .NOT_OPERATING := by
  cases op with
  | none => cases up <;> simp [stateAfter]
  | some op => cases op <;> simp [stateAfter]

theorem lastOperation_snoc (es : List AppEvent) (e : AppEvent) :
    lastOperation (es ++ [e]) = e.operation?.or (lastOperation es) := by
  unfold lastOperation
  cases h : e.operation? with
  | none => simp [h]
  | some op => simp [h]

namespace AppModule

/-- The module after the events `es`: a module that does not operate has no control
timer, unless it crashed. -/
structure After (up : Bool) (es : List AppEvent) (s : AppModule) : Prop where
  tidy : s.Tidy
  state : s.operationalState = stateAfter up (lastOperation es)
  idle : s.operationalState = .NOT_OPERATING →
    lastOperation es ≠ some .ModuleCrashOperation → s.controlTimer = none

variable {up : Bool} {s s₀ s' : AppModule} {e : AppEvent} {es : List AppEvent}

/-- An operation takes place as long as no self-message is due before. -/
theorem handled_of_step {op : LifecycleOperation} {time : Nat}
    (h : step s (.operation op time) = .ok s') :
    handleOperationStage { s with simTime := time } op = .ok s' := by
  simp only [step] at h
  split at h
  · exact h
  · cases h

theorem started_of_step {time : Nat} (htidy : s.Tidy)
    (h : step s (.operation .ModuleStartOperation time) = .ok s') :
    s'.Tidy ∧ s'.controlTimer ≠ none ∧ s'.operationalState = .OPERATING ∧
      s'.node = s.node ∧ s'.sent = s.sent := by
  obtain ⟨t, ht, rfl⟩ := map_ok_inv (handled_of_step h)
  have hstarted := started_handleStartOperation
    (s := { s with simTime := time, operationalState := .STARTING_OPERATION }) htidy ht
  exact ⟨hstarted.tidy, hstarted.controlTimer, rfl, hstarted.node, hstarted.sent⟩

theorem stopped_of_step {time : Nat} (htidy : s.Tidy)
    (h : step s (.operation .ModuleStopOperation time) = .ok s') :
    s'.Tidy ∧ s'.controlTimer = none ∧ s'.operationalState = .NOT_OPERATING ∧
      s'.node = s.node ∧ s'.sent = s.sent := by
  obtain rfl := Except.ok.inj (handled_of_step h)
  obtain ⟨hempty, hnone, hnode, hsent⟩ := stopApplication_spec
    (s := { s with simTime := time, operationalState := .STOPPING_OPERATION }) htidy
  exact ⟨hempty, hnone, rfl, hnode, hsent⟩

/-- A crash changes nothing but the operational state. -/
theorem crashed_of_step {time : Nat}
    (h : step s (.operation .ModuleCrashOperation time) = .ok s') :
    s' = { s with simTime := time, operationalState := .NOT_OPERATING } :=
  (Except.ok.inj (handled_of_step h)).symm

/-- The control timer goes off and is scheduled again, whatever the operational state. -/
theorem expired_of_step (htidy : s.Tidy) (h : step s .expiry = .ok s') :
    s'.Tidy ∧ s.controlTimer ≠ none ∧ s'.controlTimer ≠ none ∧
      s'.operationalState = s.operationalState := by
  simp only [step] at h
  split at h
  · cases h
  · rename_i t rest hcons
    obtain ⟨hcontrol, rfl⟩ := htidy.of_cons hcons
    simp only [handleMessage, hcontrol, if_true] at h
    obtain ⟨u, hu, hschedule⟩ := bind_ok_inv h
    obtain ⟨r, -, rfl⟩ := map_ok_inv hu
    obtain rfl := scheduleAt_ok hschedule rfl
    exact ⟨rfl, by simp [hcontrol], by simp, rfl⟩

theorem after_initializeStage (htidy : s.Tidy) (hnone : s.controlTimer = none)
    (h : s.initializeStage up = .ok s₀) : After up [] s₀ ∧ (up = true → s₀.controlTimer ≠ none) := by
  unfold initializeStage at h
  cases up with
  | true =>
      have hstarted := started_handleStartOperation (s := { s with operationalState := .OPERATING })
        htidy h
      refine ⟨⟨hstarted.tidy, hstarted.operationalState, fun hdown => ?_⟩,
        fun _ => hstarted.controlTimer⟩
      rw [hstarted.operationalState] at hdown
      cases hdown
  | false =>
      obtain rfl := Except.ok.inj h
      exact ⟨⟨htidy, rfl, fun _ _ => hnone⟩, fun h => by cases h⟩

theorem After.snoc (h : After up es s) (hstep : step s e = .ok s') : After up (es ++ [e]) s' := by
  cases e with
  | operation op time =>
      cases op with
      | ModuleStartOperation =>
          obtain ⟨htidy, -, hstate, -, -⟩ := started_of_step h.tidy hstep
          refine ⟨htidy, ?_, fun hdown => ?_⟩
          · rw [hstate, lastOperation_snoc]
            rfl
          · rw [hstate] at hdown
            cases hdown
      | ModuleStopOperation =>
          obtain ⟨htidy, hnone, hstate, -, -⟩ := stopped_of_step h.tidy hstep
          refine ⟨htidy, ?_, fun _ _ => hnone⟩
          rw [hstate, lastOperation_snoc]
          rfl
      | ModuleCrashOperation =>
          obtain rfl := crashed_of_step hstep
          refine ⟨h.tidy, ?_, fun _ hcrash => ?_⟩
          · rw [lastOperation_snoc]
            rfl
          · rw [lastOperation_snoc] at hcrash
            exact absurd rfl hcrash
  | expiry =>
      obtain ⟨htidy, hsome, -, hstate⟩ := expired_of_step h.tidy hstep
      refine ⟨htidy, ?_, fun hdown hcrash => ?_⟩
      · rw [hstate, lastOperation_snoc]
        exact h.state
      · rw [hstate] at hdown
        rw [lastOperation_snoc] at hcrash
        exact absurd (h.idle hdown hcrash) hsome
  | others node b =>
      obtain rfl := Except.ok.inj hstep
      have hlast : lastOperation (es ++ [.others node b]) = lastOperation es := lastOperation_snoc es _
      refine ⟨h.tidy, ?_, ?_⟩
      · rw [hlast]
        exact h.state
      · rw [hlast]
        exact h.idle

theorem After.run (h : After up [] s₀) (hrun : Library.run step s₀ es = .ok s) : After up es s := by
  induction es using List.reverseRecOn generalizing s with
  | nil =>
      obtain rfl := Except.ok.inj hrun
      exact h
  | append_singleton es e ih =>
      obtain ⟨t, hes, hlast⟩ := run_append_inv hrun
      obtain ⟨s', hstep, hend⟩ := run_cons_inv hlast
      obtain rfl := Except.ok.inj hend
      exact (ih hes).snoc hstep

/-- A step keeps the law if it is not the expiry of a timer that survived a crash. -/
theorem After.stepLaw (h : After up es s) (hstep : step s e = .ok s')
    (hcrash : e = .expiry → lastOperation es ≠ some .ModuleCrashOperation) : StepLaw s e s' := by
  have hsingle := (h.snoc hstep).tidy.length_le
  cases e with
  | operation op time =>
      have hkeeps : s'.node = s.node ∧ s'.sent = s.sent := by
        cases op with
        | ModuleStartOperation => exact (started_of_step h.tidy hstep).2.2.2
        | ModuleStopOperation => exact (stopped_of_step h.tidy hstep).2.2.2
        | ModuleCrashOperation =>
            obtain rfl := crashed_of_step hstep
            exact ⟨rfl, rfl⟩
      refine ⟨fun he => ?_, fun _ _ => hkeeps, hsingle, fun t he => ?_⟩
      · cases he
      · obtain ⟨rfl, -⟩ := AppEvent.operation.inj he
        exact (h.snoc hstep).tidy.length_eq_one (started_of_step h.tidy hstep).2.1
  | expiry =>
      have hoperates : s.operationalState = .OPERATING := by
        rcases stateAfter_cases up (lastOperation es) with hup | hdown
        · exact h.state.trans hup
        · exact absurd (h.idle (h.state.trans hdown) (hcrash rfl)) (expired_of_step h.tidy hstep).2.1
      refine ⟨fun _ => hoperates, fun hdown => absurd hoperates hdown, hsingle, fun t he => ?_⟩
      cases he
  | others node b =>
      refine ⟨fun he => ?_, fun _ he => ?_, hsingle, fun t he => ?_⟩
      · cases he
      · cases he
      · cases he

end AppModule

/-- The application runs its control function, changes the node and sends packets only
while it operates, with one timer after every start, exactly if no self-message
expires between a crash and the next operation. -/
theorem lifecycleLaw_iff {s s₀ t : AppModule} {up : Bool} {es : List AppEvent}
    (htidy : s.Tidy) (hnone : s.controlTimer = none) (hinit : s.initializeStage up = .ok s₀)
    (hrun : run AppModule.step s₀ es = .ok t) :
    LifecycleLaw up s₀ es ↔ NoExpiryAfterCrash es := by
  obtain ⟨hafter, hup⟩ := AppModule.after_initializeStage htidy hnone hinit
  constructor
  · intro hlaw xs ys hsplit hcrash
    rw [hsplit] at hrun
    obtain ⟨u, hxs, hrest⟩ := run_append_inv hrun
    obtain ⟨u', hstep, -⟩ := run_cons_inv hrest
    have hruns := (hlaw.steps xs .expiry ys u u' hsplit hxs hstep).runs rfl
    rw [(hafter.run hxs).state, hcrash] at hruns
    cases hruns
  · intro hcond
    refine ⟨hafter.tidy.length_le, fun h => hafter.tidy.length_eq_one (hup h), ?_⟩
    rintro xs e ys u u' rfl hxs hstep
    refine (hafter.run hxs).stepLaw hstep ?_
    rintro rfl
    exact hcond xs ys rfl

def sampleModule : AppModule := { app := sampleBus.app, node := sampleBus.node }

def sampleStarted : AppModule :=
  { sampleModule with
    operationalState := .OPERATING
    controlTimer := some 0
    timers := [⟨0, 0⟩]
    nextMessage := 1 }

theorem sampleModule_tidy : sampleModule.Tidy := by
  unfold AppModule.Tidy
  rfl

theorem sampleModule_initializeStage : sampleModule.initializeStage true = .ok sampleStarted := rfl

/-- The application ticks, is stopped and started again, ticks and crashes. -/
theorem lifecycleLaw_sample :
    LifecycleLaw true sampleStarted
        [.expiry, .operation .ModuleStopOperation 500, .operation .ModuleStartOperation 900,
          .expiry, .operation .ModuleCrashOperation 1500] ↔
      NoExpiryAfterCrash
        [.expiry, .operation .ModuleStopOperation 500, .operation .ModuleStartOperation 900,
          .expiry, .operation .ModuleCrashOperation 1500] := by
  have hstate : (run AppModule.step sampleStarted
      [.expiry, .operation .ModuleStopOperation 500, .operation .ModuleStartOperation 900,
        .expiry, .operation .ModuleCrashOperation 1500]).toOption.map AppModule.operationalState =
      some .NOT_OPERATING := by decide +kernel
  obtain ⟨t, hrun, -⟩ := exists_of_run_map hstate
  exact lifecycleLaw_iff sampleModule_tidy rfl sampleModule_initializeStage hrun

/-- An application that ticks, crashes and ticks again. -/
def ticksAfterCrash : List AppEvent := [.expiry, .operation .ModuleCrashOperation 50, .expiry]

/-- The timer of an application that crashed still goes off. -/
theorem not_lifecycleLaw_after_crash :
    ∃ t, run AppModule.step sampleStarted ticksAfterCrash = .ok t ∧
      ¬ LifecycleLaw true sampleStarted ticksAfterCrash := by
  have hstate : (run AppModule.step sampleStarted ticksAfterCrash).toOption.map
      AppModule.operationalState = some .NOT_OPERATING := by decide +kernel
  obtain ⟨t, hrun, -⟩ := exists_of_run_map hstate
  refine ⟨t, hrun, fun hlaw => ?_⟩
  obtain ⟨u, htick, hrest⟩ := run_cons_inv hrun
  obtain ⟨v, hcrash, hlast⟩ := run_cons_inv hrest
  obtain ⟨v', hexpiry, -⟩ := run_cons_inv hlast
  have hbefore : run AppModule.step sampleStarted
      [.expiry, .operation .ModuleCrashOperation 50] = .ok v := by
    rw [run_cons_ok _ htick, run_cons_ok _ hcrash, run_nil]
  have hruns := (hlaw.steps [.expiry, .operation .ModuleCrashOperation 50] .expiry [] v v' rfl
    hbefore hexpiry).runs rfl
  rw [AppModule.crashed_of_step hcrash] at hruns
  cases hruns

end MultiTechBus.App
