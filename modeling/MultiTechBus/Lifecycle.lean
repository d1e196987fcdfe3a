import MultiTechBus.Halt

/-! # Lifecycle operations

A node is started, stopped and crashed. Its status admits an operation in the first
stage, and is settled in the last one.
-/

namespace MultiTechBus

inductive LifecycleOperation
  | ModuleStartOperation | ModuleStopOperation | ModuleCrashOperation
deriving DecidableEq, Repr

/-- `NodeStatus::State`. -/
inductive NodeStatus
  | UP | DOWN | GOING_UP | GOING_DOWN
deriving DecidableEq, Repr

namespace NodeStatus

def handleFirstStage (status : NodeStatus) : LifecycleOperation → Except Halt NodeStatus
  | .ModuleStartOperation =>
      if status = .DOWN then .ok .GOING_UP
      else .error (.cRuntimeError "Current node status is not 'down' at ModuleStartOperation")
  | .ModuleStopOperation =>
      if status = .UP then .ok .GOING_DOWN
      else .error (.cRuntimeError "Current node status is not 'up' at ModuleStopOperation")
  | .ModuleCrashOperation =>
      if status = .UP then .ok .GOING_DOWN
      else .error (.cRuntimeError "Current node status is not 'up' at ModuleCrashOperation")

def handleLastStage (status : NodeStatus) : LifecycleOperation → Except Halt NodeStatus
  | .ModuleStartOperation =>
      if status = .GOING_UP then .ok .UP
      else .error (.cRuntimeError "ASSERT: condition 'getState() == GOING_UP' false")
  | .ModuleStopOperation =>
      if status = .GOING_DOWN then .ok .DOWN
      else .error (.cRuntimeError "ASSERT: condition 'getState() == GOING_DOWN' false")
  | .ModuleCrashOperation =>
      if status = .GOING_DOWN then .ok .DOWN
      else .error (.cRuntimeError "ASSERT: condition 'getState() == GOING_DOWN' false")

/-- The operations find the status that they need, one after the other. -/
def admits : NodeStatus → List LifecycleOperation → Bool
  | _, [] => true
  | status, .ModuleStartOperation :: ops => status == .DOWN && admits .UP ops
  | status, .ModuleStopOperation :: ops => status == .UP && admits .DOWN ops
  | status, .ModuleCrashOperation :: ops => status == .UP && admits .DOWN ops

end NodeStatus

end MultiTechBus
