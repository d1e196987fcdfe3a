/-! # How handling an event can fail

Event handlers either complete or stop the simulation. An event that is not
enabled in a state is kept apart from a failure of the program.
-/

namespace MultiTechBus

inductive Halt
  /-- The state offers no such event. -/
  | notEnabled
  /-- `throw cRuntimeError(what)`, or a failed `ASSERT`. -/
  | cRuntimeError (what : String)
  /-- A null pointer is dereferenced. -/
  | nullPointer
deriving DecidableEq, Repr

namespace Halt

/-- The simulation stops with an error of the program. -/
def isFailure : Halt → Bool
  | notEnabled => false
  | cRuntimeError _ => true
  | nullPointer => true

/-- An event that is not enabled does not fail. -/
theorem false_of_notEnabled {α : Type} {k : Halt}
    (h : (Except.error notEnabled : Except Halt α) = .error k)
    (hk : k.isFailure = true) : False := by
  rw [← Except.error.inj h] at hk
  cases hk

end Halt

end MultiTechBus
