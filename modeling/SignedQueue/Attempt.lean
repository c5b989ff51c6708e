import SignedQueue.CallError
/-!
**Attempts.** A step of a call gives a value, fails with an error, or stops dead: a part that was
handed in may break down without an error, and whoever runs the call has to live with that.

* `Interruption`: a failure or a breakdown;
* `Attempt`: a computation that may be interrupted.
-/

namespace SignedQueue

/-- Why a step gave no value. -/
inductive Interruption where
  | failed (error : CallError)
  /-- The step broke down; what it said, if it said anything. -/
  | brokeDown (said : Option String)
  deriving Repr, DecidableEq

/-- A computation that may be interrupted. -/
abbrev Attempt (α : Type) := Except Interruption α

namespace Attempt

/-- A result with an error as an attempt that does not break down. -/
def ofResult {α : Type} (result : Except CallError α) : Attempt α :=
  result.mapError .failed

end Attempt

end SignedQueue
