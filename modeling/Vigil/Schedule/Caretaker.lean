import Vigil.Log

/-!
# Caretakers

A caretaker is the recurring action that a scheduler drives. A firing begins with what happens in
one go when the caretaker is run, and goes on with steps at which it may have to wait or calls
its own scheduler.
-/

namespace Vigil

/-- A call on a scheduler. -/
inductive Call
  | start
  | stop
  | isArmed
  deriving DecidableEq

/-- One step of a firing. -/
inductive Action
  /-- Wait so many milliseconds; none are over at once. -/
  | sleep (millis : Nat)
  /-- Let everything else run that can. -/
  | yield
  | crash
  /-- A call on the scheduler that drives the firing. -/
  | call (c : Call)
  deriving DecidableEq

/-- How a firing begins: what is seen, the world after it, and the steps that follow. Without any
steps the caretaker has crashed. -/
structure Opening (ε ω : Type) where
  seen : List (Event ε)
  world : ω
  steps : Option (List Action)

/-- The action of a scheduler: its firings by number, in a world `ω` and at a time of the clock. -/
structure Caretaker (ε ω : Type) where
  run : (firing now : Nat) → ω → Opening ε ω

end Vigil
