import Vigil.Schedule.Session

/-!
# Rehearsed caretakers

A caretaker that follows a script, to try out a scheduler: the firings by number, each a list of
steps. Firings beyond the script do nothing.
-/

namespace Vigil.Schedule

/-- What the script says of one firing: a crash before the first step, or its steps. -/
inductive Scene
  | crashAtOnce
  | steps (actions : List Action)
  deriving DecidableEq

/-- The scenes of the firings, from the first on. -/
abbrev Script := List Scene

/-- The caretaker that follows a script; it lets nothing be seen of its own. -/
def Script.caretaker {ε ω : Type} (script : Script) : Caretaker ε ω where
  run firing _ w :=
    match script[firing]? with
    | some .crashAtOnce => ⟨[], w, none⟩
    | some (.steps actions) => ⟨[], w, some actions⟩
    | none => ⟨[], w, some []⟩

/-- The number of steps in a script. -/
def Script.size (script : Script) : Nat :=
  script.foldl (fun size scene =>
    match scene with
    | .crashAtOnce => size + 1
    | .steps actions => size + actions.length + 1) 0

/-- Turns that suffice at one instant: each ends a loop, or leads to a wait, or uses up a yield, and
loops come only from calls. -/
def Script.turns (script : Script) (calls : Nat) : Nat := 8 * (script.size + calls) + 64

end Vigil.Schedule
