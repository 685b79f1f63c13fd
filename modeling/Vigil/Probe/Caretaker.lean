import Vigil.Probe.Monitor
import Vigil.Schedule.Caretaker

/-!
# Monitors as caretakers

A connection monitor driven by a scheduler: each firing is one check, done in one go.
-/

namespace Vigil

/-- The caretaker that fires a monitor. A callback that crashes is a crash of the firing. -/
def ConnectionMonitor.caretaker {ε ω : Type} (m : ConnectionMonitor ε ω) :
    Caretaker ε (Watched ω) where
  run _ _ s :=
    let turn := m.fire s
    ⟨turn.seen, turn.world, some (if turn.reply then [] else [.crash])⟩

end Vigil
