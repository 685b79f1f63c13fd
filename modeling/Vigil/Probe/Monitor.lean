import Vigil.Log
import Vigil.Probe.Check
import Vigil.Text.Decimal

/-!
# The connection monitor

A monitor runs a sanity check whenever it fires, counts the failed checks since the last
successful one, and calls back at each failure.

* `ConnectionMonitor.fire`: one firing.
-/

namespace Vigil

/-- A check and what to do when it fails. The callback tells whether it returned. -/
structure ConnectionMonitor (ε ω : Type) where
  check : SanityCheck ε ω
  onInvalid : ω → Turn Bool ε ω

/-- The world of a monitor with the number of failed checks in a row. -/
structure Watched (ω : Type) where
  failures : Nat
  world : ω

namespace ConnectionMonitor

variable {ε ω : Type}

/-- The entry for a check that succeeds after failed ones. -/
def recoveredEntry (previous : Nat) : Log.Entry :=
  ⟨.debug, "Connection check recovered",
    [("previous_failures", Text.Decimal.natural previous)]⟩

/-- The entry for a failed check. -/
def failedEntry (failures : Nat) : Log.Entry :=
  ⟨.warn, "Connection check failed",
    [("consecutive_failures", Text.Decimal.natural failures)]⟩

/-- **One firing**, and whether it returned. A check that crashes counts for nothing; a failed
check counts before the callback is called. -/
def fire (m : ConnectionMonitor ε ω) (s : Watched ω) : Turn Bool (Event ε) (Watched ω) :=
  let turn := m.check.ask s.world
  let seen := turn.seen.map Event.seen
  match turn.reply with
  | none => ⟨false, seen, ⟨s.failures, turn.world⟩⟩
  | some true =>
    let recovered := if s.failures = 0 then [] else [.log (recoveredEntry s.failures)]
    ⟨true, seen ++ recovered, ⟨0, turn.world⟩⟩
  | some false =>
    let failures := s.failures + 1
    let callback := m.onInvalid turn.world
    ⟨callback.reply, seen ++ .log (failedEntry failures) :: callback.seen.map Event.seen,
      ⟨failures, callback.world⟩⟩

end ConnectionMonitor

end Vigil
