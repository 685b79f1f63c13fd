import Vigil.Dispatch.Handler
import Vigil.Text.Decimal

/-!
# Dispatch failures

What is reported when handlers fail: which handler it was, by its place in the order and the
group it was registered under, and its own error.
-/

namespace Vigil

/-- The failure of one handler. -/
structure HandlerFailure where
  group : String
  position : Nat
  source : HandlerError
  deriving DecidableEq

namespace HandlerFailure

/-- The text of a failure. -/
def message (f : HandlerFailure) : String :=
  "handler #" ++ Text.Decimal.natural f.position ++ " of processing group '" ++ f.group ++
    "' failed: " ++ f.source.text

/-- The texts of the errors beneath a failure, the outermost first. -/
def sources (f : HandlerFailure) : List String := f.source.text :: f.source.causes

/-- What is said of a dispatch that a failure has stopped. -/
def abortMessage (f : HandlerFailure) : String := "Event dispatch aborted: " ++ f.message

/-- The texts beneath that message, the outermost first. -/
def abortSources (f : HandlerFailure) : List String := f.message :: f.sources

end HandlerFailure

/-- The failures of a reset; every handler has been told by the time it is reported. -/
structure ResetError where
  attempted : Nat
  failures : List HandlerFailure
  deriving DecidableEq

/-- The text of a failed reset. -/
def ResetError.message (e : ResetError) : String :=
  Text.Decimal.natural e.failures.length ++ " of " ++ Text.Decimal.natural e.attempted ++
    " handlers failed to prepare for reset"

end Vigil
