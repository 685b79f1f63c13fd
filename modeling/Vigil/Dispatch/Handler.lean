import Vigil.Log

/-!
# Event handlers

A handler reacts to events and can be told to prepare for a reset. What it does may depend on
everything that happened before, so each call takes the world as the calls before left it and
returns the world after it, along with what the handler let be seen meanwhile. A handler that is
registered several times shares its part of the world.
-/

namespace Vigil

/-- What one call to an outside part gives back. -/
structure Turn (α ε ω : Type) where
  reply : α
  seen : List ε
  world : ω

/-- The error of a handler: its own text, then the texts of the errors beneath it, the outermost
first. -/
structure HandlerError where
  text : String
  causes : List String
  deriving DecidableEq

/-- How a call to a handler ends. -/
inductive Reply
  | done
  | failed (e : HandlerError)
  | crashed
  deriving DecidableEq

/-- The error of a call that failed. -/
def Reply.error? : Reply → Option HandlerError
  | .failed e => some e
  | _ => none

/-- A component that reacts to events of type `E` and to resets with a context of type `R`, in a
world of type `ω`, and lets observations of type `ε` be seen. -/
structure Handler (E R ε ω : Type) where
  handle : E → ω → Turn Reply ε ω
  prepareReset : Option R → ω → Turn Reply ε ω
  supportsReset : ω → Turn Bool ε ω

/-- What a handler answers that does not say whether it supports resets. -/
def Handler.supportsByDefault {ε ω : Type} (w : ω) : Turn Bool ε ω := ⟨true, [], w⟩

end Vigil
