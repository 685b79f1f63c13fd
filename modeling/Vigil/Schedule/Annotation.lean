/-!
# Annotated timing

What an attribute in front of a caretaker's `impl` block says about its timing. The texts are
resolved against a configuration only when a scheduler is built.
-/

namespace Vigil

/-- The timing that an annotation gives a type of caretakers, as written: each text may be a
placeholder. -/
structure AnnotatedTiming where
  initialDelay : String
  fixedRate : String
  deriving DecidableEq

end Vigil
