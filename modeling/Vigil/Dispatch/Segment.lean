import Vigil.Text.Decimal

/-!
# Segments

A segment names the part of the event stream that an event belongs to. Dispatch passes it
through untouched.
-/

namespace Vigil

/-- A partition of the event stream. -/
structure Segment where
  id : UInt32
  mask : UInt32
  deriving DecidableEq

namespace Segment

/-- The one segment that covers the whole stream. -/
def root : Segment := ⟨0, 0⟩

/-- The segment of an event that names none. -/
instance : Inhabited Segment := ⟨root⟩

/-- The text of a segment. -/
def render (s : Segment) : String :=
  "Segment[" ++ Text.Decimal.natural s.id.toNat ++ "/" ++ Text.Decimal.natural s.mask.toNat ++ "]"

end Segment

end Vigil
