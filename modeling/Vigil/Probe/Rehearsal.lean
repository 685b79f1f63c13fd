import Vigil.Probe.Monitor

/-!
# Rehearsed connections

A table of contexts that can be set by hand, a check on it, and a callback that counts its calls
and crashes on chosen ones: all that a connection monitor needs to be tried out.
-/

namespace Vigil.Probe

/-- The connections by context, and the number of times the callback was called. -/
structure Switchboard where
  connected : List (String × Bool)
  callbacks : Nat

namespace Switchboard

/-- Nothing connected yet. -/
def empty : Switchboard := ⟨[], 0⟩

/-- Whether a context is connected; an unknown one is not. -/
def isConnected (s : Switchboard) (context : String) : Bool :=
  (s.connected.lookup context).getD false

/-- A context connected or disconnected. -/
def connect (s : Switchboard) (context : String) (up : Bool) : Switchboard :=
  { s with connected := (context, up) :: s.connected }

end Switchboard

/-- What is seen of rehearsed connections. -/
inductive Sight
  | asked (context : String) (connected : Bool)
  | looked (connected : Bool)
  | calledBack (nth : Nat)
  deriving DecidableEq

/-- The source that answers from the table. -/
def source : StatusSource Sight Switchboard where
  isConnected context s :=
    let up := s.isConnected context
    ⟨some up, [.asked context up], s⟩

/-- The two ways to check a context: by an active channel check, or by looking it up. -/
inductive CheckKind
  | channel
  | lookup

/-- The active channel check of a context. -/
def channelCheck (context : String) : ActiveChannelCheck Sight Switchboard := ⟨source, context⟩

/-- The check of a context. -/
def CheckKind.check (kind : CheckKind) (context : String) : SanityCheck Sight Switchboard :=
  match kind with
  | .channel => (channelCheck context).toSanityCheck
  | .lookup => ⟨fun s => ⟨some (s.isConnected context), [.looked (s.isConnected context)], s⟩⟩

/-- The monitor of a context whose callback crashes on the calls listed, counted from one. -/
def monitor (kind : CheckKind) (context : String) (crashOn : List Nat) :
    ConnectionMonitor Sight Switchboard where
  check := kind.check context
  onInvalid s :=
    let nth := s.callbacks + 1
    ⟨!(crashOn.contains nth), [.calledBack nth], { s with callbacks := nth }⟩

end Vigil.Probe
