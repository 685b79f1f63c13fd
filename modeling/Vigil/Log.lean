/-!
# Log entries

What the library reports while it works: a level, a message and named fields, all as text. A
trace interleaves such entries with the observations of the parts it works with.
-/

namespace Vigil

namespace Log

/-- How much an entry matters, the least first. -/
inductive Level
  | trace
  | debug
  | info
  | warn
  | error
  deriving DecidableEq

/-- One entry: fields are in the order in which they are given. -/
structure Entry where
  level : Level
  message : String
  fields : List (String × String)
  deriving DecidableEq

end Log

/-- A step of a trace: an entry of the library's own log, or what an outside part observed. -/
inductive Event (ε : Type)
  | log (entry : Log.Entry)
  | seen (observation : ε)
  deriving DecidableEq

/-- The log entries of a trace, in order. -/
def Event.entries {ε : Type} (trace : List (Event ε)) : List Log.Entry :=
  trace.filterMap fun
    | .log entry => some entry
    | .seen _ => none

/-- The observations of a trace, in order. -/
def Event.observations {ε : Type} (trace : List (Event ε)) : List ε :=
  trace.filterMap fun
    | .log _ => none
    | .seen o => some o

end Vigil
