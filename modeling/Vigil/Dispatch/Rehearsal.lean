import Vigil.Dispatch.Invoker

/-!
# Rehearsed handlers

Handlers that follow a script, to try out an invoker: which events they fail or crash on, how
often they fail at first, how they answer a reset. Events and reset contexts are texts. The world
counts the calls each handler has had, by its name.
-/

namespace Vigil.Rehearsal

/-- How a rehearsed handler answers a reset. -/
inductive ResetManner
  | ok
  | fail
  | failWithout
  | failWith
  | failEmpty
  | crash
  deriving DecidableEq

/-- The script of a handler. -/
structure Part where
  name : String
  failOn : List String
  failFirst : Nat
  crashOn : List String
  reset : ResetManner
  supportsReset : Option Bool
  causes : List String

/-- What a rehearsed handler lets be seen. -/
inductive Sight
  | handled (name event : String)
  | preparedReset (name : String) (payload : Option String)
  | askedSupport (name : String)
  deriving DecidableEq

/-- The number of events each handler was given. -/
abbrev Calls := List (String × Nat)

namespace Calls

/-- The calls a handler has had. -/
def of (calls : Calls) (name : String) : Nat := (calls.lookup name).getD 0

/-- One call more. -/
def count (calls : Calls) (name : String) : Calls :=
  (name, calls.of name + 1) :: calls.filter (·.1 != name)

end Calls

namespace Part

/-- The error of a handler with its own text. -/
def error (p : Part) (text : String) : HandlerError := ⟨p.name ++ text, p.causes⟩

/-- How the handler takes an event, its `nth` one, counted from zero. -/
def replyTo (p : Part) (event : String) (nth : Nat) : Reply :=
  if event ∈ p.crashOn then .crashed
  else if event ∈ p.failOn ∨ nth < p.failFirst then .failed (p.error (" rejects " ++ event))
  else .done

/-- Whether the handler refuses a reset. -/
def refuses (m : ResetManner) (payload : Option String) : Bool :=
  match m with
  | .ok | .crash => false
  | .fail => true
  | .failWithout => payload.isNone
  | .failWith => payload.isSome
  | .failEmpty => payload == some ""

/-- How the handler takes a reset. -/
def replyToReset (p : Part) (payload : Option String) : Reply :=
  if p.reset = .crash then .crashed
  else if refuses p.reset payload then .failed (p.error " cannot reset")
  else .done

/-- The handler that follows the script. -/
def handler (p : Part) : Handler String String Sight Calls where
  handle event calls :=
    ⟨p.replyTo event (calls.of p.name), [.handled p.name event], calls.count p.name⟩
  prepareReset payload calls := ⟨p.replyToReset payload, [.preparedReset p.name payload], calls⟩
  supportsReset calls :=
    match p.supportsReset with
    | some answer => ⟨answer, [.askedSupport p.name], calls⟩
    | none => Handler.supportsByDefault calls

end Part

/-- An event given to handlers one after the other, past any invoker; a crash ends it. -/
def each (event : String) :
    List (Handler String String Sight Calls) → Calls →
      Turn (Option (List (Option HandlerError))) (Event Sight) Calls
  | [], calls => ⟨some [], [], calls⟩
  | h :: rest, calls =>
    let turn := h.handle event calls
    let seen := turn.seen.map Event.seen
    match turn.reply with
    | .crashed => ⟨none, seen, turn.world⟩
    | reply =>
      let after := each event rest turn.world
      ⟨after.reply.map (reply.error? :: ·), seen ++ after.seen, after.world⟩

/-- Handlers asked one after the other whether they support resets, past any invoker. -/
def eachSupports :
    List (Handler String String Sight Calls) → Calls → Turn (List Bool) (Event Sight) Calls
  | [], calls => ⟨[], [], calls⟩
  | h :: rest, calls =>
    let turn := h.supportsReset calls
    let after := eachSupports rest turn.world
    ⟨turn.reply :: after.reply, turn.seen.map Event.seen ++ after.seen, after.world⟩

end Vigil.Rehearsal
