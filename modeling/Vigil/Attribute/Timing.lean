import Vigil.Attribute.Argument
import Vigil.Schedule.Annotation

/-!
# Timing of an attribute

Which texts the arguments of an attribute give for the initial delay and the fixed rate. The
first argument that offends decides the error; among several values of a parameter the last one
counts.

* `timing`: the timing that arguments give, or what is wrong with them.
-/

namespace Vigil.Attribute

/-- What can be wrong with the arguments. -/
inductive ArgumentError
  /-- An argument has no value. -/
  | noValue
  /-- A name that is no parameter. -/
  | unknownName
  /-- The value of a parameter is neither a whole number nor a text. -/
  | badValue (parameter : String)
  /-- There is no rate. -/
  | noRate
  deriving DecidableEq

/-- The text of an error. -/
def ArgumentError.message : ArgumentError → String
  | .noValue => "expected `name = value`"
  | .unknownName => "unknown caretaker parameter; expected `initial_delay` or `fixed_rate`"
  | .badValue parameter =>
    parameter ++ " must be an integer (milliseconds) or a string such as \"1s\""
  | .noRate => "caretaker requires `fixed_rate`"

/-- The values seen so far. -/
structure Given where
  initialDelay : Option String := none
  fixedRate : Option String := none

/-- The text of a value: of a number its decimal digits. -/
def Value.timing? : Value → Option String
  | .integer negative n => some ((if negative then "-" else "") ++ Text.Decimal.natural n)
  | .text s => some s
  | .other => none

/-- The text of a value that a parameter is given. -/
def Value.timing (v : Value) (parameter : String) : Except ArgumentError String :=
  match v.timing? with
  | some s => .ok s
  | none => .error (.badValue parameter)

/-- The values with one more argument. -/
def Given.add (g : Given) : Argument → Except ArgumentError Given
  | .assign path value =>
    match path.name? with
    | some "initial_delay" =>
      (value.timing "initial_delay").map fun s => { g with initialDelay := some s }
    | some "fixed_rate" =>
      (value.timing "fixed_rate").map fun s => { g with fixedRate := some s }
    | _ => .error .unknownName
  | _ => .error .noValue

/-- The initial delay where none is given. -/
def defaultDelay : String := "10s"

/-- The timing that arguments give. -/
def timing (arguments : List Argument) : Except ArgumentError AnnotatedTiming :=
  match arguments.foldlM Given.add {} with
  | .ok given =>
    match given.fixedRate with
    | some rate => .ok ⟨given.initialDelay.getD defaultDelay, rate⟩
    | none => .error .noRate
  | .error e => .error e

end Vigil.Attribute
