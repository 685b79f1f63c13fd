import Vigil.Config.Tree
import Vigil.Time.Shorthand

/-!
# Placeholders

A timing may be written as a placeholder, `${key}` or `${key:default}`, that stands for the value
at `key`, or for the default if nothing is set there. What a placeholder stands for is not itself
read as a placeholder again.

* `Placeholder.read?`: what is a placeholder, split at its first colon.
* `Config.resolve`: the text that a timing stands for.
* `Config.duration`: that text as a duration.
-/

namespace Vigil

open Config

/-- A reference to a configuration value. -/
structure Placeholder where
  key : String
  fallback : Option String
  deriving DecidableEq

namespace Placeholder

/-- The text between `${` and a closing brace at the very end. -/
def inner? : List Char → Option (List Char)
  | '$' :: '{' :: rest => if rest.getLast? = some '}' then some rest.dropLast else none
  | _ => none

/-- The key, and behind the first colon the default. -/
def ofInner (cs : List Char) : Placeholder :=
  match cs.dropWhile (· != ':') with
  | ':' :: fallback => ⟨String.ofList (cs.takeWhile (· != ':')), some (String.ofList fallback)⟩
  | _ => ⟨String.ofList cs, none⟩

/-- The placeholder that a text is, if it is one. -/
def read? (s : String) : Option Placeholder := (inner? s.toList).map ofInner

/-- The spelling of a placeholder. -/
def spell (p : Placeholder) : List Char :=
  ['$', '{'] ++ p.key.toList ++
    (match p.fallback with
      | some d => ':' :: d.toList
      | none => []) ++ ['}']

end Placeholder

/-- Why a scheduler could not be set up. -/
inductive SetupError
  | zeroRate
  | noRuntime
  | invalidDuration (key value : String)
  | config (e : ConfigError)

namespace SetupError

/-- The text of an error, if it is fixed. -/
def message? : SetupError → Option String
  | zeroRate => some "Fixed rate must be greater than zero"
  | noRuntime =>
    some "No tokio runtime available; call from within a runtime or supply a handle"
  | invalidDuration key value =>
    some ("Invalid duration for " ++ key ++ ": '" ++ value ++ "'")
  | config e => e.message?.map ("Configuration error: " ++ ·)

end SetupError

namespace Config

/-- What a placeholder stands for. Only a value that is not there gives way to the default. -/
def lookup (c : Config) (p : Placeholder) : Except ConfigError String :=
  match c.getText p.key, p.fallback with
  | .error (.missing _), some d => .ok d
  | r, _ => r

/-- The text that a timing stands for: a placeholder's value, or the timing itself. -/
def resolve (c : Config) (value : String) : Except ConfigError String :=
  match Placeholder.read? value with
  | some p => c.lookup p
  | none => .ok value

/-- The duration that a timing stands for; `key` names it in diagnostics. -/
def duration (c : Config) (key value : String) : Except SetupError Duration :=
  match c.resolve value with
  | .error e => .error (.config e)
  | .ok text =>
    match Shorthand.read? text with
    | some d => .ok d
    | none => .error (.invalidDuration key text)

end Config

end Vigil
