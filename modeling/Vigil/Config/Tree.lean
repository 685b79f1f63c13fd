import Vigil.Config.Error
import Vigil.Config.KeyPath

/-!
# Configurations

A configuration is the tree that results from setting the entries of its sources one after the
other. It is asked by key paths.

* `Config.overlay`: each top-level key of a source is read as a path; a key that is none is set
  as it stands, where no path can reach it.
* `Config.getText`: the value at a key as text.
-/

namespace Vigil

open Config

/-- A configuration that can be asked for values. -/
structure Config where
  root : Value

namespace Config

/-- The configuration that holds nothing. -/
def empty : Config := ⟨.table none []⟩

/-- The path at which a source's top-level key is set. -/
def sourcePath (key : String) : KeyPath := (KeyPath.read? key).getD [.name key]

/-- One entry of a source set in a configuration. -/
def assign (c : Config) (key : String) (v : Value) : Config := ⟨(sourcePath key).set v c.root⟩

/-- A configuration with all entries of a source set in it. -/
def overlay (c : Config) (source : List (String × Value)) : Config :=
  source.foldl (fun c e => c.assign e.1 e.2) c

/-- The value at a key. -/
def get (c : Config) (key : String) : Except ConfigError Value :=
  match KeyPath.read? key with
  | none => .error .badKey
  | some path =>
    match path.get? c.root with
    | none => .error (.missing key)
    | some v => .ok v

/-- A value found at a key as text. -/
def Value.asText (key : String) (v : Value) : Except ConfigError String :=
  match v with
  | .scalar _ s =>
    match s.asText? with
    | some t => .ok t
    | none => .error (.notText v key)
  | _ => .error (.notText v key)

/-- The value at a key as text. -/
def getText (c : Config) (key : String) : Except ConfigError String :=
  match c.get key with
  | .ok v => Value.asText key v
  | .error e => .error e

end Config

end Vigil
