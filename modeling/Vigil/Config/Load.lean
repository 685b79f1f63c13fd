import Vigil.Config.Environment
import Vigil.Config.Files
import Vigil.Config.Tree
import Vigil.Toml.Document
import Vigil.Yaml.Document

/-!
# Loading

A configuration comes from a file in one of two formats, with the variables of the environment
set over it.

* `Config.load`: the configuration from the file at a path.
-/

namespace Vigil

open Config

namespace Config

/-- The format of a configuration file. -/
inductive Format
  | toml
  | yaml
  deriving DecidableEq

namespace Format

/-- The endings of a format's files, the first to be tried first. -/
def endings : Format → List String
  | toml => ["toml"]
  | yaml => ["yaml", "yml"]

/-- The entries of a text in a format, each part marked with its source. -/
def entries? (format : Format) (origin : String) (text : String) :
    Option (List (String × Value)) :=
  match format with
  | toml => Toml.Document.entries? (some origin) text
  | yaml => Yaml.Document.entries? (some origin) text

end Format

/-- The text of a file without a byte order mark in front. -/
def withoutMark (text : String) : String :=
  match text.toList with
  | '\uFEFF' :: rest => String.ofList rest
  | _ => text

/-- The entries of the file at a path. -/
def fileEntries (format : Format) (files : Files) (path : String) :
    Except ConfigError (List (String × Value)) :=
  match files.find? path format.endings with
  | none => .error (.noFile path)
  | some (p, text) =>
    match format.entries? p.render (withoutMark text) with
    | some entries => .ok entries
    | none => .error .badFile

/-- The configuration from the file at a path with the variables of the environment over it. -/
def load (format : Format) (files : Files) (path : String) (named : List (String × String)) :
    Except ConfigError Config :=
  (fileEntries format files path).map fun entries =>
    (empty.overlay entries).overlay (Environment.entries named)

end Config

end Vigil
