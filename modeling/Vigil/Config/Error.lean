import Vigil.Config.Value
import Vigil.Text.Quoted

/-!
# Configuration errors

Why a configuration could not be loaded, or a value in it not be used.
-/

namespace Vigil.Config

/-- What went wrong with a configuration. -/
inductive ConfigError
  /-- Nothing is set at this key. -/
  | missing (key : String)
  /-- The key is no path. -/
  | badKey
  /-- The file does not follow its format. -/
  | badFile
  /-- There is no file at this path. -/
  | noFile (path : String)
  /-- A value at this key should be a text and is something else. -/
  | notText (found : Value) (key : String)
  /-- A section should be a table and is a scalar. -/
  | notSection (found : Scalar) (key : String)
  /-- A section is a list of fewer values than it has fields. -/
  | shortSection (length : Nat) (key : String)

/-- A scalar as diagnostics name it. -/
def Scalar.describe : Scalar → String
  | nil => "unit value"
  | bool b => "boolean `" ++ word b ++ "`"
  | int n => "integer `" ++ Text.Decimal.integer n ++ "`"
  | float x => "floating point `" ++ x.renderPointed ++ "`"
  | text s => "string " ++ Text.Quoted.display s

/-- A value as diagnostics name it. -/
def Value.describe : Value → String
  | scalar _ s => s.describe
  | array _ _ => "sequence"
  | table _ _ => "map"

namespace ConfigError

/-- What a section is called in diagnostics. -/
def sectionName : String := "struct RawSchedulerSettings"

/-- The text of an error; where the format or the key is at fault, a parser speaks, and its words
are not fixed. -/
def message? : ConfigError → Option String
  | missing key => some ("missing configuration field \"" ++ key ++ "\"")
  | badKey => none
  | badFile => none
  | noFile path => some ("configuration file \"" ++ path ++ "\" not found")
  | notText found key =>
    let source := match found.origin with
      | some name => " in " ++ name
      | none => ""
    some ("invalid type: " ++ found.describe ++ ", expected a string for key `" ++ key ++ "`" ++
      source)
  | notSection found key =>
    some ("invalid type: " ++ found.describe ++ ", expected " ++ sectionName ++ " for key `" ++
      key ++ "`")
  | shortSection length key =>
    some ("invalid length " ++ Text.Decimal.natural length ++ ", expected " ++ sectionName ++
      " with 2 elements for key `" ++ key ++ "`")

end ConfigError

end Vigil.Config
