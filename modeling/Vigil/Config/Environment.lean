import Vigil.Config.Value
import Vigil.Text.Fold

/-!
# Environment

Variables of the environment whose names start with `APP_`, in any case of letters, are entries of
a configuration: the rest of the name is the key, with two underscores for each dot, and the value
is always a text.

* `Environment.key?`: the key that a variable sets.
* `Environment.entries`: the entries that the variables are.
-/

namespace Vigil.Config.Environment

/-- What a variable's name starts with, in lower case. -/
def mark : List Char := ['a', 'p', 'p', '_']

/-- The text with a dot for each two underscores, counted from the left. -/
def dotted : List Char → List Char
  | '_' :: '_' :: rest => '.' :: dotted rest
  | c :: rest => c :: dotted rest
  | [] => []

/-- The key that a variable sets, if it sets any. -/
def key? (name : String) : Option String :=
  let cs := Text.lower name.toList
  if cs.take mark.length = mark then some (String.ofList (dotted (cs.drop mark.length))) else none

/-- What values from the environment name as their source. -/
def origin : String := "the environment"

/-- The entry that a variable is, if it is any. -/
def entry? (v : String × String) : Option (String × Value) :=
  (key? v.1).map fun key => (key, .scalar (some origin) (.text v.2))

/-- The entries that the variables are, in order. -/
def entries (named : List (String × String)) : List (String × Value) :=
  named.filterMap entry?

end Vigil.Config.Environment
