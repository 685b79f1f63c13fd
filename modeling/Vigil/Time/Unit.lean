import Vigil.Text.Fold
import Vigil.Time.Duration

/-!
# Time units

The four units a timing may be given in, their full names and their suffixes. A number of
minutes or hours beyond the longest duration counts as the longest whole number of seconds.
-/

namespace Vigil

/-- The unit of a delay or a rate. -/
inductive TimeUnit
  | milliseconds
  | seconds
  | minutes
  | hours
  deriving DecidableEq

namespace TimeUnit

/-- So many of the unit. -/
def toDuration (u : TimeUnit) (n : UInt64) : Duration :=
  match u with
  | milliseconds => .ofMillis n
  | seconds => .ofSecsClamped n.toNat
  | minutes => .ofSecsClamped (60 * n.toNat)
  | hours => .ofSecsClamped (3600 * n.toNat)

/-- The unit of a full name in any case of letters, with nothing around it. -/
def ofName? (s : String) : Option TimeUnit :=
  let name := String.ofList (Text.lower s.toList)
  if name = "milliseconds" then some milliseconds
  else if name = "seconds" then some seconds
  else if name = "minutes" then some minutes
  else if name = "hours" then some hours
  else none

/-- What is said of a text that names no unit. -/
def unknownMessage (s : String) : String := "Invalid time unit: " ++ s

/-- The text that follows a number to give its unit. -/
def suffix : TimeUnit → List Char
  | milliseconds => ['m', 's']
  | seconds => ['s']
  | minutes => ['m']
  | hours => ['h']

/-- The unit of the text after a number; without any, the number counts milliseconds. -/
def ofSuffix? (cs : List Char) : Option TimeUnit :=
  if cs = [] then some milliseconds
  else [milliseconds, seconds, minutes, hours].find? (·.suffix == cs)

@[simp] theorem ofSuffix?_suffix (u : TimeUnit) : ofSuffix? u.suffix = some u := by
  cases u <;> rfl

end TimeUnit

end Vigil
