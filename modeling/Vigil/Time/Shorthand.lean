import Vigil.Text.Blank
import Vigil.Time.Unit

/-!
# Duration shorthand

The texts `500ms`, `10s`, `2m`, `1h` and a bare `250`, blanks around them allowed: digits of a
number below `2^64`, and at once the suffix of a unit or nothing.
-/

namespace Vigil.Shorthand

/-- The number that a non-empty run of digits stands for, if a 64-bit word holds it. -/
def word? (digits : List Char) : Option UInt64 :=
  if digits = [] then none
  else if h : Text.Decimal.value digits < 18446744073709551616 then
    some (UInt64.ofNatLT (Text.Decimal.value digits) h)
  else none

/-- The duration a text without blanks around it stands for. -/
def readBare? (cs : List Char) : Option Duration :=
  match word? (cs.takeWhile Char.isDigit), TimeUnit.ofSuffix? (cs.dropWhile Char.isDigit) with
  | some n, some u => some (u.toDuration n)
  | _, _ => none

/-- The duration that a text stands for. -/
def read? (s : String) : Option Duration := readBare? (Text.trim s.toList)

end Vigil.Shorthand
