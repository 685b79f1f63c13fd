/-!
# Lower case

Lower case as far as names over ASCII letters can tell: besides the capital letters only the
Kelvin sign becomes an ASCII letter, and a text that holds any other character outside ASCII
still holds one after Unicode's full mapping, so it equals no such name either way.
-/

namespace Vigil.Text

/-- The lower case of a character that has one in ASCII; every other character stands. -/
def lowerChar (c : Char) : Char := if c.toNat = 0x212A then 'k' else c.toLower

/-- The text with its letters in lower case. -/
def lower (cs : List Char) : List Char := cs.map lowerChar

end Vigil.Text
