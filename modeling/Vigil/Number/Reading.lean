import Vigil.Number.Binary64

/-!
# Reading numbers

The decimal forms of numbers: integers that a signed 64-bit word holds, in any base up to
sixteen, and fractions with an optional power of ten.
-/

namespace Vigil.Number

/-- A sign in front of a text, and the text after it. -/
def splitSign : List Char → Bool × List Char
  | '-' :: cs => (true, cs)
  | '+' :: cs => (false, cs)
  | cs => (false, cs)

/-- The number that a non-empty run of digits of a base stands for. -/
def ofDigits? (digit? : Char → Option Nat) (base : Nat) (cs : List Char) : Option Nat :=
  if cs = [] then none
  else
    match cs.mapM digit? with
    | some ds => some (ds.foldl (fun n d => base * n + d) 0)
    | none => none

/-- The integer that a text spells with digits of a base after an optional sign, if a signed
64-bit word holds it. -/
def readWord? (digit? : Char → Option Nat) (base : Nat) (cs : List Char) : Option Int :=
  match ofDigits? digit? base (splitSign cs).2 with
  | some n =>
    let i : Int := if (splitSign cs).1 then -n else n
    if -9223372036854775808 ≤ i ∧ i < 9223372036854775808 then some i else none
  | none => none

/-- A decimal digit as a number. -/
def decimalDigit? (c : Char) : Option Nat :=
  if c.isDigit then some (Text.Decimal.digit c) else none

/-- The power of ten at the end of a fraction, none meaning zero. -/
def scale? : List Char → Option Int
  | [] => some 0
  | c :: cs =>
    if c = 'e' ∨ c = 'E' then
      match ofDigits? decimalDigit? 10 (splitSign cs).2 with
      | some n => some (if (splitSign cs).1 then -n else n)
      | none => none
    else none

/-- The number nearest to the decimal fraction that a text spells; there must be a digit before
or behind the point. -/
def readFraction? (text : List Char) : Option Binary64 :=
  let (negative, cs) := splitSign text
  let whole := cs.takeWhile Char.isDigit
  let (places, rest) := match cs.dropWhile Char.isDigit with
    | '.' :: rest => (rest.takeWhile Char.isDigit, rest.dropWhile Char.isDigit)
    | rest => ([], rest)
  if whole ++ places = [] then none
  else
    (scale? rest).map fun scale =>
      .ofDecimal negative (Text.Decimal.value (whole ++ places)) (scale - places.length)

end Vigil.Number
