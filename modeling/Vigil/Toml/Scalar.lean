import Vigil.Config.Value
import Vigil.Text.Hex
import Vigil.Toml.Moment

/-!
# Values without quotes

Truth values, integers in four bases, decimal fractions, and dates and times. Digits may be set
apart by single underscores. An integer must fit a signed 64-bit word and a fraction must not
round to infinity; dates and times are kept as texts.
-/

namespace Vigil.Toml

open Config

/-- Digits with single underscores between them, without the underscores. -/
def ungroup? (isDigit : Char → Bool) : List Char → Option (List Char)
  | [] => none
  | [c] => if isDigit c then some [c] else none
  | c :: '_' :: rest => if isDigit c then (ungroup? isDigit rest).map (c :: ·) else none
  | c :: rest => if isDigit c then (ungroup? isDigit rest).map (c :: ·) else none

/-- An integer as a value, if a signed 64-bit word holds it. -/
def wordSized? (n : Int) : Option Scalar :=
  if -9223372036854775808 ≤ n ∧ n < 9223372036854775808 then some (.int n) else none

/-- Whether a digit belongs to a base. -/
def isDigitOf (base : Nat) (c : Char) : Bool :=
  match Text.hexDigit? c with
  | some d => d < base
  | none => false

/-- An integer after the mark of its base. -/
def ofBase? (base : Nat) (cs : List Char) : Option Scalar :=
  match ungroup? (isDigitOf base) cs with
  | some ds => wordSized? (ds.foldl (fun n c => base * n + (Text.hexDigit? c).getD 0) 0)
  | none => none

/-- Whether a number starts with a zero that does not stand alone. -/
def hasLeadingZero : List Char → Bool
  | '0' :: _ :: _ => true
  | _ => false

/-- A sign in front of a text, and the text after it. -/
def splitSign : List Char → Bool × List Char
  | '-' :: cs => (true, cs)
  | '+' :: cs => (false, cs)
  | cs => (false, cs)

/-- The exponent of ten after `e`. -/
def exponent? (cs : List Char) : Option Int :=
  match ungroup? Char.isDigit (splitSign cs).2 with
  | some ds =>
    let n : Int := Text.Decimal.value ds
    some (if (splitSign cs).1 then -n else n)
  | none => none

/-- A number of digits before and after the point, times a power of ten. -/
def fraction? (negative : Bool) (whole places : List Char) (scale : Int) : Option Scalar :=
  match Binary64.ofDecimal negative (Text.Decimal.value (whole ++ places))
      (scale - places.length) with
  | .infinite _ => none
  | x => some (.float x)

/-- A number in decimal after its sign. -/
def ofDecimal? (negative : Bool) (cs : List Char) : Option Scalar := do
  let isMark (c : Char) : Bool := c == '.' || c == 'e' || c == 'E'
  let whole ← ungroup? Char.isDigit (cs.takeWhile fun c => !isMark c)
  if hasLeadingZero whole then none
  else
    match cs.dropWhile fun c => !isMark c with
    | [] =>
      let n : Int := Text.Decimal.value whole
      wordSized? (if negative then -n else n)
    | '.' :: cs =>
      let places ← ungroup? Char.isDigit (cs.takeWhile fun c => !isMark c)
      match cs.dropWhile fun c => !isMark c with
      | [] => fraction? negative whole places 0
      | '.' :: _ => none
      | _ :: cs => do fraction? negative whole places (← exponent? cs)
    | _ :: cs => do fraction? negative whole [] (← exponent? cs)

/-- A number after its sign, the names of the two that are none included. -/
def ofSigned? (negative : Bool) : List Char → Option Scalar
  | ['i', 'n', 'f'] => some (.float (.infinite negative))
  | ['n', 'a', 'n'] => some (.float .nan)
  | cs => ofDecimal? negative cs

/-- The value that a text without quotes spells, all of it. -/
def Scalar.read? (cs : List Char) : Option Scalar :=
  match Moment.read? cs with
  | some m => some (.text m.render)
  | none =>
    match cs with
    | ['t', 'r', 'u', 'e'] => some (.bool true)
    | ['f', 'a', 'l', 's', 'e'] => some (.bool false)
    | '0' :: 'x' :: cs => ofBase? 16 cs
    | '0' :: 'o' :: cs => ofBase? 8 cs
    | '0' :: 'b' :: cs => ofBase? 2 cs
    | cs => ofSigned? (splitSign cs).1 (splitSign cs).2

/-- A character that a value without quotes goes on with. -/
def isScalarChar (c : Char) : Bool :=
  c.isAlphanum || c == '_' || c == '+' || c == '-' || c == '.' || c == ':'

/-- A value without quotes, and what follows it. A single space may stand between a date and a
time. -/
def readScalar? (cs : List Char) : Option (Scalar × List Char) :=
  let word := cs.takeWhile isScalarChar
  let rest := cs.dropWhile isScalarChar
  match Moment.readDate? word, rest with
  | some (_, []), ' ' :: d :: rest' =>
    -- A digit behind the space can only begin the time.
    if d.isDigit then
      (Scalar.read? (word ++ ' ' :: (d :: rest').takeWhile isScalarChar)).map
        (·, (d :: rest').dropWhile isScalarChar)
    else (Scalar.read? word).map (·, rest)
  | _, _ => (Scalar.read? word).map (·, rest)

end Vigil.Toml
