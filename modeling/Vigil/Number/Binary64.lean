import Vigil.Text.Decimal

/-!
# Binary floating-point numbers

Numbers of 53 significant bits, read from decimals by rounding to the nearest (a half goes to
the even neighbour) and written with the fewest digits that read back, always positionally.

* `Binary64.ofDecimal`: the nearest number to `digits * 10 ^ scale`.
* `Binary64.shortest`: the fewest digits inside the rounding interval; of two candidates the
  nearer one, at a tie the larger.
-/

namespace Vigil

/-- A binary floating-point number; a finite one is `mantissa * 2 ^ exponent` with its sign. -/
inductive Binary64
  | nan
  | infinite (negative : Bool)
  | finite (negative : Bool) (mantissa : Nat) (exponent : Int)
  deriving DecidableEq

namespace Binary64

/-- The exponent of the numbers next to zero. -/
def leastExponent : Int := -1074

/-- The exponent of the largest numbers. -/
def greatestExponent : Int := 971

/-- `num * base ^ e / den` as a fraction of natural numbers. -/
def scaled (base num den : Nat) (e : Int) : Nat × Nat :=
  (num * Nat.pow base e.toNat, den * Nat.pow base (-e).toNat)

/-- `num / den` to the nearest natural number, a half to the even one. -/
def nearest (num den : Nat) : Nat :=
  let q := num / den
  let twice := 2 * (num % den)
  if twice < den then q
  else if den < twice then q + 1
  else if q % 2 = 0 then q else q + 1

/-- The exponent at which `num / den`, not zero, has 53 bits before the point, or the least one. -/
def exponentFor (num den : Nat) : Int :=
  let guess : Int := num.log2 - den.log2 - 52
  let (n, d) := scaled 2 num den (-guess)
  max leastExponent (if n / d < Nat.pow 2 52 then guess - 1 else guess)

/-- The number nearest to `num / den`. -/
def ofRatio (negative : Bool) (num den : Nat) : Binary64 :=
  if num = 0 then finite negative 0 leastExponent
  else
    let e := exponentFor num den
    let (n, d) := scaled 2 num den (-e)
    let m := nearest n d
    let (m, e) := if m = Nat.pow 2 53 then (Nat.pow 2 52, e + 1) else (m, e)
    if greatestExponent < e then infinite negative else finite negative m e

/-- The number nearest to `digits * 10 ^ scale`. Scales beyond every number's range are decided
without computing the power. -/
def ofDecimal (negative : Bool) (digits : Nat) (scale : Int) : Binary64 :=
  let magnitude : Int := (Text.Decimal.digits digits).length + scale
  if digits = 0 then finite negative 0 leastExponent
  else if magnitude > 400 then infinite negative
  else if magnitude < -400 then finite negative 0 leastExponent
  else
    let (n, d) := scaled 10 digits 1 scale
    ofRatio negative n d

/-- The decimal exponent of the leading digit of `num / den`, not zero. -/
def leadingExponent (num den : Nat) : Int :=
  let guess : Int := (Text.Decimal.digits num).length - (Text.Decimal.digits den).length
  let (n, d) := scaled 10 num den (-guess)
  if n < d then guess - 1 else guess

/-- A point of the grid `10 ^ scale` that rounds to `mantissa * 2 ^ exponent`, one of the two next
to it, if there is one. All comparisons are in quarters of the last binary place. -/
def onGrid? (mantissa : Nat) (exponent : Int) (scale : Int) : Option Nat :=
  let below := if mantissa = Nat.pow 2 52 && exponent ≠ leastExponent then 1 else 2
  let (u, den) := scaled 2 1 1 (exponent - 2)
  let (unit, den) := scaled 10 u den (-scale)
  let low := (4 * mantissa - below) * unit
  let value := 4 * mantissa * unit
  let high := (4 * mantissa + 2) * unit
  let inside (c : Nat) : Bool :=
    if mantissa % 2 = 0 then low ≤ c * den && c * den ≤ high else low < c * den && c * den < high
  let floor := value / den
  let ceiling := floor + 1
  let floorIn := floor ≠ 0 && inside floor
  let ceilingIn := inside ceiling
  if floorIn && (!ceilingIn || value - floor * den < ceiling * den - value) then some floor
  else if ceilingIn then some ceiling
  else none

/-- The fewest digits that read back as `mantissa * 2 ^ exponent`, not zero, and their scale. The
first grid is the power of ten above the value, and the seventeen digits of the last always
suffice. -/
def shortest (mantissa : Nat) (exponent : Int) : Nat × Int :=
  let (num, den) := scaled 2 mantissa 1 exponent
  let lead := leadingExponent num den
  let found := (List.range 18).findSome? fun (k : Nat) =>
    let scale := lead + 1 - (k : Int)
    (onGrid? mantissa exponent scale).map fun c => (c, scale)
  found.getD (num, 0)

/-- `digits * 10 ^ scale` in positional notation, with a point only before a fraction. -/
def positional (digits : Nat) (scale : Int) : List Char :=
  let ds := Text.Decimal.digits digits
  if 0 ≤ scale then ds ++ List.replicate scale.toNat '0'
  else
    let places := (-scale).toNat
    if ds.length ≤ places then '0' :: '.' :: (List.replicate (places - ds.length) '0' ++ ds)
    else ds.take (ds.length - places) ++ '.' :: ds.drop (ds.length - places)

/-- The digits of a number without its sign. -/
def magnitude (mantissa : Nat) (exponent : Int) : List Char :=
  if mantissa = 0 then ['0']
  else
    let (ds, scale) := shortest mantissa exponent
    positional ds scale

/-- The minus sign of a negative number. -/
def sign (negative : Bool) : List Char := if negative then ['-'] else []

/-- The text of a number: the fewest digits that read back, never an exponent. -/
def render : Binary64 → String
  | nan => "NaN"
  | infinite negative => String.ofList (sign negative) ++ "inf"
  | finite negative m e => String.ofList (sign negative ++ magnitude m e)

/-- The text of a number, a whole one with one place after the point. -/
def renderPointed : Binary64 → String
  | finite negative m e =>
    let ds := magnitude m e
    String.ofList (sign negative ++ if ds.elem '.' then ds else ds ++ ['.', '0'])
  | x => x.render

end Binary64

end Vigil
