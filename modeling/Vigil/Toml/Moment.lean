import Vigil.Text.Decimal

/-!
# Dates and times

A date, a time of day, or both, the latter with or without a distance from universal time. The
text has one form: `T` between the two, `Z` for universal time itself, no zeros at the end of the
fraction and at most nine digits of it.
-/

namespace Vigil.Toml

/-- A day of the calendar. -/
structure Date where
  year : Nat
  month : Nat
  day : Nat
  deriving DecidableEq

/-- A time of day; seconds may be left out, and so may their fraction, given as its digits. -/
structure TimeOfDay where
  hour : Nat
  minute : Nat
  second : Option Nat
  fraction : Option (List Char)
  deriving DecidableEq

/-- The distance from universal time. -/
inductive Offset
  | universal
  | minutes (n : Int)
  deriving DecidableEq

/-- A date, a time, or both. -/
inductive Moment
  | date (d : Date)
  | time (t : TimeOfDay)
  | both (d : Date) (t : TimeOfDay) (offset : Option Offset)
  deriving DecidableEq

namespace Moment

/-- A number of exactly `count` digits, and what follows it. -/
def readDigits? (count : Nat) (cs : List Char) : Option (Nat × List Char) :=
  let ds := cs.take count
  if ds.length = count ∧ ds.all Char.isDigit then some (Text.Decimal.value ds, cs.drop count)
  else none

/-- The number of days in a month. -/
def daysIn (year month : Nat) : Nat :=
  if month = 2 then
    if year % 4 = 0 ∧ (year % 100 ≠ 0 ∨ year % 400 = 0) then 29 else 28
  else if month = 4 ∨ month = 6 ∨ month = 9 ∨ month = 11 then 30
  else 31

/-- A date, and what follows it. -/
def readDate? (cs : List Char) : Option (Date × List Char) := do
  let (year, cs) ← readDigits? 4 cs
  let '-' :: cs := cs | none
  let (month, cs) ← readDigits? 2 cs
  let '-' :: cs := cs | none
  let (day, cs) ← readDigits? 2 cs
  if 1 ≤ month ∧ month ≤ 12 ∧ 1 ≤ day ∧ day ≤ daysIn year month then
    some (⟨year, month, day⟩, cs)
  else none

/-- The fraction after the seconds, if there is one, and what follows it. -/
def readFraction? : List Char → Option (Option (List Char) × List Char)
  | '.' :: cs =>
    match cs.takeWhile Char.isDigit with
    | [] => none
    | ds => some (some ds, cs.dropWhile Char.isDigit)
  | cs => some (none, cs)

/-- A time of day, and what follows it; a minute may have a sixty-first second. -/
def readTime? (cs : List Char) : Option (TimeOfDay × List Char) := do
  let (hour, cs) ← readDigits? 2 cs
  let ':' :: cs := cs | none
  let (minute, cs) ← readDigits? 2 cs
  if 23 < hour ∨ 59 < minute then none
  else
    match cs with
    | ':' :: cs =>
      let (second, cs) ← readDigits? 2 cs
      let (fraction, cs) ← readFraction? cs
      if 60 < second then none else some (⟨hour, minute, some second, fraction⟩, cs)
    | cs => some (⟨hour, minute, none, none⟩, cs)

/-- A signed distance from universal time that is all of a text. -/
def readDistance? (sign : Int) (cs : List Char) : Option (Option Offset) := do
  let (hours, cs) ← readDigits? 2 cs
  let ':' :: cs := cs | none
  let (minutes, cs) ← readDigits? 2 cs
  if cs = [] ∧ hours ≤ 23 ∧ minutes ≤ 59 then
    some (some (.minutes (sign * (60 * hours + minutes))))
  else none

/-- The distance from universal time that is all of a text, if any is given. -/
def readOffset? : List Char → Option (Option Offset)
  | [] => some none
  | ['Z'] => some (some .universal)
  | ['z'] => some (some .universal)
  | '+' :: cs => readDistance? 1 cs
  | '-' :: cs => readDistance? (-1) cs
  | _ => none

/-- The moment that a text spells, all of it. -/
def read? (cs : List Char) : Option Moment :=
  match readDate? cs with
  | some (d, []) => some (.date d)
  | some (d, c :: cs) =>
    if c = 'T' ∨ c = 't' ∨ c = ' ' then do
      let (t, cs) ← readTime? cs
      let offset ← readOffset? cs
      some (.both d t offset)
    else none
  | none =>
    match readTime? cs with
    | some (t, []) => some (.time t)
    | _ => none

/-- A number in decimal, at least `width` digits wide. -/
def padded (width n : Nat) : List Char :=
  let ds := Text.Decimal.digits n
  List.replicate (width - ds.length) '0' ++ ds

/-- The text of a date. -/
def renderDate (d : Date) : List Char :=
  padded 4 d.year ++ '-' :: padded 2 d.month ++ '-' :: padded 2 d.day

/-- The text of a fraction: nine digits at most, without zeros at the end, and never none. -/
def renderFraction : Option (List Char) → List Char
  | none => []
  | some ds =>
    match ((ds.take 9).reverse.dropWhile (· == '0')).reverse with
    | [] => ['.', '0']
    | ds => '.' :: ds

/-- The text of a time of day. -/
def renderTime (t : TimeOfDay) : List Char :=
  padded 2 t.hour ++ ':' :: padded 2 t.minute ++
    (match t.second with
      | some s => ':' :: padded 2 s
      | none => []) ++ renderFraction t.fraction

/-- The text of a distance from universal time. -/
def renderOffset : Option Offset → List Char
  | none => []
  | some .universal => ['Z']
  | some (.minutes n) =>
    (if n < 0 then '-' else '+') :: padded 2 (n.natAbs / 60) ++ ':' :: padded 2 (n.natAbs % 60)

/-- The text of a moment. -/
def render : Moment → String
  | date d => String.ofList (renderDate d)
  | time t => String.ofList (renderTime t)
  | both d t offset => String.ofList (renderDate d ++ 'T' :: renderTime t ++ renderOffset offset)

end Moment

end Vigil.Toml
