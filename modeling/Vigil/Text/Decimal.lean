/-!
# Decimal numerals

Natural numbers and integers as runs of decimal digits, in both directions.
-/

namespace Vigil.Text.Decimal

/-- The number a digit stands for; other characters count as they fall. -/
def digit (c : Char) : Nat := c.toNat - '0'.toNat

/-- The value of a run of digits, most significant first. -/
def value (cs : List Char) : Nat := cs.foldl (fun n c => 10 * n + digit c) 0

/-- The shortest run of digits with this value. -/
def digits (n : Nat) : List Char := Nat.toDigits 10 n

theorem isDigit_of_mem_digits {n : Nat} {c : Char} (h : c ∈ digits n) : c.isDigit = true :=
  Nat.isDigit_of_mem_toDigits (by decide) (by decide) h

/-- A natural number in decimal. -/
def natural (n : Nat) : String := String.ofList (digits n)

/-- An integer in decimal, with a minus sign below zero. -/
def integer : Int → String
  | .ofNat n => natural n
  | .negSucc n => "-" ++ natural (n + 1)

end Vigil.Text.Decimal
