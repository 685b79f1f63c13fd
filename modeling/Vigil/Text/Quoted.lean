import Vigil.Text.Printable
import Vigil.Text.Decimal

/-!
# Quoted text

Text between double quotes, as diagnostics show it and as a string literal spells it. Quotes and
backslashes are escaped, so are the usual control characters by their letters, and whatever
cannot be shown by itself is written by its code point.
-/

namespace Vigil.Text.Quoted

/-- A number in lower-case hexadecimal digits. -/
def hex (n : Nat) : List Char := Nat.toDigits 16 n

/-- A character by its code point. -/
def codePoint (c : Char) : List Char := ['\\', 'u', '{'] ++ hex c.toNat ++ ['}']

/-- A character as it stands between double quotes. A single quote needs no escape there. -/
def escape (c : Char) : List Char :=
  if c = '\x00' then ['\\', '0']
  else if c = '\t' then ['\\', 't']
  else if c = '\n' then ['\\', 'n']
  else if c = '\r' then ['\\', 'r']
  else if c = '"' then ['\\', '"']
  else if c = '\\' then ['\\', '\\']
  else if isPrintable c && !isExtending c then [c]
  else codePoint c

/-- A text in double quotes, as diagnostics show it. -/
def display (s : String) : String := "\"" ++ String.ofList (s.toList.flatMap escape) ++ "\""

/-- A text as it stands in a string literal. A zero character in front of an octal digit is
written by its code, so that it cannot be taken for an octal escape. -/
def literalBody : List Char → List Char
  | [] => []
  | '\x00' :: c :: rest =>
    (if '0' ≤ c ∧ c ≤ '7' then ['\\', 'x', '0', '0'] else ['\\', '0']) ++ literalBody (c :: rest)
  | c :: rest => escape c ++ literalBody rest

/-- The string literal that stands for a text. -/
def literal (s : String) : String := "\"" ++ String.ofList (literalBody s.toList) ++ "\""

end Vigil.Text.Quoted
