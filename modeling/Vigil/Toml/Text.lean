import Vigil.Text.Hex

/-!
# Texts and names

Texts stand between quotes: single ones take what is inside as it is, double ones know escapes,
and three of either kind let the text run over several lines. A name is bare or a text of one
line.

* `readText?`: a text in any of its four forms.
* `readPath?`: names joined by dots.
-/

namespace Vigil.Toml

/-- A character that may stand as it is in a text of one line or in a comment. -/
def isPlain (c : Char) : Bool := c == '\t' || (0x20 ≤ c.toNat && c.toNat ≠ 0x7F)

/-- A blank within a line. -/
def isBlank (c : Char) : Bool := c == ' ' || c == '\t'

/-- A text without the blanks in front. -/
def skipBlanks (cs : List Char) : List Char := cs.dropWhile isBlank

/-- What the escape after a backslash stands for, and the text behind it. -/
def readEscape? : List Char → Option (Char × List Char)
  | 'b' :: rest => some ('\x08', rest)
  | 't' :: rest => some ('\t', rest)
  | 'n' :: rest => some ('\n', rest)
  | 'f' :: rest => some ('\x0c', rest)
  | 'r' :: rest => some ('\r', rest)
  | 'e' :: rest => some ('\x1b', rest)
  | '"' :: rest => some ('"', rest)
  | '\\' :: rest => some ('\\', rest)
  | 'x' :: rest => Text.readCode? 2 rest
  | 'u' :: rest => Text.readCode? 4 rest
  | 'U' :: rest => Text.readCode? 8 rest
  | _ => none

theorem length_readEscape? {cs : List Char} {r : Char × List Char} (h : readEscape? cs = some r) :
    r.2.length ≤ cs.length := by
  unfold readEscape? at h
  split at h
  all_goals first
    | exact Nat.le_succ_of_le (Text.length_readCode? h)
    | (simp only [Option.some.injEq] at h; subst h; exact Nat.le_succ _)
    | simp at h

/-- A text of one line after its opening double quote, and what follows the closing one. -/
def readBasic? : List Char → Option (List Char × List Char)
  | [] => none
  | '"' :: rest => some ([], rest)
  | '\\' :: rest =>
    match h : readEscape? rest with
    | some (c, rest') =>
      have : rest'.length ≤ rest.length := length_readEscape? h
      (readBasic? rest').map fun r => (c :: r.1, r.2)
    | none => none
  | c :: rest => if isPlain c then (readBasic? rest).map fun r => (c :: r.1, r.2) else none
  termination_by cs => cs.length
  decreasing_by all_goals simp only [List.length_cons]; omega

/-- A text of one line after its opening single quote, and what follows the closing one. -/
def readLiteral? : List Char → Option (List Char × List Char)
  | [] => none
  | c :: rest =>
    if c = '\'' then some ([], rest)
    else if isPlain c then (readLiteral? rest).map fun r => (c :: r.1, r.2)
    else none

/-- A text without the blanks and line ends in front. -/
def skipLines : List Char → List Char
  | ' ' :: rest => skipLines rest
  | '\t' :: rest => skipLines rest
  | '\n' :: rest => skipLines rest
  | '\r' :: '\n' :: rest => skipLines rest
  | cs => cs

theorem length_skipLines (cs : List Char) : (skipLines cs).length ≤ cs.length := by
  fun_induction skipLines cs with
  | case1 rest ih => exact Nat.le_succ_of_le ih
  | case2 rest ih => exact Nat.le_succ_of_le ih
  | case3 rest ih => exact Nat.le_succ_of_le ih
  | case4 rest ih => exact Nat.le_succ_of_le (Nat.le_succ_of_le ih)
  | case5 cs => exact Nat.le_refl _

/-- A text without the line end in front, if there is one. -/
def skipLineEnd : List Char → List Char
  | '\n' :: rest => rest
  | '\r' :: '\n' :: rest => rest
  | cs => cs

/-- Whether a line ends here. -/
def atLineEnd : List Char → Bool
  | '\n' :: _ => true
  | '\r' :: '\n' :: _ => true
  | _ => false

/-- What follows three closing quotes: up to two more belong to the text. -/
def closing (quote : Char) : List Char → List Char × List Char
  | c :: d :: rest =>
    if c = quote then if d = quote then ([quote, quote], rest) else ([quote], d :: rest)
    else ([], c :: d :: rest)
  | [c] => if c = quote then ([quote], []) else ([], [c])
  | [] => ([], [])

/-- A text of several lines after its three opening double quotes, and what follows the closing
ones. A backslash at the end of a line joins it to the next text, however many blank lines away. -/
def readLongBasic? : List Char → Option (List Char × List Char)
  | [] => none
  | '"' :: '"' :: '"' :: rest => some (closing '"' rest)
  | '\\' :: rest =>
    if atLineEnd (skipBlanks rest) then
      have := length_skipLines rest
      readLongBasic? (skipLines rest)
    else
      match h : readEscape? rest with
      | some (c, rest') =>
        have : rest'.length ≤ rest.length := length_readEscape? h
        (readLongBasic? rest').map fun r => (c :: r.1, r.2)
      | none => none
  | '\r' :: '\n' :: rest => (readLongBasic? rest).map fun r => ('\r' :: '\n' :: r.1, r.2)
  | c :: rest =>
    if isPlain c || c == '\n' then (readLongBasic? rest).map fun r => (c :: r.1, r.2) else none
  termination_by cs => cs.length
  decreasing_by all_goals simp only [List.length_cons]; omega

/-- A text of several lines after its three opening single quotes, and what follows the closing
ones. -/
def readLongLiteral? : List Char → Option (List Char × List Char)
  | [] => none
  | '\'' :: '\'' :: '\'' :: rest => some (closing '\'' rest)
  | '\r' :: '\n' :: rest => (readLongLiteral? rest).map fun r => ('\r' :: '\n' :: r.1, r.2)
  | c :: rest =>
    if isPlain c || c == '\n' then (readLongLiteral? rest).map fun r => (c :: r.1, r.2) else none

/-- A text in any form, and what follows it. -/
def readText? : List Char → Option (List Char × List Char)
  | '"' :: '"' :: '"' :: rest => readLongBasic? (skipLineEnd rest)
  | '"' :: rest => readBasic? rest
  | '\'' :: '\'' :: '\'' :: rest => readLongLiteral? (skipLineEnd rest)
  | '\'' :: rest => readLiteral? rest
  | _ => none

/-- A character of a bare name. -/
def isNameChar (c : Char) : Bool := c.isAlphanum || c == '_' || c == '-'

/-- One name, bare or quoted, and what follows it. -/
def readName? : List Char → Option (String × List Char)
  | '"' :: rest => (readBasic? rest).map fun r => (String.ofList r.1, r.2)
  | '\'' :: rest => (readLiteral? rest).map fun r => (String.ofList r.1, r.2)
  | cs =>
    match cs.takeWhile isNameChar with
    | [] => none
    | name => some (String.ofList name, cs.dropWhile isNameChar)

/-- Names joined by dots, blanks around the dots allowed, and what follows them. -/
def readPath? : (fuel : Nat) → List Char → Option (List String × List Char)
  | 0, _ => none
  | fuel + 1, cs =>
    match readName? cs with
    | none => none
    | some (name, rest) =>
      match skipBlanks rest with
      | '.' :: rest => (readPath? fuel (skipBlanks rest)).map fun r => (name :: r.1, r.2)
      | rest => some ([name], rest)

end Vigil.Toml
