import Vigil.Source.Token
import Vigil.Text.Blank
import Vigil.Text.Quoted

/-!
# Reading tokens

From characters to tokens. Blanks and comments separate tokens and leave no trace, except for
comments that document something: those stand for an attribute with their text.

* `skipBlanks`: a text without the blanks and comments in front.
* `readNote?`: a documenting comment, as the tokens it stands for.
* `readLeaf?`: a single token that is no group.
* `tokens?`: all tokens of a text whose delimiters balance.
-/

namespace Vigil.Source

open Literal (startsHashes)

/-! ## Blanks and comments -/

/-- A character that only separates tokens; the two marks of direction are among them. -/
def isGap (c : Char) : Bool := Text.isBlank c || c == '\u200e' || c == '\u200f'

/-- The rest of a line, without the break that ends it, and the text from there on. -/
def splitLine : List Char → List Char × List Char
  | [] => ([], [])
  | '\n' :: rest => ([], '\n' :: rest)
  | '\r' :: '\n' :: rest => ([], '\n' :: rest)
  | c :: rest => (c :: (splitLine rest).1, (splitLine rest).2)

/-- What a comment between slashes and stars holds up to where it closes, and the text behind;
`depth` more comments are open inside of it. -/
def splitComment? : (depth : Nat) → List Char → Option (List Char × List Char)
  | _, [] => none
  | depth, '/' :: '*' :: rest =>
    (splitComment? (depth + 1) rest).map fun r => ('/' :: '*' :: r.1, r.2)
  | 0, '*' :: '/' :: rest => some ([], rest)
  | depth + 1, '*' :: '/' :: rest =>
    (splitComment? depth rest).map fun r => ('*' :: '/' :: r.1, r.2)
  | depth, c :: rest => (splitComment? depth rest).map fun r => (c :: r.1, r.2)

/-- Whether a comment that documents something starts here, inside or in front of it. -/
def startsNote : List Char → Bool
  | '/' :: '/' :: '/' :: '/' :: _ => false
  | '/' :: '/' :: '/' :: _ => true
  | '/' :: '/' :: '!' :: _ => true
  | '/' :: '*' :: '*' :: '*' :: _ => false
  | '/' :: '*' :: '*' :: '/' :: _ => false
  | '/' :: '*' :: '*' :: _ => true
  | '/' :: '*' :: '!' :: _ => true
  | _ => false

/-- The text behind one blank or one comment, if it starts with either. -/
def skipGap? (cs : List Char) : Option (List Char) :=
  if startsNote cs then none
  else
    match cs with
    | '/' :: '/' :: rest => some (splitLine rest).2
    | '/' :: '*' :: rest => (splitComment? 0 rest).map (·.2)
    | c :: rest => if isGap c then some rest else none
    | [] => none

/-- A text without the blanks and comments in front. -/
def skipGaps : (fuel : Nat) → List Char → List Char
  | 0, cs => cs
  | fuel + 1, cs =>
    match skipGap? cs with
    | some rest => skipGaps fuel rest
    | none => cs

/-- Whether every carriage return is followed by a line feed. -/
def breaksWhole : List Char → Bool
  | '\r' :: '\n' :: rest => breaksWhole rest
  | '\r' :: _ => false
  | _ :: rest => breaksWhole rest
  | [] => true

/-- The attribute that a documenting comment stands for; `inside` if it documents what it stands
in. -/
def note (inside : Bool) (text : List Char) : List Token :=
  let text := String.ofList text
  [Token.sign '#'] ++ (if inside then [Token.sign '!'] else [])
    ++ [.group .bracket
        [.word "doc", Token.sign '=', .literal ⟨Text.Quoted.literal text, .text text⟩]]

/-- A documenting comment as tokens, and what follows it. -/
def readNote? (cs : List Char) : Option (List Token × List Char) :=
  if startsNote cs then
    let inside := cs[2]? == some '!'
    let body : Option (List Char × List Char) := match cs with
      | '/' :: '/' :: _ => some (splitLine (cs.drop 3))
      | _ => (splitComment? 0 (cs.drop 2)).map fun r => (r.1.drop 1, r.2)
    match body with
    | some (text, rest) => if breaksWhole text then some (note inside text, rest) else none
    | none => none
  else none

/-! ## Single tokens -/

/-- The punctuation characters. -/
def marks : List Char := "~!@#$%^&*-=+|;:,<.>/?'".toList

/-- Whether a punctuation character starts the text, one that opens no comment. -/
def startsMark : List Char → Bool
  | '/' :: '/' :: _ => false
  | '/' :: '*' :: _ => false
  | c :: _ => marks.contains c
  | [] => false

/-- The beginnings of a literal that no word may have. -/
def literalStarts : List String :=
  ["r\"", "r#\"", "r##", "b\"", "b'", "br\"", "br#", "c\"", "cr\"", "cr#"]

/-- The words that cannot be raw names. -/
def neverRaw : List String := ["_", "super", "self", "Self", "crate"]

/-- A name, raw or not, and what follows it. -/
def readName? (cs : List Char) : Option (String × List Char) :=
  match cs with
  | 'r' :: '#' :: rest =>
    let (name, rest) := Literal.splitSuffix rest
    if name = [] || neverRaw.contains (String.ofList name) then none
    else some (String.ofList ('r' :: '#' :: name), rest)
  | cs =>
    let (name, rest) := Literal.splitSuffix cs
    if name = [] then none else some (String.ofList name, rest)

/-- A name that is not the beginning of a literal, and what follows it. -/
def readWord? (cs : List Char) : Option (String × List Char) :=
  if literalStarts.any fun start => start.toList.isPrefixOf cs then none else readName? cs

/-- Whether a single quote may stand in front of this text: a name comes next that no further
quote and no hash mark closes. -/
def admitsQuote (cs : List Char) : Bool :=
  match readName? cs with
  | some (_, '\'' :: _) => false
  | some (_, '#' :: _) => ['r', '#'].isPrefixOf cs
  | some _ => true
  | none => false

/-- What stands for a literal that could not be shown. -/
def lostLiteral : String := "(/*ERROR*/)"

/-- One token that is no group, and what follows it. A literal is tried first, then a mark, then
a word. -/
def readLeaf? (cs : List Char) : Option (Token × List Char) :=
  match Literal.read? cs with
  | some (l, rest) => some (.literal l, rest)
  | none =>
    match cs with
    | '\'' :: rest =>
      if admitsQuote rest then
        match readWord? rest with
        | some (name, rest) => some (.lifetime ("'" ++ name), rest)
        | none => some (.mark '\'' true, rest)
      else none
    | c :: rest =>
      if startsMark cs then some (.mark c (startsMark rest), rest)
      else (readWord? cs).map fun r => (.word r.1, r.2)
    | [] => none

/-! ## All tokens -/

/-- The pair of delimiters that a character opens. -/
def opened? (c : Char) : Option Delimiter :=
  if c = '(' then some .paren else if c = '[' then some .bracket
  else if c = '{' then some .brace else none

/-- The pair of delimiters that a character closes. -/
def closed? (c : Char) : Option Delimiter :=
  if c = ')' then some .paren else if c = ']' then some .bracket
  else if c = '}' then some .brace else none

/-- The tokens of a text, the last one first: those `before` it on its own level, and with each
delimiter `outer` that is still open those in front of it. -/
def collect? : (fuel : Nat) → (outer : List (Delimiter × List Token)) →
    (before : List Token) → List Char → Option (List Token)
  | 0, _, _, _ => none
  | fuel + 1, outer, before, cs =>
    let cs := skipGaps cs.length cs
    match readNote? cs with
    | some (ts, rest) => collect? fuel outer (ts.reverse ++ before) rest
    | none =>
      match cs with
      | [] => if outer.isEmpty then some before else none
      | c :: rest =>
        -- What was printed for a lost literal reads as a literal again.
        if lostLiteral.toList.isPrefixOf cs then
          collect? fuel outer (.literal ⟨lostLiteral, .other⟩ :: before)
            (cs.drop lostLiteral.length)
        else
          match opened? c, closed? c, outer with
          | some d, _, outer => collect? fuel ((d, before) :: outer) [] rest
          | none, some d, (e, front) :: outer =>
            if d = e then collect? fuel outer (.group d before.reverse :: front) rest else none
          | none, some _, [] => none
          | none, none, outer =>
            match readLeaf? cs with
            | some (t, rest) => collect? fuel outer (t :: before) rest
            | none => none

/-- The tokens of a text, if it is made of tokens and its delimiters balance. A mark of byte
order in front does not count. -/
def tokens? (text : String) : Option (List Token) :=
  let cs := match text.toList with
    | '\ufeff' :: cs => cs
    | cs => cs
  (collect? (cs.length + 1) [] [] cs).map List.reverse

end Vigil.Source
