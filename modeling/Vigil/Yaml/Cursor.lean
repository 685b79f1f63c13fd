/-!
# Cursor

A place in a text, with the line and column that layout depends on, and the ways to move on from
it. A line ends with a line feed, a carriage return, or the two together.
-/

namespace Vigil.Yaml

/-- A place in a text. -/
structure Cursor where
  rest : List Char
  line : Nat
  column : Nat
  /-- The number of characters before this place. -/
  index : Nat
  /-- Whether only blanks stand before this place in its line. -/
  fresh : Bool

/-- A space or a tab. -/
def isBlank (c : Char) : Bool := c == ' ' || c == '\t'

/-- A character that ends a line. -/
def isBreak (c : Char) : Bool := c == '\n' || c == '\r'

/-- A character with a meaning of its own between brackets. -/
def isFlow (c : Char) : Bool := c == ',' || c == '[' || c == ']' || c == '\x7b' || c == '\x7d'

/-- A character of directive names and tag handles. -/
def isWord (c : Char) : Bool := c.isAlphanum || c == '_' || c == '-'

/-- Whether a text is at its end or goes on with a line end. -/
def endsLine : List Char → Bool
  | [] => true
  | c :: _ => isBreak c

/-- Whether a text is at its end or goes on with a blank or a line end. -/
def endsWord : List Char → Bool
  | [] => true
  | c :: _ => isBlank c || isBreak c

/-- Whether a text goes on with a character between brackets. -/
def startsFlow : List Char → Bool
  | [] => false
  | c :: _ => isFlow c

/-- Whether a text goes on with three times this character and then no more of the word. -/
def startsMark (c : Char) : List Char → Bool
  | x :: y :: z :: rest => x == c && y == c && z == c && endsWord rest
  | _ => false

namespace Cursor

/-- The beginning of a text. -/
def start (cs : List Char) : Cursor := ⟨cs, 0, 0, 0, true⟩

/-- Past a blank. -/
def blank (c : Cursor) : Cursor :=
  { c with rest := c.rest.tail, column := c.column + 1, index := c.index + 1 }

/-- Past a character that is no blank. -/
def skip (c : Cursor) : Cursor := { c.blank with fresh := false }

/-- Past some characters that are no blanks. -/
def skipMany (n : Nat) (c : Cursor) : Cursor :=
  { c with
    rest := c.rest.drop n
    column := c.column + n
    index := c.index + n
    fresh := c.fresh && n == 0 }

/-- Past a line end. -/
def newline (c : Cursor) : Cursor :=
  match c.rest with
  | '\r' :: '\n' :: rest => ⟨rest, c.line + 1, 0, c.index + 2, true⟩
  | _ => ⟨c.rest.tail, c.line + 1, 0, c.index + 1, true⟩

/-- Past the characters with a property, none of them a line end, and those characters. -/
def takeWhile (p : Char → Bool) (c : Cursor) : List Char × Cursor :=
  let run := c.rest.takeWhile p
  (run, skipMany run.length c)

/-- Past all spaces and, if asked, tabs. -/
def blanks (tabs : Bool) (c : Cursor) : Cursor :=
  let n := (c.rest.takeWhile fun x => x == ' ' || (tabs && x == '\t')).length
  { c with rest := c.rest.drop n, column := c.column + n, index := c.index + n }

/-- Past the rest of the line but its end. -/
def toLineEnd (c : Cursor) : Cursor := (c.takeWhile fun x => !isBreak x).2

/-- Whether a mark between documents stands here. -/
def atDocumentMark (c : Cursor) : Bool :=
  c.column == 0 && (startsMark '-' c.rest || startsMark '.' c.rest)

/-- What was found before the end of a line. -/
structure Margin where
  tabs : Bool
  spaces : Bool

/-- Past the blanks and the comment before the end of a line. A comment must be set apart by a
blank. -/
def margin? (tabs : Bool) (c : Cursor) : Option (Margin × Cursor) :=
  let found := c.rest.takeWhile fun x => x == ' ' || (tabs && x == '\t')
  let margin : Margin := ⟨found.elem '\t', found.elem ' '⟩
  let c := c.blanks tabs
  match c.rest with
  | '#' :: _ => if found = [] then none else some (margin, c.toLineEnd)
  | _ => some (margin, c)

end Cursor

end Vigil.Yaml
