import Vigil.Text.Hex
import Vigil.Yaml.Cursor

/-!
# Scalars

The texts of scalars: plain ones, quoted ones, and blocks of lines. In the first two a single
line end counts as a space and each further one as a line end; a block keeps or folds its lines
as its header says.
-/

namespace Vigil.Yaml

/-- A line end inside a text, however it is written. -/
def lineFeeds (n : Nat) : List Char := List.replicate n '\n'

/-- What stands for some line ends in a row. -/
def fold : (breaks : Nat) → List Char
  | 0 => []
  | 1 => [' ']
  | n + 1 => lineFeeds n

/-! ## Plain scalars -/

namespace Plain

/-- Whether a plain scalar can go on with the character here. -/
def goesOn (inFlow : Bool) : List Char → Bool
  | [] => false
  | ':' :: rest => !(endsWord rest || (inFlow && startsFlow rest))
  | c :: _ => !(isBlank c || isBreak c) && !(inFlow && isFlow c)

/-- Past the characters of a plain scalar up to a blank or its end, and those characters, the last
one first. -/
def run (inFlow : Bool) : (fuel : Nat) → List Char → Cursor → List Char × Cursor
  | 0, acc, c => (acc, c)
  | fuel + 1, acc, c =>
    match c.rest with
    | x :: _ => if goesOn inFlow c.rest then run inFlow fuel (x :: acc) c.skip else (acc, c)
    | [] => (acc, c)

/-- Past blanks and line ends, and what stands for them. Behind a line end a tab may not be part
of the indentation. -/
def gap? (indent : Int) : (fuel : Nat) → (spaces : List Char) → (breaks : Nat) → Cursor →
    Option (List Char × Cursor)
  | 0, _, _, _ => none
  | fuel + 1, spaces, breaks, c =>
    match c.rest with
    | x :: _ =>
      if isBlank x then
        if !c.fresh then gap? indent fuel (x :: spaces) breaks c.blank
        else if x == '\t' && c.column < indent then
          match c.margin? true with
          | some (_, c) => if endsLine c.rest then gap? indent fuel spaces breaks c else none
          | none => none
        else gap? indent fuel spaces breaks c.blank
      else if isBreak x then gap? indent fuel [] (breaks + 1) c.newline
      else some (if breaks = 0 then spaces.reverse else fold breaks, c)
    | [] => some (if breaks = 0 then spaces.reverse else fold breaks, c)

/-- Past a plain scalar, and its text, the last character first; `gap` stands before the next
character. -/
def text? (inFlow : Bool) (indent : Int) : (fuel : Nat) → (gap acc : List Char) → Cursor →
    Option (List Char × Cursor)
  | 0, _, _, _ => none
  | fuel + 1, gap, acc, c =>
    if c.atDocumentMark then some (acc, c)
    else
      match c.rest with
      | '#' :: _ => some (acc, c)
      | '-' :: rest =>
        -- Between brackets a dash may not stand alone in front of a bracket or a comma.
        if inFlow && startsFlow rest then none else more fuel gap acc c
      | _ => more fuel gap acc c
where
  /-- Past what is left of a plain scalar that does not end here. -/
  more (fuel : Nat) (gap acc : List Char) (c : Cursor) : Option (List Char × Cursor) :=
    let (text, c') := run inFlow c.rest.length [] c
    let acc := if text = [] then acc else text ++ gap.reverse ++ acc
    match c'.rest with
    | x :: _ =>
      if isBlank x || isBreak x then
        match gap? indent c'.rest.length.succ [] 0 c' with
        | some (gap, c'') =>
          if !inFlow && c''.column < indent then some (acc, c'')
          else text? inFlow indent fuel gap acc c''
        | none => none
      else some (acc, c')
    | [] => some (acc, c')

end Plain

/-! ## Quoted scalars -/

namespace Quoted

/-- What the escape after a backslash stands for and its length, the backslash left out. -/
def escape? : List Char → Option (Char × Nat)
  | '0' :: _ => some ('\x00', 1)
  | 'a' :: _ => some ('\x07', 1)
  | 'b' :: _ => some ('\x08', 1)
  | 't' :: _ => some ('\t', 1)
  | '\t' :: _ => some ('\t', 1)
  | 'n' :: _ => some ('\n', 1)
  | 'v' :: _ => some ('\x0b', 1)
  | 'f' :: _ => some ('\x0c', 1)
  | 'r' :: _ => some ('\r', 1)
  | 'e' :: _ => some ('\x1b', 1)
  | ' ' :: _ => some (' ', 1)
  | '"' :: _ => some ('"', 1)
  | '/' :: _ => some ('/', 1)
  | '\\' :: _ => some ('\\', 1)
  | 'N' :: _ => some ('\u0085', 1)
  | '_' :: _ => some ('\u00a0', 1)
  | 'L' :: _ => some ('\u2028', 1)
  | 'P' :: _ => some ('\u2029', 1)
  | 'x' :: rest => (Text.readCode? 2 rest).map fun r => (r.1, 3)
  | 'u' :: rest => (Text.readCode? 4 rest).map fun r => (r.1, 5)
  | 'U' :: rest => (Text.readCode? 8 rest).map fun r => (r.1, 9)
  | _ => none

/-- Past the characters up to a blank, a line end or the closing quote, and those characters, the
last one first. The flag says that an escaped line end was passed last. -/
def run? (single : Bool) : (fuel : Nat) → (acc : List Char) → Cursor →
    Option (Bool × List Char × Cursor)
  | 0, _, _ => none
  | fuel + 1, acc, c =>
    match c.rest with
    | [] => some (false, acc, c)
    | '\'' :: '\'' :: _ =>
      if single then run? single fuel ('\'' :: acc) (c.skipMany 2)
      else run? single fuel ('\'' :: acc) c.skip
    | '\\' :: rest =>
      if single then run? single fuel ('\\' :: acc) c.skip
      else if rest ≠ [] && endsLine rest then some (true, acc, c.skip.newline)
      else
        match escape? rest with
        | some (x, n) => run? single fuel (x :: acc) (c.skipMany (n + 1))
        | none => none
    | x :: _ =>
      if isBlank x || isBreak x || x == (if single then '\'' else '"') then some (false, acc, c)
      else run? single fuel (x :: acc) c.skip

/-- Past blanks and line ends, and what stands for them. After a line end, be it escaped, blanks
count for nothing. -/
def gap? (indent : Int) : (fuel : Nat) → (escaped : Bool) → (spaces : List Char) →
    (breaks : Nat) → Cursor → Option (List Char × Cursor)
  | 0, _, _, _, _ => none
  | fuel + 1, escaped, spaces, breaks, c =>
    let passed := some (if escaped then lineFeeds breaks
      else if breaks = 0 then spaces.reverse else fold breaks, c)
    match c.rest with
    | x :: _ =>
      if isBlank x then
        if !escaped && breaks = 0 then gap? indent fuel escaped (x :: spaces) breaks c.blank
        else if x == '\t' && c.column < indent then none
        else gap? indent fuel escaped spaces breaks c.blank
      else if isBreak x then gap? indent fuel escaped [] (breaks + 1) c.newline
      else passed
    | [] => passed

/-- Past a quoted scalar and its closing quote, and its text, the last character first. -/
def text? (single : Bool) (indent : Int) : (fuel : Nat) → (acc : List Char) → Cursor →
    Option (List Char × Cursor)
  | 0, _, _ => none
  | fuel + 1, acc, c =>
    if c.atDocumentMark || c.rest.isEmpty || c.column < indent then none
    else
      match run? single c.rest.length.succ acc c with
      | none => none
      | some (escaped, acc, c) =>
        if c.rest.head? = some (if single then '\'' else '"') then some (acc, c.skip)
        else
          match gap? indent c.rest.length.succ escaped [] 0 c with
          | some (gap, c) => text? single indent fuel (gap.reverse ++ acc) c
          | none => none

end Quoted

/-! ## Block scalars -/

namespace Block

/-- What becomes of the line ends behind the last line. -/
inductive Chomping
  | clip
  | strip
  | keep
  deriving DecidableEq

/-- What the header of a block says. -/
structure Header where
  chomping : Chomping
  /-- How much deeper than its parent the block is indented; zero if its first line tells. -/
  increment : Nat

/-- How a block ends. -/
def chomping? : List Char → Option Chomping
  | '+' :: _ => some .keep
  | '-' :: _ => some .strip
  | _ => none

/-- Past the digit for the indentation, if there is one; zero is none. -/
def increment? (c : Cursor) : Option (Nat × Cursor) :=
  match c.rest with
  | x :: _ =>
    if x.isDigit then
      if x == '0' then none else some (x.toNat - '0'.toNat, c.skip)
    else some (0, c)
  | [] => some (0, c)

/-- Past the two indicators of a header, in either order. -/
def header? (c : Cursor) : Option (Header × Cursor) :=
  match chomping? c.rest with
  | some chomping => (increment? c.skip).map fun r => (⟨chomping, r.1⟩, r.2)
  | none =>
    match increment? c with
    | none => none
    | some (0, c) => some (⟨.clip, 0⟩, c)
    | some (n, c) =>
      match chomping? c.rest with
      | some chomping => some (⟨chomping, n⟩, c.skip)
      | none => some (⟨.clip, n⟩, c)

/-- Past the spaces in front of a column. -/
def indentTo (indent : Nat) (c : Cursor) : Cursor :=
  let n := min (c.rest.takeWhile (· == ' ')).length (indent - c.column)
  { c with rest := c.rest.drop n, column := c.column + n, index := c.index + n }

/-- Past empty lines and the indentation of the next one, and the number of those lines. -/
def emptyLines (indent : Nat) : (fuel breaks : Nat) → Cursor → Nat × Cursor
  | 0, breaks, c => (breaks, c)
  | fuel + 1, breaks, c =>
    let c := indentTo indent c
    match c.rest with
    | x :: _ => if isBreak x then emptyLines indent fuel (breaks + 1) c.newline else (breaks, c)
    | [] => (breaks, c)

/-- Past empty lines and the indentation of the first line, the number of those lines and the
deepest column reached. -/
def firstLine : (fuel deepest breaks : Nat) → Cursor → Nat × Nat × Cursor
  | 0, deepest, breaks, c => (deepest, breaks, c)
  | fuel + 1, deepest, breaks, c =>
    let c := c.blanks false
    let deepest := max deepest c.column
    match c.rest with
    | x :: _ =>
      if isBreak x then firstLine fuel deepest (breaks + 1) c.newline else (deepest, breaks, c)
    | [] => (deepest, breaks, c)

/-- A block being read: its text, the last character first, and what stands between its last
line and the next one. -/
structure State where
  text : List Char
  /-- Whether a line end follows the last line. -/
  ended : Bool
  /-- The number of empty lines behind it. -/
  breaks : Nat
  /-- Whether the last line starts with a blank. -/
  blank : Bool

/-- What stands between two lines. Folding joins lines that do not start with a blank. -/
def State.joint (s : State) (literal blank : Bool) : List Char :=
  if !literal && s.ended && !s.blank && !blank then
    if s.breaks = 0 then [' '] else lineFeeds s.breaks
  else lineFeeds ((if s.ended then 1 else 0) + s.breaks)

/-- Past the lines of a block, and its text so far. -/
def lines (literal : Bool) (indent : Nat) : (fuel : Nat) → State → Cursor → State × Cursor
  | 0, s, c => (s, c)
  | fuel + 1, s, c =>
    match c.rest with
    | [] => (s, c)
    | x :: _ =>
      if c.column ≠ indent || (indent == 0 && startsMark '.' c.rest) then (s, c)
      else
        let (content, c) := c.takeWhile fun x => !isBreak x
        let text := content.reverse ++ s.joint literal (isBlank x) ++ s.text
        match c.rest with
        | [] => (⟨text, false, 0, isBlank x⟩, c)
        | _ :: _ =>
          let (breaks, c) := emptyLines indent c.rest.length.succ 0 c.newline
          lines literal indent fuel ⟨text, true, breaks, isBlank x⟩ c

/-- Past a block scalar whose first indicator has been passed, and its text. `parent` is the
indentation around it. -/
def text? (literal : Bool) (parent : Int) (first : Cursor) : Option (List Char × Cursor) := do
  let (header, c) ← header? first
  let (_, c) ← c.margin? true
  if !endsLine c.rest then none
  else
    let broken := !c.rest.isEmpty
    let c := if broken then c.newline else c
    if c.rest.head? = some '\t' then none
    else
      let (indent, breaks, c) :=
        if header.increment = 0 then
          let (deepest, breaks, c) := firstLine c.rest.length.succ 0 0 c
          (max deepest (parent + 1).toNat, breaks, c)
        else
          let indent := (max parent 0).toNat + header.increment
          let (breaks, c) := emptyLines indent c.rest.length.succ 0 c
          (indent, breaks, c)
      -- No line has content: what is left are line ends.
      if c.rest.isEmpty then
        let text := match header.chomping with
          | .strip => []
          | _ =>
            if c.line = first.line then []
            else if header.chomping = .clip || breaks = 0 then lineFeeds (if broken then 1 else 0)
            else lineFeeds breaks
        some (text, c)
      else if c.column < indent && parent < c.column then none
      else
        let (s, c) := lines literal indent c.rest.length.succ ⟨[], false, breaks, false⟩ c
        -- A last line of blanks alone counts for one more line end.
        let last :=
          if header.chomping = .strip then []
          else lineFeeds ((if s.ended then 1 else 0) +
            (if c.rest.isEmpty && max indent 1 ≤ c.column then 1 else 0))
        let trailing := if header.chomping = .keep then lineFeeds s.breaks else []
        some (s.text.reverse ++ last ++ trailing, c)

end Block

end Vigil.Yaml
