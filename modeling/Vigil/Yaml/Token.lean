import Vigil.Yaml.Scalar

/-!
# Tokens

The tokens of a text. Layout becomes tokens too: a deeper column opens a block, a shallower one
closes it. Whether something is the key of a mapping shows only at the colon behind it, so every
place where a key may begin is remembered as a candidate until then, and the tokens for the key
and its mapping are put in front of it afterwards.

* `Token.scan?`: all tokens of a text.
-/

namespace Vigil.Yaml

/-- A piece of a text with a meaning. -/
inductive Token
  | version
  | handle (name meaning : String)
  | documentStart
  | documentEnd
  | blockSequence
  | blockMapping
  | blockEnd
  | flowSequence
  | flowSequenceEnd
  | flowMapping
  | flowMappingEnd
  | blockEntry
  | flowEntry
  | key
  | value
  | reference (name : String)
  | anchor (name : String)
  | tag (handle rest : String)
  | scalar (plain : Bool) (text : String)
  deriving DecidableEq

/-- A place where a key may have begun. -/
structure Candidate where
  /-- The number of tokens before it. -/
  place : Nat
  line : Nat
  column : Nat
  index : Nat
  /-- Whether nothing but a key may stand there. -/
  required : Bool

/-- A column that ends with its block. -/
structure Level where
  /-- The indentation around it. -/
  outer : Int
  /-- Whether a token closes it; without one it only asks for a deeper column. -/
  isBlock : Bool

/-- Brackets that are open. -/
inductive Flow
  | sequence
  | mapping
  deriving DecidableEq

/-- The state of reading tokens. -/
structure Scanner where
  cursor : Cursor
  tokens : Array Token
  /-- The column of the last token, if it is an anchor or a tag. -/
  propertyColumn : Option Nat
  /-- Whether a key may begin here. -/
  keyAllowed : Bool
  /-- The candidate inside the innermost brackets. -/
  candidate : Option Candidate
  /-- The open brackets, the innermost first, each with the candidate around it. -/
  flows : List (Flow × Option Candidate)
  /-- The column of the innermost block. -/
  indent : Int
  levels : List Level
  /-- Where a colon needs no blank behind it, since a quoted text or a bracket ended there. -/
  adjacent : Option Nat

namespace Scanner

/-- Before the first token. -/
def start (cs : List Char) : Scanner :=
  ⟨.start cs, #[], none, true, none, [], -1, [], none⟩

/-- Whether a bracket is open. -/
def inFlow (s : Scanner) : Bool := !s.flows.isEmpty

/-- One more token. -/
def push (t : Token) (s : Scanner) : Scanner :=
  { s with tokens := s.tokens.push t, propertyColumn := none }

/-- A token put in front of those from `place` on. -/
def insert (place : Nat) (t : Token) (s : Scanner) : Scanner :=
  { s with tokens := s.tokens.take place ++ #[t] ++ s.tokens.drop place }

/-- At another place of the text. -/
def move (c : Cursor) (s : Scanner) : Scanner := { s with cursor := c }

/-- Past the blanks, comments and line ends in front of the next token. Behind a line end a key
may begin, and tabs are no indentation. -/
def skipSpace? : (fuel : Nat) → Scanner → Option Scanner
  | 0, _ => none
  | fuel + 1, s =>
    match s.cursor.rest with
    | [] => some s
    | x :: _ =>
      -- A tab where the indentation of the block belongs: only an empty line may have it.
      if x == '\t' && !s.levels.isEmpty && s.cursor.fresh && s.cursor.column < s.indent then
        match s.cursor.margin? true with
        | some (_, c) => if endsLine c.rest then skipSpace? fuel (s.move c) else none
        | none => none
      else if isBlank x then skipSpace? fuel (s.move s.cursor.blank)
      else if isBreak x then
        skipSpace? fuel { s with
          cursor := s.cursor.newline
          keyAllowed := s.keyAllowed || !s.inFlow }
      else if x == '#' then skipSpace? fuel (s.move s.cursor.toLineEnd)
      else some s

/-- Without a candidate whose line is over or that is too far back. -/
def dropStale? (s : Scanner) : Option Scanner :=
  match s.candidate with
  | some k =>
    if !s.inFlow && (k.line < s.cursor.line || k.index + 1024 < s.cursor.index) then
      if k.required then none else some { s with candidate := none }
    else some s
  | none => some s

/-- Without a candidate. -/
def dropCandidate? (s : Scanner) : Option Scanner :=
  match s.candidate with
  | some k => if k.required then none else some { s with candidate := none }
  | none => some s

/-- With a candidate here, if a key may begin here. -/
def offerKey (s : Scanner) : Scanner :=
  if s.keyAllowed then
    -- At the very column of a block, text that turns out to be no key has no meaning.
    let required := !s.inFlow && s.indent == s.cursor.column &&
      (s.levels.head?.map (·.isBlock)).getD false
    { s with
      candidate :=
        some ⟨s.tokens.size, s.cursor.line, s.cursor.column, s.cursor.index, required⟩ }
  else s

/-- Whether a key may begin next. -/
def allowKey (allowed : Bool) (s : Scanner) : Scanner := { s with keyAllowed := allowed }

/-- With the levels deeper than a column closed. -/
def close (column : Int) (s : Scanner) : Scanner :=
  if s.inFlow then s else go s.levels s
where
  /-- The levels still open and the scanner so far. -/
  go : List Level → Scanner → Scanner
    | [], s => s
    | l :: levels, s =>
      if column < s.indent then
        let s := { s with indent := l.outer, levels := levels }
        go levels (if l.isBlock then s.push .blockEnd else s)
      else s

/-- Without the innermost levels that are no blocks. -/
def closeLoose (s : Scanner) : Scanner := go s.levels s
where
  /-- The levels still open and the scanner so far. -/
  go : List Level → Scanner → Scanner
    | [], s => s
    | l :: levels, s =>
      if l.isBlock then s else go levels { s with indent := l.outer, levels := levels }

/-- With a block at a column, unless there is one; its token stands at `place`. -/
def openBlock (column : Int) (place : Nat) (t : Token) (s : Scanner) : Scanner :=
  if s.inFlow then s
  else
    -- The block takes the place of a level that only asked for a deeper column.
    let s := match s.levels with
      | l :: levels =>
        if s.indent ≤ column && !l.isBlock then { s with indent := l.outer, levels := levels }
        else s
      | [] => s
    if s.indent < column then
      insert place t { s with indent := column, levels := ⟨s.indent, true⟩ :: s.levels }
    else s

/-- Asking for a column deeper than the innermost block. -/
def deepen (s : Scanner) : Scanner :=
  match s.inFlow, s.levels with
  | false, l :: _ =>
    if l.isBlock then
      { s with indent := s.indent + 1, levels := ⟨s.indent, false⟩ :: s.levels }
    else s
  | _, _ => s

/-- Past the blanks and the comment behind a token. -/
def margin? (tabs : Bool) (s : Scanner) : Option (Cursor.Margin × Scanner) :=
  (s.cursor.margin? tabs).map fun r => (r.1, s.move r.2)

/-! ## Brackets -/

/-- Past an opening bracket. -/
def openFlow? (kind : Flow) (t : Token) (s : Scanner) : Option Scanner :=
  let s := s.offerKey.deepen
  if 255 ≤ s.flows.length then none
  else
    let s :=
      { s with flows := (kind, s.candidate) :: s.flows, candidate := none, keyAllowed := true }
    ((s.move s.cursor.skip).margin? true).map fun r => r.2.push t

/-- Past a closing bracket. -/
def closeFlow? (t : Token) (s : Scanner) : Option Scanner :=
  match s.dropCandidate? with
  | none => none
  | some s =>
    let s := match s.flows with
      | (_, k) :: flows => { s with flows := flows, candidate := k }
      | [] => s
    match ((s.allowKey false).move s.cursor.skip).margin? true with
    | none => none
    | some (_, s) =>
      let s := if s.inFlow then { s with adjacent := some s.cursor.index } else s
      some (s.push t)

/-- Past a comma between brackets. -/
def flowEntry? (s : Scanner) : Option Scanner :=
  match s.dropCandidate? with
  | none => none
  | some s => (((s.allowKey true).move s.cursor.skip).margin? true).map fun r => r.2.push .flowEntry

/-! ## Entries, keys and values -/

/-- Past the dash of an entry. -/
def blockEntry? (s : Scanner) : Option Scanner :=
  if s.inFlow || !s.keyAllowed then none
  else if s.propertyColumn = some 0 ∧ s.cursor.column = 0 ∧ -1 < s.indent then none
  else
    let column := s.cursor.column
    let s := (s.move s.cursor.skip).openBlock column s.tokens.size .blockSequence
    match s.margin? true with
    | none => none
    | some (margin, s) =>
      -- A tab between two dashes in one line would hide the column of the second one.
      let again := match s.cursor.rest with
        | '-' :: rest => endsWord rest
        | _ => false
      if margin.tabs && again then none
      else
        -- What the entry holds must then stand deeper than the dash.
        let s := match s.cursor.rest with
          | x :: _ => if isBreak x || isFlow x then s.deepen else s
          | [] => s
        s.dropCandidate?.map fun s => (s.allowKey true).push .blockEntry

/-- Past the blanks other than tabs, the line ends and the comments behind a question mark; there
must be some. -/
def keySpace? : (fuel : Nat) → (found : Bool) → Scanner → Option Scanner
  | 0, _, _ => none
  | fuel + 1, found, s =>
    match s.cursor.rest with
    | ' ' :: _ => keySpace? fuel true (s.move s.cursor.blank)
    | '#' :: _ => keySpace? fuel found (s.move s.cursor.toLineEnd)
    | x :: _ =>
      if isBreak x then
        keySpace? fuel true { s with
          cursor := s.cursor.newline
          keyAllowed := s.keyAllowed || !s.inFlow }
      else if found && x ≠ '\t' then some s
      else none
    | [] => if found then some s else none

/-- Past the question mark of a key. -/
def explicitKey? (s : Scanner) : Option Scanner :=
  if !s.inFlow && !s.keyAllowed then none
  else
    let s := s.openBlock s.cursor.column s.tokens.size .blockMapping
    match s.dropCandidate? with
    | none => none
    | some s =>
      let s := (s.allowKey (!s.inFlow)).move s.cursor.skip
      (keySpace? s.cursor.rest.length.succ false s).map (push .key)

/-- Whether a colon is set apart from what follows it: tabs alone do not do for a word. -/
def isApart (s : Scanner) : Option Bool :=
  match s.cursor.rest with
  | '\t' :: _ =>
    (s.margin? true).map fun r =>
      r.1.spaces || !((r.2.cursor.rest.head?.map isWord).getD false)
  | _ => some true

/-- Past the blanks behind a colon that are tabs. -/
def skipTabs (s : Scanner) : Scanner :=
  match s.cursor.rest with
  | '\t' :: _ => ((s.margin? true).map (·.2)).getD s
  | _ => s

/-- Past the colon before a value. A candidate becomes a key now, and opens a mapping. -/
def value? (s : Scanner) : Option Scanner :=
  let column := s.cursor.column
  let line := s.cursor.line
  let s := s.move s.cursor.skip
  if s.isApart ≠ some true then none
  else
    let s := s.skipTabs
    match s.candidate with
    | some k =>
      -- The key of a pair between square brackets stands in one line with its colon.
      if (s.flows.head?.map (·.1)) = some .sequence ∧ k.line < line then none
      else
        let s := (s.insert k.place .key).openBlock k.column k.place .blockMapping
        some ((({ s.deepen with candidate := none }).allowKey false).push .value)
    | none =>
      if s.inFlow then some ((s.allowKey false).push .value)
      -- A colon without a key in front of it: the key is left out.
      else if s.keyAllowed then
        some (((s.openBlock column s.tokens.size .blockMapping).deepen.allowKey true).push .value)
      else none

/-! ## Anchors, references and tags -/

/-- A character of an anchor's name. -/
def isAnchorChar (c : Char) : Bool := !(isBlank c || isBreak c || isFlow c || c == '\uFEFF')

/-- Past the sign in front of a name and the name. -/
def name? (s : Scanner) : Option (String × Scanner) :=
  match s.cursor.skip.takeWhile isAnchorChar with
  | ([], _) => none
  | (name, c) => some (String.ofList name, (s.offerKey.allowKey false).move c)

/-- Past an anchor. -/
def anchor? (s : Scanner) : Option Scanner :=
  s.name?.map fun r =>
    { r.2.push (.anchor r.1) with propertyColumn := some s.cursor.column }

/-- Past a reference to an anchor. -/
def reference? (s : Scanner) : Option Scanner := s.name?.map fun r => r.2.push (.reference r.1)

/-- A character of a tag between angle brackets. -/
def isUriChar (c : Char) : Bool :=
  c.isAlphanum || "-#;/?:@&=+$,_.!~*'()[]%".toList.elem c

/-- A character of the rest of a tag. -/
def isTagChar (c : Char) : Bool := isUriChar c && !isFlow c && c != '!'

/-- Two hexadecimal digits behind a percent sign as an octet, and what follows them. -/
def octet? : List Char → Option (Nat × List Char)
  | '%' :: a :: b :: rest =>
    match Text.hexDigit? a, Text.hexDigit? b with
    | some x, some y => some (16 * x + y, rest)
    | _, _ => none
  | _ => none

/-- The octets that follow the first one of a character. -/
def moreOctets? : (count value : Nat) → List Char → Option (Nat × List Char)
  | 0, value, cs => some (value, cs)
  | count + 1, value, cs =>
    match octet? cs with
    | some (b, rest) =>
      if b / 64 = 2 then moreOctets? count (64 * value + b % 64) rest else none
    | none => none

/-- A character written as octets, and what follows it. -/
def escaped? (cs : List Char) : Option (Char × List Char) := do
  let (b, rest) ← octet? cs
  let (count, value) ←
    if b < 0x80 then some (0, b)
    else if b / 32 = 6 then some (1, b % 32)
    else if b / 16 = 14 then some (2, b % 16)
    else if b / 8 = 30 then some (3, b % 8)
    else none
  let (value, rest) ← moreOctets? count value rest
  let c ← Text.scalar? value
  some (c, rest)

/-- The characters with a property in front of a text, the escaped ones read, their number in the
text, and what follows them. -/
def uri? (p : Char → Bool) : (fuel : Nat) → List Char → Option (List Char × List Char)
  | 0, _ => none
  | _ + 1, [] => some ([], [])
  | fuel + 1, x :: rest =>
    if !p x then some ([], x :: rest)
    else if x == '%' then
      match escaped? (x :: rest) with
      | some (c, rest) => (uri? p fuel rest).map fun r => (c :: r.1, r.2)
      | none => none
    else (uri? p fuel rest).map fun r => (x :: r.1, r.2)

/-- A tag as handle and rest, and what follows it. -/
def splitTag? (cs : List Char) : Option (String × String × List Char) :=
  match cs with
  | '!' :: '<' :: cs =>
    match uri? isUriChar cs.length.succ cs with
    | some (name, '>' :: rest) => some ("", String.ofList name, rest)
    | _ => none
  | '!' :: cs =>
    let word := cs.takeWhile isWord
    match cs.dropWhile isWord with
    | '!' :: cs =>
      match uri? isTagChar cs.length.succ cs with
      | some (x :: rest, cs) =>
        some (String.ofList ('!' :: word ++ ['!']), String.ofList (x :: rest), cs)
      | _ => none
    | cs =>
      match uri? isTagChar cs.length.succ cs with
      | some (rest, cs) =>
        if word ++ rest = [] then some ("", "!", cs)
        else some ("!", String.ofList (word ++ rest), cs)
      | none => none
  | _ => none

/-- Past a tag; it must be set apart from what follows it. -/
def tag? (s : Scanner) : Option Scanner :=
  let column := s.cursor.column
  let s := s.offerKey.allowKey false
  match splitTag? s.cursor.rest with
  | some (handle, name, rest) =>
    if endsWord rest || (s.inFlow && startsFlow rest) then
      let c := s.cursor.skipMany (s.cursor.rest.length - rest.length)
      some { (s.move c).push (.tag handle name) with propertyColumn := some column }
    else none
  | none => none

/-! ## Scalars -/

/-- Past a plain scalar. -/
def plain? (s : Scanner) : Option Scanner :=
  let s := (s.offerKey.allowKey false).closeLoose
  let indent := s.indent + 1
  if s.inFlow && s.cursor.column < indent then none
  else
    match Plain.text? s.inFlow indent s.cursor.rest.length.succ [] [] s.cursor with
    | none => none
    | some ([], _) => none
    | some (text, c) =>
      -- The scalar ended with its line, so the next one may begin with a key.
      let s := if c.fresh then s.allowKey true else s
      some ((s.move c).push (.scalar true (String.ofList text.reverse)))

/-- Past a quoted scalar. Behind it a line must end, or a bracket or an entry, or a colon follow. -/
def quoted? (single : Bool) (s : Scanner) : Option Scanner :=
  let line := s.cursor.line
  let s := s.offerKey.allowKey false
  match Quoted.text? single s.indent s.cursor.rest.length.succ [] s.cursor.skip with
  | none => none
  | some (text, c) =>
    match c.margin? true with
    | none => none
    | some (_, c) =>
      -- A colon makes the text a key, but not from one line to the next.
      let fits := match c.rest with
        | [] => true
        | x :: _ =>
          isBreak x || (s.inFlow && (x == ',' || x == '\x7d' || x == ']' || x == ':')) ||
            (x == ':' && c.line == line)
      if !fits then none
      else
        match skipSpace? c.rest.length.succ (s.move c) with
        | some s =>
          some ({ s with adjacent := some s.cursor.index }.push
            (.scalar false (String.ofList text.reverse)))
        | none => none

/-- Past a block scalar. -/
def block? (literal : Bool) (s : Scanner) : Option Scanner :=
  let s := (s.offerKey.allowKey true).closeLoose
  match Block.text? literal s.indent s.cursor.skip with
  | some (text, c) => some ((s.move c).push (.scalar false (String.ofList text)))
  | none => none

/-! ## Documents -/

/-- At the beginning of a line that belongs to no block. -/
def leave? (s : Scanner) : Option Scanner :=
  (s.close (-1)).dropCandidate?.map (allowKey false)

/-- A number of at most nine digits, and what follows it. -/
def versionPart? (cs : List Char) : Option (List Char) :=
  let n := (cs.takeWhile Char.isDigit).length
  if 1 ≤ n ∧ n ≤ 9 then some (cs.drop n) else none

/-- What follows the blanks in front of a text. -/
def skipBlanks (cs : List Char) : List Char := cs.dropWhile isBlank

/-- The handle in the directive that gives it a meaning, and what follows it. -/
def handle? : List Char → Option (String × List Char)
  | '!' :: cs =>
    match cs.takeWhile isWord, cs.dropWhile isWord with
    | word, '!' :: rest => some (String.ofList ('!' :: word ++ ['!']), rest)
    | [], rest => some ("!", rest)
    | _, _ => none
  | _ => none

/-- The meaning of a handle, and what follows it. -/
def meaning? (cs : List Char) : Option (String × List Char) :=
  let more (first rest : List Char) : Option (String × List Char) :=
    (uri? isUriChar rest.length.succ rest).map fun r => (String.ofList (first ++ r.1), r.2)
  match cs with
  | '!' :: rest => more ['!'] rest
  | x :: _ => if isTagChar x then more [] cs else none
  | [] => none

/-- The token of a directive, and what follows it. Of unknown ones nothing is kept. -/
def directive? (cs : List Char) : Option (Token × List Char) :=
  let name := cs.takeWhile isWord
  let rest := cs.dropWhile isWord
  if name = [] || !endsWord rest then none
  else
    match String.ofList name with
    | "YAML" =>
      match versionPart? (skipBlanks rest) with
      | some ('.' :: rest) => (versionPart? rest).map (.version, ·)
      | _ => none
    | "TAG" =>
      match handle? (skipBlanks rest) with
      | some (handle, rest) =>
        match meaning? (skipBlanks rest) with
        | some (meaning, rest) =>
          if endsWord rest then some (.handle handle meaning, rest) else none
        | none => none
      | none => none
    | _ => some (.handle "" "", rest.dropWhile fun x => !isBreak x)

/-- Past a directive and its line. -/
def directiveLine? (s : Scanner) : Option Scanner :=
  match s.leave? with
  | none => none
  | some s =>
    match directive? s.cursor.skip.rest with
    | none => none
    | some (t, rest) =>
      let c := s.cursor.skipMany (s.cursor.rest.length - rest.length)
      match c.margin? true with
      | some (_, c) =>
        if endsLine c.rest then
          some ((s.move (if c.rest.isEmpty then c else c.newline)).push t)
        else none
      | none => none

/-- Past the mark at the beginning of a document. -/
def documentStart? (s : Scanner) : Option Scanner :=
  s.leave?.map fun s => (s.move (s.cursor.skipMany 3)).push .documentStart

/-- Past the mark at the end of a document, behind which only a comment may stand. -/
def documentEnd? (s : Scanner) : Option Scanner :=
  match s.leave? with
  | none => none
  | some s =>
    match ((s.move (s.cursor.skipMany 3)).push .documentEnd).margin? true with
    | some (_, s) => if endsLine s.cursor.rest then some s else none
    | none => none

/-- All tokens, at the end of the text. -/
def finish? (s : Scanner) : Option (Array Token) :=
  let required (k : Option Candidate) : Bool := (k.map (·.required)).getD false
  if required s.candidate || s.flows.any fun f => required f.2 then none
  else some ({ s with candidate := none }.close (-1)).tokens

/-- Past the next token. -/
def next? (s : Scanner) : Option Scanner :=
  let following := s.cursor.rest.tail
  match s.cursor.rest with
  | [] => none
  | x :: _ =>
    if x == '[' then s.openFlow? .sequence .flowSequence
    else if x == '\x7b' then s.openFlow? .mapping .flowMapping
    else if x == ']' then s.closeFlow? .flowSequenceEnd
    else if x == '\x7d' then s.closeFlow? .flowMappingEnd
    else if x == ',' then s.flowEntry?
    else if x == '-' && endsWord following then s.blockEntry?
    else if x == '?' && endsWord following then s.explicitKey?
    else if x == ':' && (endsWord following ||
        (s.inFlow && (startsFlow following || s.adjacent == some s.cursor.index))) then s.value?
    else if x == '*' then s.reference?
    else if x == '&' then s.anchor?
    else if x == '!' then s.tag?
    else if x == '|' && !s.inFlow then s.block? true
    else if x == '>' && !s.inFlow then s.block? false
    else if x == '\'' then s.quoted? true
    else if x == '"' then s.quoted? false
    -- Characters kept for later use begin nothing, and neither does a directive's sign here.
    else if x == '%' || x == '@' || x.toNat == 0x60 then none
    else s.plain?

/-- All tokens from here on. -/
def scan? : (fuel : Nat) → Scanner → Option (Array Token)
  | 0, _ => none
  | fuel + 1, s =>
    match (skipSpace? s.cursor.rest.length.succ s).bind dropStale? with
    | none => none
    | some s =>
      let s := s.close s.cursor.column
      let c := s.cursor
      if c.rest.isEmpty then s.finish?
      else
        let s? :=
          if c.column == 0 && c.rest.head? == some '%' then s.directiveLine?
          else if c.column == 0 && startsMark '-' c.rest then s.documentStart?
          else if c.column == 0 && startsMark '.' c.rest then s.documentEnd?
          -- Inside brackets even the first character of a line must stand deep enough.
          else if c.column < s.indent then none
          else s.next?
        match s? with
        | some s => scan? fuel s
        | none => none

end Scanner

/-- All tokens of a text; it ends at a null character. -/
def Token.scan? (text : String) : Option (Array Token) :=
  let cs := text.toList.takeWhile (· != '\x00')
  (Scanner.start cs).scan? cs.length.succ

end Vigil.Yaml
