import Vigil.Toml.Node
import Vigil.Toml.Scalar
import Vigil.Toml.Text

/-!
# Documents

A document is a list of lines: headings of tables, headings of elements of arrays of tables, and
names with values. Arrays and tables between braces may run over several lines, with comments and
a comma behind the last part, and nest at most eighty deep.

* `Document.read?`: the lines of a text.
* `Document.build?`: the root table that they fill.
-/

namespace Vigil.Toml

open Config

/-- A line with content. -/
inductive Line
  | heading (path : List String)
  | element (path : List String)
  | assign (path : List String) (value : Node)

/-- How deep arrays and tables in one value may nest. -/
def nestingLimit : Nat := 80

/-- The text behind a comment in front of it, if there is one; a comment holds no control
characters. -/
def skipComment? : List Char → Option (List Char)
  | '#' :: rest =>
    match rest.dropWhile isPlain with
    | [] => some []
    | '\n' :: rest => some ('\n' :: rest)
    | '\r' :: '\n' :: rest => some ('\n' :: rest)
    | _ => none
  | cs => some cs

/-- The text without the blanks, comments and line ends in front. -/
def skipSpace? : (fuel : Nat) → List Char → Option (List Char)
  | 0, _ => none
  | fuel + 1, cs =>
    match skipLines cs with
    | '#' :: rest => (skipComment? ('#' :: rest)).bind (skipSpace? fuel)
    | cs => some cs

mutual
/-- A value, and what follows it; `depth` more levels may nest in it. -/
def readValue? : (fuel depth : Nat) → List Char → Option (Node × List Char)
  | 0, _, _ => none
  | fuel + 1, depth, cs =>
    match cs with
    | '[' :: rest =>
      match depth with
      | 0 => none
      | depth + 1 => (readItems? fuel depth rest).map fun r => (.array r.1, r.2)
    | '\x7b' :: rest =>
      match depth with
      | 0 => none
      | depth + 1 => (readPairs? fuel depth .empty rest).map fun r => (r.1.close, r.2)
    | '"' :: _ => (readText? cs).map fun r => (.scalar (.text (String.ofList r.1)), r.2)
    | '\'' :: _ => (readText? cs).map fun r => (.scalar (.text (String.ofList r.1)), r.2)
    | _ => (readScalar? cs).map fun r => (.scalar r.1, r.2)

/-- The items of an array up to its closing bracket. -/
def readItems? : (fuel depth : Nat) → List Char → Option (List Node × List Char)
  | 0, _, _ => none
  | fuel + 1, depth, cs =>
    match skipSpace? cs.length.succ cs with
    | some (']' :: rest) => some ([], rest)
    | some cs =>
      match readValue? fuel depth cs with
      | none => none
      | some (item, rest) =>
        match skipSpace? rest.length.succ rest with
        | some (']' :: rest) => some ([item], rest)
        | some (',' :: rest) => (readItems? fuel depth rest).map fun r => (item :: r.1, r.2)
        | _ => none
    | none => none

/-- A table with the pairs up to its closing brace. -/
def readPairs? : (fuel depth : Nat) → Node → List Char → Option (Node × List Char)
  | 0, _, _, _ => none
  | fuel + 1, depth, table, cs =>
    match skipSpace? cs.length.succ cs with
    | some ('\x7d' :: rest) => some (table, rest)
    | some cs =>
      match readPath? cs.length.succ cs with
      | some (path, '=' :: rest) =>
        match readValue? fuel depth (skipBlanks rest) with
        | none => none
        | some (value, rest) =>
          match table.assign? path value, skipSpace? rest.length.succ rest with
          | some table, some ('\x7d' :: rest) => some (table, rest)
          | some table, some (',' :: rest) => readPairs? fuel depth table rest
          | _, _ => none
      | _ => none
    | none => none
end

/-- The names of a heading up to its closing bracket. -/
def readHeading? (cs : List Char) : Option (List String × List Char) :=
  match readPath? cs.length.succ (skipBlanks cs) with
  | some (path, ']' :: rest) => some (path, rest)
  | _ => none

/-- A line with content, and what follows it. -/
def readLine? : List Char → Option (Line × List Char)
  | '[' :: '[' :: cs =>
    match readHeading? cs with
    | some (path, ']' :: rest) => some (.element path, rest)
    | _ => none
  | '[' :: cs => (readHeading? cs).map fun r => (.heading r.1, r.2)
  | cs =>
    match readPath? cs.length.succ cs with
    | some (path, '=' :: rest) =>
      (readValue? (2 * rest.length + 2) nestingLimit (skipBlanks rest)).map fun r =>
        (.assign path r.1, r.2)
    | _ => none

namespace Document

/-- The lines with content of a text. Behind the content of a line only a comment may stand. -/
def readLines? : (fuel : Nat) → List Char → Option (List Line)
  | 0, _ => none
  | fuel + 1, cs =>
    match skipSpace? cs.length.succ cs with
    | none => none
    | some [] => some []
    | some cs =>
      match readLine? cs with
      | none => none
      | some (line, rest) =>
        match skipComment? (skipBlanks rest) with
        | some [] => some [line]
        | some rest => if atLineEnd rest then (readLines? fuel rest).map (line :: ·) else none
        | none => none

/-- The lines with content of a text; a byte order mark in front is none. -/
def read? (text : String) : Option (List Line) :=
  let cs := match text.toList with
    | '\uFEFF' :: cs => cs
    | cs => cs
  readLines? cs.length.succ cs

/-- The root after the lines, the path of the table that is open given. -/
def fill? : List Line → (current : List String) → Node → Option Node
  | [], _, root => some root
  | .heading path :: rest, _, root => (root.openTable? path).bind (fill? rest path)
  | .element path :: rest, _, root => (root.openElement? path).bind (fill? rest path)
  | .assign path value :: rest, current, root =>
    (root.alter? .heading (fun table => table.assign? path value) current).bind (fill? rest current)

/-- The root table of a document. -/
def build? (lines : List Line) : Option Node := fill? lines [] .empty

/-- The entries of the document that a text is, each part marked with its source. -/
def entries? (origin : Option String) (text : String) : Option (List (String × Value)) :=
  ((read? text).bind build?).map fun root => Node.toEntries origin root.entries

end Document

end Vigil.Toml
