import Vigil.Source.Grammar

/-!
# Rules

The names of the recursive rules of the source grammar, and the small grammars that all parts
of it share.
-/

namespace Vigil.Source

/-- The operators that may follow an expression. -/
inductive Reach
  /-- All of them. -/
  | all
  /-- Those that bind tighter than a range. -/
  | logic
  /-- Comparisons and those that bind tighter. -/
  | compare
  deriving DecidableEq

/-- Whether a comparison stands on the left of an operator. -/
inductive Compared
  | no
  /-- One whose right side is a range. What goes on does so with all of it. -/
  | range
  /-- One whose right side goes on with operators that bind tighter. -/
  | yes
  deriving DecidableEq

/-- Where a path stands, which decides what may follow it. -/
inductive Setting
  /-- By itself; `colons` if arguments need a double colon. -/
  | plain (colons : Bool)
  /-- As a bound. -/
  | bound
  /-- As a type; `plus` if further bounds may follow, `binder` if lifetimes are bound in front. -/
  | type (plus binder : Bool)
  /-- As the trait that a block is for, with the word `for` and a type behind it, or else as the
  type that the block is for. If the trait is denied, there has to be one. -/
  | trait (denied : Bool)
  /-- As an item between angle brackets that may turn out to be a named one. -/
  | argument
  /-- As an expression; `fields` if a brace behind it holds the fields of a value. -/
  | expression (fields : Bool)
  /-- As a pattern; `strict` if a range has to have both ends. -/
  | pattern (strict : Bool)
  deriving DecidableEq

/-- The recursive rules. -/
inductive Rule
  /-- What stands between the brackets of an attribute. -/
  | attribute
  | type (plus : Bool)
  /-- A segment of a path and what comes behind it. `qualified` if the path starts with a type
  in angle brackets, `simple` if no segment in front has arguments. -/
  | segment (place : Setting) (qualified simple : Bool)
  /-- What comes behind a segment, `bare` if it has no arguments. -/
  | pathRest (place : Setting) (qualified simple bare : Bool)
  /-- Items between angle brackets behind a segment of a path. -/
  | arguments
  | bound (captures constant : Bool)
  /-- Bounds of which at least one is no lifetime. -/
  | objectBounds (captures plus : Bool)
  | pattern (strict : Bool)
  /-- An expression; `fields` if a brace behind a path holds the fields of a value. -/
  | expression (fields : Bool)
  | unary (fields : Bool)
  /-- What stands on the right of a range. -/
  | operand (fields : Bool)
  /-- Operators and what is on their right. -/
  | operators (fields : Bool) (reach : Reach) (compared : Compared)
  /-- Calls, fields, indices and question marks behind an expression. -/
  | trailers
  | conditional
  | selection
  | statements
  | item
  /-- The parameters and the types of an `impl` block. -/
  | implHead (loosely : Bool)
  | implItem
  | traitItem
  | foreignItem
  | useTree

/-- The source grammar and its parts. -/
abbrev Form := Grammar Rule

open Grammar

/-- A path may start with a word here. -/
def Class.pathWord : Class := .nameOr ["super", "self", "Self", "crate"]

def Look.pathWord : Look := .one .pathWord

/-- A number behind a sign, with this answer behind it. -/
def Look.negative (l : Look) : Look := .next (.mark '-') (.or (.next .integer l) (.next .fraction l))

/-- A number, a text, a truth value, or a number below zero. -/
def Look.literal : Look := .or (.one .value) (.negative .always)

/-- A literal, with the sign of a number. -/
def literal : Form := all [optional (.mark '-'), .take .value]

/-- The end of what is read, or a refusal. -/
def atEnd : Form := .cond .ended .empty .refuse

/-- The attributes in front of something. -/
def outerAttributes : Form :=
  .many (.mark '#') (all [mark '#', .inside .bracket (.call .attribute)])

/-- The attributes of what they stand in. -/
def innerAttributes : Form :=
  .many (.two (.mark '#') (.mark '!'))
    (all [mark '#', mark '!', .inside .bracket (.call .attribute)])

/-- A path without arguments. -/
def modulePath : Form :=
  all [optOperator "::", .take .pathWord,
    .many (.operator "::") (all [operator "::", .take .pathWord])]

/-- An exclamation mark and a group behind the path of an invocation. -/
def invocation : Form := all [mark '!', .take .anyGroup]

/-- An exclamation mark that does not begin an operator comes next. -/
def Look.bang : Look := .and (.mark '!') (.not (.operator "!="))

/-- A block of statements. -/
def block : Form := .inside .brace (.call .statements)

/-- A block of statements with attributes of its own. -/
def attributedBlock : Form := .inside .brace (all [innerAttributes, .call .statements])

/-- A group that limits who may see an item: to a place, or to what a path leads to. -/
def Look.scope : Look :=
  .within .paren (.or (.next (.words ["crate", "self", "super"]) .ended)
    (.next (.word "in") (.modulePath .ended)))

/-- Who may see an item. -/
def visibility : Form := lead (.word "pub") (opt .scope (.take (.group .paren)))

end Vigil.Source
