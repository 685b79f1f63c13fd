import Vigil.Source.Item
import Vigil.Source.Lexeme

/-!
# Arguments of an attribute

The text between the parentheses of an attribute: a list of arguments with commas between them
and possibly behind the last one. An argument is a name, a name with a group behind it, or a
name with a value. Of the values only whole numbers and texts matter; whatever else is a valid
expression is told apart from what is none.

* `Argument.ofText?`: the arguments of an attribute.
-/

namespace Vigil.Attribute

open Source

/-- The name of an argument, which may be a whole path. -/
structure Path where
  rooted : Bool
  segments : List String
  deriving DecidableEq

/-- The single name that a path consists of. -/
def Path.name? : Path → Option String
  | ⟨false, [name]⟩ => some name
  | _ => none

/-- The value of an argument. -/
inductive Value
  | integer (negative : Bool) (magnitude : Nat)
  | text (s : String)
  /-- Any other expression. -/
  | other
  deriving DecidableEq

/-- An argument of an attribute. -/
inductive Argument
  | name (path : Path)
  | group (path : Path)
  | assign (path : Path) (value : Value)
  deriving DecidableEq

/-- The value of a literal. -/
def Value.ofLiteral (negative : Bool) (l : Literal) : Value :=
  match l.value with
  | .integer n _ => .integer negative n
  | .text s => .text s
  | _ => .other

/-- The path that tokens spell. -/
def Path.ofTokens (ts : List Token) : Path where
  rooted := (Look.mark ':').holds ts
  segments := ts.filterMap fun
    | .word w => some w
    | _ => none

/-- The value at the start of tokens, and what follows it. A minus sign belongs to a number only
if the number is the last token; no attribute may stand in front of a value. -/
def readValue? (ts : List Token) : Option (Value × List Token) :=
  match ts with
  | [.mark '-' _, .literal ⟨_, .integer n _⟩] => some (.integer true n, [])
  | .mark '#' _ :: .group .bracket _ :: _ => none
  | ts =>
    match (expression true).read ts with
    | .read [.literal l] rest => some (.ofLiteral false l, rest)
    | .read _ rest => some (.other, rest)
    | _ => none

/-- The path at the start of tokens, and what follows it. -/
def readPath? (ts : List Token) : Option (Path × List Token) :=
  match ts with
  | .word "unsafe" :: rest => some (⟨false, ["unsafe"]⟩, rest)
  | ts =>
    match modulePath.read ts with
    | .read path rest => some (.ofTokens path, rest)
    | _ => none

/-- The argument at the start of tokens, and what follows it. -/
def readArgument? (ts : List Token) : Option (Argument × List Token) :=
  match readPath? ts with
  | some (path, .group _ _ :: rest) => some (.group path, rest)
  | some (path, .mark '=' _ :: rest) => (readValue? rest).map fun r => (.assign path r.1, r.2)
  | some (path, rest) => some (.name path, rest)
  | none => none

/-- Arguments with commas between them and possibly behind the last one. -/
def readArguments? : (limit : Nat) → List Token → Option (List Argument)
  | _, [] => some []
  | 0, _ => none
  | limit + 1, ts =>
    match readArgument? ts with
    | some (a, []) => some [a]
    | some (a, .mark ',' _ :: rest) => (readArguments? limit rest).map (a :: ·)
    | _ => none

/-- The arguments of an attribute, if the text is a list of them. -/
def Argument.ofText? (text : String) : Option (List Argument) :=
  (tokens? text).bind fun ts => readArguments? ts.length ts

end Vigil.Attribute
