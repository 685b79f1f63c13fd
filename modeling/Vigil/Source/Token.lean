import Vigil.Source.Literal

/-!
# Tokens

A source text as a sequence of tokens. What stands between a pair of delimiters is one token
that holds a sequence of its own, so delimiters always balance.

* `Token.words`: the flat spelling, in which each delimiter is a word again.
-/

namespace Vigil.Source

/-- The pairs of delimiters. -/
inductive Delimiter
  | paren
  | bracket
  | brace
  deriving DecidableEq

/-- The opening half of a pair of delimiters. -/
def Delimiter.opening : Delimiter → Char
  | .paren => '('
  | .bracket => '['
  | .brace => '{'

/-- The closing half of a pair of delimiters. -/
def Delimiter.closing : Delimiter → Char
  | .paren => ')'
  | .bracket => ']'
  | .brace => '}'

/-- A token of a source text. -/
inductive Token
  /-- A name or a keyword; a raw name keeps its mark. -/
  | word (name : String)
  /-- A name after a single quote; the quote is part of the spelling. -/
  | lifetime (spelling : String)
  /-- A punctuation character; `joint` if another one follows without a gap. -/
  | mark (c : Char) (joint : Bool)
  | literal (l : Literal)
  /-- What stands between a pair of delimiters. -/
  | group (d : Delimiter) (content : List Token)

namespace Token

/-- A punctuation character by itself. -/
def sign (c : Char) : Token := .mark c false

/-- The marks of an operator of several characters, joined to one another. -/
def signs : List Char → List Token
  | [] => []
  | [c] => [.mark c false]
  | c :: cs => .mark c true :: signs cs

mutual
/-- The words a token is spelled with. -/
def spelled : Token → List String
  | .word name => [name]
  | .lifetime spelling => [spelling]
  | .mark c _ => [c.toString]
  | .literal l => [l.spelling]
  | .group d content => d.opening.toString :: words content ++ [d.closing.toString]

/-- The words a sequence of tokens is spelled with. -/
def words : List Token → List String
  | [] => []
  | t :: ts => spelled t ++ words ts
end

mutual
/-- How many tokens a token holds, itself included. A number with a point can be two numbers and the
point between them. -/
def weight : Token → Nat
  | .group _ content => size content + 1
  | .literal ⟨_, .fraction⟩ => 3
  | _ => 1

/-- How many tokens a sequence holds, those between delimiters included. -/
def size : List Token → Nat
  | [] => 0
  | t :: ts => weight t + size ts
end

theorem size_append (ts us : List Token) : size (ts ++ us) = size ts + size us := by
  induction ts with
  | nil => simp [size]
  | cons t ts ih => simp [size, ih, Nat.add_assoc]

end Token

end Vigil.Source
