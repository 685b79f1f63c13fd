import Vigil.Source.Item

/-!
# Implementation blocks

An `impl` block as a whole text: what stands in front of the type it is for, that type, what it
demands and its body, read one after the other. The last token is the body.

* `ImplBlock.ofTokens?`: the block that a sequence of tokens is, if it is exactly one.
* `ImplBlock.tokens`: the block in normal form.
-/

namespace Vigil.Source

/-- An `impl` block in normal form. -/
structure ImplBlock where
  /-- Everything in front of the type: attributes, parameters and the trait, if there is one. -/
  opening : List Token
  /-- The type that the block is for. -/
  subject : List Token
  /-- What the block demands of its parameters. -/
  demands : List Token
  /-- What stands between the braces. -/
  body : List Token

namespace ImplBlock

/-- All tokens of the block. -/
def tokens (b : ImplBlock) : List Token :=
  b.opening ++ b.subject ++ b.demands ++ [.group .brace b.body]

/-- What stands in front of the type that a block is for: the path of a trait and the word behind it,
or nothing. A block that denies a trait has to name it. -/
def trait? (ts : List Token) : Option (List Token × List Token) :=
  let denied := Look.denial.holds ts
  let types := ts.drop denied.toNat
  match Look.namedType.holds types, (path .bound).read types with
  | true, .read trait (.word "for" :: rest) =>
    some (ts.take denied.toNat ++ trait ++ [.word "for"], rest)
  | _, _ => if denied then none else some ([], ts)

/-- The block that a sequence of tokens is, if it is exactly one. -/
def ofTokens? (ts : List Token) : Option ImplBlock :=
  match Form.read (Grammar.all [outerAttributes, implStart]) ts with
  | .read start types =>
    (trait? types).bind fun (trait, own) =>
      match (type true).read own with
      | .read subject behind =>
        match (conditions (.group .brace)).read behind with
        | .read demands [.group .brace content] =>
          (implBody.read content).complete?.map fun body =>
            ⟨start ++ trait, subject, demands, body⟩
        | _ => none
      | _ => none
  | _ => none

end ImplBlock

end Vigil.Source
