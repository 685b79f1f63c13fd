import Vigil.Attribute.Timing
import Vigil.Source.Block

/-!
# Expansion of an attribute

What an attribute makes of the `impl` block it stands in front of: the block itself, and behind
it a second block that tells the timing of the type. Wrong arguments leave only a message.

* `expand`: the outcome for the text of the arguments and the text of the block.
* `Expansion.tokens?`: the tokens that take the place of the block.
-/

namespace Vigil.Attribute

open Source

/-- The outcome of an attribute. -/
inductive Expansion
  /-- The arguments are no list of arguments, or what follows is not one `impl` block. -/
  | malformed
  /-- The arguments are wrong. -/
  | rejected (e : ArgumentError)
  | expanded (block : ImplBlock) (timing : AnnotatedTiming)

/-- The literal for a text. -/
def textToken (s : String) : Token := .literal ⟨Text.Quoted.literal s, .text s⟩

/-- A path from the root. -/
def rootedPath (names : List String) : List Token :=
  names.flatMap fun name => Token.signs "::".toList ++ [.word name]

/-- A message that stops the compilation. -/
def complaint (e : ArgumentError) : List Token :=
  rootedPath ["core", "compile_error"] ++ [Token.sign '!', .group .brace [textToken e.message]]

/-- A function without inputs that returns a fixed text. -/
def constantFunction (name text : String) : List Token :=
  [.word "fn", .word name, .group .paren []] ++ Token.signs "->".toList
    ++ [Token.sign '&', .lifetime "'static", .word "str", .group .brace [textToken text]]

/-- The block that tells the timing of a type. -/
def metadata (subject : List Token) (t : AnnotatedTiming) : ImplBlock where
  opening := [.word "impl"]
    ++ rootedPath ["sentinel", "sentinel_runtime", "CaretakerMetadata"] ++ [.word "for"]
  subject := subject
  demands := []
  body := constantFunction "initial_delay" t.initialDelay
    ++ constantFunction "fixed_rate" t.fixedRate

/-- The outcome for arguments and a block, each as a text. -/
def expand (arguments item : String) : Expansion :=
  match Argument.ofText? arguments, (tokens? item).bind ImplBlock.ofTokens? with
  | some arguments, some block =>
    match timing arguments with
    | .ok t => .expanded block t
    | .error e => .rejected e
  | _, _ => .malformed

/-- The tokens that take the place of the block. -/
def Expansion.tokens? : Expansion → Option (List Token)
  | .malformed => none
  | .rejected e => some (complaint e)
  | .expanded block timing => some (block.tokens ++ (metadata block.subject timing).tokens)

end Vigil.Attribute
