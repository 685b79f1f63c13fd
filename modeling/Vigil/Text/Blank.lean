/-!
# White space

The Unicode property White_Space, and cutting it from both ends of a text.

* `trim_eq`: a text is its trimmed part with blanks on both sides.
-/

namespace Vigil.Text

/-- A character with the Unicode property White_Space. -/
def isBlank (c : Char) : Bool :=
  (0x09 ≤ c.toNat && c.toNat ≤ 0x0D) || c.toNat == 0x20 || c.toNat == 0x85 || c.toNat == 0xA0 ||
  c.toNat == 0x1680 || (0x2000 ≤ c.toNat && c.toNat ≤ 0x200A) || c.toNat == 0x2028 ||
  c.toNat == 0x2029 || c.toNat == 0x202F || c.toNat == 0x205F || c.toNat == 0x3000

/-- The text without the blanks at its end. -/
def trimEnd (cs : List Char) : List Char := (cs.reverse.dropWhile isBlank).reverse

/-- The text without the blanks at either end. -/
def trim (cs : List Char) : List Char := trimEnd (cs.dropWhile isBlank)

/-- The blanks that `trimEnd` cuts. -/
def blankEnd (cs : List Char) : List Char := (cs.reverse.takeWhile isBlank).reverse

theorem trimEnd_append_blankEnd (cs : List Char) : trimEnd cs ++ blankEnd cs = cs := by
  unfold trimEnd blankEnd
  rw [← List.reverse_append, List.takeWhile_append_dropWhile, List.reverse_reverse]

theorem all_isBlank_blankEnd (cs : List Char) : (blankEnd cs).all isBlank = true := by
  simp only [blankEnd, List.all_reverse, List.all_takeWhile]

/-- **Trimming only cuts blanks.** -/
theorem trim_eq (cs : List Char) :
    ∃ before after, before.all isBlank = true ∧ after.all isBlank = true ∧
      cs = before ++ trim cs ++ after :=
  ⟨cs.takeWhile isBlank, blankEnd (cs.dropWhile isBlank), List.all_takeWhile,
    all_isBlank_blankEnd _, by
      rw [List.append_assoc, trim, trimEnd_append_blankEnd, List.takeWhile_append_dropWhile]⟩

end Vigil.Text
