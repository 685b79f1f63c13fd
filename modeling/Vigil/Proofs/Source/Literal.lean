import Vigil.Source.Literal
import Vigil.Text.Quoted
import Mathlib.Tactic.SplitIfs

/-!
# Literals of texts

A text is spelled with escapes, and the reader of literals undoes each of them. What is not
escaped stands for itself, but only as long as no line break, quote or backslash is left so.

* `readBraced?_codePoint`: a code point is read back from its digits.
* `readQuoted?_char`: a character is read back from its escape.
* `readQuoted?_literalBody`: **a text is read back from what stands between the quotes.**
* `read?_ofText`: so is the whole literal, as it is spelled and with its value.
-/

namespace Vigil.Source.Literal

open Text (hexDigit? scalar?)
open Text.Quoted

/-! ## Code points -/

theorem hexDigit?_digitChar {d : Nat} (h : d < 16) : hexDigit? (Nat.digitChar d) = some d := by
  decide +revert

theorem digitChar_ne {d : Nat} (h : d < 16) : Nat.digitChar d ≠ '}' ∧ Nat.digitChar d ≠ '_' := by
  decide +revert

theorem readBraced?_digit {count high d : Nat} (hd : d < 16) (hcount : count < 6)
    (cs : List Char) :
    readBraced? count high (Nat.digitChar d :: cs) =
      readBraced? (count + 1) (16 * high + d) cs := by
  obtain ⟨hbrace, hline⟩ := digitChar_ne hd
  rw [readBraced?]
  simp [hbrace, hline, hexDigit?_digitChar hd, Nat.ne_of_lt hcount]

/-- Up to six digits are read for the number that they spell. -/
theorem readBraced?_hex {n : Nat} (hn : (hex n).length ≤ 6) (cs : List Char) :
    readBraced? 0 0 (hex n ++ cs) = readBraced? (hex n).length n cs := by
  unfold hex at hn ⊢
  induction n using Nat.strongRecOn generalizing cs with
  | ind n ih =>
    by_cases hlt : n < 16
    · rw [Nat.toDigits_of_lt_base hlt, List.singleton_append, readBraced?_digit hlt (by decide)]
      simp
    · -- all digits but the last one spell the sixteenth part
      have hsplit := Nat.toDigits_of_base_le (b := 16) (by decide) (Nat.not_lt.1 hlt)
      rw [hsplit, List.length_append, List.length_singleton] at hn
      rw [hsplit, List.append_assoc, List.length_append, ih (n / 16) (by omega) (by omega) _,
        List.singleton_append, readBraced?_digit (Nat.mod_lt n (by decide)) (by omega),
        Nat.div_add_mod]
      rfl

theorem length_hex_toNat (c : Char) : (hex c.toNat).length ≤ 6 := by
  have hvalid : c.toNat.isValidChar := c.valid
  unfold hex
  rw [Nat.length_toDigits_le_iff (by decide) (by decide)]
  rcases hvalid with h | ⟨-, h⟩
  · exact Nat.lt_trans h (by decide)
  · exact Nat.lt_trans h (by decide)

theorem scalar?_toNat (c : Char) : scalar? c.toNat = some c := by
  have hvalid : c.toNat.isValidChar := c.valid
  unfold scalar?
  rw [if_pos hvalid, Char.ofNat_toNat]

/-- A code point is read back from its digits. -/
theorem readBraced?_codePoint (c : Char) (cs : List Char) :
    readBraced? 0 0 (hex c.toNat ++ '}' :: cs) = some (c, cs) := by
  have hdigits : hex c.toNat ≠ [] := Nat.toDigits_ne_nil
  rw [readBraced?_hex (length_hex_toNat c), readBraced?]
  simp [hdigits, scalar?_toNat]

/-! ## Texts between quotes -/

theorem readQuoted?_escape {content : Content} {cs cs' : List Char} {c : Char}
    (hbreak : startsBreak cs = false) (h : readEscape? content cs = some (c, cs')) :
    readQuoted? content ('\\' :: cs) = (readQuoted? content cs').map fun r => (c :: r.1, r.2) := by
  rw [readQuoted?]
  simp only [hbreak, Bool.false_eq_true, if_false]
  split
  · next c₁ cs₁ h₁ =>
    obtain ⟨rfl, rfl⟩ : c = c₁ ∧ cs' = cs₁ := by simpa [h] using h₁
    rfl
  · next h₁ => simp [h] at h₁

theorem readQuoted?_plain {content : Content} {c : Char} (hquote : c ≠ '"') (hslash : c ≠ '\\')
    (hreturn : c ≠ '\r') (hc : content.admits c) (cs : List Char) :
    readQuoted? content (c :: cs) = (readQuoted? content cs).map fun r => (c :: r.1, r.2) := by
  rw [readQuoted?]
  all_goals simp_all

/-- **A character is read back** from its escape. -/
theorem readQuoted?_char (c : Char) (cs : List Char) :
    readQuoted? .characters (escape c ++ cs) =
      (readQuoted? .characters cs).map fun r => (c :: r.1, r.2) := by
  unfold escape
  split_ifs with hzero htab hline hreturn hquote hslash hplain
  · subst hzero
    exact readQuoted?_escape rfl rfl
  · subst htab
    exact readQuoted?_escape rfl rfl
  · subst hline
    exact readQuoted?_escape rfl rfl
  · subst hreturn
    exact readQuoted?_escape rfl rfl
  · subst hquote
    exact readQuoted?_escape rfl rfl
  · subst hslash
    exact readQuoted?_escape rfl rfl
  · exact readQuoted?_plain hquote hslash hreturn rfl cs
  · have hread : readEscape? .characters ('u' :: '{' :: (hex c.toNat ++ '}' :: cs)) =
        some (c, cs) := by
      simp only [readEscape?, readBraced?_codePoint]
      simp
    have hcode : codePoint c ++ cs = '\\' :: 'u' :: '{' :: (hex c.toNat ++ '}' :: cs) := by
      simp [codePoint]
    rw [hcode]
    exact readQuoted?_escape rfl hread

/-- **A text is read back** from what stands between the quotes, up to the closing one. -/
theorem readQuoted?_literalBody (cs rest : List Char) :
    readQuoted? .characters (literalBody cs ++ '"' :: rest) = some (cs, rest) := by
  fun_induction literalBody cs with
  | case1 => rw [List.nil_append, readQuoted?]
  | case2 c cs ih =>
    -- both escapes of the zero character stand for it, whatever digit follows
    have hcode (cs : List Char) : readQuoted? .characters (['\\', 'x', '0', '0'] ++ cs) =
        (readQuoted? .characters cs).map fun r => ('\x00' :: r.1, r.2) :=
      readQuoted?_escape rfl rfl
    have hletter (cs : List Char) : readQuoted? .characters (['\\', '0'] ++ cs) =
        (readQuoted? .characters cs).map fun r => ('\x00' :: r.1, r.2) :=
      readQuoted?_escape rfl rfl
    rw [List.append_assoc]
    split
    · rw [hcode, ih]
      rfl
    · rw [hletter, ih]
      rfl
  | case3 c cs hc ih =>
    rw [List.append_assoc, readQuoted?_char, ih]
    rfl

/-! ## Literals -/

/-- The literal of a text. -/
def ofText (s : String) : Literal := ⟨Text.Quoted.literal s, .text s⟩

theorem toList_spelling (s : String) (rest : List Char) :
    (ofText s).spelling.toList ++ rest = '"' :: (literalBody s.toList ++ '"' :: rest) := by
  simp [ofText, Text.Quoted.literal]

/-- **The literal of a text is read back** where no name goes on right behind it. -/
theorem read?_ofText (s : String) {rest : List Char} (hrest : (splitSuffix rest).2 = rest) :
    read? ((ofText s).spelling.toList ++ rest) = some (ofText s, rest) := by
  have hbody : readQuoted? .characters (literalBody s.toList ++ '"' :: rest) =
      some (s.toList, rest) := readQuoted?_literalBody s.toList rest
  have hvalue : readValue? ('"' :: (literalBody s.toList ++ '"' :: rest)) =
      some (.text s, rest) := by
    simp only [readValue?, hbody, Option.map_some, String.ofList_toList, hrest]
  rw [read?, toList_spelling, hvalue, ← toList_spelling]
  simp [ofText]

end Vigil.Source.Literal
