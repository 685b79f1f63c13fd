import Vigil.Proofs.Source.Numeral

/-!
# Tokens and what stands between them

Blanks and comments separate tokens and leave no trace. What a text is made of is therefore told
token by token, each with the gap in front of it and the text behind it left open.

* `Gap`: characters that are skipped in front of any token.
* `Lexes`: a text is made of these tokens, whatever was read in front of it.
* `spells_ofText`: the literal of a text, with whatever escapes it needs, spells the text.
* `Lexes.literal`, `Lexes.mark`, `Lexes.word`: **one token more in front of the others**.
* `tokens?_of_lexes`: the tokens of a whole text.
-/

namespace Vigil.Source

open Literal (Ends Spells Separates splitSuffix takeWhile_of_head isGap_of_isIdentifierRest)
open Text (isIdentifierStart isIdentifierRest)

variable {c : Char} {cs rest g : List Char} {t : Token} {ts : List Token}

/-! ## Gaps -/

/-- **Characters that only separate**: blanks and comments, skipped whatever comes next. -/
def Gap (g : List Char) : Prop :=
  ∀ rest, skipGap? rest = none →
    ∀ fuel, (g ++ rest).length ≤ fuel → skipGaps fuel (g ++ rest) = rest

theorem skipGaps_of_none (h : skipGap? cs = none) (fuel : Nat) : skipGaps fuel cs = cs := by
  cases fuel with
  | zero => rfl
  | succ fuel => simp only [skipGaps, h]

theorem gap_nil : Gap [] := fun _ hrest fuel _ => skipGaps_of_none hrest fuel

/-- Every comment begins with a slash. -/
theorem startsNote_of_ne (hc : c ≠ '/') (cs : List Char) : startsNote (c :: cs) = false := by
  unfold startsNote
  split
  case h_8 => rfl
  all_goals exact absurd (List.cons.inj ‹_›).1 hc

theorem skipGap?_of_ne (hc : c ≠ '/') (cs : List Char) :
    skipGap? (c :: cs) = if isGap c then some cs else none := by
  unfold skipGap?
  rw [startsNote_of_ne hc, if_neg Bool.false_ne_true]
  split
  · exact absurd (List.cons.inj ‹_›).1 hc
  · exact absurd (List.cons.inj ‹_›).1 hc
  · next heq =>
    obtain ⟨rfl, rfl⟩ := List.cons.inj heq
    rfl
  · exact absurd ‹_› (List.cons_ne_nil c cs)

theorem skipGap?_of_isGap (hc : isGap c = true) (cs : List Char) :
    skipGap? (c :: cs) = some cs := by
  have hslash : c ≠ '/' := by
    rintro rfl
    exact absurd hc (by decide)
  rw [skipGap?_of_ne hslash, if_pos hc]

theorem Gap.blank (hc : isGap c = true) (hg : Gap g) : Gap (c :: g) := by
  intro rest hrest fuel hfuel
  obtain ⟨fuel, rfl⟩ : ∃ k, fuel = k + 1 := ⟨fuel - 1, by simp at hfuel; omega⟩
  simp only [List.cons_append, skipGaps, skipGap?_of_isGap hc]
  exact hg rest hrest fuel (by simpa using hfuel)

/-- A gap begins with a blank or a comment. -/
theorem Gap.ends (hg : Gap g) : Ends g := by
  intro c hc
  obtain ⟨cs, rfl⟩ := List.head?_eq_some_iff.1 hc
  by_contra hnot
  obtain ⟨-, hslash, hblank⟩ : c ≠ ',' ∧ c ≠ '/' ∧ isGap c = false := by
    simpa [Separates, not_or] using hnot
  have hnone : skipGap? (c :: cs) = none := by
    rw [skipGap?_of_ne hslash, hblank, if_neg Bool.false_ne_true]
  have hskip := hg [] rfl _ (Nat.le_refl _)
  rw [List.append_nil, skipGaps_of_none hnone] at hskip
  cases hskip

theorem Gap.ends_append (hg : Gap g) (hrest : Ends rest) : Ends (g ++ rest) := by
  cases g with
  | nil => exact hrest
  | cons c g => exact fun d hd => hg.ends d hd

/-! ## One token -/

/-- A character that begins a token other than a group: neither a blank nor a slash nor one of the
delimiters. -/
structure Begins (c : Char) : Prop where
  solid : isGap c = false
  apart : c ∉ ['/', '(', ')', '[', ']', '{', '}']

theorem Begins.ne_slash (hc : Begins c) : c ≠ '/' := fun h => hc.apart (by simp [h])

theorem Begins.skipGap?_eq (hc : Begins c) (cs : List Char) : skipGap? (c :: cs) = none := by
  rw [skipGap?_of_ne hc.ne_slash, hc.solid, if_neg Bool.false_ne_true]

/-- **A token behind a gap** is read, and the text behind it is left. -/
theorem collect?_begins (hg : Gap g) (hc : Begins c) (cs : List Char) (fuel : Nat)
    (outer : List (Delimiter × List Token)) (before : List Token) :
    collect? (fuel + 1) outer before (g ++ c :: cs) =
      match readLeaf? (c :: cs) with
      | some (t, rest) => collect? fuel outer (t :: before) rest
      | none => none := by
  have hgaps := hg _ (hc.skipGap?_eq cs) _ (Nat.le_refl _)
  have hnote : readNote? (c :: cs) = none := by
    unfold readNote?
    rw [startsNote_of_ne hc.ne_slash]
    rfl
  have hapart := hc.apart
  simp only [List.mem_cons, List.not_mem_nil, or_false, not_or] at hapart
  have hlost : lostLiteral.toList.isPrefixOf (c :: cs) = false := by
    show ('(' == c && _) = false
    simp [Ne.symm hapart.2.1]
  have hopened : opened? c = none := by simp [opened?, hapart]
  have hclosed : closed? c = none := by simp [closed?, hapart]
  rw [collect?]
  cases hleaf : readLeaf? (c :: cs) <;>
    simp only [hgaps, hnote, hlost, hopened, hclosed, hleaf, Bool.false_eq_true, if_false]

/-! ## Made of tokens -/

/-- **A text is made of these tokens**, whatever was read in front of it. -/
def Lexes (cs : List Char) (ts : List Token) : Prop :=
  ∀ fuel before, cs.length < fuel → collect? fuel [] before cs = some (ts.reverse ++ before)

theorem Lexes.gap (hg : Gap g) : Lexes g [] := by
  intro fuel before hfuel
  obtain ⟨fuel, rfl⟩ : ∃ k, fuel = k + 1 := ⟨fuel - 1, by omega⟩
  have hgaps := hg [] rfl _ (Nat.le_refl _)
  rw [List.append_nil] at hgaps
  rw [collect?]
  simp only [hgaps]
  rfl

theorem Lexes.leaf (h : Lexes rest ts) (hg : Gap g) (hc : Begins c)
    (hleaf : readLeaf? (c :: cs) = some (t, rest)) (hlength : rest.length ≤ cs.length) :
    Lexes (g ++ c :: cs) (t :: ts) := by
  intro fuel before hfuel
  obtain ⟨fuel, rfl⟩ : ∃ k, fuel = k + 1 := ⟨fuel - 1, by omega⟩
  simp only [collect?_begins hg hc, hleaf]
  rw [h fuel _ (by simp at hfuel; omega)]
  simp

/-- A literal begins with a digit, a quote or the letter in front of one. -/
theorem head_of_readValue? {r : Literal.Value × List Char}
    (h : Literal.readValue? cs = some r) :
    ∃ c tail, cs = c :: tail ∧ (c.isDigit = true ∨ c ∈ ['"', '\'', 'r', 'b', 'c']) := by
  unfold Literal.readValue? at h
  split at h
  case h_9 =>
    cases cs with
    | nil => cases h
    | cons c tail =>
      refine ⟨c, tail, rfl, .inl ?_⟩
      by_contra hdigit
      rw [Literal.readNumber?_of_head (by simpa using hdigit)] at h
      cases h
  all_goals exact ⟨_, _, rfl, .inr (by decide)⟩

/-- No literal begins with any other character. -/
theorem read?_of_head (hdigit : c.isDigit = false) (hc : c ∉ ['"', '\'', 'r', 'b', 'c'])
    (cs : List Char) : Literal.read? (c :: cs) = none := by
  unfold Literal.read?
  rw [Option.map_eq_none_iff, Option.eq_none_iff_forall_ne_some]
  intro r hr
  obtain ⟨_, _, heq, hhead⟩ := head_of_readValue? hr
  obtain ⟨rfl, -⟩ := List.cons.inj heq
  simp [hdigit, hc] at hhead

theorem begins_of_isDigit (hc : c.isDigit = true) : Begins c := by
  refine ⟨isGap_of_isIdentifierRest (by simp [isIdentifierRest, hc]), fun hmem => ?_⟩
  have hnot : (['/', '(', ')', '[', ']', '{', '}'].any Char.isDigit) = false := rfl
  simp [List.any_eq_false.1 hnot c hmem] at hc

/-- The literal of a text spells that text. -/
theorem spells_ofText (s : String) : Spells (Literal.ofText s).spelling.toList (.text s) := by
  intro rest hrest
  have hnothing : Literal.Follows 10 [] := trivial
  have hsuffix : splitSuffix rest = ([], rest) := hnothing.split hrest
  rw [Literal.read?_ofText s (by rw [hsuffix]), String.ofList_toList]
  rfl

/-- **A literal in front of the other tokens**. -/
theorem Lexes.literal {l : List Char} {v : Literal.Value} (h : Lexes rest ts) (hg : Gap g)
    (hl : Spells l v) (hrest : Ends rest) :
    Lexes (g ++ (l ++ rest)) (.literal ⟨String.ofList l, v⟩ :: ts) := by
  have hread : Literal.read? (l ++ rest) = some (⟨String.ofList l, v⟩, rest) := hl rest hrest
  obtain ⟨r, hvalue, -⟩ := Option.map_eq_some_iff.1 (hl [] (by simp [Ends]))
  rw [List.append_nil] at hvalue
  obtain ⟨c, tail, rfl, hc⟩ := head_of_readValue? hvalue
  have hbegins : Begins c := by
    rcases hc with hc | hc
    · exact begins_of_isDigit hc
    · simp only [List.mem_cons, List.not_mem_nil, or_false] at hc
      rcases hc with rfl | rfl | rfl | rfl | rfl
      all_goals exact ⟨rfl, by decide⟩
  refine h.leaf hg hbegins (t := .literal ⟨String.ofList (c :: tail), v⟩) ?_ (by simp)
  have hread' : Literal.read? (c :: (tail ++ rest)) = _ := hread
  show readLeaf? (c :: (tail ++ rest)) = _
  unfold readLeaf?
  rw [hread']

/-- **A punctuation character in front of the other tokens.** Whether another one follows depends on
them. -/
theorem Lexes.mark (h : Lexes rest ts) (hg : Gap g) (hc : c ∈ ['=', ',']) :
    ∃ joint, Lexes (g ++ c :: rest) (.mark c joint :: ts) := by
  obtain rfl | rfl : c = '=' ∨ c = ',' := by simpa using hc
  all_goals exact ⟨_, h.leaf hg ⟨rfl, by decide⟩ rfl (Nat.le_refl _)⟩

theorem startsMark_of_ne (hc : c ≠ '/') (cs : List Char) :
    startsMark (c :: cs) = marks.contains c := by
  unfold startsMark
  split
  · exact absurd (List.cons.inj ‹_›).1 hc
  · exact absurd (List.cons.inj ‹_›).1 hc
  · next heq => rw [(List.cons.inj heq).1]
  · exact absurd ‹_› (List.cons_ne_nil c cs)

/-- A letter that may begin a name begins nothing else, unless it is one in front of a quote. -/
theorem begins_of_isIdentifierStart (hc : isIdentifierStart c = true) (cs : List Char) :
    Begins c ∧ c ∉ ['"', '\''] ∧ startsMark (c :: cs) = false := by
  have hother {ds : List Char} (hds : ds.any isIdentifierStart = false) : c ∉ ds :=
    fun hmem => List.any_eq_false.1 hds c hmem hc
  have hbegins : Begins c :=
    ⟨isGap_of_isIdentifierRest (by simp [isIdentifierRest, hc]), hother (by decide)⟩
  refine ⟨hbegins, hother (by decide), ?_⟩
  have hmarks : c ∉ marks := hother (by decide)
  rw [startsMark_of_ne hbegins.ne_slash]
  simpa using hmarks

/-- A word that begins with none of the letters in front of a quote is a plain name. -/
theorem readWord?_of_letter (hletter : c ∉ ['r', 'b', 'c']) (cs : List Char) :
    readWord? (c :: cs) =
      if isIdentifierStart c then
        some (String.ofList (c :: cs.takeWhile isIdentifierRest), cs.dropWhile isIdentifierRest)
      else none := by
  simp only [List.mem_cons, List.not_mem_nil, or_false, not_or] at hletter
  have hr : ('r' == c) = false := by simpa using Ne.symm hletter.1
  have hb : ('b' == c) = false := by simpa using Ne.symm hletter.2.1
  have hc : ('c' == c) = false := by simpa using Ne.symm hletter.2.2
  have hstarts : literalStarts.any (fun start => start.toList.isPrefixOf (c :: cs)) = false := by
    simp [literalStarts, List.isPrefixOf, hr, hb, hc]
  rw [readWord?, hstarts]
  simp only [Bool.false_eq_true, if_false]
  unfold readName?
  split
  · simp_all
  · by_cases hstart : isIdentifierStart c = true <;> simp [splitSuffix, hstart]

/-- **A name in front of the other tokens**, if it begins with none of the letters that may stand
in front of a quote. -/
theorem Lexes.word (h : Lexes rest ts) (hg : Gap g) (name : List Char)
    (hrest : ∀ d ∈ rest.head?, isIdentifierRest d = false) (hstart : isIdentifierStart c = true)
    (hname : name.all isIdentifierRest = true) (hdigit : c.isDigit = false)
    (hletter : c ∉ ['r', 'b', 'c']) :
    Lexes (g ++ c :: (name ++ rest)) (.word (String.ofList (c :: name)) :: ts) := by
  obtain ⟨hbegins, hquote, hmark⟩ := begins_of_isIdentifierStart hstart (name ++ rest)
  have hliteral : Literal.read? (c :: (name ++ rest)) = none := by
    refine read?_of_head hdigit (fun hmem => ?_) _
    have hmem : c ∈ ['"', '\''] ++ ['r', 'b', 'c'] := hmem
    exact (List.mem_append.1 hmem).elim hquote hletter
  have hsplit := takeWhile_of_head (List.all_eq_true.1 hname) hrest
  have hword : readWord? (c :: (name ++ rest)) = some (String.ofList (c :: name), rest) := by
    rw [readWord?_of_letter hletter, if_pos hstart, hsplit.1, hsplit.2]
  have hsingle : c ≠ '\'' := fun heq => hquote (by simp [heq])
  refine h.leaf hg hbegins ?_ (by simp)
  unfold readLeaf?
  rw [hliteral]
  simp only [hmark, hword, Bool.false_eq_true, if_false, Option.map_some]

/-! ## The whole text -/

/-- **The tokens of a text** that is made of them. -/
theorem tokens?_of_lexes (h : Lexes cs ts) : tokens? (String.ofList cs) = some ts := by
  have hread := h (cs.length + 1) [] (Nat.lt_succ_self _)
  -- a mark of byte order is no token
  have hmark : ∀ tail, cs ≠ '\ufeff' :: tail := by
    rintro tail rfl
    have hleaf : readLeaf? ('\ufeff' :: tail) = none := by
      have hstart : isIdentifierStart '\ufeff' = false := by decide +kernel
      unfold readLeaf?
      rw [read?_of_head rfl (by decide) tail]
      simp only [readWord?_of_letter (c := '\ufeff') (by decide), hstart]
      rfl
    have hnone := collect?_begins gap_nil (c := '\ufeff') ⟨rfl, by decide⟩ tail
      (tail.length + 1) [] []
    rw [hleaf] at hnone
    exact nomatch hread.symm.trans hnone
  unfold tokens?
  rw [String.toList_ofList]
  split
  · exact absurd rfl (hmark _)
  · simp [hread]

end Vigil.Source
