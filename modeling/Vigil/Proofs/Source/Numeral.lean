import Vigil.Proofs.Source.Literal
import Vigil.Source.Lexeme
import Mathlib.Data.List.Induction
import Mathlib.Data.Nat.Digits.Defs

/-!
# Whole numbers as they are spelled

A whole number is spelled with digits of a base, underscores between them, a mark in front that
names the base unless it is ten, and a suffix behind. However it is spelled, it is read as its
value, as long as the text goes on with something that separates it.

* `isGap_of_isIdentifierRest`: **what may be part of a name is no blank**, character by character.
* `Ends`: what may follow a value.
* `Spells`: these characters spell a literal of this value, whatever follows.
* `Places`: digits of a base with separators among them, and their value.
* `spells_integer`: **a whole number is read as its value**, in every base and with any suffix.
-/

namespace Vigil

/-! ## Characters -/

namespace Text

variable {c : Char}

theorem isAlpha_iff : c.isAlpha = true ↔
    (65 ≤ c.toNat ∧ c.toNat ≤ 90) ∨ (97 ≤ c.toNat ∧ c.toNat ≤ 122) := by
  have hletter : c.isAlpha =
      (decide (65 ≤ c.val ∧ c.val ≤ 90) || (decide (97 ≤ c.val) && decide (c.val ≤ 122))) := rfl
  simp [hletter, UInt32.le_iff_toNat_le]

theorem isDigit_iff : c.isDigit = true ↔ 48 ≤ c.toNat ∧ c.toNat ≤ 57 := by
  simp [Char.isDigit, UInt32.le_iff_toNat_le]

/-- A hexadecimal digit is a digit or a letter. -/
theorem isDigit_or_isAlpha_of_hexDigit? {d : Nat} (h : hexDigit? c = some d) :
    c.isDigit = true ∨ c.isAlpha = true := by
  unfold hexDigit? at h
  split_ifs at h with hdigit hlower hupper
  · exact .inl hdigit
  · have hrange : 97 ≤ c.toNat ∧ c.toNat ≤ 102 := by
      simpa [Char.le_def, UInt32.le_iff_toNat_le] using hlower
    exact .inr (isAlpha_iff.2 (.inr (by omega)))
  · have hrange : 65 ≤ c.toNat ∧ c.toNat ≤ 70 := by
      simpa [Char.le_def, UInt32.le_iff_toNat_le] using hupper
    exact .inr (isAlpha_iff.2 (.inl (by omega)))

theorem inRanges_iff {ranges : List (Nat × Nat)} {k : Nat} :
    inRanges ranges k = true ↔ ∃ r ∈ ranges, r.1 ≤ k ∧ k ≤ r.2 := by
  simp [inRanges]

/-- The code points of the characters that a name may hold. -/
def nameRanges : List (Nat × Nat) :=
  [(0x30, 0x39), (0x41, 0x5A), (0x5F, 0x5F), (0x61, 0x7A)] ++ identifierStartRanges ++
    identifierRestRanges

theorem inRanges_of_isIdentifierRest (h : isIdentifierRest c = true) :
    inRanges nameRanges c.toNat = true := by
  simp only [isIdentifierRest, isIdentifierStart, Bool.or_eq_true, Bool.and_eq_true, beq_iff_eq,
    isAlpha_iff, isDigit_iff] at h
  simp only [inRanges, nameRanges, List.any_append, List.any_cons, List.any_nil, Bool.or_eq_true,
    Bool.and_eq_true, decide_eq_true_eq]
  rcases h with (((hletter | rfl) | ⟨-, h⟩) | hdigit) | ⟨-, h⟩
  · omega
  · exact .inl (.inl (by decide))
  · exact .inl (.inr h)
  · omega
  · exact .inr h

end Text

namespace Source.Literal

open Text (hexDigit? inRanges nameRanges isIdentifierStart isIdentifierRest)

/-! ## What separates -/

/-- The code points of the characters that only separate tokens. -/
def gapRanges : List (Nat × Nat) :=
  [(0x09, 0x0D), (0x20, 0x20), (0x85, 0x85), (0xA0, 0xA0), (0x1680, 0x1680), (0x2000, 0x200A),
   (0x200E, 0x200F), (0x2028, 0x2029), (0x202F, 0x202F), (0x205F, 0x205F), (0x3000, 0x3000)]

theorem inRanges_of_isGap {c : Char} (h : isGap c = true) : inRanges gapRanges c.toNat = true := by
  simp only [isGap, Bool.or_eq_true, beq_iff_eq] at h
  rcases h with (h | rfl) | rfl
  · simp only [Text.isBlank, Bool.or_eq_true, Bool.and_eq_true, decide_eq_true_eq, beq_iff_eq] at h
    simp only [inRanges, gapRanges, List.any_cons, List.any_nil, Bool.or_eq_true, Bool.and_eq_true,
      decide_eq_true_eq]
    omega
  · rfl
  · rfl

/-- **What may be part of a name is no blank**: no range of the one has a code point of the
other. -/
theorem isGap_of_isIdentifierRest {c : Char} (hc : isIdentifierRest c = true) :
    isGap c = false := by
  have hapart : (nameRanges.all fun r => gapRanges.all fun s => r.2 < s.1 || s.2 < r.1) = true := by
    decide +kernel
  simp only [List.all_eq_true, Bool.or_eq_true, decide_eq_true_eq] at hapart
  by_contra hgap
  obtain ⟨r, hr, hname⟩ := Text.inRanges_iff.1 (Text.inRanges_of_isIdentifierRest hc)
  obtain ⟨s, hs, hblank⟩ := Text.inRanges_iff.1 (inRanges_of_isGap (by simpa using hgap))
  have hrs := hapart r hr s hs
  omega

/-- A character that may follow a value: a comma, the beginning of a comment or a blank. -/
def Separates (c : Char) : Prop := c = ',' ∨ c = '/' ∨ isGap c = true

/-- **What separates is no part of a name**, and no point. -/
theorem Separates.apart {c : Char} (h : Separates c) : isIdentifierRest c = false ∧ c ≠ '.' := by
  rcases h with rfl | rfl | h
  · decide
  · decide
  · constructor
    · by_contra hname
      simp [isGap_of_isIdentifierRest (by simpa using hname)] at h
    · rintro rfl
      exact absurd h (by decide)

/-- A value may end in front of this text. -/
def Ends (rest : List Char) : Prop := ∀ c ∈ rest.head?, Separates c

/-- **These characters spell a literal of this value**, wherever it ends. -/
def Spells (cs : List Char) (v : Value) : Prop :=
  ∀ rest, Ends rest → read? (cs ++ rest) = some (⟨String.ofList cs, v⟩, rest)

/-! ## Digits -/

/-- What names a base in front of the digits. -/
inductive Base : List Char → Nat → Prop
  | decimal : Base [] 10
  | hexadecimal : Base ['0', 'x'] 16
  | octal : Base ['0', 'o'] 8
  | binary : Base ['0', 'b'] 2

/-- **Digits of a base with separators among them**, of this value: at least one digit, and none of
ten behind a separator alone. -/
structure Places (base : Nat) (places : List Char) (n : Nat) : Prop where
  digit : ∀ c ∈ places, c = '_' ∨ ∃ d < base, hexDigit? c = some d
  ne_nil : places.filterMap hexDigit? ≠ []
  head : base = 10 → places.head? ≠ some '_'
  value : Nat.ofDigits base (places.filterMap hexDigit?).reverse = n

theorem any_hexDigit?_iff {base : Nat} {c : Char} :
    (hexDigit? c).any (· < base) = true ↔ ∃ d < base, hexDigit? c = some d := by
  cases hexDigit? c <;> simp

/-- Whether digits have a value is computed digit by digit. -/
instance (base : Nat) (places : List Char) (n : Nat) : Decidable (Places base places n) :=
  decidable_of_iff
    ((places.all fun c => c == '_' || (hexDigit? c).any (· < base)) = true ∧
      places.filterMap hexDigit? ≠ [] ∧ (base = 10 → places.head? ≠ some '_') ∧
      Nat.ofDigits base (places.filterMap hexDigit?).reverse = n) <| by
    simp only [List.all_eq_true, Bool.or_eq_true, beq_iff_eq, any_hexDigit?_iff]
    exact ⟨fun ⟨hdigit, hne, hhead, hvalue⟩ => ⟨hdigit, hne, hhead, hvalue⟩,
      fun h => ⟨h.digit, h.ne_nil, h.head, h.value⟩⟩

/-- A suffix that does not go on with the number: nothing, or a name that begins with no digit of
the base and none of the letters for exponents and bases. -/
def Follows (base : Nat) : List Char → Prop
  | [] => True
  | c :: cs => isIdentifierStart c = true ∧ cs.all isIdentifierRest = true ∧
      isNumeral base c = false ∧ c ∉ ['e', 'E', 'x', 'o', 'b']

instance (base : Nat) : (suffix : List Char) → Decidable (Follows base suffix)
  | [] => .isTrue trivial
  | c :: cs => inferInstanceAs (Decidable (isIdentifierStart c = true ∧
      cs.all isIdentifierRest = true ∧ isNumeral base c = false ∧ c ∉ ['e', 'E', 'x', 'o', 'b']))

variable {base n : Nat} {mark places suffix rest : List Char} {c : Char}

/-- The value of digits is that of their list, the last one first. -/
theorem magnitude_eq (base : Nat) (cs : List Char) :
    magnitude base cs = Nat.ofDigits base (cs.filterMap hexDigit?).reverse := by
  induction cs using List.reverseRecOn with
  | nil => rfl
  | append_singleton cs c ih =>
    have hstep : magnitude base (cs ++ [c]) =
        (hexDigit? c).elim (magnitude base cs) (base * magnitude base cs + ·) := by
      simp only [magnitude, List.foldl_append, List.foldl_cons, List.foldl_nil]
      cases hexDigit? c <;> rfl
    rw [hstep, ih]
    cases hc : hexDigit? c with
    | none => simp [hc]
    | some d => simp [hc, Nat.ofDigits_cons, Nat.add_comm]

theorem isDigit_of_hexDigit? {d : Nat} (h : hexDigit? c = some d) (hd : d < 10) :
    c.isDigit = true := by
  unfold hexDigit? at h
  split_ifs at h with hdigit
  · exact hdigit
  all_goals
    simp only [Option.some.injEq] at h
    omega

theorem Places.isNumeral (h : Places base places n) (hbase : Base mark base) :
    ∀ c ∈ places, isNumeral base c = true := by
  intro c hc
  rcases h.digit c hc with rfl | ⟨d, hd, hdigit⟩
  · rfl
  · unfold Literal.isNumeral isPlace
    cases hbase with
    | hexadecimal => simp [hdigit]
    | decimal | octal | binary => simp [isDigit_of_hexDigit? hdigit (by omega)]

/-- A digit of any base may be part of a name. -/
theorem isIdentifierRest_of_isNumeral (h : isNumeral base c = true) :
    isIdentifierRest c = true := by
  simp only [Literal.isNumeral, isPlace, Bool.or_eq_true, Bool.and_eq_true, beq_iff_eq] at h
  rcases h with (hdigit | rfl) | ⟨-, hhex⟩
  · simp [isIdentifierRest, hdigit]
  · rfl
  · obtain ⟨d, hd⟩ := Option.isSome_iff_exists.1 hhex
    rcases Text.isDigit_or_isAlpha_of_hexDigit? hd with hletter | hletter <;>
      simp [isIdentifierRest, isIdentifierStart, hletter]

/-- Behind a number comes no digit. -/
theorem isNumeral_of_separates (h : Separates c) (base : Nat) : isNumeral base c = false := by
  by_contra hnumeral
  have hname : isIdentifierRest c = true := isIdentifierRest_of_isNumeral (by simpa using hnumeral)
  exact absurd (hname.symm.trans h.apart.1) (by decide)

/-- What comes behind the digits: neither a digit nor a point nor one of the letters. -/
theorem Follows.head (h : Follows base suffix) (hrest : Ends rest) :
    ∀ c ∈ (suffix ++ rest).head?,
      isNumeral base c = false ∧ c ∉ ['.', 'e', 'E', 'x', 'o', 'b'] := by
  cases suffix with
  | nil =>
    intro c hc
    have hc := hrest c hc
    refine ⟨isNumeral_of_separates hc base, fun hmem => ?_⟩
    obtain rfl | hletter := List.mem_cons.1 hmem
    · exact hc.apart.2 rfl
    · have hall : ['e', 'E', 'x', 'o', 'b'].all isIdentifierRest = true := rfl
      exact absurd ((List.all_eq_true.1 hall c hletter).symm.trans hc.apart.1) (by decide)
  | cons d ds =>
    intro c hc
    obtain rfl : d = c := by simpa using hc
    obtain ⟨hstart, -, hnumeral, hletter⟩ := h
    refine ⟨hnumeral, ?_⟩
    have hpoint : d ≠ '.' := by
      rintro rfl
      exact absurd hstart (by decide)
    simp_all

theorem takeWhile_of_head {p : Char → Bool} {front back : List Char} (hfront : ∀ c ∈ front, p c)
    (hback : ∀ c ∈ back.head?, p c = false) :
    (front ++ back).takeWhile p = front ∧ (front ++ back).dropWhile p = back := by
  rw [List.takeWhile_append_of_pos hfront, List.dropWhile_append_of_pos hfront]
  cases back with
  | nil => simp
  | cons c back => simp [hback c rfl]

/-- The suffix is split off whole. -/
theorem Follows.split (h : Follows base suffix) (hrest : Ends rest) :
    splitSuffix (suffix ++ rest) = (suffix, rest) := by
  cases suffix with
  | nil =>
    cases rest with
    | nil => rfl
    | cons c rest =>
      have hname := (hrest c rfl).apart.1
      have hstart : isIdentifierStart c = false := by
        simp only [isIdentifierRest, Bool.or_eq_false_iff] at hname
        exact hname.1.1
      simp [splitSuffix, hstart]
  | cons c cs =>
    obtain ⟨hstart, hcs, -⟩ := h
    have hsplit := takeWhile_of_head (p := isIdentifierRest) (List.all_eq_true.1 hcs)
      (fun d hd => (hrest d hd).apart.1)
    simp only [List.cons_append, splitSuffix, hstart, if_true, hsplit.1, hsplit.2]

/-! ## Whole numbers -/

/-- Without a mark the base is ten. -/
theorem splitBase_cases (cs : List Char) : splitBase cs = (10, cs) ∨
    ∃ c base rest, c ∈ ['x', 'o', 'b'] ∧ cs = '0' :: c :: rest ∧ splitBase cs = (base, rest) := by
  unfold splitBase
  split
  · exact .inr ⟨_, _, _, by simp, rfl, rfl⟩
  · exact .inr ⟨_, _, _, by simp, rfl, rfl⟩
  · exact .inr ⟨_, _, _, by simp, rfl, rfl⟩
  · exact .inl rfl

/-- The mark of a base is split off. -/
theorem splitBase_append (hbase : Base mark base) (h : Places base places n)
    (hsuffix : Follows base suffix) (hrest : Ends rest) :
    splitBase (mark ++ (places ++ (suffix ++ rest))) = (base, places ++ (suffix ++ rest)) := by
  cases hbase with
  | hexadecimal | octal | binary => rfl
  | decimal =>
    have hmark {d : Char} {cs : List Char} (hd : d ∈ ['x', 'o', 'b'])
        (heq : places ++ (suffix ++ rest) = '0' :: d :: cs) : False := by
      have hletter : d ∈ ['.', 'e', 'E', 'x', 'o', 'b'] ∧ d ≠ '_' ∧ d.isDigit = false := by
        obtain rfl | rfl | rfl : d = 'x' ∨ d = 'o' ∨ d = 'b' := by simpa using hd
        all_goals decide
      -- the letter is a digit, or it comes behind all digits
      rcases List.append_eq_cons_iff.1 heq with ⟨hnil, -⟩ | ⟨more, hmore, hcs⟩
      · exact h.ne_nil (by rw [hnil]; rfl)
      · rcases List.cons_eq_append_iff.1 hcs with ⟨-, hhead⟩ | ⟨more', rfl, -⟩
        · exact (hsuffix.head hrest d (by rw [hhead]; rfl)).2 hletter.1
        · rcases h.digit d (by simp [hmore]) with hline | ⟨k, hk, hdigit⟩
          · exact hletter.2.1 hline
          · simp [isDigit_of_hexDigit? hdigit hk] at hletter
    rcases splitBase_cases (places ++ (suffix ++ rest)) with hten | ⟨_, _, _, hd, heq, -⟩
    · exact hten
    · exact (hmark hd heq).elim

theorem readInteger?_append (hbase : Base mark base) (h : Places base places n)
    (hsuffix : Follows base suffix) (hrest : Ends rest) :
    readInteger? (mark ++ (places ++ (suffix ++ rest))) = some (n, suffix ++ rest) := by
  obtain ⟨htake, hdrop⟩ := takeWhile_of_head (h.isNumeral hbase)
    (fun c hc => (hsuffix.head hrest c hc).1)
  have hdigits : places.filter (· != '_') ≠ [] := by
    intro hnil
    refine h.ne_nil (List.filterMap_eq_nil_iff.2 ?_)
    intro c hc
    have hline := List.filter_eq_nil_iff.1 hnil c hc
    obtain rfl : c = '_' := by simpa using hline
    rfl
  have hsmall : (places.filter (· != '_')).any (fun c => base ≤ (hexDigit? c).getD 0) = false := by
    rw [List.any_eq_false]
    intro c hc
    obtain ⟨hc, hline⟩ := List.mem_filter.1 hc
    rcases h.digit c hc with rfl | ⟨d, hd, hdigit⟩
    · simp at hline
    · simpa [hdigit] using hd
  have hhead : (base == 10 && places.head? == some '_') = false := by
    simpa using h.head
  have hvalue : magnitude base places = n := (magnitude_eq base places).trans h.value
  simp only [readInteger?, splitBase_append hbase h hsuffix hrest, htake, hdrop, hdigits, hhead,
    hsmall, hvalue, decide_false, Bool.or_false, Bool.false_eq_true, if_false]

/-- No point and no exponent follows the digits. -/
theorem skipFraction?_append (hbase : Base mark base) (h : Places base places n)
    (hsuffix : Follows base suffix) (hrest : Ends rest) :
    skipFraction? (mark ++ (places ++ (suffix ++ rest))) = none := by
  -- what follows the decimal places decides
  have hplain {cs : List Char} (tail : List Char) (htail : cs.dropWhile isPlace = tail)
      (hhead : ∀ c ∈ tail.head?, c ∉ ['.', 'e', 'E']) : skipFraction? cs = none := by
    cases cs with
    | nil => rfl
    | cons c cs =>
      unfold skipFraction?
      cases tail with
      | nil => simp [htail]
      | cons d tail =>
        have hd := hhead d rfl
        simp only [List.mem_cons, List.not_mem_nil, or_false, not_or] at hd
        simp [htail, hd]
  cases hbase with
  | hexadecimal => exact hplain ('x' :: (places ++ (suffix ++ rest))) rfl (by simp)
  | octal => exact hplain ('o' :: (places ++ (suffix ++ rest))) rfl (by simp)
  | binary => exact hplain ('b' :: (places ++ (suffix ++ rest))) rfl (by simp)
  | decimal =>
    have hplaces : ∀ c ∈ places, isPlace c = true := by
      intro c hc
      have hc := h.isNumeral .decimal c hc
      simpa [isNumeral] using hc
    have htail : ∀ c ∈ (suffix ++ rest).head?, isPlace c = false := by
      intro c hc
      have hc := (hsuffix.head hrest c hc).1
      simpa [isNumeral] using hc
    refine hplain _ (takeWhile_of_head hplaces htail).2 ?_
    intro c hc
    have hc := (hsuffix.head hrest c hc).2
    simp_all

/-- The first character of a whole number is a digit. -/
theorem head_isDigit (hbase : Base mark base) (h : Places base places n) (cs : List Char) :
    ∃ c tail, mark ++ (places ++ cs) = c :: tail ∧ c.isDigit = true := by
  cases hbase with
  | hexadecimal | octal | binary => exact ⟨'0', _, rfl, rfl⟩
  | decimal =>
    cases hplaces : places with
    | nil => exact absurd (by rw [hplaces]; rfl) h.ne_nil
    | cons c tail =>
      refine ⟨c, tail ++ cs, rfl, ?_⟩
      rcases h.digit c (by simp [hplaces]) with rfl | ⟨d, hd, hdigit⟩
      · exact absurd (by rw [hplaces]; rfl) (h.head rfl)
      · exact isDigit_of_hexDigit? hdigit hd

/-- **No number begins with anything but a digit.** -/
theorem readNumber?_of_head (hc : c.isDigit = false) (cs : List Char) :
    readNumber? (c :: cs) = none := by
  have hfraction : skipFraction? (c :: cs) = none := by
    simp [skipFraction?, hc]
  have hbase : splitBase (c :: cs) = (10, c :: cs) := by
    rcases splitBase_cases (c :: cs) with hten | ⟨_, _, _, -, heq, -⟩
    · exact hten
    · obtain ⟨rfl, -⟩ := List.cons.inj heq
      exact absurd hc (by decide)
  -- what is no digit can only be a separator, and no number begins with one
  have hinteger : readInteger? (c :: cs) = none := by
    unfold readInteger?
    rw [hbase]
    by_cases hline : c = '_'
    · simp [hline, Literal.isNumeral, isPlace]
    · simp [hline, hc, Literal.isNumeral, isPlace]
  simp [readNumber?, hfraction, hinteger]

/-- A text that begins with a digit begins with a number if with any literal. -/
theorem readValue?_of_isDigit (hc : c.isDigit = true) (cs : List Char) :
    readValue? (c :: cs) = readNumber? (c :: cs) := by
  unfold readValue?
  split
  all_goals first
    | rfl
    | (rename_i heq
       obtain ⟨rfl, -⟩ := List.cons.inj heq
       exact absurd hc (by decide))

/-- **A whole number is read as its value**, in every base, with separators between its digits and
with any suffix. -/
theorem spells_integer (hbase : Base mark base) (h : Places base places n)
    (hsuffix : Follows base suffix) : Spells (mark ++ places ++ suffix) (.integer n suffix) := by
  intro rest hrest
  obtain ⟨c, tail, htext, hc⟩ := head_isDigit hbase h (suffix ++ rest)
  have hends : endsWord rest = true := by
    cases rest with
    | nil => rfl
    | cons d rest => simp [endsWord, (hrest d rfl).apart.1]
  have hnumber : readNumber? (mark ++ (places ++ (suffix ++ rest))) =
      some (.integer n suffix, rest) := by
    simp [readNumber?, skipFraction?_append hbase h hsuffix hrest,
      readInteger?_append hbase h hsuffix hrest, hsuffix.split hrest, hends]
  have hvalue : readValue? (mark ++ (places ++ (suffix ++ rest))) =
      some (.integer n suffix, rest) := by
    rw [htext, readValue?_of_isDigit hc, ← htext, hnumber]
  have htext : mark ++ places ++ suffix ++ rest = mark ++ (places ++ (suffix ++ rest)) := by
    simp only [List.append_assoc]
  rw [read?, htext, hvalue, ← htext, Option.map_some, List.length_append, Nat.add_sub_cancel,
    List.take_left]

end Source.Literal

end Vigil
