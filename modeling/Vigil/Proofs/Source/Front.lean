import Vigil.Proofs.Source.Reading

/-!
# The first token

What can be said about a sequence of tokens from the kind of its first one alone. There are
finitely many kinds, so a set of them is the bits of a number, and how two classes of tokens
relate comes down to two such numbers.

* `Token.atom`: the kind of a token.
* `Class.upper`, `Class.lower`: the kinds among which the tokens of a class are, and the kinds whose
  tokens are all of it.
-/

namespace Vigil.Source

/-! ## Sets of numbers -/

/-- The number whose bits are these. -/
def mask (ns : List Nat) : Nat := ns.foldr (fun n m => Nat.lor (Nat.shiftLeft 1 n) m) 0

theorem testBit_mask {ns : List Nat} {n : Nat} : (mask ns).testBit n = true ↔ n ∈ ns := by
  induction ns with
  | nil => simp [mask]
  | cons k ns ih =>
    change ((1 <<< k) ||| mask ns).testBit n = true ↔ _
    rw [Nat.testBit_or, Bool.or_eq_true, ih, Nat.testBit_shiftLeft, List.mem_cons]
    refine or_congr_left ?_
    rw [Bool.and_eq_true, decide_eq_true_iff, Nat.testBit_one_eq_true_iff_self_eq_zero]
    omega

namespace Mask

/-- Whether every bit of the first number is one of the second. -/
def within (m n : Nat) : Bool := Nat.beq (Nat.land m n) m

theorem testBit_of_within {m n k : Nat} (h : within m n = true) (hk : m.testBit k = true) :
    n.testBit k = true := by
  have h : m &&& n = m := Nat.eq_of_beq_eq_true h
  rw [← h, Nat.testBit_and, Bool.and_eq_true] at hk
  exact hk.2

/-- Whether the two numbers have no bit in common. -/
def disjoint (m n : Nat) : Bool := Nat.beq (Nat.land m n) 0

theorem not_testBit_of_disjoint {m n k : Nat} (h : disjoint m n = true)
    (hk : m.testBit k = true) : n.testBit k = false := by
  have h : m &&& n = 0 := Nat.eq_of_beq_eq_true h
  have hand : (m &&& n).testBit k = false := by rw [h, Nat.zero_testBit]
  rw [Nat.testBit_and, hk, Bool.true_and] at hand
  exact hand

end Mask

/-! ## Kinds of tokens -/

/-- The words that some question asks for: all that are no names, and a few names. -/
def vocabulary : List String := ["union", "auto", "default", "safe", "raw", "builtin"] ++ keywords

/-- A text as a number. Two numbers are compared at once, two texts one character after the other. -/
def code (w : String) : Nat := w.toByteArray.data.toList.foldl (fun n b => 256 * n + b.toNat) 1

/-- Whether two texts are the same; mostly their numbers tell. -/
def sameWord (v w : String) : Bool := (code v).beq (code w) && v == w

theorem sameWord_iff {v w : String} : sameWord v w = true ↔ v = w := by
  simp only [sameWord, Bool.and_eq_true, beq_iff_eq, and_iff_right_iff_imp]
  rintro rfl
  exact Nat.beq_refl _

/-- The characters that some question asks for. -/
def punctuation : List Char := "=<>!~+-*/%^&|@.,;:#$?".toList

/-- The kind of a word: its place in the vocabulary, one place for all words that are not in it. -/
def wordAtom (w : String) : Nat := 5 * vocabulary.findIdx (sameWord w)

/-- The kind of a punctuation character. -/
def markAtom (c : Char) (joined : Bool) : Nat :=
  5 * (2 * punctuation.findIdx (·.toNat.beq c.toNat) + joined.toNat) + 2

/-- The kind of a literal, by the narrowest class it is in. -/
def Literal.atom (l : Literal) : Nat :=
  if Class.text.holds (.literal l) then 3
  else if Class.index.holds (.literal l) then 8
  else if Class.integer.holds (.literal l) then 13
  else if Class.pointed.holds (.literal l) then 18
  else if Class.fraction.holds (.literal l) then 23
  else 28

def Delimiter.atom : Delimiter → Nat
  | .paren => 4
  | .bracket => 9
  | .brace => 14

/-- The kind of a token. -/
def Token.atom : Token → Nat
  | .word w => wordAtom w
  | .lifetime _ => 1
  | .mark c joined => markAtom c joined
  | .literal l => l.atom
  | .group d _ => d.atom

/-- The kinds of these words. What is in no list can be any word, so it counts only above. -/
def wordAtoms (above : Bool) (ws : List String) : List Nat :=
  (ws.map wordAtom).filter fun a => above || a.blt (5 * vocabulary.length)

/-- The kinds of these punctuation characters. -/
def markAtoms (above : Bool) (cs : List Char) (joined : List Bool) : List Nat :=
  (cs.flatMap fun c => joined.map (markAtom c)).filter fun a =>
    above || a.blt (10 * punctuation.length)

/-- The kinds of the words that are no keywords. -/
def nameAtoms : List Nat := [0, 5, 10, 15, 20, 25, 290]

/-- The kinds of the tokens of a class: those there may be, or those that are all in it. -/
def Class.atoms (above : Bool) : Class → List Nat
  | .word w => wordAtoms above [w]
  | .words ws => wordAtoms above ws
  | .name => nameAtoms
  | .nameOr ws => nameAtoms ++ wordAtoms above ws
  | .anyWord => (List.range 59).map (5 * ·)
  | .lifetime => [1]
  | .mark c => markAtoms above [c] [false, true]
  | .joint c => markAtoms above [c] [true]
  | .marks cs => markAtoms above cs [false, true]
  | .joints cs => markAtoms above cs [true]
  | .literal => [3, 8, 13, 18, 23, 28]
  | .value => wordAtoms above ["true", "false"] ++ [3, 8, 13, 18, 23, 28]
  | .text => [3]
  | .integer => [8, 13]
  | .index => [8]
  | .fraction => [18, 23]
  | .pointed => [18]
  | .group d => [d.atom]
  | .anyGroup => [4, 9, 14]

/-- The kinds among which the tokens of a class are. -/
def Class.upper (c : Class) : Nat := mask (c.atoms true)

/-- The kinds whose tokens are all of a class. -/
def Class.lower (c : Class) : Nat := mask (c.atoms false)

theorem wordAtom_le (w : String) : wordAtom w ≤ 290 := by
  have : vocabulary.findIdx (sameWord w) ≤ vocabulary.length := List.findIdx_le_length
  have hlength : vocabulary.length = 58 := rfl
  rw [wordAtom]
  omega

theorem wordAtom_inj {v w : String} (h : wordAtom v = wordAtom w) (hv : wordAtom v < 290) :
    v = w := by
  have hlength : vocabulary.length = 58 := rfl
  rw [wordAtom, wordAtom] at h
  rw [wordAtom] at hv
  have hi : vocabulary.findIdx (sameWord v) < vocabulary.length := by omega
  have hj : vocabulary.findIdx (sameWord w) < vocabulary.length := by omega
  have hfound := List.findIdx_getElem (w := hi)
  have hother := List.findIdx_getElem (w := hj)
  have hindex : vocabulary.findIdx (sameWord v) = vocabulary.findIdx (sameWord w) := by omega
  rw [sameWord_iff] at hfound hother
  simp only [← hindex] at hother
  exact hfound.trans hother.symm

theorem mem_wordAtoms_of_mem {ws : List String} {w : String} (h : w ∈ ws) :
    wordAtom w ∈ wordAtoms true ws :=
  List.mem_filter.2 ⟨List.mem_map_of_mem h, rfl⟩

theorem mem_of_mem_wordAtoms {ws : List String} {w : String}
    (h : wordAtom w ∈ wordAtoms false ws) : w ∈ ws := by
  simp only [wordAtoms, Bool.false_or, List.mem_filter, List.mem_map] at h
  obtain ⟨⟨v, hv, hatom⟩, hlt⟩ := h
  have hlt : wordAtom w < 290 := Nat.blt_eq.mp hlt
  exact wordAtom_inj hatom (hatom ▸ hlt) ▸ hv

/-- The kind of a word tells whether it is a keyword. -/
theorem mem_nameAtoms {w : String} : wordAtom w ∈ nameAtoms ↔ w ∉ keywords := by
  have hsplit : vocabulary.findIdx (sameWord w) =
      if (vocabulary.take 6).findIdx (sameWord w) < 6 then (vocabulary.take 6).findIdx (sameWord w)
      else keywords.findIdx (sameWord w) + 6 := List.findIdx_append
  have hnone : ∀ v ∈ vocabulary.take 6, v ∉ keywords := by decide
  have hmem (l : List String) : l.findIdx (sameWord w) < l.length ↔ w ∈ l := by
    rw [List.findIdx_lt_length]
    constructor
    · rintro ⟨v, hv, h⟩
      exact sameWord_iff.1 h ▸ hv
    · exact fun h => ⟨w, h, sameWord_iff.2 rfl⟩
  have hfirst : (vocabulary.take 6).findIdx (sameWord w) < 6 ↔ w ∈ vocabulary.take 6 := hmem _
  have hword : keywords.findIdx (sameWord w) < 52 ↔ w ∈ keywords := hmem _
  have hle : keywords.findIdx (sameWord w) ≤ 52 := List.findIdx_le_length
  rw [wordAtom, hsplit]
  by_cases hin : w ∈ vocabulary.take 6
  · have hlt := hfirst.2 hin
    rw [if_pos hlt]
    refine iff_of_true ?_ (hnone w hin)
    simp only [nameAtoms, List.mem_cons, List.not_mem_nil, or_false]
    omega
  · rw [if_neg (hin <| hfirst.1 ·), ← hword]
    simp only [nameAtoms, List.mem_cons, List.not_mem_nil, or_false]
    omega

theorem markAtom_inj {c d : Char} {i j : Bool} (h : markAtom c i = markAtom d j)
    (hc : markAtom c i < 10 * punctuation.length) : c = d ∧ i = j := by
  have hij : i = j := by
    cases i <;> cases j <;> simp only [markAtom, Bool.toNat_true, Bool.toNat_false] at h <;>
      first | rfl | omega
  subst hij
  simp only [markAtom] at h hc
  have hi : punctuation.findIdx (·.toNat.beq c.toNat) < punctuation.length := by omega
  have hj : punctuation.findIdx (·.toNat.beq d.toNat) < punctuation.length := by omega
  have hfound := List.findIdx_getElem (w := hi)
  have hother := List.findIdx_getElem (w := hj)
  have hindex : punctuation.findIdx (·.toNat.beq c.toNat) =
      punctuation.findIdx (·.toNat.beq d.toNat) := by omega
  simp only [← hindex] at hother
  have := (Nat.eq_of_beq_eq_true hfound).symm.trans (Nat.eq_of_beq_eq_true hother)
  exact ⟨Char.toNat_inj.1 this, rfl⟩

theorem mem_markAtoms_of_mem {cs : List Char} {c : Char} {i : Bool} {joined : List Bool}
    (h : c ∈ cs) (hi : i ∈ joined) : markAtom c i ∈ markAtoms true cs joined :=
  List.mem_filter.2 ⟨List.mem_flatMap.2 ⟨c, h, List.mem_map_of_mem hi⟩, rfl⟩

theorem mem_of_mem_markAtoms {cs : List Char} {c : Char} {i : Bool} {joined : List Bool}
    (h : markAtom c i ∈ markAtoms false cs joined) : c ∈ cs ∧ i ∈ joined := by
  simp only [markAtoms, Bool.false_or, List.mem_filter, List.mem_flatMap, List.mem_map] at h
  obtain ⟨⟨d, hd, j, hj, hatom⟩, hlt⟩ := h
  obtain ⟨rfl, rfl⟩ := markAtom_inj hatom (hatom ▸ Nat.blt_eq.mp hlt)
  exact ⟨hd, hj⟩

/-! ### Kinds apart -/

theorem atom_mod_wordAtoms {above : Bool} {ws : List String} {a : Nat}
    (h : a ∈ wordAtoms above ws) : a % 5 = 0 := by
  obtain ⟨w, -, rfl⟩ := List.mem_map.1 (List.mem_filter.1 h).1
  exact Nat.mul_mod_right 5 _

theorem atom_mod_markAtoms {above : Bool} {cs : List Char} {joined : List Bool} {a : Nat}
    (h : a ∈ markAtoms above cs joined) : a % 5 = 2 := by
  obtain ⟨c, -, h⟩ := List.mem_flatMap.1 (List.mem_filter.1 h).1
  obtain ⟨i, -, rfl⟩ := List.mem_map.1 h
  rw [markAtom]
  omega

theorem atom_mod_nameAtoms {a : Nat} (h : a ∈ nameAtoms) : a % 5 = 0 := by
  simp only [nameAtoms, List.mem_cons, List.not_mem_nil, or_false] at h
  omega

theorem Token.atom_word (w : String) : (Token.word w).atom % 5 = 0 := Nat.mul_mod_right 5 _

theorem Token.atom_mark (c : Char) (i : Bool) : (Token.mark c i).atom % 5 = 2 := by
  rw [atom, markAtom]
  omega

/-- What the kind of a literal tells. -/
theorem Literal.atom_spec (l : Literal) :
    (l.atom = 3 ↔ Class.text.holds (.literal l)) ∧
    (l.atom = 8 ↔ Class.index.holds (.literal l)) ∧
    (l.atom = 8 ∨ l.atom = 13 ↔ Class.integer.holds (.literal l)) ∧
    (l.atom = 18 ↔ Class.pointed.holds (.literal l)) ∧
    (l.atom = 18 ∨ l.atom = 23 ↔ Class.fraction.holds (.literal l)) ∧
    l.atom ∈ [3, 8, 13, 18, 23, 28] := by
  obtain ⟨spelling, value⟩ := l
  have hindex : Class.index.holds (.literal ⟨spelling, value⟩) = true →
      Class.integer.holds (.literal ⟨spelling, value⟩) = true := by
    cases value <;> simp [Class.holds, isFieldNumber]
  rw [atom]
  cases value with
  | text s => simp [Class.holds, isFieldNumber]
  | integer n suffix =>
    cases h : Class.index.holds (.literal ⟨spelling, .integer n suffix⟩) <;> simp [Class.holds]
  | fraction =>
    cases h : Class.pointed.holds (.literal ⟨spelling, .fraction⟩) <;>
      simp [Class.holds, isFieldNumber]
  | other => simp [Class.holds, isFieldNumber]

theorem Token.atom_literal (l : Literal) : (Token.literal l).atom % 5 = 3 := by
  have := (Literal.atom_spec l).2.2.2.2.2
  simp only [List.mem_cons, List.not_mem_nil, or_false] at this
  rw [atom]
  omega

theorem Token.atom_group (d : Delimiter) (content : List Token) :
    (Token.group d content).atom % 5 = 4 := by
  cases d <;> simp [atom, Delimiter.atom]

theorem Class.mem_atoms_of_holds {c : Class} {t : Token} (h : c.holds t = true) :
    t.atom ∈ c.atoms true := by
  cases t with
  | word w =>
    cases c with
    | word v => exact mem_wordAtoms_of_mem (by simpa using (beq_iff_eq.1 h).symm)
    | words ws => exact mem_wordAtoms_of_mem (List.contains_iff_mem.1 h)
    | name => exact mem_nameAtoms.2 (by simpa [holds] using h)
    | nameOr ws =>
      refine List.mem_append.2 ?_
      obtain h | h := Bool.or_eq_true_iff.1 h
      · exact .inr (mem_wordAtoms_of_mem (List.contains_iff_mem.1 h))
      · exact .inl (mem_nameAtoms.2 (by simpa using h))
    | anyWord =>
      have hle : vocabulary.findIdx (sameWord w) ≤ 58 := List.findIdx_le_length
      exact List.mem_map.2 ⟨_, List.mem_range.2 (by omega), rfl⟩
    | value => exact List.mem_append.2 (.inl (mem_wordAtoms_of_mem (by simpa [holds] using h)))
    | _ => exact absurd h (by simp [holds])
  | lifetime s =>
    cases c with
    | lifetime => exact List.mem_singleton.2 rfl
    | _ => exact absurd h (by simp [holds])
  | mark d i =>
    have hjoined : i ∈ [false, true] := by cases i <;> simp
    cases c with
    | mark c => exact mem_markAtoms_of_mem (by simpa using (beq_iff_eq.1 h).symm) hjoined
    | joint c =>
      obtain ⟨hc, rfl⟩ := Bool.and_eq_true_iff.1 h
      exact mem_markAtoms_of_mem (by simpa using (beq_iff_eq.1 hc).symm) List.mem_cons_self
    | marks cs => exact mem_markAtoms_of_mem (List.contains_iff_mem.1 h) hjoined
    | joints cs =>
      obtain ⟨hc, rfl⟩ := Bool.and_eq_true_iff.1 h
      exact mem_markAtoms_of_mem (List.contains_iff_mem.1 hc) List.mem_cons_self
    | _ => exact absurd h (by simp [holds])
  | literal l =>
    obtain ⟨htext, hindex, hinteger, hpointed, hfraction, hall⟩ := Literal.atom_spec l
    cases c with
    | literal => exact hall
    | value => exact List.mem_append.2 (.inr hall)
    | text => simpa [atoms, Token.atom] using htext.2 h
    | index => simpa [atoms, Token.atom] using hindex.2 h
    | integer => simpa [atoms, Token.atom] using hinteger.2 h
    | pointed => simpa [atoms, Token.atom] using hpointed.2 h
    | fraction => simpa [atoms, Token.atom] using hfraction.2 h
    | _ => exact absurd h (by simp [holds])
  | group d content =>
    cases c with
    | group e => exact List.mem_singleton.2 (by rw [Token.atom, of_decide_eq_true h])
    | anyGroup => cases d <;> simp [atoms, Token.atom, Delimiter.atom]
    | _ => exact absurd h (by simp [holds])

/-- What the kinds of a class are the remainders of: words, lifetimes, marks, literals, groups. -/
def Class.sorts : Class → List Nat
  | .word _ | .words _ | .name | .nameOr _ | .anyWord => [0]
  | .lifetime => [1]
  | .mark _ | .joint _ | .marks _ | .joints _ => [2]
  | .literal | .text | .integer | .fraction | .pointed | .index => [3]
  | .value => [0, 3]
  | .group _ | .anyGroup => [4]

theorem Class.mod_mem_sorts {c : Class} {above : Bool} {a : Nat} (h : a ∈ c.atoms above) :
    a % 5 ∈ c.sorts := by
  cases c with
  | word | words => simpa [sorts] using atom_mod_wordAtoms h
  | name => simpa [sorts] using atom_mod_nameAtoms h
  | nameOr ws =>
    obtain h | h := List.mem_append.1 h
    · simpa [sorts] using atom_mod_nameAtoms h
    · simpa [sorts] using atom_mod_wordAtoms h
  | anyWord =>
    obtain ⟨n, -, rfl⟩ := List.mem_map.1 h
    simp [sorts]
  | mark | joint | marks | joints => simpa [sorts] using atom_mod_markAtoms h
  | value =>
    obtain h | h := List.mem_append.1 h
    · simp [sorts, atom_mod_wordAtoms h]
    · simp only [List.mem_cons, List.not_mem_nil, or_false] at h
      simp only [sorts, List.mem_cons, List.not_mem_nil, or_false]
      omega
  | group d => cases d <;> simp_all [atoms, sorts, Delimiter.atom]
  | _ =>
    simp only [atoms, List.mem_cons, List.not_mem_nil, or_false] at h
    simp only [sorts, List.mem_cons, List.not_mem_nil, or_false]
    omega

theorem Class.holds_of_mem_atoms {c : Class} {t : Token} (h : t.atom ∈ c.atoms false) :
    c.holds t = true := by
  have hsort := mod_mem_sorts h
  cases t with
  | word w =>
    rw [Token.atom_word] at hsort
    cases c with
    | word v => exact beq_iff_eq.2 (List.mem_singleton.1 (mem_of_mem_wordAtoms h)).symm
    | words ws => simpa [holds] using mem_of_mem_wordAtoms h
    | name => simpa [holds] using mem_nameAtoms.1 h
    | nameOr ws =>
      obtain h | h := List.mem_append.1 h
      · simp [holds, mem_nameAtoms.1 h]
      · simp [holds, mem_of_mem_wordAtoms h]
    | anyWord => rfl
    | value =>
      obtain h | h := List.mem_append.1 h
      · simpa [holds] using mem_of_mem_wordAtoms h
      · have := Token.atom_word w
        simp only [List.mem_cons, List.not_mem_nil, or_false] at h
        omega
    | _ => simp [sorts] at hsort
  | lifetime s =>
    cases c with
    | lifetime => rfl
    | _ => simp [sorts, Token.atom] at hsort
  | mark d i =>
    rw [Token.atom_mark] at hsort
    cases c with
    | mark c => exact beq_iff_eq.2 (List.mem_singleton.1 (mem_of_mem_markAtoms h).1).symm
    | joint c =>
      obtain ⟨hc, hi⟩ := mem_of_mem_markAtoms h
      rw [List.mem_singleton.1 hc, List.mem_singleton.1 hi]
      simp [holds]
    | marks cs => simpa [holds] using (mem_of_mem_markAtoms h).1
    | joints cs => simpa [holds] using mem_of_mem_markAtoms h
    | _ => simp [sorts] at hsort
  | literal l =>
    rw [Token.atom_literal] at hsort
    obtain ⟨htext, hindex, hinteger, hpointed, hfraction, -⟩ := Literal.atom_spec l
    cases c with
    | literal | value => rfl
    | text => exact htext.1 (by simpa [atoms, Token.atom] using h)
    | index => exact hindex.1 (by simpa [atoms, Token.atom] using h)
    | integer => exact hinteger.1 (by simpa [atoms, Token.atom] using h)
    | pointed => exact hpointed.1 (by simpa [atoms, Token.atom] using h)
    | fraction => exact hfraction.1 (by simpa [atoms, Token.atom] using h)
    | _ => simp [sorts] at hsort
  | group d content =>
    rw [Token.atom_group] at hsort
    cases c with
    | group e =>
      cases d <;> cases e <;> simp [atoms, Token.atom, Delimiter.atom] at h <;> rfl
    | anyGroup => rfl
    | _ => simp [sorts] at hsort

theorem Class.testBit_upper {c : Class} {t : Token} (h : c.holds t = true) :
    c.upper.testBit t.atom = true :=
  testBit_mask.2 (mem_atoms_of_holds h)

theorem Class.holds_of_testBit {c : Class} {t : Token} (h : c.lower.testBit t.atom = true) :
    c.holds t = true :=
  holds_of_mem_atoms (testBit_mask.1 h)

/-- Whether no token is in both classes, by their kinds. -/
def Class.apart (c d : Class) : Bool := Mask.disjoint c.upper d.upper

/-- Whether all tokens of the first class are in the second, by their kinds. -/
def Class.below (c d : Class) : Bool := Mask.within c.upper d.lower

theorem Class.not_holds_of_apart {c d : Class} {t : Token} (h : c.apart d = true)
    (hc : c.holds t = true) : d.holds t = false := by
  refine Bool.eq_false_iff.2 fun hd => ?_
  have := Mask.not_testBit_of_disjoint h (testBit_upper hc)
  rw [testBit_upper hd] at this
  exact Bool.noConfusion this

theorem Class.holds_of_below {c d : Class} {t : Token} (h : c.below d = true)
    (hc : c.holds t = true) : d.holds t = true :=
  holds_of_testBit (Mask.testBit_of_within h (testBit_upper hc))

end Vigil.Source
