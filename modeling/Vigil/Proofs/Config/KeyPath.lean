import Vigil.Config.Tree

/-!
# Key paths with a name behind them

A point ends whatever part of a path stands in front of it, so a path with `.name` behind it reads
as the path and one step more.

* `read?_append_name`: the path of a text with a name behind it.
* `all_isPathChar`: the characters that a path is spelled with; a colon is none of them.
* `get?_append_name`: the value at such a path.
-/

namespace Vigil.Config.KeyPath

variable {cs more : List Char} {q p : Char → Bool}

theorem takeWhile_append_stop {c : Char} (h : q c = false) (cs more : List Char) :
    (cs ++ c :: more).takeWhile q = cs.takeWhile q := by
  induction cs with
  | nil => simp [h]
  | cons d cs ih => by_cases hd : q d = true <;> simp [hd, ih]

theorem dropWhile_append_stop {c : Char} (h : q c = false) (cs more : List Char) :
    (cs ++ c :: more).dropWhile q = cs.dropWhile q ++ c :: more := by
  induction cs with
  | nil => simp [h]
  | cons d cs ih => by_cases hd : q d = true <;> simp [hd, ih]

/-! ## A point behind each part of a path -/

theorem readName?_append {r : String × List Char} (h : readName? cs = some r)
    (more : List Char) : readName? (cs ++ '.' :: more) = some (r.1, r.2 ++ '.' :: more) := by
  have hstop : isNameChar '.' = false := rfl
  unfold readName? at h ⊢
  rw [takeWhile_append_stop hstop, dropWhile_append_stop hstop]
  cases htake : cs.takeWhile isNameChar with
  | nil => simp [htake] at h
  | cons c name =>
    simp only [htake, Option.some.injEq] at h
    rw [← h]

theorem readSign_append (cs more : List Char) : readSign (cs ++ '.' :: more) =
    ((readSign cs).1, (readSign cs).2 ++ '.' :: more) := by
  cases cs with
  | nil => rfl
  | cons c cs =>
    by_cases hc : c = '-'
    · subst hc
      rfl
    · simp [readSign, hc]

theorem readPosition?_append {r : Int × List Char} (h : readPosition? cs = some r)
    (more : List Char) : readPosition? (cs ++ '.' :: more) = some (r.1, r.2 ++ '.' :: more) := by
  have hstop : Char.isDigit '.' = false := rfl
  unfold readPosition? at h ⊢
  simp only [readSign_append, takeWhile_append_stop hstop, dropWhile_append_stop hstop]
  simp only [Option.ite_none_right_eq_some, Option.some.injEq] at h ⊢
  obtain ⟨hfit, rfl⟩ := h
  exact ⟨hfit, rfl⟩

theorem readBracket?_append {r : Int × List Char} (h : readBracket? cs = some r)
    (more : List Char) : readBracket? (cs ++ '.' :: more) = some (r.1, r.2 ++ '.' :: more) := by
  have hstop : isPad '.' = false := rfl
  unfold readBracket? at h ⊢
  rw [dropWhile_append_stop hstop]
  cases hp : readPosition? (cs.dropWhile isPad) with
  | none => simp [hp] at h
  | some s =>
    obtain ⟨i, rest⟩ := s
    simp only [hp] at h
    rw [readPosition?_append hp]
    simp only [dropWhile_append_stop hstop]
    cases hrest : rest.dropWhile isPad with
    | nil => simp [hrest] at h
    | cons c rest' =>
      by_cases hc : c = ']'
      · subst hc
        simp only [hrest, Option.some.injEq] at h
        rw [← h]
        rfl
      · simp [hrest, hc] at h

theorem readSteps?_point {key : String} {rest : List Char} (h : readName? cs = some (key, rest)) :
    readSteps? ('.' :: cs) = (readSteps? rest).map (.name key :: ·) := by
  rw [readSteps?]
  split
  · rename_i key' rest' h'
    cases h.symm.trans h'
    rfl
  · rename_i h'
    cases h.symm.trans h'

theorem readSteps?_bracket {i : Int} {rest : List Char} (h : readBracket? cs = some (i, rest)) :
    readSteps? ('[' :: cs) = (readSteps? rest).map (.position i :: ·) := by
  rw [readSteps?]
  split
  · rename_i i' rest' h'
    cases h.symm.trans h'
    rfl
  · rename_i h'
    cases h.symm.trans h'

theorem readSteps?_nil : readSteps? [] = some [] := by rw [readSteps?]

theorem read?_of_readName? {s key : String} {rest : List Char} {steps : KeyPath}
    (h : readName? s.toList = some (key, rest)) (hrest : readSteps? rest = some steps) :
    read? s = some (.name key :: steps) := by
  unfold read?
  rw [h]
  simp only [hrest, Option.map_some]

/-- The steps of a text with a point and more behind it. -/
theorem readSteps?_append {steps : KeyPath} (h : readSteps? cs = some steps) (more : List Char) :
    readSteps? (cs ++ '.' :: more) = (readSteps? ('.' :: more)).map (steps ++ ·) := by
  fun_induction readSteps? cs generalizing steps with
  | case1 =>
    cases h
    simp
  | case2 rest key rest' hname _ ih =>
    obtain ⟨tail, htail, rfl⟩ := Option.map_eq_some_iff.1 h
    rw [List.cons_append, readSteps?_point (readName?_append hname more), ih htail, Option.map_map]
    rfl
  | case4 rest i rest' hbracket _ ih =>
    obtain ⟨tail, htail, rfl⟩ := Option.map_eq_some_iff.1 h
    rw [List.cons_append, readSteps?_bracket (readBracket?_append hbracket more), ih htail,
      Option.map_map]
    rfl
  | case3 | case5 | case6 => cases h

/-- A name that can be a step. -/
def IsName (key : String) : Prop := key.toList ≠ [] ∧ key.toList.all isNameChar = true

instance (key : String) : Decidable (IsName key) := inferInstanceAs (Decidable (_ ∧ _))

theorem readName?_of_isName {key : String} (h : IsName key) :
    readName? key.toList = some (key, []) := by
  obtain ⟨hne, hall⟩ := h
  have hname : ∀ c ∈ key.toList, isNameChar c = true := List.all_eq_true.1 hall
  have htake : key.toList.takeWhile isNameChar = key.toList := by
    simpa using @List.takeWhile_append_of_pos _ isNameChar key.toList [] hname
  have hdrop : key.toList.dropWhile isNameChar = [] := by
    simpa using @List.dropWhile_append_of_pos _ isNameChar key.toList [] hname
  unfold readName?
  rw [htake, hdrop]
  cases hcs : key.toList with
  | nil => exact absurd hcs hne
  | cons c name => simp only [← hcs, String.ofList_toList]

/-- **The path of a text with a name behind it.** -/
theorem read?_append_name {s : String} {steps : KeyPath} (h : read? s = some steps) {key : String}
    (hkey : IsName key) : read? (s ++ "." ++ key) = some (steps ++ [.name key]) := by
  have hkeySteps : readSteps? ('.' :: key.toList) = some [.name key] := by
    rw [readSteps?_point (readName?_of_isName hkey), readSteps?_nil]
    rfl
  have htext : (s ++ "." ++ key).toList = s.toList ++ '.' :: key.toList := by
    simp [String.toList_append]
  unfold read? at h ⊢
  rw [htext]
  cases hname : readName? s.toList with
  | none => simp [hname] at h
  | some r =>
    obtain ⟨first, rest⟩ := r
    simp only [hname] at h
    obtain ⟨tail, htail, rfl⟩ := Option.map_eq_some_iff.1 h
    rw [readName?_append hname]
    simp only [readSteps?_append htail, hkeySteps, Option.map_some]
    rfl

/-! ## What paths are spelled with -/

/-- A character that paths are spelled with. -/
def isPathChar (c : Char) : Bool :=
  isNameChar c || isPad c || c == '.' || c == '[' || c == ']'

theorem isPathChar_of_isNameChar {c : Char} (h : isNameChar c = true) : isPathChar c = true := by
  simp [isPathChar, h]

theorem isPathChar_of_isPad {c : Char} (h : isPad c = true) : isPathChar c = true := by
  simp [isPathChar, h]

theorem isPathChar_of_isDigit {c : Char} (h : c.isDigit = true) : isPathChar c = true := by
  simp [isPathChar, isNameChar, Char.isAlphanum, h]

theorem all_of_dropWhile (hqp : ∀ {c}, q c = true → p c = true)
    (h : (cs.dropWhile q).all p = true) : cs.all p = true := by
  rw [← List.takeWhile_append_dropWhile (p := q) (l := cs), List.all_append, h, Bool.and_true]
  rw [List.all_eq_true]
  intro c hc
  exact hqp (List.all_eq_true.1 List.all_takeWhile c hc)

theorem all_of_readName? {r : String × List Char} (h : readName? cs = some r)
    (hrest : r.2.all isPathChar = true) : cs.all isPathChar = true := by
  unfold readName? at h
  split at h
  · cases h
  · cases h
    exact all_of_dropWhile isPathChar_of_isNameChar hrest

theorem all_of_readSign (h : (readSign cs).2.all isPathChar = true) :
    cs.all isPathChar = true := by
  unfold readSign at h
  split at h
  · rw [List.all_cons]
    exact h
  · exact h

theorem all_of_readBracket? {r : Int × List Char} (h : readBracket? cs = some r)
    (hrest : r.2.all isPathChar = true) : cs.all isPathChar = true := by
  unfold readBracket? at h
  split at h
  · cases h
  · rename_i i rest hp
    split at h
    · rename_i rest' hclose
      cases h
      have hrest : rest.all isPathChar = true := by
        refine all_of_dropWhile isPathChar_of_isPad ?_
        rw [hclose, List.all_cons]
        exact hrest
      refine all_of_dropWhile isPathChar_of_isPad ?_
      simp only [readPosition?, Option.ite_none_right_eq_some, Option.some.injEq,
        Prod.mk.injEq] at hp
      obtain ⟨-, -, hdigits⟩ := hp
      rw [← hdigits] at hrest
      exact all_of_readSign (all_of_dropWhile isPathChar_of_isDigit hrest)
    · cases h

theorem all_of_readSteps? {steps : KeyPath} (h : readSteps? cs = some steps) :
    cs.all isPathChar = true := by
  fun_induction readSteps? cs generalizing steps with
  | case1 => rfl
  | case2 rest key rest' hname _ ih =>
    obtain ⟨tail, htail, -⟩ := Option.map_eq_some_iff.1 h
    rw [List.all_cons, all_of_readName? hname (ih htail)]
    rfl
  | case4 rest i rest' hbracket _ ih =>
    obtain ⟨tail, htail, -⟩ := Option.map_eq_some_iff.1 h
    rw [List.all_cons, all_of_readBracket? hbracket (ih htail)]
    rfl
  | case3 | case5 | case6 => cases h

/-- **The characters of a path.** -/
theorem all_isPathChar {s : String} {steps : KeyPath} (h : read? s = some steps) :
    s.toList.all isPathChar = true := by
  unfold read? at h
  split at h
  · rename_i key rest hname
    obtain ⟨tail, htail, -⟩ := Option.map_eq_some_iff.1 h
    exact all_of_readName? hname (all_of_readSteps? htail)
  · cases h

theorem colon_not_mem {s : String} {steps : KeyPath} (h : read? s = some steps) :
    ':' ∉ s.toList := by
  intro hmem
  have hcolon : isPathChar ':' = true := List.all_eq_true.1 (all_isPathChar h) ':' hmem
  exact absurd hcolon (by decide)

/-! ## Values -/

theorem get?_append_name (steps : KeyPath) (key : String) (v : Value) :
    get? (steps ++ [.name key]) v = (get? steps v).bind (follow? · (.name key)) := by
  unfold get?
  rw [List.foldlM_append]
  cases List.foldlM follow? v steps with
  | none => rfl
  | some w => simp

end Vigil.Config.KeyPath
