import Vigil.Config.Environment
import Vigil.Proofs.Config.KeyPath
import Mathlib.Data.List.Chain

/-!
# Variables for keys

A variable spells a key in capital letters, with two underscores for each point. Read from the
left it spells no other key, as long as underscores do not meet: neither within a name nor at the
end of one that a point follows.

* `spell`, `read?_spell`: keys as sequences of names, and how they are read.
* `Environment.Nameable`: the keys that a variable can spell.
* `Environment.key?_nameOf`: **a variable sets the key that it was made for.**
-/

namespace Vigil.Config

/-! ## Keys as sequences of names -/

/-- The text of a key, from the names that it consists of. -/
def spell (key : List String) : String := ".".intercalate key

/-- The path of a key. -/
def pathOf (key : List String) : KeyPath := key.map .name

theorem toList_spell_cons (x : String) (xs : List String) :
    (spell (x :: xs)).toList = x.toList ++ xs.flatMap fun y => '.' :: y.toList := by
  unfold spell
  rw [String.toList_intercalate]
  induction xs generalizing x with
  | nil => simp [List.intercalate]
  | cons y xs ih =>
    rw [List.flatMap_cons, List.cons_append, ← ih y]
    simp [List.intercalate]

namespace KeyPath

/-- A name ends where a point follows, and at the end of a text. -/
theorem readName?_of_isName_append {x : String} (hx : IsName x) (xs : List String) :
    readName? (x.toList ++ xs.flatMap fun y => '.' :: y.toList) =
      some (x, xs.flatMap fun y => '.' :: y.toList) := by
  cases xs with
  | nil => rw [List.flatMap_nil, List.append_nil, readName?_of_isName hx]
  | cons y xs =>
    rw [List.flatMap_cons, List.cons_append, readName?_append (readName?_of_isName hx),
      List.nil_append]

theorem readSteps?_names {xs : List String} (hxs : ∀ x ∈ xs, IsName x) :
    readSteps? (xs.flatMap fun y => '.' :: y.toList) = some (pathOf xs) := by
  induction xs with
  | nil => exact readSteps?_nil
  | cons x xs ih =>
    have hname := readName?_of_isName_append (hxs x (List.mem_cons_self ..)) xs
    rw [List.flatMap_cons, List.cons_append, readSteps?_point hname,
      ih fun y hy => hxs y (List.mem_cons_of_mem x hy)]
    rfl

/-- **A key is read as its names.** -/
theorem read?_spell {key : List String} (hne : key ≠ []) (hkey : ∀ x ∈ key, IsName x) :
    read? (spell key) = some (pathOf key) := by
  cases key with
  | nil => exact absurd rfl hne
  | cons x xs =>
    refine read?_of_readName? ?_ (readSteps?_names fun y hy => hkey y (List.mem_cons_of_mem x hy))
    rw [toList_spell_cons]
    exact readName?_of_isName_append (hkey x (List.mem_cons_self ..)) xs

end KeyPath

/-- The text at a key, or why there is none. -/
theorem getText_spell {c : Config} {key : List String} (hne : key ≠ [])
    (hkey : ∀ x ∈ key, KeyPath.IsName x) :
    c.getText (spell key) =
      match KeyPath.get? (pathOf key) c.root with
      | some v => v.asText (spell key)
      | none => .error (.missing (spell key)) := by
  unfold getText Config.get
  rw [KeyPath.read?_spell hne hkey]
  simp only
  cases KeyPath.get? (pathOf key) c.root <;> rfl

namespace Environment

/-! ## How variables spell keys -/

/-- The variable for a key. -/
def nameOf (key : String) : String :=
  "APP_" ++ String.ofList (key.toList.flatMap fun c => if c = '.' then ['_', '_'] else [c.toUpper])

/-- A character that a variable can spell. -/
def isKeyChar (c : Char) : Bool :=
  'a' ≤ c && c ≤ 'z' || '0' ≤ c && c ≤ '9' || c == '_' || c == '-'

/-- **A key that a variable can spell.** -/
structure Nameable (key : List String) : Prop where
  ne_nil : key ≠ []
  chars : ∀ x ∈ key, x.toList ≠ [] ∧ x.toList.all isKeyChar = true
  /-- No two underscores stand side by side in a name. -/
  single : ∀ x ∈ key, ¬ ['_', '_'] <:+: x.toList
  /-- No underscore stands in front of a point. -/
  closed : ∀ x ∈ key.dropLast, x.toList.getLast? ≠ some '_'

theorem toNat_lt_of_isKeyChar {c : Char} (h : isKeyChar c = true) : c.toNat < 128 := by
  simp only [isKeyChar, Bool.or_eq_true, Bool.and_eq_true, decide_eq_true_eq, beq_iff_eq] at h
  rcases h with ((⟨-, h⟩ | ⟨-, h⟩) | rfl) | rfl
  · exact Nat.lt_of_le_of_lt (UInt32.le_iff_toNat_le.1 (Char.le_def.1 h)) (by decide)
  · exact Nat.lt_of_le_of_lt (UInt32.le_iff_toNat_le.1 (Char.le_def.1 h)) (by decide)
  · decide
  · decide

/-- What holds of all characters of a key, from the ASCII ones. -/
theorem of_isKeyChar {P : Char → Prop} (h : ∀ n < 128, isKeyChar (Char.ofNat n) = true →
    P (Char.ofNat n)) {c : Char} (hc : isKeyChar c = true) : P c := by
  have hn := h c.toNat (toNat_lt_of_isKeyChar hc)
  rw [Char.ofNat_toNat] at hn
  exact hn hc

theorem lowerChar_toUpper {c : Char} (h : isKeyChar c = true) : Text.lowerChar c.toUpper = c :=
  of_isKeyChar (P := fun c => Text.lowerChar c.toUpper = c) (by decide) h

theorem isNameChar_of_isKeyChar {c : Char} (h : isKeyChar c = true) :
    KeyPath.isNameChar c = true :=
  of_isKeyChar (P := fun c => KeyPath.isNameChar c = true) (by decide) h

theorem ne_point_of_isKeyChar {c : Char} (h : isKeyChar c = true) : c ≠ '.' := by
  rintro rfl
  exact absurd h (by decide)

theorem Nameable.isName {key : List String} (h : Nameable key) : ∀ x ∈ key, KeyPath.IsName x := by
  intro x hx
  obtain ⟨hne, hall⟩ := h.chars x hx
  refine ⟨hne, List.all_eq_true.2 fun c hc => ?_⟩
  exact isNameChar_of_isKeyChar (List.all_eq_true.1 hall c hc)

/-! ## How they are read -/

/-- The characters of a key as a variable spells them, in small letters. -/
def underscored (cs : List Char) : List Char :=
  cs.flatMap fun c => if c = '.' then ['_', '_'] else [c]

/-- No underscore stands in front of another one or of a point. -/
def Clear (cs : List Char) : Prop := cs.IsChain fun c d => c = '_' → d ≠ '_' ∧ d ≠ '.'

theorem lower_nameOf {cs : List Char} (h : ∀ c ∈ cs, c = '.' ∨ isKeyChar c = true) :
    Text.lower (cs.flatMap fun c => if c = '.' then ['_', '_'] else [c.toUpper]) =
      underscored cs := by
  unfold underscored
  induction cs with
  | nil => rfl
  | cons c cs ih =>
    have htail := ih fun d hd => h d (List.mem_cons_of_mem c hd)
    rw [List.flatMap_cons, List.flatMap_cons, Text.lower, List.map_append, ← Text.lower,
      ← Text.lower, htail]
    by_cases hc : c = '.'
    · subst hc
      rfl
    · have hkey := (h c (List.mem_cons_self ..)).resolve_left hc
      simp [hc, Text.lower, lowerChar_toUpper hkey]

theorem dotted_cons {c : Char} {cs : List Char} (h : c = '_' → cs.head? ≠ some '_') :
    dotted (c :: cs) = c :: dotted cs := by
  cases cs with
  | nil => rw [dotted]; simp
  | cons d cs =>
    rw [dotted]
    rintro _ rfl ⟨⟩
    exact h rfl rfl

/-- **Read from the left, underscores give back the points** that they were made for. -/
theorem dotted_underscored {cs : List Char} (h : Clear cs) : dotted (underscored cs) = cs := by
  unfold underscored
  induction cs with
  | nil => rfl
  | cons c cs ih =>
    obtain ⟨hhead, htail⟩ := List.isChain_cons.1 h
    have ih := ih htail
    rw [List.flatMap_cons]
    by_cases hpoint : c = '.'
    · subst hpoint
      exact congrArg ('.' :: ·) ih
    · rw [if_neg hpoint, List.singleton_append, dotted_cons, ih]
      -- what follows an underscore begins neither with one nor with what stands for a point
      rintro rfl
      cases cs with
      | nil => simp
      | cons d cs =>
        obtain ⟨hline, hd⟩ := hhead d rfl rfl
        simp [hline, hd]

theorem clear_name {x : String} (hchars : x.toList.all isKeyChar = true)
    (hsingle : ¬ ['_', '_'] <:+: x.toList) : Clear x.toList := by
  refine List.isChain_iff_forall_rel_of_append_cons_cons.2 ?_
  rintro c d l₁ l₂ hsplit rfl
  refine ⟨?_, ne_point_of_isKeyChar (List.all_eq_true.1 hchars d (by simp [hsplit]))⟩
  rintro rfl
  exact hsingle ⟨l₁, l₂, by simp [hsplit]⟩

theorem Nameable.clear {key : List String} (h : Nameable key) : Clear (spell key).toList := by
  obtain ⟨hne, hchars, hsingle, hclosed⟩ := h
  induction key with
  | nil => exact absurd rfl hne
  | cons x xs ih =>
    have hx := clear_name (hchars x (List.mem_cons_self ..)).2 (hsingle x (List.mem_cons_self ..))
    rw [toList_spell_cons]
    cases xs with
    | nil => rwa [List.flatMap_nil, List.append_nil]
    | cons y xs =>
      have hrest := ih (by simp) (fun z hz => hchars z (List.mem_cons_of_mem x hz))
        (fun z hz => hsingle z (List.mem_cons_of_mem x hz))
        (fun z hz => hclosed z (by rw [List.dropLast_cons_cons]; exact List.mem_cons_of_mem x hz))
      rw [toList_spell_cons] at hrest
      rw [List.flatMap_cons, List.cons_append]
      refine List.isChain_append.2 ⟨hx, List.isChain_cons.2 ⟨?_, hrest⟩, ?_⟩
      · rintro d - ⟨⟩
      · rintro c hc d hd rfl
        exact absurd hc (hclosed x (by simp))

theorem Nameable.chars_spell {key : List String} (h : Nameable key) :
    ∀ c ∈ (spell key).toList, c = '.' ∨ isKeyChar c = true := by
  have hchars := h.chars
  cases key with
  | nil => exact absurd rfl h.ne_nil
  | cons x xs =>
    intro c hc
    rw [toList_spell_cons] at hc
    rcases List.mem_append.1 hc with hc | hc
    · exact .inr (List.all_eq_true.1 (hchars x (List.mem_cons_self ..)).2 c hc)
    · obtain ⟨y, hy, hc⟩ := List.mem_flatMap.1 hc
      rcases List.mem_cons.1 hc with rfl | hc
      · exact .inl rfl
      · exact .inr (List.all_eq_true.1 (hchars y (List.mem_cons_of_mem x hy)).2 c hc)

/-- **A variable sets the key that it was made for.** -/
theorem key?_nameOf {key : List String} (h : Nameable key) :
    key? (nameOf (spell key)) = some (spell key) := by
  have hlower : Text.lower (nameOf (spell key)).toList =
      mark ++ underscored (spell key).toList := by
    have happend (s : String) (cs : List Char) :
        Text.lower (s ++ String.ofList cs).toList = Text.lower s.toList ++ Text.lower cs := by
      rw [String.toList_append, String.toList_ofList, Text.lower, List.map_append]
      rfl
    rw [nameOf, happend, lower_nameOf h.chars_spell]
    rfl
  have hread := dotted_underscored h.clear
  unfold key?
  simp only [hlower]
  rw [List.take_left' rfl, if_pos rfl, List.drop_left' rfl, hread, String.ofList_toList]

end Environment

end Vigil.Config
