import Vigil.Proofs.Source.Checked

/-!
# The depth of readings

How deep the readings of the parts of a grammar nest before a token is taken, which bounds the depth
of every reading by the size of the text. For the source grammar the bound is below the limit that
its readings have, so no reading is given up.

* `Table.depth`: the bound, form by form.
* `Table.finishes`: a reading with a limit above the bound is finished.
* `read_iff`: **what the source grammar reads at any depth, it reads with its limit**.
-/

namespace Vigil.Source

open Grammar

/-! ## The size of a text -/

theorem weight_pos (t : Token) : 0 < Token.weight t := by
  rw [Token.weight.eq_def]
  split <;> omega

theorem length_le_size (ts : List Token) : ts.length ≤ Token.size ts := by
  induction ts with
  | nil => exact Nat.le_refl 0
  | cons t ts ih =>
    have := weight_pos t
    rw [List.length_cons, Token.size]
    omega

theorem size_le_of_suffix {ts rest : List Token} (h : rest <:+ ts) :
    Token.size rest ≤ Token.size ts := by
  obtain ⟨front, rfl⟩ := h
  rw [Token.size_append]
  omega

theorem size_lt_of_suffix {ts rest : List Token} (h : rest <:+ ts)
    (hlt : rest.length < ts.length) : Token.size rest < Token.size ts := by
  obtain ⟨front, rfl⟩ := h
  have := length_le_size front
  rw [List.length_append] at hlt
  rw [Token.size_append]
  omega

/-- A number of a field takes no more room than it did. -/
theorem size_of_fieldTokens {t : Token} {new : List Token} (h : fieldTokens? t = some new) :
    Token.size new ≤ Token.weight t := by
  have number {n : Nat} {l : Literal} (h : fieldNumber? n = some l) :
      Token.weight (.literal l) = 1 := by
    rw [fieldNumber?] at h
    split at h
    · obtain rfl := Option.some.inj h
      rfl
    · cases h
  have part {cs : List Char} {t : Token} (h : fieldPart? cs = some t) : Token.weight t = 1 := by
    cases cs with
    | nil => cases h
    | cons c cs =>
      rw [fieldPart?] at h
      split at h
      · obtain ⟨l, hl, rfl⟩ := Option.map_eq_some_iff.1 h
        exact number hl
      · cases h
  have hpoint : Token.weight (Token.sign '.') = 1 := rfl
  cases t with
  | literal l =>
    obtain ⟨spelling, value⟩ := l
    cases value with
    | integer n suffix =>
      cases suffix with
      | nil =>
        obtain ⟨l, hl, rfl⟩ := Option.map_eq_some_iff.1 h
        rw [Token.size, Token.size, number hl]
        exact Nat.le_refl 1
      | cons => cases h
    | fraction =>
      simp only [fieldTokens?] at h
      split at h
      · obtain ⟨t, ht, rfl⟩ := Option.map_eq_some_iff.1 h
        simp [Token.size, part ht, hpoint, Token.weight]
      · obtain ⟨t, ht, h⟩ := Option.bind_eq_some_iff.1 h
        obtain ⟨u, hu, h⟩ := Option.bind_eq_some_iff.1 h
        obtain rfl := Option.some.inj h
        simp [Token.size, part ht, part hu, hpoint, Token.weight]
      · cases h
    | text | other =>
      obtain rfl := Option.some.inj h
      simp [Token.size]
  | _ =>
    obtain rfl := Option.some.inj h
    simp [Token.size]

/-! ## The bound -/

namespace Table

variable {ρ φ : Type} (T : Table ρ φ) (deep : ρ → Nat)

/-- How deep the readings of the parts of a grammar nest before a token is taken. A token counts for
400. -/
def depth : Grammar ρ → Nat
  | .empty | .refuse | .take _ => 1
  | .replace _ k new g => depth g + 400 * (Token.size new - k) + 1
  | .numbers g | .many _ g | .list _ g _ | .angles g _ | .verbatim g => depth g + 1
  | .seq g h => max (depth g) (if T.nullableOf g then depth h else depth h - 400) + 1
  | .cond _ g h | .loose g h => max (depth g) (depth h) + 1
  | .ending g _ h k =>
    let behind := max (depth h) (depth k)
    max (depth g) (if T.nullableOf g then behind else behind - 400) + 1
  | .inside _ g => depth g - 400 + 1
  | .lenient g => depth g + 2
  | .call r => deep r + 1

/-- Whatever is repeated takes a token, and as many tokens are replaced as are asked for. -/
def takes : Grammar ρ → Bool
  | .empty | .refuse | .take _ | .call _ => true
  | .replace l k _ g => (l.split k).1.length.beq k && takes g
  | .numbers g | .list _ g _ | .angles g _ | .verbatim g | .inside _ g | .lenient g => takes g
  | .seq g h | .cond _ g h | .loose g h => takes g && takes h
  | .ending g _ h k => takes g && takes h && takes k
  | .many _ g => !T.nullableOf g && takes g

end Table

/-! ## Finished readings -/

namespace Outcome

variable {o p : Outcome} {f : List Token → List Token → Outcome} {k : Nat} {front : List Token}

theorem finished_andThen (ho : o ≠ .unfinished)
    (hf : ∀ written rest, o = .read written rest → f written rest ≠ .unfinished) :
    o.andThen f ≠ .unfinished := by
  cases o with
  | read written rest => exact hf written rest rfl
  | refused => exact nofun
  | unfinished => exact absurd rfl ho

theorem finished_after (ho : o ≠ .unfinished) : o.after front ≠ .unfinished :=
  finished_andThen ho fun _ _ _ => nofun

theorem finished_atMost (ho : o ≠ .unfinished) : o.atMost k ≠ .unfinished :=
  finished_andThen ho fun _ _ _ => by split <;> exact nofun

theorem finished_orElse (ho : o ≠ .unfinished) (hp : p ≠ .unfinished) :
    o.orElse p ≠ .unfinished := by
  cases o with
  | read written rest => exact nofun
  | refused => exact hp
  | unfinished => exact absurd rfl ho

end Outcome

namespace Table

open Outcome

variable {ρ φ : Type} {T : Table ρ φ} {rules : ρ → Grammar ρ} {deep : ρ → Nat} {m n : Nat}
  {g h : Grammar ρ} {l : Look} {ts written rest : List Token}

attribute [local simp] depth

theorem nullable_strict (hg : T.nullableOf g = false) : T.nullableOf g.strict = false := by
  induction g with
  | seq g h ihg ihh =>
    exact Bool.and_eq_false_iff.2 ((Bool.and_eq_false_iff.1 hg).imp ihg ihh)
  | cond l g h ihg ihh =>
    exact Bool.or_eq_false_iff.2 ((Bool.or_eq_false_iff.1 hg).imp ihg ihh)
  | replace => exact nomatch hg
  | loose g h _ _ => exact (Bool.or_eq_false_iff.1 hg).1
  | _ => exact hg

theorem takes_strict (hg : T.takes g = true) : T.takes g.strict = true := by
  induction g with
  | seq g h ihg ihh | cond l g h ihg ihh =>
    exact Bool.and_eq_true_iff.2 ((Bool.and_eq_true_iff.1 hg).imp ihg ihh)
  | replace l k new g ih => exact Bool.and_eq_true_iff.2 ((Bool.and_eq_true_iff.1 hg).imp_right ih)
  | loose g h _ _ => exact (Bool.and_eq_true_iff.1 hg).1
  | _ => exact hg

/-- Read strictly, a grammar is no deeper. -/
theorem depth_strict (T : Table ρ φ) (g : Grammar ρ) : T.depth deep g.strict ≤ T.depth deep g := by
  induction g with
  | seq g h ihg ihh =>
    simp only [strict, depth]
    cases hnull : T.nullableOf g with
    | true => split <;> simp only [if_true] <;> omega
    | false =>
      simp only [nullable_strict hnull, Bool.false_eq_true, if_false]
      omega
  | cond l g h ihg ihh =>
    simp only [strict, depth]
    omega
  | replace l k new g ih =>
    simp only [strict, depth]
    omega
  | loose g h _ _ =>
    simp only [strict, depth]
    omega
  | _ => exact Nat.le_refl _

/-- The rules nest no deeper than they are said to. -/
def Bounded (T : Table ρ φ) (rules : ρ → Grammar ρ) (deep : ρ → Nat) : Prop :=
  ∀ r, T.takes (rules r) = true ∧ T.depth deep (rules r) ≤ deep r

/-- Readings with this limit are finished, where the bound is not above it. -/
def Finishes (T : Table ρ φ) (rules : ρ → Grammar ρ) (deep : ρ → Nat) (n : Nat) : Prop :=
  ∀ ⦃g ts⦄, T.takes g = true → T.depth deep g + 400 * Token.size ts ≤ n →
    run rules n g ts ≠ .unfinished

/-- What is left is no more, and less if a token was taken. -/
theorem size_behind (hT : T.Fronts rules) (hread : run rules m g ts = .read written rest) :
    Token.size rest ≤ Token.size ts ∧
      (T.nullableOf g = false → Token.size rest < Token.size ts) :=
  ⟨size_le_of_suffix (suffix_of_read hread), fun hnull => size_lt_of_suffix (suffix_of_read hread)
    ((fronted_of_read (s := false) hT hread).takes hnull)⟩

/-- So there is room for what is read behind it. -/
theorem room_behind {d : Nat} (hT : T.Fronts rules) (hread : run rules m g ts = .read written rest)
    (hn : (if T.nullableOf g then d else d - 400) + 400 * Token.size ts ≤ n) :
    d + 400 * Token.size rest ≤ n := by
  obtain ⟨hle, hlt⟩ := size_behind hT hread
  cases hnull : T.nullableOf g with
  | true =>
    rw [hnull, if_pos rfl] at hn
    omega
  | false =>
    have hlt := hlt hnull
    rw [hnull, if_neg Bool.false_ne_true] at hn
    omega

section

variable (ih : T.Finishes rules deep n)

include ih

theorem Finishes.replace {k : Nat} {new : List Token} (hg : T.takes (.replace l k new g) = true)
    (hn : T.depth deep (.replace l k new g) + 400 * Token.size ts ≤ n + 1) :
    run rules (n + 1) (.replace l k new g) ts ≠ .unfinished := by
  obtain ⟨hlength, hg⟩ := Bool.and_eq_true_iff.1 hg
  simp only [depth] at hn
  simp only [run, step]
  split
  · rename_i hl
    refine finished_atMost (ih hg ?_)
    obtain ⟨front, back, rfl, hfront, -⟩ := Look.holds_all (Look.holds_split (n := k) hl)
    rw [Nat.eq_of_beq_eq_true hlength] at hfront
    -- By as much as the new tokens are more than the old ones, the bound is above that of the part.
    have hsize := length_le_size front
    rw [← hfront, List.drop_left, Token.size_append]
    rw [Token.size_append] at hn
    omega
  · exact ih hg (by omega)

theorem Finishes.numbers (hg : T.takes (.numbers g) = true)
    (hn : T.depth deep (.numbers g) + 400 * Token.size ts ≤ n + 1) :
    run rules (n + 1) (.numbers g) ts ≠ .unfinished := by
  simp only [depth] at hn
  cases ts with
  | nil => simp [run, step]
  | cons t ts =>
    simp only [run, step]
    split
    · simp
    · cases hnew : fieldTokens? t with
      | none => simp
      | some new =>
        refine finished_atMost (ih hg ?_)
        have := size_of_fieldTokens hnew
        rw [Token.size] at hn
        rw [Token.size_append]
        omega

theorem Finishes.seq (hT : T.Fronts rules) (hg : T.takes (.seq g h) = true)
    (hn : T.depth deep (.seq g h) + 400 * Token.size ts ≤ n + 1) :
    run rules (n + 1) (.seq g h) ts ≠ .unfinished := by
  obtain ⟨hg, hh⟩ := Bool.and_eq_true_iff.1 hg
  simp only [depth] at hn
  exact finished_andThen (ih hg (by omega)) fun first mid hread =>
    finished_after (ih hh (room_behind hT hread (by omega)))

theorem Finishes.ending {q : Grammar ρ} {c : Class} (hT : T.Fronts rules)
    (hg : T.takes (.ending q c g h) = true)
    (hn : T.depth deep (.ending q c g h) + 400 * Token.size ts ≤ n + 1) :
    run rules (n + 1) (.ending q c g h) ts ≠ .unfinished := by
  obtain ⟨hq, hh⟩ := Bool.and_eq_true_iff.1 hg
  obtain ⟨hq, hg⟩ := Bool.and_eq_true_iff.1 hq
  simp only [depth] at hn
  refine finished_andThen (ih hq (by omega)) fun first mid hread => ?_
  have hbehind : max (T.depth deep g) (T.depth deep h) + 400 * Token.size mid ≤ n :=
    room_behind hT hread (by omega)
  split
  · exact finished_after (ih hg (by omega))
  · exact finished_after (ih hh (by omega))

theorem Finishes.many (hT : T.Fronts rules) (hg : T.takes (.many l g) = true)
    (hn : T.depth deep (.many l g) + 400 * Token.size ts ≤ n + 1) :
    run rules (n + 1) (.many l g) ts ≠ .unfinished := by
  obtain ⟨hnull, hbody⟩ := Bool.and_eq_true_iff.1 hg
  simp only [run, step]
  split
  · refine finished_andThen (ih hbody (by simp only [depth] at hn; omega))
      fun first mid hread => finished_after (ih hg ?_)
    -- What is repeated takes a token, which makes room for the repetitions behind it.
    have hlt := (size_behind hT hread).2 (by simpa using hnull)
    simp only [depth] at hn ⊢
    omega
  · simp

theorem Finishes.list {stop : Look} {c : Class} (hg : T.takes (.list stop g c) = true)
    (hn : T.depth deep (.list stop g c) + 400 * Token.size ts ≤ n + 1) :
    run rules (n + 1) (.list stop g c) ts ≠ .unfinished := by
  simp only [run, step]
  split
  · simp
  · refine finished_andThen (ih (g := g) hg (by simp only [depth] at hn; omega))
      fun first mid hread => ?_
    have hle := size_le_of_suffix (suffix_of_read hread)
    cases mid with
    | nil => simp
    | cons t mid =>
      have := weight_pos t
      rw [Token.size] at hle
      dsimp only
      split
      · exact finished_after (ih (g := .list stop g c) hg (by
          simp only [depth] at hn ⊢
          omega))
      · simp

theorem Finishes.angles {before : Angles} (hg : T.takes (.angles g before) = true)
    (hn : T.depth deep (.angles g before) + 400 * Token.size ts ≤ n + 1) :
    run rules (n + 1) (.angles g before) ts ≠ .unfinished := by
  simp only [run, step]
  split
  · simp
  · refine finished_andThen (ih (g := g) hg (by simp only [depth] at hn; omega))
      fun first mid hread => ?_
    have hle := size_le_of_suffix (suffix_of_read hread)
    split
    · simp
    · split
      · rename_i hcomma
        obtain ⟨i, mid, rfl⟩ := Look.mark_holds.1 hcomma
        have := weight_pos (.mark ',' i)
        rw [Token.size] at hle
        exact ih (g := .angles g _) hg (by
          simp only [depth, List.drop_succ_cons, List.drop_zero] at hn ⊢
          omega)
      · simp

theorem Finishes.inside {d : Delimiter} (hg : T.takes (.inside d g) = true)
    (hn : T.depth deep (.inside d g) + 400 * Token.size ts ≤ n + 1) :
    run rules (n + 1) (.inside d g) ts ≠ .unfinished := by
  cases ts with
  | nil => simp [run, step]
  | cons t ts =>
    cases t with
    | group e content =>
      simp only [run, step]
      split
      · refine finished_andThen (ih (g := g) hg ?_) fun first mid _ => by split <;> simp
        simp only [depth, Token.size, Token.weight] at hn
        omega
      · simp
    | _ => simp [run, step]

end

/-- **A reading with a limit above the bound is finished.** -/
theorem finishes (hT : T.Fronts rules) (hrules : T.Bounded rules deep) (n : Nat) :
    T.Finishes rules deep n := by
  induction n with
  | zero =>
    -- Every form counts for one at least, so there is none within this limit.
    intro g ts _ hn
    have : 0 < T.depth deep g := by cases g <;> simp
    omega
  | succ n ih =>
    intro g ts hg hn
    cases g with
    | empty | refuse => simp [run, step]
    | take c =>
      cases ts with
      | nil => simp [run, step]
      | cons t ts =>
        simp only [run, step]
        split <;> simp
    | replace => exact ih.replace hg hn
    | numbers => exact ih.numbers hg hn
    | seq => exact ih.seq hT hg hn
    | cond l g h =>
      obtain ⟨hg, hh⟩ := Bool.and_eq_true_iff.1 hg
      simp only [depth] at hn
      simp only [run, step]
      split
      · exact ih hg (by omega)
      · exact ih hh (by omega)
    | ending => exact ih.ending hT hg hn
    | many => exact ih.many hT hg hn
    | list => exact ih.list hg hn
    | angles => exact ih.angles hg hn
    | inside => exact ih.inside hg hn
    | verbatim g =>
      simp only [depth] at hn
      exact finished_andThen (ih (g := g) hg (by omega)) fun _ _ _ => by simp
    | lenient g =>
      have hstrict : T.depth deep g.strict ≤ T.depth deep g := T.depth_strict g
      simp only [depth] at hn
      refine finished_orElse (ih (takes_strict hg) (by omega)) (ih (g := .verbatim g) hg ?_)
      simp only [depth]
      omega
    | loose g h =>
      obtain ⟨-, hh⟩ := Bool.and_eq_true_iff.1 hg
      simp only [depth] at hn
      exact ih (g := h) hh (by omega)
    | call r =>
      obtain ⟨hr, hdepth⟩ := hrules r
      simp only [depth] at hn
      exact ih hr (by omega)

end Table

/-! ## The source grammar -/

/-- How deep the readings by a rule nest before a token is taken, at most. -/
def Rule.deep : Rule → Nat
  | .pathRest (.pattern _) _ _ _ => 40
  | .segment _ _ _ | .pathRest _ _ _ _ | .arguments | .trailers | .operators _ _ _
  | .conditional | .selection | .useTree | .attribute => 20
  | .bound _ _ | .pattern _ | .implItem | .traitItem | .foreignItem | .unary _ | .item => 60
  | .objectBounds _ _ | .operand _ | .expression _ => 80
  | .type _ => 100
  | .statements | .implHead _ => 150

theorem rules_bounded : sourceTable.Bounded rules Rule.deep := by
  have hchecked : (allRules.all fun r => sourceTable.takes (rules r) &&
      (sourceTable.depth Rule.deep (rules r)).ble r.deep) = true := by
    decide +kernel
  intro r
  have hr := List.all_eq_true.1 hchecked r (mem_allRules r)
  exact (Bool.and_eq_true_iff.1 hr).imp_right Nat.le_of_ble_eq_true

/-- A part of the source grammar that is read with its limit. -/
def Grammar.bounded (g : Form) : Bool :=
  sourceTable.takes g && (sourceTable.depth Rule.deep g).ble 1600

/-- **What the source grammar reads at any depth, it reads with its limit.** -/
theorem read_iff {g : Form} (hg : g.bounded = true) {ts written rest : List Token} :
    g.read ts = .read written rest ↔ Reads rules g ts written rest := by
  constructor
  · exact fun h => ⟨_, h⟩
  · rintro ⟨n, hread⟩
    obtain ⟨htakes, hdepth⟩ := Bool.and_eq_true_iff.1 hg
    have hdepth := Nat.le_of_ble_eq_true hdepth
    have hfinished : g.read ts ≠ .unfinished :=
      Table.finishes sourceTable_fronts rules_bounded _ htakes (by omega)
    have heq : g.read ts = run rules n g ts := run_unique hfinished (by simp [hread])
    rw [heq, hread]

end Vigil.Source
