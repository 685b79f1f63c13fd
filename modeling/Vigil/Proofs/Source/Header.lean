import Vigil.Proofs.Source.Needs
import Vigil.Proofs.Source.Steady

/-!
# The types of a block

A path is read segment by segment, and only what comes behind its last segment depends on where it
stands. So a path in the place of a trait is a trait with the word `for` and a type behind it, or
it is the type that a block is for.

* `reads_segment_iff`: a path is segments and an end.
* `reads_trait`: what a path in the place of a trait is.
* `head_of_target`: what stands behind parameters that are left out may be read as parameters, and
  the same is written.
-/

namespace Vigil.Source

open Grammar

/-! ## Segments -/

/-- The path is a type or a trait here. -/
def Setting.named : Setting → Bool
  | .bound | .type _ _ | .trait _ => true
  | _ => false

/-- A further segment follows. -/
def Look.continued (qualified : Bool) : Look :=
  if qualified then .operator "::" else .colons (.not (.group .paren))

/-- The words that stand for a module or the root. -/
def Class.placeWord : Class := .words ["super", "self", "crate", "try"]

/-- The name of a segment. -/
def segmentName : Form := .cond (.word "Self") (word "Self") (.take .name)

/-- A segment with its arguments, if it has any. Behind arguments the path is no simple one, and
the segment is not bare. -/
inductive Segment (simple : Bool) : (ts written rest : List Token) → (simple' bare : Bool) → Prop
  | place {ts written rest} : (Look.one .placeWord).holds ts = true →
      Reads rules (.take .placeWord) ts written rest → Segment simple ts written rest simple true
  | name {ts written rest} : (Look.one .placeWord).holds ts = false →
      Reads rules segmentName ts written rest → (Look.arguments .bound).holds rest = false →
      Segment simple ts written rest simple true
  | arguments {ts name mid colons us items rest} : (Look.one .placeWord).holds ts = false →
      Reads rules segmentName ts name mid → (Look.arguments .bound).holds mid = true →
      Reads rules (optOperator "::") mid colons us → Reads rules (.call .arguments) us items rest →
      Segment simple ts (name ++ (colons ++ items)) rest false false

/-- Segments up to the last one. -/
inductive Segments (qualified : Bool) :
    (simple : Bool) → (ts written rest : List Token) → (simple' bare : Bool) → Prop
  | last {simple ts written rest simple' bare} : Segment simple ts written rest simple' bare →
      (Look.continued qualified).holds rest = false →
      Segments qualified simple ts written rest simple' bare
  | next {simple ts first mid simple' bare colons us more rest simple'' bare'} :
      Segment simple ts first mid simple' bare → (Look.continued qualified).holds mid = true →
      Reads rules (operator "::") mid colons us →
      Segments qualified simple' us more rest simple'' bare' →
      Segments qualified simple ts (first ++ (colons ++ more)) rest simple'' bare'

variable {place : Setting} {qualified simple simple' bare : Bool} {ts written rest : List Token}

theorem length_of_take {c : Class} (h : Reads rules (.take c) ts written rest) :
    rest.length < ts.length := by
  obtain ⟨t, rfl, -⟩ := reads_take.1 h
  exact Nat.lt_succ_self _

theorem length_of_name (h : Reads rules segmentName ts written rest) :
    rest.length < ts.length := by
  cases hself : (Look.word "Self").holds ts with
  | true => exact length_of_take ((reads_cond_of_holds hself).1 h)
  | false => exact length_of_take ((reads_cond_of_not hself).1 h)

theorem Segment.length_lt (h : Segment simple ts written rest simple' bare) :
    rest.length < ts.length := by
  cases h with
  | place _ h => exact length_of_take h
  | name _ h _ => exact length_of_name h
  | arguments _ hname _ hcolons hitems =>
    exact Nat.lt_of_le_of_lt (hitems.suffix.trans hcolons.suffix).length_le (length_of_name hname)

/-- A segment and what comes behind it. -/
theorem reads_segment_iff_rest (hplace : place.named = true) :
    Reads rules (.call (.segment place qualified simple)) ts written rest ↔
      ∃ first mid simple' bare second, Segment simple ts first mid simple' bare ∧
        Reads rules (.call (.pathRest place qualified simple' bare)) mid second rest ∧
        written = first ++ second := by
  have harguments : Look.arguments place = Look.arguments .bound := by
    cases place <;> first | rfl | exact nomatch hplace
  have hsegment : segment place qualified simple = .cond (.one .placeWord)
      (.seq (.take .placeWord) (.call (.pathRest place qualified simple true)))
      (.seq segmentName (.cond (.arguments .bound)
        (.seq (optOperator "::") (.seq (.call .arguments)
          (.call (.pathRest place qualified false false))))
        (.call (.pathRest place qualified simple true)))) := by
    rw [← harguments]
    rfl
  rw [reads_call, rules, hsegment]
  constructor
  · intro h
    cases hword : (Look.one .placeWord).holds ts with
    | true =>
      obtain ⟨first, mid, second, hfirst, hrest, rfl⟩ :=
        reads_seq.1 ((reads_cond_of_holds hword).1 h)
      exact ⟨first, mid, _, _, second, .place hword hfirst, hrest, rfl⟩
    | false =>
      obtain ⟨name, mid, second, hname, hrest, rfl⟩ := reads_seq.1 ((reads_cond_of_not hword).1 h)
      cases hitems : (Look.arguments .bound).holds mid with
      | true =>
        obtain ⟨colons, us, more, hcolons, hmore, rfl⟩ :=
          reads_seq.1 ((reads_cond_of_holds hitems).1 hrest)
        obtain ⟨items, vs, second, hread, hbehind, rfl⟩ := reads_seq.1 hmore
        exact ⟨_, vs, _, _, second, .arguments hword hname hitems hcolons hread, hbehind, by simp⟩
      | false =>
        exact ⟨name, mid, _, _, second, .name hword hname hitems,
          (reads_cond_of_not hitems).1 hrest, rfl⟩
  · rintro ⟨first, mid, simple', bare, second, hfirst, hrest, rfl⟩
    cases hfirst with
    | place hword hfirst =>
      exact (reads_cond_of_holds hword).2 (reads_seq.2 ⟨_, _, _, hfirst, hrest, rfl⟩)
    | name hword hname hitems =>
      exact (reads_cond_of_not hword).2 (reads_seq.2 ⟨_, _, _, hname,
        (reads_cond_of_not hitems).2 hrest, rfl⟩)
    | arguments hword hname hitems hcolons hread =>
      refine (reads_cond_of_not hword).2 (reads_seq.2 ⟨_, _, _, hname,
        (reads_cond_of_holds hitems).2 (reads_seq.2 ⟨_, _, _, hcolons,
          reads_seq.2 ⟨_, _, _, hread, hrest, rfl⟩, rfl⟩), ?_⟩)
      simp

/-- Behind a segment comes another one or the end of the path. -/
theorem reads_pathRest (hplace : place.named = true) :
    Reads rules (.call (.pathRest place qualified simple bare)) ts written rest ↔
      Reads rules (.cond (.continued qualified)
        (.seq (operator "::") (.call (.segment place qualified simple)))
        (pathEnd place qualified simple bare)) ts written rest := by
  have hrest : pathRest place qualified simple bare = .cond (.continued qualified)
      (.seq (operator "::") (.call (.segment place qualified simple)))
      (pathEnd place qualified simple bare) := by
    cases place <;> first | rfl | exact nomatch hplace
  rw [reads_call, rules, hrest]

/-- **A path is segments and an end.** -/
theorem reads_segment_iff (hplace : place.named = true) :
    Reads rules (.call (.segment place qualified simple)) ts written rest ↔
      ∃ front us simple' bare back, Segments qualified simple ts front us simple' bare ∧
        Reads rules (pathEnd place qualified simple' bare) us back rest ∧
        written = front ++ back := by
  constructor
  · intro h
    -- By the length of the text: each segment takes a token.
    induction hn : ts.length using Nat.strongRecOn generalizing simple ts written with
    | ind n ih =>
      subst hn
      obtain ⟨first, mid, simple', bare, second, hfirst, hrest, rfl⟩ :=
        (reads_segment_iff_rest hplace).1 h
      have hrest := (reads_pathRest hplace).1 hrest
      cases hon : (Look.continued qualified).holds mid with
      | false =>
        exact ⟨first, mid, _, _, second, .last hfirst hon, (reads_cond_of_not hon).1 hrest, rfl⟩
      | true =>
        obtain ⟨colons, us, more, hcolons, hmore, rfl⟩ :=
          reads_seq.1 ((reads_cond_of_holds hon).1 hrest)
        have hlt := Nat.lt_of_le_of_lt hcolons.suffix.length_le hfirst.length_lt
        obtain ⟨front, vs, simple'', bare', back, hsegments, hback, rfl⟩ := ih _ hlt hmore rfl
        exact ⟨_, vs, _, _, back, .next hfirst hon hcolons hsegments, hback, by simp⟩
  · rintro ⟨front, us, simple', bare, back, hsegments, hback, rfl⟩
    induction hsegments with
    | last hfirst hon =>
      exact (reads_segment_iff_rest hplace).2 ⟨_, _, _, _, _, hfirst,
        (reads_pathRest hplace).2 ((reads_cond_of_not hon).2 hback), rfl⟩
    | next hfirst hon hcolons _ ih =>
      refine (reads_segment_iff_rest hplace).2 ⟨_, _, _, _, _, hfirst, (reads_pathRest hplace).2
        ((reads_cond_of_holds hon).2 (reads_seq.2 ⟨_, _, _, hcolons, ih hback, rfl⟩)), ?_⟩
      simp

/-! ## A path in the place of a trait -/

/-- The types of a block end here. -/
def Look.typesEnd : Look := .or (.word "where") (.group .brace)

theorem Look.when_holds (b : Bool) (l : Look) : (Look.when b l).holds ts = (b && l.holds ts) := by
  cases b <;> rfl

theorem Look.not_of_typesEnd {l : Look} (hend : Look.typesEnd.holds ts = true)
    (h : (Look.typesEnd.settles l).isNo = true) : l.holds ts = false :=
  Verdict.of_isNo h (Look.fits_settles hend)

variable {denied : Bool}

/-- No trait, but only if none is denied. -/
def typeOnly (denied : Bool) : Form :=
  if denied then .cond (.word "for") .empty .refuse else .empty

/-- The end of a path in the place of a trait, behind its inputs. -/
def onward (denied : Bool) : Form :=
  choose [(.mark '+', all [moreBounds false false, typeOnly denied]),
    (.word "for", all [word "for", .call (.type true)])] (if denied then .refuse else .empty)

theorem reads_typeOnly (hend : Look.typesEnd.holds rest = true) :
    Reads rules (typeOnly denied) ts written rest ↔
      denied = false ∧ written = [] ∧ rest = ts := by
  cases denied with
  | false => simpa [typeOnly] using reads_empty
  | true =>
    simp only [typeOnly, if_true, Bool.true_eq_false, false_and, iff_false]
    intro h
    cases hfor : (Look.word "for").holds ts with
    | true =>
      obtain ⟨-, rfl⟩ := reads_empty.1 ((reads_cond_of_holds hfor).1 h)
      exact nomatch hfor.symm.trans (Look.not_of_typesEnd hend (by decide))
    | false => exact not_reads_refuse ((reads_cond_of_not hfor).1 h)

/-- Behind a path in the place of a trait comes the word `for` with a type, or bounds do. -/
theorem reads_onward (hend : Look.typesEnd.holds rest = true) :
    Reads rules (onward denied) ts written rest ↔
      (∃ behind subject, ts = .word "for" :: behind ∧
        Reads rules (.call (.type true)) behind subject rest ∧ written = .word "for" :: subject) ∨
      denied = false ∧ Reads rules (moreBounds false false) ts written rest := by
  cases hplus : (Look.mark '+').holds ts with
  | true =>
    obtain ⟨i, us, rfl⟩ := Look.mark_holds.1 hplus
    simp only [onward, choose, List.foldr_cons, reads_cond_of_holds hplus, List.cons.injEq,
      reduceCtorEq, false_and, exists_false, false_or]
    constructor
    · intro h
      obtain ⟨bounds, mid, second, hbounds, hsecond, rfl⟩ := reads_seq.1 h
      obtain ⟨hdenied, rfl, rfl⟩ := (reads_typeOnly hend).1 hsecond
      exact ⟨hdenied, by rwa [List.append_nil]⟩
    · rintro ⟨hdenied, hbounds⟩
      exact reads_seq.2 ⟨_, _, [], hbounds, (reads_typeOnly hend).2 ⟨hdenied, rfl, rfl⟩,
        (List.append_nil _).symm⟩
  | false =>
    have hbounds : Reads rules (moreBounds false false) ts written rest ↔
        written = [] ∧ rest = ts := (reads_cond_of_not hplus).trans reads_empty
    rw [hbounds, onward, choose, List.foldr_cons, reads_cond_of_not hplus]
    cases hfor : (Look.word "for").holds ts with
    | true =>
      obtain ⟨us, rfl⟩ := Look.word_holds.1 hfor
      have hno : ¬(denied = false ∧ written = [] ∧ rest = .word "for" :: us) := by
        rintro ⟨-, -, rfl⟩
        exact nomatch hfor.symm.trans (Look.not_of_typesEnd hend (by decide))
      rw [List.foldr_cons, reads_cond_of_holds hfor, or_iff_left hno]
      constructor
      · intro h
        obtain ⟨_, behind, subject, hword, htype, rfl⟩ := reads_seq.1 h
        obtain ⟨hts, rfl⟩ := reads_word.1 hword
        exact ⟨behind, subject, hts, htype, rfl⟩
      · rintro ⟨behind, subject, hts, htype, rfl⟩
        exact reads_seq.2 ⟨_, _, _, reads_word.2 ⟨hts, rfl⟩, htype, rfl⟩
    | false =>
      have hno : ¬∃ behind subject, ts = .word "for" :: behind ∧
          Reads rules (.call (.type true)) behind subject rest ∧
            written = .word "for" :: subject := by
        rintro ⟨behind, subject, rfl, -⟩
        exact nomatch hfor
      rw [List.foldr_cons, reads_cond_of_not hfor, or_iff_right hno]
      cases denied with
      | false => simpa using reads_empty
      | true => simpa using not_reads_refuse

/-- The end of a path that is a bound: its inputs, or nothing. -/
theorem reads_boundEnd : Reads rules (pathEnd .bound qualified simple bare) ts written rest ↔
    Reads rules (.cond (.when bare .inputs) inputs .empty) ts written rest := by
  cases bare with
  | false => exact (reads_cond_of_not rfl).symm
  | true => exact Iff.rfl

theorem typeEnd_eq : pathEnd (.type true false) false simple bare = .cond (.when bare .inputs)
    (.seq inputs (moreBounds false false)) (.cond (.when simple .bang) invocation
      (moreBounds false false)) := by
  cases simple <;> rfl

/-- Where nothing follows with which a type goes on, a path that ends as a bound does ends as a
type. -/
theorem typeEnd_of_boundEnd (hplus : (Look.mark '+').holds rest = false)
    (hbang : Look.bang.holds rest = false)
    (h : Reads rules (pathEnd .bound qualified simple bare) ts written rest) :
    Reads rules (pathEnd (.type true false) false simple' bare) ts written rest := by
  have hnone : Reads rules (moreBounds false false) rest [] rest :=
    (reads_cond_of_not hplus).2 (reads_empty.2 ⟨rfl, rfl⟩)
  have h := reads_boundEnd.1 h
  rw [typeEnd_eq]
  cases hin : (Look.when bare .inputs).holds ts with
  | true =>
    rw [reads_cond_of_holds hin] at h ⊢
    exact reads_seq.2 ⟨_, _, _, h, hnone, (List.append_nil _).symm⟩
  | false =>
    obtain ⟨rfl, rfl⟩ := reads_empty.1 ((reads_cond_of_not hin).1 h)
    rw [reads_cond_of_not hin, reads_cond_of_not (by rw [Look.when_holds, hbang, Bool.and_false])]
    exact hnone

/-- The end of a path in the place of a trait is the one of a trait with the word `for` and a type
behind it, or the one of a type. -/
theorem reads_traitEnd (hend : Look.typesEnd.holds rest = true) :
    Reads rules (pathEnd (.trait denied) false simple bare) ts written rest ↔
      (∃ first behind subject,
        Reads rules (pathEnd .bound false simple bare) ts first (.word "for" :: behind) ∧
        Reads rules (.call (.type true)) behind subject rest ∧
        written = first ++ .word "for" :: subject) ∨
      denied = false ∧ Reads rules (pathEnd (.type true false) false simple bare) ts written rest := by
  have htrait : pathEnd (.trait denied) false simple bare = .cond (.when bare .inputs)
      (.seq inputs (onward denied)) (.cond (.when simple .bang)
        (.seq invocation (typeOnly denied)) (onward denied)) := rfl
  simp only [htrait, typeEnd_eq, reads_boundEnd]
  cases hin : (Look.when bare .inputs).holds ts with
  | true =>
    simp only [reads_cond_of_holds hin]
    constructor
    · intro h
      obtain ⟨first, mid, second, hfirst, hsecond, rfl⟩ := reads_seq.1 h
      obtain ⟨behind, subject, rfl, htype, rfl⟩ | ⟨hdenied, hbounds⟩ := (reads_onward hend).1 hsecond
      · exact .inl ⟨first, behind, subject, hfirst, htype, rfl⟩
      · exact .inr ⟨hdenied, reads_seq.2 ⟨_, _, _, hfirst, hbounds, rfl⟩⟩
    · rintro (⟨first, behind, subject, hfirst, htype, rfl⟩ | ⟨hdenied, h⟩)
      · exact reads_seq.2 ⟨_, _, _, hfirst,
          (reads_onward hend).2 (.inl ⟨behind, subject, rfl, htype, rfl⟩), rfl⟩
      · obtain ⟨first, mid, second, hfirst, hsecond, rfl⟩ := reads_seq.1 h
        exact reads_seq.2 ⟨_, _, _, hfirst, (reads_onward hend).2 (.inr ⟨hdenied, hsecond⟩), rfl⟩
  | false =>
    simp only [reads_cond_of_not hin, reads_empty]
    cases hbang : (Look.when simple .bang).holds ts with
    | true =>
      have hno {behind : List Token} : ts ≠ .word "for" :: behind := by
        rintro rfl
        rw [Look.when_holds] at hbang
        cases simple <;> exact nomatch hbang
      simp only [reads_cond_of_holds hbang]
      constructor
      · intro h
        obtain ⟨first, mid, second, hfirst, hsecond, rfl⟩ := reads_seq.1 h
        obtain ⟨hdenied, rfl, rfl⟩ := (reads_typeOnly hend).1 hsecond
        exact .inr ⟨hdenied, by rwa [List.append_nil]⟩
      · rintro (⟨first, behind, subject, ⟨-, hts⟩, -⟩ | ⟨hdenied, h⟩)
        · exact absurd hts.symm hno
        · exact reads_seq.2 ⟨_, _, [], h, (reads_typeOnly hend).2 ⟨hdenied, rfl, rfl⟩,
            (List.append_nil _).symm⟩
    | false =>
      simp only [reads_cond_of_not hbang, reads_onward hend]
      refine or_congr_left ?_
      constructor
      · rintro ⟨behind, subject, rfl, htype, rfl⟩
        exact ⟨[], behind, subject, ⟨rfl, rfl⟩, htype, rfl⟩
      · rintro ⟨_, behind, subject, ⟨rfl, rfl⟩, htype, rfl⟩
        exact ⟨behind, subject, rfl, htype, rfl⟩

/-- A double colon as the next two tokens. -/
theorem reads_colons : Reads rules (operator "::") ts written rest ↔
    ∃ j, ts = .mark ':' true :: .mark ':' j :: rest ∧
      written = [.mark ':' true, .mark ':' j] := by
  have hoperator : (operator "::" : Form) = .seq (.take (.joint ':')) (.take (.mark ':')) := by rfl
  rw [hoperator, reads_seq]
  constructor
  · rintro ⟨_, _, _, hfirst, hsecond, rfl⟩
    obtain ⟨t, rfl, ht, rfl⟩ := reads_take.1 hfirst
    obtain ⟨u, rfl, hu, rfl⟩ := reads_take.1 hsecond
    obtain rfl := Class.joint_holds.1 ht
    obtain ⟨j, rfl⟩ := Class.mark_holds.1 hu
    exact ⟨j, rfl, rfl⟩
  · rintro ⟨j, rfl, rfl⟩
    exact ⟨_, _, _, reads_take.2 ⟨_, rfl, Class.joint_holds.2 rfl, rfl⟩,
      reads_take.2 ⟨_, rfl, Class.mark_holds.2 ⟨j, rfl⟩, rfl⟩, rfl⟩

theorem Segment.front {simple' : Bool} (h : Segment simple ts written rest simple' bare) :
    (Look.group .paren).holds ts = false := by
  have take {c : Class} {us first : List Token} (h : Reads rules (.take c) ts first us)
      (hc : ((Look.one c).settles (.group .paren)).isNo = true) :
      (Look.group .paren).holds ts = false := by
    obtain ⟨t, rfl, ht, -⟩ := reads_take.1 h
    exact Verdict.of_isNo hc (Look.fits_settles (by simp [Look.one, Look.holds, ht]))
  have name {us first : List Token} (h : Reads rules segmentName ts first us) :
      (Look.group .paren).holds ts = false := by
    cases hself : (Look.word "Self").holds ts with
    | true => exact take ((reads_cond_of_holds hself).1 h) (by decide)
    | false => exact take ((reads_cond_of_not hself).1 h) (by decide)
  cases h with
  | place _ h => exact take h (by decide)
  | name _ h _ => exact name h
  | arguments _ h _ _ _ => exact name h

/-- Segments behind a type in angle brackets are segments of a path. -/
theorem Segments.unqualified {front us : List Token} {simple' : Bool}
    (h : Segments true simple ts front us simple' bare) (simple₁ : Bool) :
    ∃ simple₂, Segments false simple₁ ts front us simple₂ bare := by
  have segment (simple₀ : Bool) {simple simple' bare : Bool} {ts written rest : List Token}
      (h : Segment simple ts written rest simple' bare) :
      ∃ simple₂, Segment simple₀ ts written rest simple₂ bare := by
    cases h with
    | place hword h => exact ⟨_, .place hword h⟩
    | name hword h hitems => exact ⟨_, .name hword h hitems⟩
    | arguments hword h hitems hcolons hread =>
      exact ⟨_, .arguments hword h hitems hcolons hread⟩
  induction h generalizing simple₁ with
  | last hfirst hon =>
    obtain ⟨simple₂, hfirst⟩ := segment simple₁ hfirst
    refine ⟨simple₂, .last hfirst (Bool.eq_false_iff.2 fun hcolons => ?_)⟩
    obtain ⟨j, us, rfl, -⟩ := Look.colons_holds.1 hcolons
    exact nomatch hon.symm.trans (Look.colons_holds.2 ⟨j, us, rfl, rfl⟩)
  | @next simple ts first mid simple' bare colons us more rest _ _ hfirst hon hcolons hmore ih =>
    obtain ⟨simple₂, hfirst⟩ := segment simple₁ hfirst
    obtain ⟨simple₃, hmore'⟩ := ih simple₂
    refine ⟨simple₃, .next hfirst ?_ hcolons hmore'⟩
    have hparen : (Look.group .paren).holds us = false := by
      cases hmore with
      | last h _ => exact h.front
      | next h _ _ _ => exact h.front
    obtain ⟨j, rfl, rfl⟩ := reads_colons.1 hcolons
    exact Look.colons_holds.2 ⟨j, us, rfl, by rw [Look.holds, hparen]; rfl⟩

/-- What stands behind a type in angle brackets is a path of its own. -/
theorem reads_unqualified (hend : Look.typesEnd.holds rest = true)
    (h : Reads rules (.call (.segment (.type true false) true simple)) ts written rest) :
    Reads rules (.call (.segment (.trait false) false true)) ts written rest := by
  obtain ⟨front, us, _, bare, back, hsegments, hback, rfl⟩ := (reads_segment_iff rfl).1 h
  obtain ⟨simple', hsegments⟩ := hsegments.unqualified true
  have hback : Reads rules (pathEnd .bound true simple bare) us back rest := hback
  exact (reads_segment_iff rfl).2 ⟨_, _, _, _, _, hsegments, (reads_traitEnd hend).2 (.inr ⟨rfl,
    typeEnd_of_boundEnd (Look.not_of_typesEnd hend (by decide))
      (Look.not_of_typesEnd hend (by decide)) hback⟩), rfl⟩

/-! ## Parameters that are left out -/

/-- What follows the name of a parameter. -/
def Look.behindName : Look :=
  .any [.mark '>', .mark ',', .mark '=', .and (.mark ':') (.not (.operator "::"))]

/-- A type at the front of parameters is a single name. -/
theorem name_of_parameters {i : Bool} {first : List Token}
    (hparameters : Look.parameters.holds (.mark '<' i :: ts) = true)
    (h : Reads rules (.call (.type true)) ts first rest) :
    ∃ t, ts = t :: rest ∧ Class.name.holds t = true ∧ first = [t] ∧
      Look.behindName.holds rest = true := by
  have hinside : Look.holds (.any [.mark '#', .word "const", .next .lifetime (.not (.mark '+')),
      .next .name .behindName]) ts = true := by
    rw [Look.parameters, Look.holds, Bool.and_eq_true] at hparameters
    exact hparameters.2
  simp only [Look.any, Look.holds, Bool.or_eq_true] at hinside
  obtain hmark | hconst | hlifetime | hname := hinside
  · have h := (reads_call_under hmark).1 h
    exact absurd h not_reads_refuse
  · have h := (reads_call_under hconst).1 h
    exact absurd h not_reads_refuse
  · have hobject : Reads rules (.call (.objectBounds false true)) ts first rest :=
      (reads_call_under hlifetime).1 h
    have hbounds := (reads_call_under hlifetime).1 hobject
    obtain ⟨_, mid, _, hbound, hmore, rfl⟩ := reads_seq.1 hbounds
    obtain ⟨_, us, _, hplus, -, rfl⟩ := reads_seq.1 hmore
    obtain ⟨j, rfl, rfl⟩ := reads_mark.1 hplus
    have htake {inner : List Token}
        (h : Reads rules (.take .lifetime) ts inner (.mark '+' j :: us)) : False := by
      obtain ⟨t, rfl, -⟩ := reads_take.1 h
      simp [Look.holds, Look.mark, Look.one, Class.holds] at hlifetime
    obtain hstrict | ⟨inner, hloose⟩ := reads_of_lenient (reads_call.1 hbound)
    · exact (htake ((reads_under hlifetime).2 hstrict)).elim
    · exact (htake ((reads_under hlifetime).2 hloose)).elim
  · have hsegment : Reads rules (.call (.segment (.type true false) false true)) ts first rest :=
      (reads_call_under hname).1 h
    have hparts := (reads_call_under hname).1 hsegment
    obtain ⟨_, mid, _, htake, hmore, rfl⟩ := reads_seq.1 hparts
    obtain ⟨t, rfl, ht, rfl⟩ := reads_take.1 htake
    have hbehind : Look.behindName.holds mid = true := by
      simp only [Look.holds, Bool.and_eq_true] at hname
      exact hname.2
    -- Nothing with which a path goes on stands behind the name.
    have hno {l : Look} (h : (Look.behindName.settles l).isNo = true) : l.holds mid = false :=
      Verdict.of_isNo h (Look.fits_settles hbehind)
    have hcolons {l : Look} : (Look.colons l).holds mid = false := by
      refine Bool.eq_false_iff.2 fun h => ?_
      obtain ⟨j, us, rfl, -⟩ := Look.colons_holds.1 h
      cases (hno (l := .operator "::") (by decide)).symm.trans
        (Look.colons_holds.2 ⟨j, us, rfl, rfl⟩)
    have harguments : (Look.arguments (.type true false)).holds mid = false := by
      have hshape : Look.arguments (.type true false) = .or (.and (.mark '<')
          (.not (.or (.operator "<=") (.operator "<<=")))) (.colons (.mark '<')) := by rfl
      rw [hshape, Look.holds, hcolons, hno (by decide)]
      rfl
    have hinputs : (Look.when true .inputs).holds mid = false := by
      rw [Look.when_holds, Look.inputs, Look.holds, hcolons, hno (by decide)]
      rfl
    have hrest := (reads_pathRest rfl).1 ((reads_cond_of_not harguments).1 hmore)
    have hend := (reads_cond_of_not hcolons).1 hrest
    have hbounds := (reads_cond_of_not (hno (by decide))).1 ((reads_cond_of_not hinputs).1 hend)
    obtain ⟨rfl, rfl⟩ := reads_empty.1 ((reads_cond_of_not (hno (by decide))).1 hbounds)
    exact ⟨t, rfl, ht, rfl, hbehind⟩

/-- What reads the types of a block strictly. -/
theorem reads_target : Reads rules implTarget.strict ts written rest ↔
    Look.typesEnd.holds rest = true ∧
      Look.holds (.or (.word "const") (.two (.mark '?') (.word "const"))) ts = false ∧
      Reads rules implTypes.strict ts written rest := by
  have htarget : implTarget.strict = .seq
      (.cond (.or (.word "const") (.two (.mark '?') (.word "const"))) .refuse .empty)
      (.seq implTypes.strict (.cond .typesEnd .empty .refuse)) := by rfl
  rw [htarget]
  constructor
  · intro h
    obtain ⟨_, mid, _, hconst, hmore, rfl⟩ := reads_seq.1 h
    obtain ⟨first, us, _, htypes, hends, rfl⟩ := reads_seq.1 hmore
    cases hl : Look.holds (.or (.word "const") (.two (.mark '?') (.word "const"))) ts with
    | true => exact absurd ((reads_cond_of_holds hl).1 hconst) not_reads_refuse
    | false =>
      obtain ⟨rfl, rfl⟩ := reads_empty.1 ((reads_cond_of_not hl).1 hconst)
      cases hend : Look.typesEnd.holds us with
      | false => exact absurd ((reads_cond_of_not hend).1 hends) not_reads_refuse
      | true =>
        obtain ⟨rfl, rfl⟩ := reads_empty.1 ((reads_cond_of_holds hend).1 hends)
        exact ⟨hend, rfl, by simpa using htypes⟩
  · rintro ⟨hend, hconst, htypes⟩
    exact reads_seq.2 ⟨[], ts, written, (reads_cond_of_not hconst).2 (reads_empty.2 ⟨rfl, rfl⟩),
      reads_seq.2 ⟨written, rest, [], htypes, (reads_cond_of_holds hend).2
        (reads_empty.2 ⟨rfl, rfl⟩), (List.append_nil _).symm⟩, rfl⟩

/-- A type behind which the word `for` does not stand. -/
theorem reads_withoutFor {g : Form} (hend : Look.typesEnd.holds rest = true) :
    Reads rules (.seq g (.cond (.word "for") .refuse .empty)) ts written rest ↔
      Reads rules g ts written rest := by
  have hfor : (Look.word "for").holds rest = false := Look.not_of_typesEnd hend (by decide)
  rw [reads_seq]
  constructor
  · rintro ⟨first, mid, _, hg, hnone, rfl⟩
    cases hl : (Look.word "for").holds mid with
    | true => exact absurd ((reads_cond_of_holds hl).1 hnone) not_reads_refuse
    | false =>
      obtain ⟨rfl, rfl⟩ := reads_empty.1 ((reads_cond_of_not hl).1 hnone)
      rwa [List.append_nil]
  · exact fun hg => ⟨written, rest, [], hg, (reads_cond_of_not hfor).2
      (reads_empty.2 ⟨rfl, rfl⟩), (List.append_nil _).symm⟩

/-- Between brackets in front of types stands the type that a path starts with. -/
theorem reads_types_angle {i : Bool} (hend : Look.typesEnd.holds rest = true) :
    Reads rules implTypes.strict (.mark '<' i :: ts) written rest ↔
      Reads rules (qualifiedPath (.type true false)) (.mark '<' i :: ts) written rest := by
  have hangle : (Look.mark '<').holds (.mark '<' i :: ts) = true := Look.mark_holds.2 ⟨i, ts, rfl⟩
  have htypes : implTypes.strict.under (.mark '<') =
      .seq (.call (.type true)) (.cond (.word "for") .refuse .empty) := by rfl
  have htype : (rules (.type true)).under (.mark '<') = qualifiedPath (.type true false) := by rfl
  rw [← reads_under hangle, htypes, reads_withoutFor hend, reads_call_under hangle, htype]

/-- A single name between brackets is a list of parameters. -/
theorem parameterList_of_name {i j : Bool} {t : Token} (ht : Class.name.holds t = true) :
    Reads rules parameterList (.mark '<' i :: t :: .mark '>' j :: ts)
      [.mark '<' i, t, .mark '>' j] ts := by
  have hfront : Look.holds (.next .name (.mark '>')) (t :: .mark '>' j :: ts) = true :=
    Bool.and_eq_true_iff.2 ⟨ht, Look.mark_holds.2 ⟨j, ts, rfl⟩⟩
  have hno {l : Look} (h : ((Look.mark '>').settles l).isNo = true) :
      l.holds (.mark '>' j :: ts) = false :=
    Verdict.of_isNo h (Look.fits_settles (Look.mark_holds.2 ⟨j, ts, rfl⟩))
  have hparameter : Reads rules parameter (t :: .mark '>' j :: ts) [t] (.mark '>' j :: ts) := by
    refine reads_seq.2 ⟨[], _, [t], reads_many_nil (Verdict.of_isNo
      (v := (Look.next .name (.mark '>')).settles (.mark '#')) (by decide)
        (Look.fits_settles hfront)), (reads_under hfront).1 ?_, rfl⟩
    exact reads_seq.2 ⟨[t], _, [], reads_take.2 ⟨t, rfl, ht, rfl⟩, reads_seq.2 ⟨[], _, [],
      (reads_replace_of_not (hno (by decide))).2 ((reads_cond_of_not (hno (by decide))).2
        (reads_empty.2 ⟨rfl, rfl⟩)),
      (reads_cond_of_not (hno (by decide))).2 (reads_empty.2 ⟨rfl, rfl⟩), rfl⟩, rfl⟩
  have hopen : (Look.mark '>').holds (t :: .mark '>' j :: ts) = false := Verdict.of_isNo
    (v := (Look.next .name (.mark '>')).settles (.mark '>')) (by decide) (Look.fits_settles hfront)
  have hitem : (({} : Angles).add [t] []).arranged = [t] := by
    cases t with
    | word w => rfl
    | _ => exact nomatch ht
  obtain ⟨n, hread⟩ := hparameter
  have hangles : Reads rules (.angles parameter {}) (t :: .mark '>' j :: ts) [t, .mark '>' j] ts :=
    ⟨n + 1, read_angles.2 (.inr ⟨hopen, .inl ⟨[t], j, hread, by rw [hitem]; rfl⟩⟩)⟩
  exact reads_seq.2 ⟨_, _, _, reads_mark_cons.2 ⟨rfl, rfl⟩, hangles, rfl⟩

/-- **Types that begin like parameters** are a path behind a type in brackets, and the same is
written if the brackets are read as parameters. -/
theorem head_of_target (h : Reads rules implTarget.strict ts written rest) :
    Reads rules implHead.strict ts written rest := by
  have hhead : implHead.strict = .cond (.two (.mark '<') (.mark '>'))
      (.replace (.two (.mark '<') (.mark '>')) 2 [] implTarget.strict)
      (.seq (.cond .parameters parameterList .empty) implTarget.strict) := by rfl
  obtain ⟨hend, -, htypes⟩ := reads_target.1 h
  rw [hhead]
  cases hbrackets : (Look.two (.mark '<') (.mark '>')).holds ts with
  | true =>
    obtain ⟨i, ts, rfl⟩ : ∃ i us, ts = .mark '<' i :: us := Look.mark_holds.1
      (Verdict.of_isYes (v := (Look.two (.mark '<') (.mark '>')).settles (.mark '<')) (by decide)
        (Look.fits_settles hbrackets))
    have hclose : (Look.mark '>').holds ts = true := (Bool.and_eq_true_iff.1 hbrackets).2
    obtain ⟨_, mid, _, hopen, hmore, rfl⟩ := reads_seq.1 ((reads_types_angle hend).1 htypes)
    obtain ⟨rfl, -⟩ := reads_mark_cons.1 hopen
    obtain ⟨_, _, _, htype, -, -⟩ := reads_seq.1 hmore
    exact absurd ((reads_call_under hclose).1 htype) not_reads_refuse
  | false =>
    rw [reads_cond_of_not hbrackets]
    cases hparameters : Look.parameters.holds ts with
    | false =>
      exact reads_seq.2 ⟨[], ts, written, (reads_cond_of_not hparameters).2
        (reads_empty.2 ⟨rfl, rfl⟩), h, rfl⟩
    | true =>
      obtain ⟨i, us, rfl⟩ : ∃ i us, ts = .mark '<' i :: us := Look.mark_holds.1
        (Verdict.of_isYes (v := Look.parameters.settles (.mark '<')) (by decide)
          (Look.fits_settles hparameters))
      obtain ⟨_, mid, _, hopen, hinside, rfl⟩ := reads_seq.1 ((reads_types_angle hend).1 htypes)
      obtain ⟨rfl, rfl⟩ := reads_mark_cons.1 hopen
      obtain ⟨_, mid, _, htype, hbehind, rfl⟩ := reads_seq.1 hinside
      obtain ⟨t, rfl, ht, rfl, hname⟩ := name_of_parameters hparameters htype
      -- Behind the name the closing bracket stands, and behind that a path.
      obtain ⟨_, _, _, hnone, hclosed, rfl⟩ := reads_seq.1 hbehind
      have has : (Look.word "as").holds mid = false :=
        Verdict.of_isNo (v := Look.behindName.settles (.word "as")) (by decide)
          (Look.fits_settles hname)
      obtain ⟨rfl, rfl⟩ := reads_empty.1 ((reads_cond_of_not has).1 hnone)
      obtain ⟨_, mid, _, hclose, hcolons, rfl⟩ := reads_seq.1 hclosed
      obtain ⟨j, rfl, rfl⟩ := reads_mark.1 hclose
      obtain ⟨colons, us, segments, hoperator, hpath, rfl⟩ := reads_seq.1 hcolons
      have hfront : (Look.operator "::").holds mid = true := by
        obtain ⟨k, rfl, -⟩ := reads_colons.1 hoperator
        exact Look.colons_holds.2 ⟨k, us, rfl, rfl⟩
      have htypes : implTypes.strict.under (.operator "::") =
          .seq (.seq (operator "::") (.call (.segment (.trait false) false true)))
            (.cond (.word "for") .refuse .empty) := by rfl
      refine reads_seq.2 ⟨_, _, colons ++ segments, (reads_cond_of_holds hparameters).2
        (parameterList_of_name ht), reads_target.2 ⟨hend, ?_, ?_⟩, ?_⟩
      · exact Verdict.of_isNo (v := (Look.operator "::").settles _) (by decide)
          (Look.fits_settles hfront)
      · rw [← reads_under hfront, htypes, reads_withoutFor hend]
        exact reads_seq.2 ⟨_, _, _, hoperator, reads_unqualified hend hpath, rfl⟩
      · simp

end Vigil.Source
