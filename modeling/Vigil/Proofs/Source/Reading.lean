import Vigil.Source.Grammar

/-!
# Reading, form by form

What a finished reading by each form of a grammar consists of, said once so that facts about all
readings go by induction on the depth, with one case for each form.

* `read_seq`, `read_cond`, `read_list`, …: what was read and written by that form, exactly.
* `suffix_of_read`: what a reading leaves is an end of what it was given.
-/

namespace Vigil.Source

/-! ## Outcomes -/

namespace Outcome

variable {o : Outcome} {f : List Token → List Token → Outcome} {front written rest : List Token}

theorem andThen_eq_read : o.andThen f = .read written rest ↔
    ∃ first mid, o = .read first mid ∧ f first mid = .read written rest := by
  cases o with
  | read first mid =>
    refine ⟨fun h => ⟨first, mid, rfl, h⟩, ?_⟩
    rintro ⟨_, _, ⟨rfl, rfl⟩, h⟩
    exact h
  | refused => simp [andThen]
  | unfinished => simp [andThen]

theorem after_eq_read : o.after front = .read written rest ↔
    ∃ more, o = .read more rest ∧ written = front ++ more := by
  cases o with
  | read more left =>
    simp only [after, andThen, read.injEq]
    constructor
    · rintro ⟨rfl, rfl⟩
      exact ⟨more, ⟨rfl, rfl⟩, rfl⟩
    · rintro ⟨_, ⟨rfl, rfl⟩, rfl⟩
      exact ⟨rfl, rfl⟩
  | refused => simp [after, andThen]
  | unfinished => simp [after, andThen]

/-- One thing behind another. -/
theorem andThen_after_eq_read :
    (o.andThen fun first mid => (f first mid).after first) = .read written rest ↔
      ∃ first mid second, o = .read first mid ∧ f first mid = .read second rest ∧
        written = first ++ second := by
  simp only [andThen_eq_read, after_eq_read]
  constructor
  · rintro ⟨first, mid, ho, second, hf, rfl⟩
    exact ⟨first, mid, second, ho, hf, rfl⟩
  · rintro ⟨first, mid, second, ho, hf, rfl⟩
    exact ⟨first, mid, ho, second, hf, rfl⟩

/-- Something else written instead. -/
theorem andThen_read_eq_read {instead : List Token → List Token} :
    (o.andThen fun _ left => .read (instead left) left) = .read written rest ↔
      (∃ inner, o = .read inner rest) ∧ written = instead rest := by
  simp only [andThen_eq_read, read.injEq]
  constructor
  · rintro ⟨inner, left, ho, rfl, rfl⟩
    exact ⟨⟨inner, ho⟩, rfl⟩
  · rintro ⟨⟨inner, ho⟩, rfl⟩
    exact ⟨inner, rest, ho, rfl, rfl⟩

theorem atMost_eq_read {k : Nat} : o.atMost k = .read written rest ↔
    o = .read written rest ∧ rest.length ≤ k := by
  simp only [atMost, andThen_eq_read]
  constructor
  · rintro ⟨first, mid, ho, h⟩
    split at h
    · rename_i hle
      obtain ⟨rfl, rfl⟩ := Outcome.read.inj h
      exact ⟨ho, hle⟩
    · simp at h
  · rintro ⟨ho, hle⟩
    exact ⟨written, rest, ho, by simp [hle]⟩

theorem complete?_eq_some : o.complete? = some written ↔ o = .read written [] := by
  cases o with
  | read more left => cases left <;> simp [complete?]
  | refused => simp [complete?]
  | unfinished => simp [complete?]

end Outcome

/-! ## The next tokens -/

namespace Class

attribute [local simp] holds

theorem word_holds {w : String} {t : Token} :
    (word w).holds t = true ↔ t = .word w := by
  cases t with
  | word v =>
    simp only [holds, beq_iff_eq, Token.word.injEq]
    exact eq_comm
  | _ => simp

theorem mark_holds {c : Char} {t : Token} :
    (mark c).holds t = true ↔ ∃ i, t = .mark c i := by
  cases t with
  | mark d i =>
    simp only [holds, beq_iff_eq, Token.mark.injEq, exists_and_left, exists_eq', and_true]
    exact eq_comm
  | _ => simp

theorem joint_holds {c : Char} {t : Token} :
    (joint c).holds t = true ↔ t = .mark c true := by
  cases t with
  | mark d i =>
    simp only [holds, Bool.and_eq_true, beq_iff_eq, Token.mark.injEq]
    exact and_congr_left' eq_comm
  | _ => simp

theorem group_holds {d : Delimiter} {t : Token} :
    (group d).holds t = true ↔ ∃ content, t = .group d content := by
  cases t with
  | group e content =>
    simp only [holds, beq_iff_eq, Token.group.injEq, exists_and_left, exists_eq', and_true]
    exact eq_comm
  | _ => simp

end Class

namespace Look

attribute [local simp] holds

variable {l : Look} {ts : List Token}

theorem next_holds {c : Class} : (next c l).holds ts = true ↔
    ∃ t us, ts = t :: us ∧ c.holds t = true ∧ l.holds us = true := by
  cases ts with
  | nil => simp
  | cons t us =>
    rw [holds, Bool.and_eq_true]
    constructor
    · rintro ⟨ht, hl⟩
      exact ⟨t, us, rfl, ht, hl⟩
    · rintro ⟨_, _, ⟨rfl, rfl⟩, ht, hl⟩
      exact ⟨ht, hl⟩

theorem next_word_holds {w : String} : (next (.word w) l).holds ts = true ↔
    ∃ us, ts = .word w :: us ∧ l.holds us = true := by
  rw [next_holds]
  constructor
  · rintro ⟨t, us, rfl, ht, hl⟩
    obtain rfl := Class.word_holds.1 ht
    exact ⟨us, rfl, hl⟩
  · rintro ⟨us, rfl, hl⟩
    exact ⟨_, us, rfl, Class.word_holds.2 rfl, hl⟩

theorem next_mark_holds {c : Char} : (next (.mark c) l).holds ts = true ↔
    ∃ i us, ts = .mark c i :: us ∧ l.holds us = true := by
  rw [next_holds]
  constructor
  · rintro ⟨t, us, rfl, ht, hl⟩
    obtain ⟨i, rfl⟩ := Class.mark_holds.1 ht
    exact ⟨i, us, rfl, hl⟩
  · rintro ⟨i, us, rfl, hl⟩
    exact ⟨_, us, rfl, Class.mark_holds.2 ⟨i, rfl⟩, hl⟩

theorem next_joint_holds {c : Char} : (next (.joint c) l).holds ts = true ↔
    ∃ us, ts = .mark c true :: us ∧ l.holds us = true := by
  rw [next_holds]
  constructor
  · rintro ⟨t, us, rfl, ht, hl⟩
    exact ⟨us, by rw [Class.joint_holds.1 ht], hl⟩
  · rintro ⟨us, rfl, hl⟩
    exact ⟨_, us, rfl, Class.joint_holds.2 rfl, hl⟩

theorem next_group_holds {d : Delimiter} : (next (.group d) l).holds ts = true ↔
    ∃ content us, ts = .group d content :: us ∧ l.holds us = true := by
  rw [next_holds]
  constructor
  · rintro ⟨t, us, rfl, ht, hl⟩
    obtain ⟨content, rfl⟩ := Class.group_holds.1 ht
    exact ⟨content, us, rfl, hl⟩
  · rintro ⟨content, us, rfl, hl⟩
    exact ⟨_, us, rfl, Class.group_holds.2 ⟨content, rfl⟩, hl⟩

theorem word_holds {w : String} : (word w).holds ts = true ↔ ∃ us, ts = .word w :: us := by
  simp [word, one, next_word_holds]

theorem mark_holds {c : Char} : (mark c).holds ts = true ↔ ∃ i us, ts = .mark c i :: us := by
  simp [mark, one, next_mark_holds]

theorem group_holds {d : Delimiter} :
    (group d).holds ts = true ↔ ∃ content us, ts = .group d content :: us := by
  simp [group, one, next_group_holds]

theorem colons_holds : (colons l).holds ts = true ↔
    ∃ j us, ts = .mark ':' true :: .mark ':' j :: us ∧ l.holds us = true := by
  have hcolons : colons l = .next (.joint ':') (.next (.mark ':') l) := by rfl
  rw [hcolons, next_joint_holds]
  constructor
  · rintro ⟨_, rfl, h⟩
    obtain ⟨j, us, rfl, hl⟩ := next_mark_holds.1 h
    exact ⟨j, us, rfl, hl⟩
  · rintro ⟨j, us, rfl, hl⟩
    exact ⟨_, rfl, next_mark_holds.2 ⟨j, us, rfl, hl⟩⟩

end Look

namespace Grammar

open Outcome

variable {ρ : Type} {rules : ρ → Grammar ρ} {n : Nat} {g h : Grammar ρ} {l : Look} {c : Class}
  {ts written rest : List Token}

/-! ## Each form -/

attribute [local simp] run step

theorem read_empty : run rules (n + 1) .empty ts = .read written rest ↔
    written = [] ∧ rest = ts := by
  simp only [run, step, read.injEq]
  exact and_congr eq_comm eq_comm

theorem read_take : run rules (n + 1) (.take c) ts = .read written rest ↔
    ∃ t, ts = t :: rest ∧ c.holds t ∧ written = [t] := by
  cases ts with
  | nil => simp
  | cons t ts =>
    by_cases hc : c.holds t = true
    · simp only [run, step, hc, if_true, read.injEq, List.cons.injEq]
      constructor
      · rintro ⟨rfl, rfl⟩
        exact ⟨t, ⟨rfl, rfl⟩, hc, rfl⟩
      · rintro ⟨_, ⟨rfl, rfl⟩, -, rfl⟩
        exact ⟨rfl, rfl⟩
    · simp only [run, step, hc, Bool.false_eq_true, if_false, reduceCtorEq, List.cons.injEq,
        false_iff]
      rintro ⟨_, ⟨rfl, rfl⟩, hc', -⟩
      exact hc hc'

/-- Other tokens are read in the place of the next ones, and those in front are not left. -/
theorem read_replace {k : Nat} {new : List Token} :
    run rules (n + 1) (.replace l k new g) ts = .read written rest ↔
      (l.holds ts = true ∧ run rules n g (new ++ ts.drop k) = .read written rest ∧
        rest.length ≤ ts.length - k) ∨
      (l.holds ts = false ∧ run rules n g ts = .read written rest) := by
  cases hl : l.holds ts with
  | true => simp [hl, atMost_eq_read]
  | false => simp [hl]

/-- A number in front is read as the numbers of fields that it stands for. -/
theorem read_numbers : run rules (n + 1) (.numbers g) ts = .read written rest ↔
    ∃ t us new, ts = t :: us ∧ (Class.pointed.holds t && (Look.one .fraction).holds us) = false ∧
      fieldTokens? t = some new ∧ run rules n g (new ++ us) = .read written rest ∧
      rest.length ≤ us.length := by
  constructor
  · intro hread
    cases ts with
    | nil => simp at hread
    | cons t us =>
      simp only [run, step] at hread
      split at hread
      · simp at hread
      · rename_i hpoint
        cases hnew : fieldTokens? t with
        | none => simp [hnew] at hread
        | some new =>
          simp only [hnew, atMost_eq_read] at hread
          exact ⟨t, us, new, rfl, by simpa using hpoint, hnew, hread.1, hread.2⟩
  · rintro ⟨t, us, new, rfl, hpoint, hnew, hread, hle⟩
    simp only [run, step, hpoint, Bool.false_eq_true, if_false, hnew]
    exact atMost_eq_read.2 ⟨hread, hle⟩

theorem read_seq : run rules (n + 1) (.seq g h) ts = .read written rest ↔
    ∃ first mid second, run rules n g ts = .read first mid ∧
      run rules n h mid = .read second rest ∧ written = first ++ second :=
  andThen_after_eq_read

theorem read_cond : run rules (n + 1) (.cond l g h) ts = .read written rest ↔
    (l.holds ts = true ∧ run rules n g ts = .read written rest) ∨
      (l.holds ts = false ∧ run rules n h ts = .read written rest) := by
  cases hl : l.holds ts <;> simp [hl]

theorem read_ending {q : Grammar ρ} :
    run rules (n + 1) (.ending q c g h) ts = .read written rest ↔
      ∃ first mid second, run rules n q ts = .read first mid ∧
        run rules n (if first.getLast?.any c.holds then g else h) mid = .read second rest ∧
        written = first ++ second := by
  have hstep : run rules (n + 1) (.ending q c g h) ts = (run rules n q ts).andThen
      fun first mid =>
        (run rules n (if first.getLast?.any c.holds then g else h) mid).after first := by
    simp only [run, step]
    congr 1
    funext first mid
    split <;> rfl
  rw [hstep]
  exact andThen_after_eq_read

theorem read_many : run rules (n + 1) (.many l g) ts = .read written rest ↔
    (l.holds ts = false ∧ written = [] ∧ rest = ts) ∨
      (l.holds ts = true ∧ ∃ first mid second, run rules n g ts = .read first mid ∧
        run rules n (.many l g) mid = .read second rest ∧ written = first ++ second) := by
  cases hl : l.holds ts with
  | false =>
    simp only [run, step, hl, Bool.false_eq_true, if_false, read.injEq, true_and, false_and,
      or_false]
    exact and_congr eq_comm eq_comm
  | true =>
    simp only [run, step, hl, if_true, andThen_after_eq_read, Bool.true_eq_false, false_and,
      true_and, false_or]

/-- A list ends where it is told to, behind an item without a separator, or goes on behind the
separator. -/
theorem read_list {stop : Look} :
    run rules (n + 1) (.list stop g c) ts = .read written rest ↔
      (stop.holds ts = true ∧ written = [] ∧ rest = ts) ∨
      (stop.holds ts = false ∧ run rules n g ts = .read written rest ∧
        (Look.one c).holds rest = false) ∨
      (stop.holds ts = false ∧ ∃ first t mid second, run rules n g ts = .read first (t :: mid) ∧
        c.holds t ∧ run rules n (.list stop g c) mid = .read second rest ∧
        written = first ++ t :: second) := by
  cases hstop : stop.holds ts with
  | true =>
    simp only [run, step, hstop, if_true, read.injEq, true_and, Bool.true_eq_false, false_and,
      or_false]
    exact and_congr eq_comm eq_comm
  | false =>
    simp only [run, step, hstop, Bool.false_eq_true, if_false, andThen_eq_read, false_and,
      false_or, true_and]
    constructor
    · rintro ⟨first, mid, hg, h⟩
      cases mid with
      | nil =>
        simp only [read.injEq] at h
        obtain ⟨rfl, rfl⟩ := h
        exact .inl ⟨hg, rfl⟩
      | cons t mid =>
        cases hc : c.holds t with
        | true =>
          simp only [hc, if_true, after_eq_read] at h
          obtain ⟨second, hsecond, rfl⟩ := h
          exact .inr ⟨first, t, mid, second, hg, hc, hsecond, by simp⟩
        | false =>
          simp only [hc, Bool.false_eq_true, if_false, read.injEq] at h
          obtain ⟨rfl, rfl⟩ := h
          exact .inl ⟨hg, by simp [Look.one, Look.holds, hc]⟩
    · rintro (⟨hg, hnext⟩ | ⟨first, t, mid, second, hg, hc, hsecond, rfl⟩)
      · refine ⟨written, rest, hg, ?_⟩
        cases rest with
        | nil => rfl
        | cons t rest =>
          have hc : c.holds t = false := by simpa [Look.one, Look.holds] using hnext
          simp [hc]
      · exact ⟨first, t :: mid, hg, by simp [hc, hsecond, after, andThen]⟩

/-- Items between angle brackets end with the closing one, or go on behind a comma. -/
theorem read_angles {before : Angles} :
    run rules (n + 1) (.angles g before) ts = .read written rest ↔
      (∃ i, ts = .mark '>' i :: rest ∧ written = before.arranged ++ [.mark '>' i]) ∨
      ((Look.mark '>').holds ts = false ∧
        ((∃ item i, run rules n g ts = .read item (.mark '>' i :: rest) ∧
            written = (before.add item []).arranged ++ [.mark '>' i]) ∨
          ∃ item i mid, run rules n g ts = .read item (.mark ',' i :: mid) ∧
            run rules n (.angles g (before.add item [.mark ',' i])) mid =
              .read written rest)) := by
  cases hclose : (Look.mark '>').holds ts with
  | true =>
    obtain ⟨i, us, rfl⟩ := Look.mark_holds.1 hclose
    simp only [run, step, hclose, if_true, read.injEq, List.take_succ_cons, List.take_zero,
      List.drop_succ_cons, List.drop_zero, Bool.true_eq_false, false_and, or_false,
      List.cons.injEq, Token.mark.injEq, true_and]
    constructor
    · rintro ⟨rfl, rfl⟩
      exact ⟨i, ⟨rfl, rfl⟩, rfl⟩
    · rintro ⟨_, ⟨rfl, rfl⟩, rfl⟩
      exact ⟨rfl, rfl⟩
  | false =>
    have hno : ¬∃ i, ts = .mark '>' i :: rest ∧ written = before.arranged ++ [.mark '>' i] := by
      rintro ⟨i, rfl, -⟩
      rw [Look.mark_holds.2 ⟨i, rest, rfl⟩] at hclose
      exact Bool.noConfusion hclose
    simp only [run, step, hclose, Bool.false_eq_true, if_false, andThen_eq_read, hno, false_or,
      true_and]
    constructor
    · rintro ⟨item, mid, hg, h⟩
      cases hend : (Look.mark '>').holds mid with
      | true =>
        obtain ⟨i, us, rfl⟩ := Look.mark_holds.1 hend
        simp only [hend, if_true, read.injEq, List.take_succ_cons, List.take_zero,
          List.drop_succ_cons, List.drop_zero] at h
        obtain ⟨rfl, rfl⟩ := h
        exact .inl ⟨item, i, hg, rfl⟩
      | false =>
        cases hcomma : (Look.mark ',').holds mid with
        | true =>
          obtain ⟨i, us, rfl⟩ := Look.mark_holds.1 hcomma
          simp only [hend, hcomma, Bool.false_eq_true, if_false, if_true, List.take_succ_cons,
            List.take_zero, List.drop_succ_cons, List.drop_zero] at h
          exact .inr ⟨item, i, us, hg, h⟩
        | false => simp [hend, hcomma] at h
    · rintro (⟨item, i, hg, rfl⟩ | ⟨item, i, mid, hg, h⟩)
      · exact ⟨item, _, hg, by simp [Look.mark_holds.2 ⟨i, rest, rfl⟩]⟩
      · refine ⟨item, _, hg, ?_⟩
        have hend : (Look.mark '>').holds (.mark ',' i :: mid) = false := by
          simp [Look.mark, Look.one, Look.holds, Class.holds]
        simp [hend, Look.mark_holds.2 ⟨i, mid, rfl⟩, h]

theorem read_inside {d : Delimiter} : run rules (n + 1) (.inside d g) ts = .read written rest ↔
    ∃ content inner, ts = .group d content :: rest ∧ run rules n g content = .read inner [] ∧
      written = [.group d inner] := by
  constructor
  · intro hread
    cases ts with
    | nil => simp at hread
    | cons t ts =>
      cases t with
      | group e content =>
        by_cases hd : d = e
        · subst hd
          simp only [run, step, if_true, andThen_eq_read] at hread
          obtain ⟨inner, left, hg, h⟩ := hread
          cases left with
          | nil =>
            simp only [List.isEmpty_nil, if_true, read.injEq] at h
            obtain ⟨rfl, rfl⟩ := h
            exact ⟨content, inner, rfl, hg, rfl⟩
          | cons => simp at h
        · simp [hd] at hread
      | _ => simp at hread
  · rintro ⟨content, inner, rfl, hg, rfl⟩
    simp [hg, andThen]

theorem read_verbatim : run rules (n + 1) (.verbatim g) ts = .read written rest ↔
    (∃ inner, run rules n g ts = .read inner rest) ∧
      written = ts.take (ts.length - rest.length) :=
  andThen_read_eq_read

/-- What is read strictly is written in normal form; what is not is written as it was read. -/
theorem read_lenient (hread : run rules (n + 1) (.lenient g) ts = .read written rest) :
    run rules n g.strict ts = .read written rest ∨
      run rules n g.strict ts = .refused ∧ run rules n (.verbatim g) ts = .read written rest := by
  simp only [run, step, orElse] at hread
  cases hg : run rules n g.strict ts with
  | read first mid =>
    rw [hg] at hread
    exact .inl hread
  | refused =>
    rw [hg] at hread
    exact .inr ⟨rfl, hread⟩
  | unfinished => simp [hg] at hread

theorem read_loose : run rules (n + 1) (.loose h g) ts = .read written rest ↔
    run rules n g ts = .read written rest := Iff.rfl

theorem read_call {r : ρ} : run rules (n + 1) (.call r) ts = .read written rest ↔
    run rules n (rules r) ts = .read written rest := Iff.rfl

/-! ## Refusals -/

theorem refused_replace {k : Nat} {new : List Token} :
    run rules (n + 1) (.replace l k new g) ts = .refused ↔
      (l.holds ts = true ∧ (run rules n g (new ++ ts.drop k) = .refused ∨
        ∃ written rest, run rules n g (new ++ ts.drop k) = .read written rest ∧
          ts.length - k < rest.length)) ∨
      (l.holds ts = false ∧ run rules n g ts = .refused) := by
  cases hl : l.holds ts with
  | true =>
    simp only [run, step, hl, if_true, atMost, true_and, Bool.true_eq_false, false_and, or_false]
    cases run rules n g (new ++ ts.drop k) with
    | read written rest =>
      simp only [andThen, ite_eq_right_iff, reduceCtorEq, imp_false, Nat.not_le, false_or,
        read.injEq]
      exact ⟨fun hlt => ⟨written, rest, ⟨rfl, rfl⟩, hlt⟩, fun ⟨_, _, ⟨_, hrest⟩, hlt⟩ => hrest ▸ hlt⟩
    | refused => simp [andThen]
    | unfinished => simp [andThen]
  | false => simp [hl]

theorem refused_seq : run rules (n + 1) (.seq g h) ts = .refused ↔
    run rules n g ts = .refused ∨
      ∃ first mid, run rules n g ts = .read first mid ∧ run rules n h mid = .refused := by
  simp only [run, step]
  cases run rules n g ts with
  | read first mid =>
    have hafter : ((run rules n h mid).after first = .refused) ↔ run rules n h mid = .refused := by
      cases run rules n h mid <;> simp [after, andThen]
    simp only [andThen, hafter, reduceCtorEq, false_or, read.injEq]
    refine ⟨fun hh => ⟨first, mid, ⟨rfl, rfl⟩, hh⟩, ?_⟩
    rintro ⟨_, _, ⟨rfl, rfl⟩, hh⟩
    exact hh
  | refused => simp [andThen]
  | unfinished => simp [andThen]

theorem refused_cond : run rules (n + 1) (.cond l g h) ts = .refused ↔
    (l.holds ts = true ∧ run rules n g ts = .refused) ∨
      (l.holds ts = false ∧ run rules n h ts = .refused) := by
  cases hl : l.holds ts <;> simp [hl]

/-! ## The depth -/

/-- A finished reading has a depth. -/
theorem depth_of_read (hread : run rules n g ts = .read written rest) : ∃ m, n = m + 1 := by
  cases n with
  | zero => simp [run] at hread
  | succ n => exact ⟨n, rfl⟩

theorem depth_of_refused (h : run rules n g ts = .refused) : ∃ m, n = m + 1 := by
  cases n with
  | zero => exact nomatch h
  | succ n => exact ⟨n, rfl⟩

/-- A finished reading is the same with a higher limit. -/
theorem read_mono {m : Nat} (hread : run rules n g ts = .read written rest) (hle : n ≤ m) :
    run rules m g ts = .read written rest := by
  obtain ⟨k, rfl⟩ := Nat.exists_eq_add_of_le hle
  rw [run_add rules n k g ts (by simp [hread]), hread]

/-- Two finished outcomes are the same. -/
theorem run_unique {m : Nat} (hn : run rules n g ts ≠ .unfinished)
    (hm : run rules m g ts ≠ .unfinished) : run rules n g ts = run rules m g ts := by
  obtain hle | hle := Nat.le_total n m
  · obtain ⟨k, rfl⟩ := Nat.exists_eq_add_of_le hle
    exact (run_add rules n k g ts hn).symm
  · obtain ⟨k, rfl⟩ := Nat.exists_eq_add_of_le hle
    exact run_add rules m k g ts hm

theorem read_unique {m : Nat} {first mid : List Token} (hn : run rules n g ts = .read first mid)
    (hm : run rules m g ts = .read written rest) : first = written ∧ mid = rest := by
  have heq : run rules n g ts = run rules m g ts := run_unique (by simp [hn]) (by simp [hm])
  rw [hn, hm] at heq
  exact Outcome.read.inj heq

theorem not_read_of_refused {m : Nat} (hn : run rules n g ts = .refused) :
    run rules m g ts ≠ .read written rest := by
  intro hm
  have heq : run rules n g ts = run rules m g ts := run_unique (by simp [hn]) (by simp [hm])
  exact nomatch (hn.symm.trans heq).trans hm

/-- A refusal stays with a higher limit. -/
theorem refused_mono {m : Nat} (h : run rules n g ts = .refused) (hle : n ≤ m) :
    run rules m g ts = .refused := by
  obtain ⟨k, rfl⟩ := Nat.exists_eq_add_of_le hle
  rw [run_add rules n k g ts (by simp [h]), h]

/-- One token, at any depth. -/
theorem token_of_take (hread : run rules n (.take c) ts = .read written rest) :
    ∃ t, ts = t :: rest ∧ c.holds t ∧ written = [t] := by
  obtain ⟨m, rfl⟩ := depth_of_read hread
  exact read_take.1 hread

/-! ## What is left -/

/-- An end that is no longer than the second part is an end of it. -/
theorem suffix_of_append {front : List Token} (h : rest <:+ front ++ ts)
    (hle : rest.length ≤ ts.length) : rest <:+ ts :=
  List.suffix_of_suffix_length_le h (List.suffix_append front ts) hle

/-- **A reading takes tokens from the front** and leaves the rest as it was. -/
theorem suffix_of_read (hread : run rules n g ts = .read written rest) : rest <:+ ts := by
  induction n generalizing g ts written rest with
  | zero => simp [run] at hread
  | succ n ih =>
    cases g with
    | empty => exact (read_empty.1 hread).2 ▸ List.suffix_rfl
    | refuse => simp at hread
    | take c =>
      obtain ⟨t, rfl, -⟩ := read_take.1 hread
      exact List.suffix_cons t rest
    | replace l k new g =>
      obtain ⟨-, h, hle⟩ | ⟨-, h⟩ := read_replace.1 hread
      · exact (suffix_of_append (ih h) (by simpa using hle)).trans (List.drop_suffix k ts)
      · exact ih h
    | numbers g =>
      obtain ⟨t, us, new, rfl, -, -, h, hle⟩ := read_numbers.1 hread
      exact (suffix_of_append (ih h) hle).trans (List.suffix_cons t us)
    | seq g h =>
      obtain ⟨_, _, _, hg, hh, -⟩ := read_seq.1 hread
      exact (ih hh).trans (ih hg)
    | cond l g h => exact (read_cond.1 hread).elim (fun h => ih h.2) fun h => ih h.2
    | ending q c g h =>
      obtain ⟨_, _, _, hq, hsecond, -⟩ := read_ending.1 hread
      exact (ih hsecond).trans (ih hq)
    | many l g =>
      obtain ⟨-, -, rfl⟩ | ⟨-, _, _, _, hg, hmany, -⟩ := read_many.1 hread
      · exact List.suffix_rfl
      · exact (ih hmany).trans (ih hg)
    | list stop item c =>
      obtain ⟨-, -, rfl⟩ | ⟨-, hitem, -⟩ | ⟨-, _, _, _, _, hitem, -, hlist, -⟩ :=
        read_list.1 hread
      · exact List.suffix_rfl
      · exact ih hitem
      · exact ((ih hlist).trans (List.suffix_cons _ _)).trans (ih hitem)
    | angles item before =>
      obtain ⟨_, rfl, -⟩ | ⟨-, ⟨_, _, hitem, -⟩ | ⟨_, _, _, hitem, hangles⟩⟩ :=
        read_angles.1 hread
      · exact List.suffix_cons _ _
      · exact (List.suffix_cons _ _).trans (ih hitem)
      · exact ((ih hangles).trans (List.suffix_cons _ _)).trans (ih hitem)
    | inside d g =>
      obtain ⟨_, _, rfl, -⟩ := read_inside.1 hread
      exact List.suffix_cons _ _
    | verbatim g =>
      obtain ⟨⟨_, hg⟩, -⟩ := read_verbatim.1 hread
      exact ih hg
    | lenient g =>
      obtain h | ⟨-, h⟩ := read_lenient hread
      · exact ih h
      · exact ih h
    | loose h g => exact ih (read_loose.1 hread)
    | call r => exact ih (read_call.1 hread)

/-! ## At some depth -/

/-- A grammar reads this at some depth. -/
def Reads (rules : ρ → Grammar ρ) (g : Grammar ρ) (ts written rest : List Token) : Prop :=
  ∃ n, run rules n g ts = .read written rest

theorem Reads.unique {first mid : List Token} (h : Reads rules g ts first mid)
    (h' : Reads rules g ts written rest) : first = written ∧ mid = rest := by
  obtain ⟨_, h⟩ := h
  obtain ⟨_, h'⟩ := h'
  exact read_unique h h'

theorem Reads.suffix (h : Reads rules g ts written rest) : rest <:+ ts := by
  obtain ⟨_, h⟩ := h
  exact suffix_of_read h

/-- A form that reads what one of its parts reads. -/
theorem reads_of_run (hform : ∀ n, run rules (n + 1) g ts = .read written rest ↔
    run rules n h ts = .read written rest) :
    Reads rules g ts written rest ↔ Reads rules h ts written rest := by
  constructor
  · rintro ⟨n, hread⟩
    obtain ⟨n, rfl⟩ := depth_of_read hread
    exact ⟨n, (hform n).1 hread⟩
  · rintro ⟨n, hread⟩
    exact ⟨n + 1, (hform n).2 hread⟩

theorem reads_empty : Reads rules .empty ts written rest ↔ written = [] ∧ rest = ts := by
  constructor
  · rintro ⟨n, hread⟩
    obtain ⟨n, rfl⟩ := depth_of_read hread
    exact read_empty.1 hread
  · exact fun h => ⟨1, read_empty.2 h⟩

theorem not_reads_refuse : ¬Reads rules .refuse ts written rest := by
  rintro ⟨n, hread⟩
  obtain ⟨n, rfl⟩ := depth_of_read hread
  exact nomatch hread

theorem reads_take : Reads rules (.take c) ts written rest ↔
    ∃ t, ts = t :: rest ∧ c.holds t ∧ written = [t] := by
  constructor
  · rintro ⟨n, hread⟩
    exact token_of_take hread
  · exact fun h => ⟨1, read_take.2 h⟩

theorem reads_word {w : String} : Reads rules (word w) ts written rest ↔
    ts = .word w :: rest ∧ written = [.word w] := by
  rw [word, reads_take]
  constructor
  · rintro ⟨t, rfl, ht, rfl⟩
    obtain rfl := Class.word_holds.1 ht
    exact ⟨rfl, rfl⟩
  · rintro ⟨rfl, rfl⟩
    exact ⟨_, rfl, Class.word_holds.2 rfl, rfl⟩

theorem reads_mark {c : Char} : Reads rules (mark c) ts written rest ↔
    ∃ i, ts = .mark c i :: rest ∧ written = [.mark c i] := by
  rw [mark, reads_take]
  constructor
  · rintro ⟨t, rfl, ht, rfl⟩
    obtain ⟨i, rfl⟩ := Class.mark_holds.1 ht
    exact ⟨i, rfl, rfl⟩
  · rintro ⟨i, rfl, rfl⟩
    exact ⟨_, rfl, Class.mark_holds.2 ⟨i, rfl⟩, rfl⟩

theorem reads_mark_cons {c : Char} {i : Bool} :
    Reads rules (mark c) (.mark c i :: ts) written rest ↔ rest = ts ∧ written = [.mark c i] := by
  rw [reads_mark]
  constructor
  · rintro ⟨j, hts, rfl⟩
    obtain ⟨hmark, rfl⟩ := List.cons.inj hts
    obtain ⟨-, rfl⟩ := Token.mark.inj hmark
    exact ⟨rfl, rfl⟩
  · rintro ⟨rfl, rfl⟩
    exact ⟨i, rfl, rfl⟩

theorem reads_seq : Reads rules (.seq g h) ts written rest ↔
    ∃ first mid second, Reads rules g ts first mid ∧ Reads rules h mid second rest ∧
      written = first ++ second := by
  constructor
  · rintro ⟨n, hread⟩
    obtain ⟨n, rfl⟩ := depth_of_read hread
    obtain ⟨first, mid, second, hg, hh, heq⟩ := read_seq.1 hread
    exact ⟨first, mid, second, ⟨n, hg⟩, ⟨n, hh⟩, heq⟩
  · rintro ⟨first, mid, second, ⟨n, hg⟩, ⟨m, hh⟩, heq⟩
    exact ⟨max n m + 1, read_seq.2 ⟨first, mid, second, read_mono hg (Nat.le_max_left ..),
      read_mono hh (Nat.le_max_right ..), heq⟩⟩

theorem reads_all_cons {gs : List (Grammar ρ)} : Reads rules (all (g :: gs)) ts written rest ↔
    ∃ first mid second, Reads rules g ts first mid ∧ Reads rules (all gs) mid second rest ∧
      written = first ++ second := by
  cases gs with
  | cons => exact reads_seq
  | nil =>
    constructor
    · exact fun h => ⟨written, rest, [], h, reads_empty.2 ⟨rfl, rfl⟩, (List.append_nil _).symm⟩
    · rintro ⟨first, mid, second, h, hnone, rfl⟩
      obtain ⟨rfl, rfl⟩ := reads_empty.1 hnone
      rwa [List.append_nil]

/-- Several grammars behind several others. -/
theorem reads_all_append {gs hs : List (Grammar ρ)} :
    Reads rules (all (gs ++ hs)) ts written rest ↔
      ∃ first mid second, Reads rules (all gs) ts first mid ∧
        Reads rules (all hs) mid second rest ∧ written = first ++ second := by
  induction gs generalizing ts written with
  | nil =>
    constructor
    · exact fun h => ⟨[], ts, written, reads_empty.2 ⟨rfl, rfl⟩, h, rfl⟩
    · rintro ⟨first, mid, second, hnone, h, rfl⟩
      obtain ⟨rfl, rfl⟩ := reads_empty.1 hnone
      exact h
  | cons g gs ih =>
    simp only [List.cons_append, reads_all_cons, ih]
    constructor
    · rintro ⟨first, mid, _, hg, ⟨second, us, third, hgs, hhs, rfl⟩, rfl⟩
      exact ⟨_, us, third, ⟨first, mid, second, hg, hgs, rfl⟩, hhs, by simp⟩
    · rintro ⟨_, us, third, ⟨first, mid, second, hg, hgs, rfl⟩, hhs, rfl⟩
      exact ⟨first, mid, _, hg, ⟨second, us, third, hgs, hhs, rfl⟩, by simp⟩

theorem reads_cond_of_holds (hl : l.holds ts = true) :
    Reads rules (.cond l g h) ts written rest ↔ Reads rules g ts written rest :=
  reads_of_run fun n => by simp [hl]

theorem reads_cond_of_not (hl : l.holds ts = false) :
    Reads rules (.cond l g h) ts written rest ↔ Reads rules h ts written rest :=
  reads_of_run fun n => by simp [hl]

theorem reads_replace_of_not {k : Nat} {new : List Token} (hl : l.holds ts = false) :
    Reads rules (.replace l k new g) ts written rest ↔ Reads rules g ts written rest :=
  reads_of_run fun n => by simp [hl]

theorem reads_many_nil (hl : l.holds ts = false) : Reads rules (.many l g) ts [] ts :=
  ⟨1, read_many.2 (.inl ⟨hl, rfl, rfl⟩)⟩

theorem reads_of_lenient (h : Reads rules (.lenient g) ts written rest) :
    Reads rules g.strict ts written rest ∨ ∃ inner, Reads rules g ts inner rest := by
  obtain ⟨n, hread⟩ := h
  obtain ⟨n, rfl⟩ := depth_of_read hread
  obtain hread | ⟨-, hread⟩ := read_lenient hread
  · exact .inl ⟨n, hread⟩
  · obtain ⟨n, rfl⟩ := depth_of_read hread
    obtain ⟨⟨inner, hread⟩, -⟩ := read_verbatim.1 hread
    exact .inr ⟨inner, n, hread⟩

theorem reads_call {r : ρ} : Reads rules (.call r) ts written rest ↔
    Reads rules (rules r) ts written rest :=
  reads_of_run fun _ => read_call

end Grammar

end Vigil.Source
