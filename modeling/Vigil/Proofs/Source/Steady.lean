import Vigil.Proofs.Source.Carry

/-!
# Reading again

Whether what a grammar reads is read again behind which something else stands, and whether what it
writes is. As before this is checked on the grammar alone, with the answers named that have to stay
behind it: each question the grammar asks has to be answered as it was.

* `Table.steady`: the check, form by form.
* `again_of_sound`: **what passes the check is read again**, with the same outcome.
-/

namespace Vigil.Source

open Grammar

/-- The number of a field as it is written, or anything that is no number, comes next. -/
def Look.settled : Look :=
  .or (.one .index) (.and (.not (.or (.one .integer) (.one .fraction))) (.not .ended))

/-- The number of a field, its point and another number do not come next. -/
def Look.unbroken : Look := .not (.next .index (.next (.mark '.') (.one .fraction)))

namespace Table

variable {ρ φ : Type} [DecidableEq φ] (T : Table ρ φ) (rules : ρ → Grammar ρ)

/-! ## The check -/

/-- What has to stay behind an item of a list. -/
def separated (fuel : Nat) (w : Bool) (kept : Need φ → Bool) (stop : Look) (g : Grammar ρ)
    (c : Class) (x : Need φ) : Bool :=
  kept x && (T.asks x).all fun l =>
    l.past c (fun m => T.keeps rules fuel w kept (.list stop g c) (.look m)) true

/-- A form is read again if its parts are and all of its questions stay. -/
def steadyStep (fuel : Nat) (self : Bool → (Need φ → Bool) → Grammar ρ → Bool) (w : Bool)
    (kept : Need φ → Bool) : Grammar ρ → Bool
  | .empty | .refuse | .take _ => true
  | .replace l n new g =>
    let behind (l : Look) := Look.behind new l
    self w kept g && T.keeps rules fuel w kept g (.look l.negate) &&
      (l.split n).1.length.beq n &&
      (!w || T.keeps rules fuel w kept g (.look (behind (l.split n).2)) &&
        ((behind (l.split n).2).settles l).isNo) &&
      Look.chain (l.split n).1 (fun b => T.keeps rules fuel false kept g (.look (behind b))) l
  | .numbers g =>
    self w kept g && !T.nullableOf g && (T.headsOf g).isSome &&
      T.keeps rules fuel w kept g (.look .settled) &&
      T.keeps rules fuel w kept g (.look .unbroken)
  | .seq g h => self w (T.keeps rules fuel w kept h) g && self w kept h
  | .cond l g h =>
    self w kept g && self w kept h && T.keeps rules fuel w kept g (.look l) &&
      T.keeps rules fuel w kept h (.look l.negate)
  | .ending g _ h h' =>
    self w (fun x => T.keeps rules fuel w kept h x && T.keeps rules fuel w kept h' x) g &&
      self w kept h && self w kept h'
  | .many l g =>
    let repeated := T.keeps rules fuel w kept (.many l g)
    self w repeated g && T.keeps rules fuel w repeated g (.look l) && kept (.look l.negate)
  | .list stop g c =>
    let separated := T.separated rules fuel w kept stop g c
    self w separated g && T.keeps rules fuel w separated g (.look stop.negate) &&
      kept (.look stop) && kept (.look (.not (.one c)))
  | .angles g before =>
    self w T.closed g && T.keeps rules fuel w T.closed g (.look (.not (.mark '>'))) &&
      (!w || before.lifetimes.isEmpty && before.others.isEmpty && !before.bare)
  | .inside _ g => self w (fun _ => true) g
  | .verbatim g => self false kept g
  | .lenient g => self w kept g.strict && self false kept g
  | .loose g h =>
    self w kept h && match g, h with
      | .refuse, _ => true
      | .call r, .call r' => T.stricts r r'
      | _, _ => false
  | .call r => (!w || T.faithful r) && (T.needs r).all kept

/-- Whether what a grammar reads, and if that counts what it writes, is read again, if what `kept`
tells stays behind it. -/
def steady (fuel : Nat) : Nat → Bool → (Need φ → Bool) → Grammar ρ → Bool
  | 0 => fun _ _ _ => false
  | n + 1 => T.steadyStep rules fuel (steady fuel n)

/-! ## What a check says -/

/-- Readings of a grammar are repeated: the same is read of their text in front of something else
behind which what `kept` tells stays. -/
def Repeats (m : Nat) (w : Bool) (kept : Need φ → Bool) (g : Grammar ρ) : Prop :=
  ∀ ⦃ts written rest text rest'⦄, run rules m g ts = .read written rest →
    Copied w ts written rest text → T.Stays kept rest rest' →
      ∃ k, run rules k g (text ++ rest') = .read written rest'

/-- Readings within this depth are repeated if they pass the check. -/
def Again (m : Nat) : Prop :=
  ∀ ⦃fuel n w kept g⦄, T.steady rules fuel n w kept g = true → T.Repeats rules m w kept g

/-- What was read loosely is read strictly to the same end or not at all, and in front of something
else behind which what `kept` tells stays it is the same. -/
def Decides (m : Nat) (kept : Need φ → Bool) (g : Grammar ρ) : Prop :=
  ∀ ⦃text written rest rest'⦄, run rules m g (text ++ rest) = .read written rest →
    T.Stays kept rest rest' →
      (∀ ⦃j first mid⦄, run rules j g.strict (text ++ rest) = .read first mid →
        first = written ∧ mid = rest ∧
          ∃ k, run rules k g.strict (text ++ rest') = .read written rest') ∧
      (∀ ⦃j⦄, run rules j g.strict (text ++ rest) = .refused →
        ∃ k, run rules k g.strict (text ++ rest') = .refused)

/-- Readings within this depth come out strictly as they did if they pass the check. -/
def Follows (m : Nat) : Prop :=
  ∀ ⦃fuel n w kept g⦄, T.steady rules fuel n w kept g = true → T.Decides rules m kept g

/-- The table tells truly of the rules. What the check does not tell of a rule is shown otherwise. -/
structure Sound : Prop where
  fronts : T.Fronts rules
  crosses : T.Crosses rules
  stricts {r r' : ρ} : T.stricts r r' = true → rules r = (rules r').strict
  steady (r : ρ) : ∃ w fuel n, T.steady rules fuel n w (T.covers (T.needs r)) (rules r) = true ∧
    (w = false → T.faithful r = true → ∀ m, T.Again rules m →
      T.Repeats rules m true (T.covers (T.needs r)) (rules r))

end Table

namespace Table

variable {ρ φ : Type} [DecidableEq φ] {T : Table ρ φ} {rules : ρ → Grammar ρ} {m n fuel : Nat}
  {g h : Grammar ρ} {w : Bool} {kept : Need φ → Bool} {l : Look}
  {ts written rest text rest' : List Token}

/-! ### Numbers of fields -/

theorem settled_of_fieldTokens {t : Token} {new : List Token} (h : fieldTokens? t = some new) :
    Look.settled.holds (new ++ ts) = true := by
  obtain ⟨rfl, hwhole, hfraction⟩ | ⟨-, u, more, rfl, hu, -⟩ := cases_of_fieldTokens h
  · simp [Look.settled, Look.holds, Look.one, hwhole, hfraction]
  · simp [Look.settled, Look.holds, Look.one, hu]

/-- A token that is settled is read as it is. -/
theorem fieldTokens_of_settled {t : Token} (h : Look.settled.holds (t :: ts) = true) :
    fieldTokens? t = some [t] ∧ Class.pointed.holds t = false := by
  simp only [Look.settled, Look.one, Look.holds, Bool.and_true, Bool.or_eq_true, Bool.and_eq_true,
    Bool.not_eq_true', Bool.or_eq_false_iff] at h
  cases t with
  | literal l =>
    obtain ⟨spelling, value⟩ := l
    cases value with
    | integer n suffix =>
      have hindex : isFieldNumber ⟨spelling, .integer n suffix⟩ = true :=
        h.resolve_right fun h => Bool.noConfusion h.1.1
      cases suffix with
      | cons => cases hindex
      | nil =>
        refine ⟨?_, rfl⟩
        rw [isFieldNumber, fieldNumber?] at hindex
        rw [fieldTokens?, fieldNumber?]
        split at hindex
        · rename_i hn
          obtain rfl : Text.Decimal.natural n = spelling := beq_iff_eq.1 hindex
          rw [if_pos hn]
          rfl
        · cases hindex
    | fraction =>
      obtain h | ⟨⟨-, h⟩, -⟩ := h <;> cases h
    | text | other => exact ⟨rfl, rfl⟩
  | _ => exact ⟨rfl, rfl⟩

theorem fieldTokens_of_pointed {t : Token} {new : List Token}
    (ht : Class.pointed.holds t = true) (h : fieldTokens? t = some new) :
    ∃ u, new = [u, Token.sign '.'] ∧ Class.index.holds u = true := by
  obtain ⟨-, -, hno⟩ | ⟨-, u, more, rfl, hu, hmore⟩ := cases_of_fieldTokens h
  · cases t with
    | literal l =>
      obtain ⟨spelling, value⟩ := l
      cases value with
      | fraction => exact nomatch hno
      | integer | text | other => exact nomatch ht
    | _ => exact nomatch ht
  · exact ⟨u, by rw [hmore ht], hu⟩

/-- Behind the number of a field and its point, the one question is whether a number with a point
comes next. -/
theorem holds_unbroken {u : Token} (hu : Class.index.holds u = true) :
    Look.unbroken.holds (u :: Token.sign '.' :: ts) = !(Look.one .fraction).holds ts := by
  have hpoint : (Class.mark '.').holds (Token.sign '.') = true := rfl
  simp only [Look.unbroken, Look.holds, hu, hpoint, Bool.true_and]

section

variable (ih : T.Again rules m)

include ih

theorem Again.inside {d : Delimiter}
    (hsteady : T.steadyStep rules fuel (T.steady rules fuel n) w kept (.inside d g) = true) :
    T.Repeats rules (m + 1) w kept (.inside d g) := by
  intro ts written rest text rest' hread htext hstays
  obtain ⟨content, inner, rfl, hg, rfl⟩ := read_inside.1 hread
  obtain ⟨hw, rfl⟩ | htext := htext
  · obtain ⟨j, hj⟩ := ih hsteady hg (.inl ⟨hw, rfl⟩) (stays_refl _ [])
    rw [List.append_nil] at hj
    exact ⟨j + 1, read_inside.2 ⟨inner, inner, rfl, hj, rfl⟩⟩
  · obtain rfl : [.group d content] = text := List.append_cancel_right htext
    exact ⟨m + 1, read_inside.2 ⟨content, inner, rfl, hg, rfl⟩⟩

theorem Again.verbatim
    (hsteady : T.steadyStep rules fuel (T.steady rules fuel n) w kept (.verbatim g) = true) :
    T.Repeats rules (m + 1) w kept (.verbatim g) := by
  intro ts written rest text rest' hread htext hstays
  obtain ⟨⟨inner, hg⟩, rfl⟩ := read_verbatim.1 hread
  have htext := htext.asRead (suffix_of_read hg)
  obtain ⟨j, hj⟩ := ih hsteady hg (.inr htext) hstays
  refine ⟨j + 1, read_verbatim.2 ⟨⟨inner, hj⟩, ?_⟩⟩
  rw [htext]
  simp

variable (hc : T.Carries rules m)

include hc

theorem Again.replace {k : Nat} {new : List Token}
    (hsteady : T.steadyStep rules fuel (T.steady rules fuel n) w kept (.replace l k new g) = true) :
    T.Repeats rules (m + 1) w kept (.replace l k new g) := by
  intro ts written rest text rest' hread htext hstays
  simp only [steadyStep, Bool.and_eq_true, Bool.or_eq_true] at hsteady
  obtain ⟨⟨⟨⟨hg, hno⟩, hlength⟩, hwritten⟩, hchain⟩ := hsteady
  have hlength := Nat.eq_of_beq_eq_true hlength
  obtain ⟨hl, hread, hle⟩ | ⟨hl, hread⟩ := read_replace.1 hread
  · obtain ⟨front, more, rfl, hfront, hclasses, hback, hread⟩ :=
      parts_of_replace hl hlength hread hle
    obtain ⟨rfl, rfl⟩ | htext := htext
    · -- What was written in the place of these tokens is read as it stands.
      obtain ⟨hkeep, hsettles⟩ := hwritten.resolve_left Bool.false_ne_true
      have hquestion := hc.look hkeep hread (.inl ⟨rfl, rfl⟩) hstays (Look.holds_behind.trans hback)
      obtain ⟨j, hj⟩ := ih hg hread (.inl ⟨rfl, rfl⟩) hstays
      exact ⟨j + 1, read_replace.2 (.inr
        ⟨Verdict.of_isNo hsettles (Look.fits_settles hquestion), hj⟩)⟩
    · rw [← List.append_assoc] at htext
      obtain rfl := List.append_cancel_right htext
      rw [List.append_assoc]
      have hagain := hc.chain hchain (hfront.trans hlength.symm) hclasses hread hstays hl
      obtain ⟨j, hj⟩ := ih hg hread (.inr (List.append_assoc new more rest).symm) hstays
      refine ⟨j + 1, read_replace.2 (.inl ⟨hagain, ?_, ?_⟩)⟩
      · rw [← hfront, List.drop_left, ← List.append_assoc]
        exact hj
      · simp [hfront]
  · have hagain := hc.negate hno hread htext hstays hl
    obtain ⟨j, hj⟩ := ih hg hread htext hstays
    exact ⟨j + 1, read_replace.2 (.inr ⟨hagain, hj⟩)⟩

theorem Again.seq
    (hsteady : T.steadyStep rules fuel (T.steady rules fuel n) w kept (.seq g h) = true) :
    T.Repeats rules (m + 1) w kept (.seq g h) := by
  intro ts written rest text rest' hread htext hstays
  obtain ⟨hg, hh⟩ := Bool.and_eq_true_iff.1 hsteady
  obtain ⟨first, mid, second, hfirst, hsecond, rfl⟩ := read_seq.1 hread
  obtain ⟨front, back, rfl, hfront, hback⟩ :=
    htext.split (suffix_of_read hfirst) (suffix_of_read hsecond)
  obtain ⟨i, hi⟩ := ih hg hfirst hfront fun x hx b hb hmid =>
    hc hx hsecond hback hstays b hb hmid
  obtain ⟨j, hj⟩ := ih hh hsecond hback hstays
  rw [List.append_assoc]
  exact ⟨max i j + 1, read_seq.2 ⟨first, back ++ rest', second,
    read_mono hi (Nat.le_max_left ..), read_mono hj (Nat.le_max_right ..), rfl⟩⟩

theorem Again.cond
    (hsteady : T.steadyStep rules fuel (T.steady rules fuel n) w kept (.cond l g h) = true) :
    T.Repeats rules (m + 1) w kept (.cond l g h) := by
  intro ts written rest text rest' hread htext hstays
  simp only [steadyStep, Bool.and_eq_true] at hsteady
  obtain ⟨⟨⟨hg, hh⟩, hyes⟩, hno⟩ := hsteady
  obtain ⟨hl, hread⟩ | ⟨hl, hread⟩ := read_cond.1 hread
  · obtain ⟨j, hj⟩ := ih hg hread htext hstays
    exact ⟨j + 1, read_cond.2 (.inl ⟨hc.look hyes hread htext hstays hl, hj⟩)⟩
  · have hagain := hc.negate hno hread htext hstays hl
    obtain ⟨j, hj⟩ := ih hh hread htext hstays
    exact ⟨j + 1, read_cond.2 (.inr ⟨hagain, hj⟩)⟩

theorem Again.ending {q : Grammar ρ} {c : Class}
    (hsteady : T.steadyStep rules fuel (T.steady rules fuel n) w kept (.ending q c g h) = true) :
    T.Repeats rules (m + 1) w kept (.ending q c g h) := by
  intro ts written rest text rest' hread htext hstays
  simp only [steadyStep, Bool.and_eq_true] at hsteady
  obtain ⟨⟨hq, hg⟩, hh⟩ := hsteady
  obtain ⟨first, mid, second, hfirst, hsecond, rfl⟩ := read_ending.1 hread
  obtain ⟨front, back, rfl, hfront, hback⟩ :=
    htext.split (suffix_of_read hfirst) (suffix_of_read hsecond)
  obtain ⟨i, hi⟩ := ih hq hfirst hfront fun x hx b hb hmid => by
    obtain ⟨hkeep, hkeep'⟩ := Bool.and_eq_true_iff.1 hx
    split at hsecond
    · exact hc hkeep hsecond hback hstays b hb hmid
    · exact hc hkeep' hsecond hback hstays b hb hmid
  obtain ⟨j, hj⟩ : ∃ k, run rules k (if first.getLast?.any c.holds then g else h) (back ++ rest') =
      .read second rest' := by
    by_cases hlast : first.getLast?.any c.holds = true
    · rw [if_pos hlast] at hsecond ⊢
      exact ih hg hsecond hback hstays
    · rw [if_neg hlast] at hsecond ⊢
      exact ih hh hsecond hback hstays
  rw [List.append_assoc]
  exact ⟨max i j + 1, read_ending.2 ⟨first, back ++ rest', second,
    read_mono hi (Nat.le_max_left ..), read_mono hj (Nat.le_max_right ..), rfl⟩⟩

theorem Again.many (hmany : T.steady rules fuel (n + 1) w kept (.many l g) = true)
    (hsteady : T.steadyStep rules fuel (T.steady rules fuel n) w kept (.many l g) = true) :
    T.Repeats rules (m + 1) w kept (.many l g) := by
  intro ts written rest text rest' hread htext hstays
  simp only [steadyStep, Bool.and_eq_true] at hsteady
  obtain ⟨⟨hg, hmore⟩, hend⟩ := hsteady
  obtain ⟨hl, rfl, rfl⟩ | ⟨hl, first, mid, second, hfirst, hsecond, rfl⟩ := read_many.1 hread
  · obtain rfl := htext.nil
    have hagain := hstays.look hend (Look.holds_negate_iff.2 hl)
    exact ⟨1, read_many.2 (.inl ⟨Look.holds_negate_iff.1 hagain, rfl, rfl⟩)⟩
  · obtain ⟨front, back, rfl, hfront, hback⟩ :=
      htext.split (suffix_of_read hfirst) (suffix_of_read hsecond)
    have hmid : T.Stays (T.keeps rules fuel w kept (.many l g)) mid (back ++ rest') :=
      fun x hx b hb hmid => hc hx hsecond hback hstays b hb hmid
    obtain ⟨i, hi⟩ := ih hg hfirst hfront hmid
    obtain ⟨j, hj⟩ := ih hmany hsecond hback hstays
    rw [List.append_assoc]
    exact ⟨max i j + 1, read_many.2 (.inr ⟨hc.look hmore hfirst hfront hmid hl, first,
      back ++ rest', second, read_mono hi (Nat.le_max_left ..),
      read_mono hj (Nat.le_max_right ..), rfl⟩)⟩

theorem Again.list {stop : Look} {c : Class}
    (hlist : T.steady rules fuel (n + 1) w kept (.list stop g c) = true)
    (hsteady : T.steadyStep rules fuel (T.steady rules fuel n) w kept (.list stop g c) = true) :
    T.Repeats rules (m + 1) w kept (.list stop g c) := by
  intro ts written rest text rest' hread htext hstays
  simp only [steadyStep, Bool.and_eq_true] at hsteady
  obtain ⟨⟨⟨hg, hmore⟩, hend⟩, hnone⟩ := hsteady
  -- The list goes on as before: an item comes next, and it is read again.
  have item {first mid front mid' : List Token} (hstop : stop.holds ts = false)
      (hfirst : run rules m g ts = .read first mid) (hfront : Copied w ts first mid front)
      (hmid : T.Stays (T.separated rules fuel w kept stop g c) mid mid') :
      stop.holds (front ++ mid') = false ∧
        ∃ k, run rules k g (front ++ mid') = .read first mid' :=
    ⟨hc.negate hmore hfirst hfront hmid hstop, ih hg hfirst hfront hmid⟩
  obtain ⟨hstop, rfl, rfl⟩ | ⟨hstop, hfirst, hnext⟩ | ⟨hstop, first, t, mid, second, hfirst, ht,
    hsecond, rfl⟩ := read_list.1 hread
  · obtain rfl := htext.nil
    exact ⟨1, read_list.2 (.inl ⟨hstays.look hend hstop, rfl, rfl⟩)⟩
  · obtain ⟨hagain, i, hi⟩ := item hstop hfirst htext
      (hstays.mono fun x hx => (Bool.and_eq_true_iff.1 hx).1)
    have hnext := hstays.look hnone (by rw [Look.holds, hnext]; rfl)
    rw [Look.holds, Bool.not_eq_true'] at hnext
    exact ⟨i + 1, read_list.2 (.inr (.inl ⟨hagain, hi, hnext⟩))⟩
  · obtain ⟨front, back, rfl, hfront, hback⟩ := htext.split (suffix_of_read hfirst)
      ((suffix_of_read hsecond).trans (List.suffix_cons t mid))
    obtain ⟨back, rfl, hmore⟩ := hback.cons (suffix_of_read hsecond)
    have hmid : T.Stays (T.separated rules fuel w kept stop g c) (t :: mid)
        (t :: (back ++ rest')) := fun x hx b hb hmid => Look.holds_past
      (fun b hb hmid => hc.look hb hsecond hmore hstays hmid)
      (List.all_eq_true.1 (Bool.and_eq_true_iff.1 hx).2 b hb) ht (Look.Alike.refl b t) hmid
    obtain ⟨hagain, i, hi⟩ := item hstop hfirst hfront hmid
    obtain ⟨j, hj⟩ := ih hlist hsecond hmore hstays
    rw [List.append_assoc]
    exact ⟨max i j + 1, read_list.2 (.inr (.inr ⟨hagain, first, t, back ++ rest', second,
      read_mono hi (Nat.le_max_left ..), ht, read_mono hj (Nat.le_max_right ..), rfl⟩))⟩

theorem Again.numbers (hT : T.Fronts rules)
    (hsteady : T.steadyStep rules fuel (T.steady rules fuel n) w kept (.numbers g) = true) :
    T.Repeats rules (m + 1) w kept (.numbers g) := by
  intro ts written rest text rest' hread htext hstays
  simp only [steadyStep, Bool.and_eq_true, Bool.not_eq_true'] at hsteady
  obtain ⟨⟨⟨⟨hg, hnull⟩, hheads⟩, hsettled⟩, hunbroken⟩ := hsteady
  obtain ⟨t, us, new, rfl, hpoint, hnew, hread, hle⟩ := read_numbers.1 hread
  obtain ⟨more, rfl⟩ := suffix_of_append (suffix_of_read hread) hle
  obtain ⟨rfl, rfl⟩ | htext := htext
  · -- What was written starts with the number as it is written, or with no number at all.
    obtain ⟨k, hk⟩ := Option.isSome_iff_exists.1 hheads
    have hfront : Fronted T g (new ++ (more ++ rest)) text rest :=
      fronted_of_read (s := false) hT hread
    obtain ⟨hnone, -⟩ | ⟨-, _, u, _, written', -, rfl, -, -⟩ := hfront.starts hk
    · exact absurd (congrArg List.length hnone) (Nat.ne_of_lt (hfront.takes hnull))
    · have hquestion := hc.look hsettled hread (.inl ⟨rfl, rfl⟩) hstays (settled_of_fieldTokens hnew)
      obtain ⟨hu, hpointed⟩ := fieldTokens_of_settled hquestion
      obtain ⟨j, hj⟩ := ih hg hread (.inl ⟨rfl, rfl⟩) hstays
      exact ⟨j + 1, read_numbers.2 ⟨u, written' ++ rest', [u], rfl, by rw [hpointed]; rfl, hu, hj,
        by simp⟩⟩
  · obtain rfl : t :: more = text := List.append_cancel_right htext
    obtain ⟨j, hj⟩ := ih hg hread (.inr (List.append_assoc new more rest).symm) hstays
    rw [List.append_assoc] at hj
    refine ⟨j + 1, read_numbers.2 ⟨t, more ++ rest', new, rfl, ?_, hnew, hj, by simp⟩⟩
    cases hpointed : Class.pointed.holds t with
    | false => rfl
    | true =>
      rw [hpointed, Bool.true_and] at hpoint
      obtain ⟨u, rfl, hu⟩ := fieldTokens_of_pointed hpointed hnew
      have hquestion := hc.look hunbroken hread (.inr (List.append_assoc _ more rest).symm) hstays
        (by rw [List.cons_append, List.cons_append, holds_unbroken hu, List.nil_append, hpoint]; rfl)
      rw [List.append_assoc, List.cons_append, List.cons_append, holds_unbroken hu,
        Bool.not_eq_true'] at hquestion
      exact hquestion

theorem Again.angles {before : Angles}
    (hsteady : T.steadyStep rules fuel (T.steady rules fuel n) w kept (.angles g before) = true) :
    T.Repeats rules (m + 1) w kept (.angles g before) := by
  intro ts written rest text rest' hread htext hstays
  simp only [steadyStep, Bool.and_eq_true, Bool.or_eq_true] at hsteady
  obtain ⟨⟨hg, hopen⟩, hwritten⟩ := hsteady
  -- An item in front of a comma or of the closing bracket, in front of either of them again.
  have item {us copy item mid mid' : List Token} {c d : Char} {i j : Bool}
      (hopens : (Look.mark '>').holds us = false)
      (hitem : run rules m g us = .read item (.mark c i :: mid))
      (hcopy : Copied w us item (.mark c i :: mid) copy) (hc' : c = ',' ∨ c = '>')
      (hd : d = ',' ∨ d = '>') : (Look.mark '>').holds (copy ++ .mark d j :: mid') = false ∧
        ∃ k, run rules k g (copy ++ .mark d j :: mid') = .read item (.mark d j :: mid') := by
    have hends : T.Stays T.closed (.mark c i :: mid) (.mark d j :: mid') := stays_closed hc' hd
    have hagain := hc.look hopen hitem hcopy hends (by rw [Look.holds, hopens]; rfl)
    rw [Look.holds, Bool.not_eq_true'] at hagain
    exact ⟨hagain, ih hg hitem hcopy hends⟩
  obtain ⟨i, ps, hrow, rfl⟩ := Row.of_read hread
  obtain ⟨rfl, rfl⟩ | rfl := htext
  · obtain ⟨⟨hls, hos⟩, hbare⟩ := hwritten.resolve_left Bool.false_ne_true
    obtain rfl : before = {} := by
      cases before
      simp_all
    rw [← Piece.arranged_arrange hrow.separated]
    have hagain : Row (fun ts item rest => ∃ k, run rules k g ts = .read item rest) i rest'
        (Piece.concat (Piece.arrange ps) ++ .mark '>' i :: rest') (Piece.arrange ps) := by
      refine Row.of_separated (Piece.separated_arrange hrow.separated) fun p hp d j more hd => ?_
      obtain ⟨q, hq, hitem⟩ := Piece.item_of_arrange hp
      obtain ⟨us, c, j', mid, hc', hopens, hread⟩ := hrow.read_of_mem hq
      rw [hitem]
      exact item hopens hread (.inl ⟨rfl, rfl⟩) hc' hd
    obtain ⟨k, hk⟩ := hagain.read {}
    rw [Piece.arranged_arrange hrow.separated] at hk ⊢
    rw [Piece.arranged_eq_concat hrow.separated] at hk ⊢
    exact ⟨k, by simpa using hk⟩
  · have hagain : Row (fun ts item rest => ∃ k, run rules k g ts = .read item rest) i rest'
        (text ++ rest') ps :=
      hrow.again (fun _ _ _ h => suffix_of_read h) (fun front item' c j mid mid' hc' hopens h =>
        item hopens h (.inr rfl) hc' hc') rfl
    exact hagain.read before

end

omit [DecidableEq φ] in
/-- What is shown of what was written holds of what was read as well. -/
theorem Repeats.copied (h : T.Repeats rules m true kept g) : T.Repeats rules m w kept g :=
  fun _ _ _ _ _ hread htext hstays => h hread (htext.imp_left fun h => ⟨rfl, h.2⟩) hstays

/-! ### Reading strictly -/

omit [DecidableEq φ] in
/-- A grammar that is read strictly as it is. -/
theorem Repeats.decides (hagain : T.Repeats rules m w kept g) (hstrict : g.strict = g) :
    T.Decides rules m kept g := by
  intro text written rest rest' hread hstays
  rw [hstrict]
  refine ⟨fun j first mid hj => ?_, fun j hj => ?_⟩
  · obtain ⟨rfl, rfl⟩ := read_unique hj hread
    exact ⟨rfl, rfl, hagain hread (.inr rfl) hstays⟩
  · exact absurd hread (not_read_of_refused hj)

section

variable (ih : T.Follows rules m) (hc : T.Carries rules m)

include ih

theorem Follows.loose {s : Grammar ρ}
    (hstrict : ∀ r r', T.stricts r r' = true → rules r = (rules r').strict)
    (hsteady : ∀ r, ∃ w fuel n, T.steady rules fuel n w (T.covers (T.needs r)) (rules r) = true)
    (hloose : T.steadyStep rules fuel (T.steady rules fuel n) w kept (.loose s g) = true) :
    T.Decides rules (m + 1) kept (.loose s g) := by
  intro text written rest rest' hread hstays
  obtain ⟨hg, hshape⟩ := Bool.and_eq_true_iff.1 hloose
  have hloosely := read_loose.1 hread
  rw [strict]
  cases s with
  | refuse =>
    refine ⟨fun j first mid hj => ?_, fun _ _ => ⟨1, rfl⟩⟩
    obtain ⟨j, rfl⟩ := depth_of_read hj
    exact nomatch hj
  | call r =>
    cases g with
    | call r' =>
      obtain ⟨i, rfl⟩ := depth_of_read hloosely
      obtain ⟨w', fuel', n', hrule⟩ := hsteady r'
      have hcovered : (T.needs r').all kept = true := by
        cases n with
        | zero => exact nomatch hg
        | succ n => exact (Bool.and_eq_true_iff.1 hg).2
      have hdecides := ih hrule (read_mono (read_call.1 hloosely) i.le_succ)
        (stays_of_covers hcovered hstays)
      rw [← hstrict r r' hshape] at hdecides
      refine ⟨fun j first mid hj => ?_, fun j hj => ?_⟩
      · obtain ⟨j, rfl⟩ := depth_of_read hj
        obtain ⟨hfirst, hmid, k, hk⟩ := hdecides.1 (read_call.1 hj)
        exact ⟨hfirst, hmid, k + 1, hk⟩
      · obtain ⟨j, rfl⟩ := depth_of_refused hj
        obtain ⟨k, hk⟩ := hdecides.2 hj
        exact ⟨k + 1, hk⟩
    | _ => exact nomatch hshape
  | _ => exact nomatch hshape

include hc

theorem Follows.replace {k : Nat} {new : List Token}
    (hsteady : T.steadyStep rules fuel (T.steady rules fuel n) w kept (.replace l k new g) = true) :
    T.Decides rules (m + 1) kept (.replace l k new g) := by
  intro text written rest rest' hread hstays
  simp only [steadyStep, Bool.and_eq_true] at hsteady
  obtain ⟨⟨⟨⟨hg, hno⟩, hlength⟩, -⟩, hchain⟩ := hsteady
  have hlength := Nat.eq_of_beq_eq_true hlength
  obtain ⟨hl, hread, hle⟩ | ⟨hl, hread⟩ := read_replace.1 hread
  · obtain ⟨front, more, htext, hfront, hclasses, -, hnew⟩ :=
      parts_of_replace hl hlength hread hle
    rw [← List.append_assoc] at htext
    obtain rfl := List.append_cancel_right htext
    rw [List.append_assoc] at hl ⊢
    rw [List.append_assoc] at hclasses
    have hagain := hc.chain hchain (hfront.trans hlength.symm) hclasses hnew hstays hl
    rw [← List.append_assoc] at hnew
    have hdecides := ih hg hnew hstays
    have hdrop (us : List Token) : new ++ (front ++ (more ++ us)).drop k = new ++ more ++ us := by
      rw [← hfront, List.drop_left, List.append_assoc]
    refine ⟨fun j first mid hj => ?_, fun j hj => ?_⟩
    · obtain ⟨j, rfl⟩ := depth_of_read hj
      obtain ⟨-, hj, -⟩ | ⟨hno, -⟩ := read_replace.1 hj
      · rw [hdrop] at hj
        obtain ⟨hfirst, hmid, i, hi⟩ := hdecides.1 hj
        refine ⟨hfirst, hmid, i + 1, ?_⟩
        rw [List.append_assoc]
        exact read_replace.2 (.inl ⟨hagain, by rwa [hdrop], by simp [hfront]⟩)
      · cases hl.symm.trans hno
    · obtain ⟨j, rfl⟩ := depth_of_refused hj
      obtain ⟨-, hj | ⟨first, mid, hj, hlt⟩⟩ | ⟨hno, -⟩ := refused_replace.1 hj
      · rw [hdrop] at hj
        obtain ⟨i, hi⟩ := hdecides.2 hj
        refine ⟨i + 1, ?_⟩
        rw [List.append_assoc]
        exact refused_replace.2 (.inl ⟨hagain, .inl (by rwa [hdrop])⟩)
      · rw [hdrop] at hj
        obtain ⟨-, rfl, -⟩ := hdecides.1 hj
        simp only [List.length_append, hfront] at hlt
        omega
      · cases hl.symm.trans hno
  · have hagain := hc.negate hno hread (w := w) (.inr rfl) hstays hl
    have hdecides := ih hg hread hstays
    refine ⟨fun j first mid hj => ?_, fun j hj => ?_⟩
    · obtain ⟨j, rfl⟩ := depth_of_read hj
      obtain ⟨hyes, -⟩ | ⟨-, hj⟩ := read_replace.1 hj
      · cases hl.symm.trans hyes
      · obtain ⟨hfirst, hmid, i, hi⟩ := hdecides.1 hj
        exact ⟨hfirst, hmid, i + 1, read_replace.2 (.inr ⟨hagain, hi⟩)⟩
    · obtain ⟨j, rfl⟩ := depth_of_refused hj
      obtain ⟨hyes, -⟩ | ⟨-, hj⟩ := refused_replace.1 hj
      · cases hl.symm.trans hyes
      · obtain ⟨i, hi⟩ := hdecides.2 hj
        exact ⟨i + 1, refused_replace.2 (.inr ⟨hagain, hi⟩)⟩

theorem Follows.seq
    (hsteady : T.steadyStep rules fuel (T.steady rules fuel n) w kept (.seq g h) = true) :
    T.Decides rules (m + 1) kept (.seq g h) := by
  intro text written rest rest' hread hstays
  obtain ⟨hg, hh⟩ := Bool.and_eq_true_iff.1 hsteady
  obtain ⟨first, mid, second, hfirst, hsecond, rfl⟩ := read_seq.1 hread
  obtain ⟨back, rfl⟩ := suffix_of_read hsecond
  obtain ⟨front, htext⟩ := suffix_of_read hfirst
  rw [← List.append_assoc] at htext
  obtain rfl := List.append_cancel_right htext
  rw [List.append_assoc] at hfirst ⊢
  have hfront := ih hg hfirst fun x hx b hb hmid =>
    hc hx hsecond (w := w) (.inr rfl) hstays b hb hmid
  have hback := ih hh hsecond hstays
  refine ⟨fun j first' mid' hj => ?_, fun j hj => ?_⟩
  · obtain ⟨j, rfl⟩ := depth_of_read hj
    obtain ⟨_, _, _, hleft, hright, rfl⟩ := read_seq.1 hj
    obtain ⟨rfl, rfl, i, hi⟩ := hfront.1 hleft
    obtain ⟨rfl, rfl, i', hi'⟩ := hback.1 hright
    refine ⟨rfl, rfl, max i i' + 1, ?_⟩
    rw [List.append_assoc]
    exact read_seq.2 ⟨_, _, _, read_mono hi (Nat.le_max_left ..),
      read_mono hi' (Nat.le_max_right ..), rfl⟩
  · obtain ⟨j, rfl⟩ := depth_of_refused hj
    rw [List.append_assoc]
    obtain hleft | ⟨_, _, hleft, hright⟩ := refused_seq.1 hj
    · obtain ⟨i, hi⟩ := hfront.2 hleft
      exact ⟨i + 1, refused_seq.2 (.inl hi)⟩
    · obtain ⟨rfl, rfl, i, hi⟩ := hfront.1 hleft
      obtain ⟨i', hi'⟩ := hback.2 hright
      exact ⟨max i i' + 1, refused_seq.2 (.inr ⟨_, _, read_mono hi (Nat.le_max_left ..),
        refused_mono hi' (Nat.le_max_right ..)⟩)⟩

theorem Follows.cond
    (hsteady : T.steadyStep rules fuel (T.steady rules fuel n) w kept (.cond l g h) = true) :
    T.Decides rules (m + 1) kept (.cond l g h) := by
  intro text written rest rest' hread hstays
  simp only [steadyStep, Bool.and_eq_true] at hsteady
  obtain ⟨⟨⟨hg, hh⟩, hyes⟩, hno⟩ := hsteady
  obtain ⟨hl, hread⟩ | ⟨hl, hread⟩ := read_cond.1 hread
  · have hagain := hc.look hyes hread (.inr rfl) hstays hl
    have hdecides := ih hg hread hstays
    refine ⟨fun j first mid hj => ?_, fun j hj => ?_⟩
    · obtain ⟨j, rfl⟩ := depth_of_read hj
      obtain ⟨-, hj⟩ | ⟨hno, -⟩ := read_cond.1 hj
      · obtain ⟨hfirst, hmid, i, hi⟩ := hdecides.1 hj
        exact ⟨hfirst, hmid, i + 1, read_cond.2 (.inl ⟨hagain, hi⟩)⟩
      · cases hl.symm.trans hno
    · obtain ⟨j, rfl⟩ := depth_of_refused hj
      obtain ⟨-, hj⟩ | ⟨hno, -⟩ := refused_cond.1 hj
      · obtain ⟨i, hi⟩ := hdecides.2 hj
        exact ⟨i + 1, refused_cond.2 (.inl ⟨hagain, hi⟩)⟩
      · cases hl.symm.trans hno
  · have hagain := hc.negate hno hread (w := w) (.inr rfl) hstays hl
    have hdecides := ih hh hread hstays
    refine ⟨fun j first mid hj => ?_, fun j hj => ?_⟩
    · obtain ⟨j, rfl⟩ := depth_of_read hj
      obtain ⟨hyes, -⟩ | ⟨-, hj⟩ := read_cond.1 hj
      · cases hl.symm.trans hyes
      · obtain ⟨hfirst, hmid, i, hi⟩ := hdecides.1 hj
        exact ⟨hfirst, hmid, i + 1, read_cond.2 (.inr ⟨hagain, hi⟩)⟩
    · obtain ⟨j, rfl⟩ := depth_of_refused hj
      obtain ⟨hyes, -⟩ | ⟨-, hj⟩ := refused_cond.1 hj
      · cases hl.symm.trans hyes
      · obtain ⟨i, hi⟩ := hdecides.2 hj
        exact ⟨i + 1, refused_cond.2 (.inr ⟨hagain, hi⟩)⟩

end

/-! ### All readings -/

/-- A grammar that is read strictly if possible is read so again, or is not. -/
theorem Again.lenient (ih : T.Again rules m) (hfollows : T.Follows rules m)
    (hsteady : T.steadyStep rules fuel (T.steady rules fuel n) w kept (.lenient g) = true) :
    T.Repeats rules (m + 1) w kept (.lenient g) := by
  intro ts written rest text rest' hread htext hstays
  obtain ⟨hstrict, hg⟩ := Bool.and_eq_true_iff.1 hsteady
  obtain hread | ⟨hrefused, hverbatim⟩ := read_lenient hread
  · obtain ⟨j, hj⟩ := ih hstrict hread htext hstays
    exact ⟨j + 1, by simp [run, step, hj, Outcome.orElse]⟩
  · obtain ⟨k, rfl⟩ := depth_of_read hverbatim
    obtain ⟨⟨inner, hinner⟩, rfl⟩ := read_verbatim.1 hverbatim
    have htext := htext.asRead (suffix_of_read hinner)
    have hloosely := read_mono hinner k.le_succ
    obtain ⟨j, hj⟩ := ih hg hloosely (.inr htext) hstays
    rw [htext] at hloosely hrefused
    obtain ⟨i, hi⟩ := (hfollows hg hloosely hstays).2 hrefused
    have hagain : run rules (j + 1) (.verbatim g) (text ++ rest') = .read text rest' :=
      read_verbatim.2 ⟨⟨inner, hj⟩, by simp⟩
    refine ⟨max i (j + 1) + 1, ?_⟩
    rw [htext]
    simp [run, step, refused_mono hi (Nat.le_max_left ..), Outcome.orElse,
      read_mono hagain (Nat.le_max_right ..)]

/-- **What passes the check is read again**, and strictly as it was. -/
theorem again_of_sound (hT : T.Sound rules) (m : Nat) : T.Again rules m ∧ T.Follows rules m := by
  induction m with
  | zero => exact ⟨fun _ _ _ _ _ _ _ _ _ _ _ hread => (nomatch hread),
      fun _ _ _ _ _ _ _ _ _ _ hread => (nomatch hread)⟩
  | succ m ih =>
    obtain ⟨ih, hfollows⟩ := ih
    have hc := carries hT.fronts hT.crosses m
    have hrules (r : ρ) := hT.steady r
    have again : T.Again rules (m + 1) := by
      intro fuel n w kept g hsteady
      cases n with
      | zero => exact nomatch hsteady
      | succ n =>
        have hstep : T.steadyStep rules fuel (T.steady rules fuel n) w kept g = true := hsteady
        cases g with
        | empty =>
          intro ts written rest text rest' hread htext hstays
          obtain ⟨rfl, rfl⟩ := read_empty.1 hread
          obtain rfl := htext.nil
          exact ⟨1, rfl⟩
        | refuse => exact fun _ _ _ _ _ hread => nomatch hread
        | take c =>
          intro ts written rest text rest' hread htext hstays
          obtain ⟨t, rfl, hc, rfl⟩ := read_take.1 hread
          obtain rfl := htext.token
          exact ⟨1, read_take.2 ⟨t, rfl, hc, rfl⟩⟩
        | replace => exact ih.replace hc hstep
        | numbers => exact ih.numbers hc hT.fronts hstep
        | seq => exact ih.seq hc hstep
        | cond => exact ih.cond hc hstep
        | ending => exact ih.ending hc hstep
        | many => exact ih.many hc hsteady hstep
        | list => exact ih.list hc hsteady hstep
        | angles => exact ih.angles hc hstep
        | inside => exact ih.inside hstep
        | verbatim => exact ih.verbatim hstep
        | lenient => exact ih.lenient hfollows hstep
        | loose =>
          intro ts written rest text rest' hread htext hstays
          obtain ⟨j, hj⟩ := ih (Bool.and_eq_true_iff.1 hstep).1 (read_loose.1 hread) htext hstays
          exact ⟨j + 1, hj⟩
        | call r =>
          intro ts written rest text rest' hread htext hstays
          obtain ⟨hfaithful, hcovered⟩ := Bool.and_eq_true_iff.1 hstep
          have hstays := stays_of_covers hcovered hstays
          obtain ⟨w', fuel', n', hrule, hotherwise⟩ := hrules r
          have hrepeats : T.Repeats rules m w (T.covers (T.needs r)) (rules r) := by
            cases w' with
            | true => exact (ih hrule).copied
            | false =>
              cases w with
              | true => exact hotherwise rfl hfaithful m ih
              | false => exact ih hrule
          obtain ⟨j, hj⟩ := hrepeats (read_call.1 hread) htext hstays
          exact ⟨j + 1, hj⟩
    refine ⟨again, fun fuel n w kept g hsteady => ?_⟩
    cases n with
    | zero => exact nomatch hsteady
    | succ n =>
      have hstep : T.steadyStep rules fuel (T.steady rules fuel n) w kept g = true := hsteady
      cases g with
      | replace => exact hfollows.replace hc hstep
      | seq => exact hfollows.seq hc hstep
      | cond => exact hfollows.cond hc hstep
      | loose =>
        exact hfollows.loose (fun _ _ => hT.stricts)
          (fun r => (hrules r).imp fun _ => .imp fun _ => .imp fun _ => And.left) hstep
      | _ => exact (again hsteady).decides rfl

end Table

end Vigil.Source
