import Mathlib.Data.List.TakeDrop
import Vigil.Proofs.Source.Row
import Vigil.Proofs.Source.Start

/-!
# What stays in front of a reading

Whether an answer in front of what a grammar reads stays the same if something else stands behind
it. This is checked on the grammar alone: the check names the answers that have to stay behind the
grammar, so that the one in front of it does.

* `Copied`: a text for what was read, as it was read or as it was written.
* `Table.keeps`: the check, form by form.
* `Table.carries`: **what passes the check stays**.
-/

namespace Vigil.Source

open Grammar

/-- A text for what was read: as it was read or, if that counts, as it was written. -/
def Copied (w : Bool) (ts written rest text : List Token) : Prop :=
  w = true ∧ text = written ∨ ts = text ++ rest

/-- Whether two needs are the same. -/
def Need.same {φ : Type} [DecidableEq φ] : Need φ → Need φ → Bool
  | .look l, .look m => l.same m
  | .all f, .all f' => decide (f = f')
  | _, _ => false

theorem Need.eq_of_same {φ : Type} [DecidableEq φ] {x y : Need φ} (h : x.same y = true) :
    x = y := by
  cases x <;> cases y <;> first
    | exact congrArg _ (Look.eq_of_same h)
    | exact congrArg _ (of_decide_eq_true h)
    | exact nomatch h

namespace Table

variable {ρ φ : Type} [DecidableEq φ] (T : Table ρ φ) (rules : ρ → Grammar ρ)

/-! ## The check -/

/-- What stays because some needs are met. -/
def covers (met : List (Need φ)) : Need φ → Bool
  | .look l => l.constant || met.any fun y => (T.asks y).any l.same
  | .all f => met.any (Need.same (.all f)) ||
      (T.looks f).all fun l => met.any fun y => (T.asks y).any l.same

/-- An answer that the first token decides. -/
def decides (kept : Need φ → Bool) (g : Grammar ρ) (a : Look) : Bool :=
  match T.headsOf g with
  | some k => Mask.within k a.known && (!T.nullableOf g || kept (.look a))
  | none => false

/-- A question stays behind something. -/
def onward (kept : Need φ → Bool) (l : Look) : Bool := l.constant || kept (.look l)

/-- Whether a comma and a closing bracket answer a question alike. -/
def closes (l : Look) : Bool :=
  match (Look.mark ',').settles l, (Look.mark '>').settles l with
  | .yes, .yes | .no, .no => true
  | _, _ => false

/-- What stays between items in angle brackets. -/
def closed (x : Need φ) : Bool := (T.asks x).all closes

/-- Whether an answer is yes in front of every lifetime between angle brackets. -/
def atLifetime (a : Look) : Bool :=
  ((Look.mark '#').settles a).isYes &&
    ((Look.next .lifetime (.not (.mark '+'))).settles a).isYes

variable (part : Bool → (Need φ → Bool) → Grammar ρ → Need φ → Bool) (w : Bool)
  (kept : Need φ → Bool)

/-- An answer stays in front of a form if it does in front of its parts. -/
def keepForm : Grammar ρ → Look → Bool
  | .refuse, _ => true
  | .take c, a => a.past c (onward kept) true
  | .replace l n new g, a =>
    let asRead := Look.chain (l.split n).1 fun b => part false kept g (.look (.behind new b))
    part w kept g (.look a) && ((l.settles a).isNo ||
      (l.split n).1.length.beq n && (!w || ((Look.behind new (l.split n).2).settles a).isYes) &&
        ((l.settles a).isYes && asRead l || asRead a))
  | .numbers g, a =>
    let whole := (Look.one .integer).settles a
    let fraction := (Look.one .fraction).settles a
    part w kept g (.look a) && (whole.isNo && fraction.isNo ||
      (!w || ((Look.one .index).settles a).isYes) && whole.known && fraction.known)
  | .cond l g h, a =>
    (T.decides kept g a || part w kept g (.look a) || l.bars a) &&
      (part w kept h (.look a) || l.negate.bars a)
  | .ending g _ h h', a =>
    part w (fun b => part w kept h b && part w kept h' b) g (.look a)
  | .many l g, a =>
    (kept (.look a) || l.negate.bars a) && (l.bars a ||
      part w (fun b => b.same (.look a) || part w kept (.many l g) b) g (.look a))
  | .list stop g c, a =>
    (kept (.look a) || stop.bars a) && (stop.negate.bars a ||
      part w (fun b => kept b && (T.asks b).all fun l =>
        l.past c (fun m => m.same a || part w kept (.list stop g c) (.look m)) true) g (.look a))
  | .angles g before, a =>
    part w T.closed g (.look a) && a.past (.mark '>') (onward kept) true &&
      (!w || atLifetime a && before.lifetimes.isEmpty && before.others.isEmpty && !before.bare)
  | .inside d g, a =>
    a.past (.group d) (onward kept) true && (a.contents d).all fun l =>
      part w (fun _ => true) g (.look l) && part w (fun _ => true) g (.look l.negate)
  | .verbatim g, a => part false kept g (.look a)
  | .lenient g, a => part w kept g.strict (.look a) && part false kept g (.look a)
  | .loose _ g, a => part w kept g (.look a)
  | _, _ => false

/-- The same of one thing to stay. What a rule carries along as a whole is looked up. -/
def keepStep (g : Grammar ρ) (x : Need φ) : Bool :=
  match g with
  | .empty => (match x with
    | .look a => a.constant
    | .all _ => false) || kept x
  | .seq g h => part w (part w kept h) g x
  | .call r =>
    match (T.crossings r).find? (·.1.same x) with
    | some c => c.2.all kept
    | none => (T.asks x).all fun a =>
        a.constant || T.decides kept (.call r) a || part w kept (rules r) (.look a)
  | g => (T.asks x).all fun a => a.constant || T.decides kept g a || T.keepForm part w kept g a

/-- Whether something stays in front of what a grammar reads, if what `kept` tells stays behind. -/
def keeps : Nat → Bool → (Need φ → Bool) → Grammar ρ → Need φ → Bool
  | 0 => fun _ _ _ _ => false
  | n + 1 => T.keepStep rules (keeps n)

/-- The table tells truly what the rules carry along. -/
def Crosses : Prop :=
  ∀ r, ∀ c ∈ T.crossings r, ∃ n, T.keeps rules n true (T.covers c.2) (rules r) c.1 = true

/-! ## What a check says -/

/-- What `kept` tells stays if these tokens are replaced by those. -/
def Stays (kept : Need φ → Bool) (ts us : List Token) : Prop :=
  ∀ x, kept x = true → ∀ l ∈ T.asks x, l.holds ts = true → l.holds us = true

/-- What passes the check stays in front of readings within this depth. -/
def Carries (m : Nat) : Prop :=
  ∀ ⦃n w kept g x ts written rest text rest'⦄, T.keeps rules n w kept g x = true →
    run rules m g ts = .read written rest → Copied w ts written rest text →
      T.Stays kept rest rest' → ∀ l ∈ T.asks x, l.holds ts = true → l.holds (text ++ rest') = true

end Table

namespace Copied

variable {ρ : Type} {rules : ρ → Grammar ρ} {m : Nat} {g : Grammar ρ} {w : Bool}
  {ts written rest text first mid second : List Token}

theorem asRead (h : Copied w ts (ts.take (ts.length - rest.length)) rest text)
    (hrest : rest <:+ ts) : ts = text ++ rest := by
  obtain ⟨-, rfl⟩ | h := h
  · obtain ⟨front, rfl⟩ := hrest
    simp
  · exact h

/-- A copy of two readings is a copy of each of them. -/
theorem split (h : Copied w ts (first ++ second) rest text) (hmid : mid <:+ ts)
    (hrest : rest <:+ mid) : ∃ front back, text = front ++ back ∧
      Copied w ts first mid front ∧ Copied w mid second rest back := by
  obtain ⟨hw, rfl⟩ | h := h
  · exact ⟨first, second, rfl, .inl ⟨hw, rfl⟩, .inl ⟨hw, rfl⟩⟩
  · obtain ⟨front, rfl⟩ := hmid
    obtain ⟨back, rfl⟩ := hrest
    refine ⟨front, back, ?_, .inr rfl, .inr rfl⟩
    rw [← List.append_assoc] at h
    exact (List.append_cancel_right h).symm

theorem nil (h : Copied w ts [] ts text) : text = [] := by
  obtain ⟨-, h⟩ | h := h
  · exact h
  · simpa using h

theorem cons {t : Token} (h : Copied w (t :: mid) (t :: second) rest text)
    (hrest : rest <:+ mid) : ∃ back, text = t :: back ∧ Copied w mid second rest back := by
  obtain ⟨hw, rfl⟩ | h := h
  · exact ⟨second, rfl, .inl ⟨hw, rfl⟩⟩
  · obtain ⟨back, rfl⟩ := hrest
    have h : (t :: back) ++ rest = text ++ rest := h
    exact ⟨back, (List.append_cancel_right h).symm, .inr rfl⟩

theorem token {t : Token} (h : Copied w (t :: rest) [t] rest text) : text = [t] := by
  obtain ⟨-, h⟩ | h := h
  · exact h
  · have h : [t] ++ rest = text ++ rest := h
    exact (List.append_cancel_right h).symm

end Copied

namespace Table

variable {ρ φ : Type} {T : Table ρ φ} {rules : ρ → Grammar ρ} {m n : Nat}
  {g h : Grammar ρ} {w : Bool} {kept kept' : Need φ → Bool} {a l : Look}
  {ts us written rest text rest' : List Token}

theorem Stays.mono (hstays : T.Stays kept ts us) (h : ∀ x, kept' x = true → kept x = true) :
    T.Stays kept' ts us :=
  fun x hx => hstays x (h x hx)

theorem Stays.look (hstays : T.Stays kept ts us) (h : kept (.look l) = true)
    (hl : l.holds ts = true) : l.holds us = true :=
  hstays _ h l (List.mem_singleton.2 rfl) hl

theorem Stays.onward (hstays : T.Stays kept ts us) (h : onward kept l = true)
    (hl : l.holds ts = true) : l.holds us = true := by
  obtain h | h := Bool.or_eq_true_iff.1 h
  · rwa [← Look.holds_constant h]
  · exact hstays.look h hl

theorem stays_refl (kept : Need φ → Bool) (ts : List Token) : T.Stays kept ts ts :=
  fun _ _ _ _ h => h

/-- An answer that the first token decides stays. -/
theorem holds_of_decides (hT : T.Fronts rules) (hdecides : T.decides kept g a = true)
    (hread : run rules m g ts = .read written rest) (htext : Copied w ts written rest text)
    (hstays : T.Stays kept rest rest') (h : a.holds ts = true) :
    a.holds (text ++ rest') = true := by
  rw [decides] at hdecides
  split at hdecides
  · rename_i k hk
    obtain ⟨hwithin, hnull⟩ := Bool.and_eq_true_iff.1 hdecides
    have hfront : Fronted T g ts written rest := fronted_of_read (s := false) hT hread
    obtain ⟨rfl, rfl⟩ | ⟨hlt, t, u, ts', written', rfl, rfl, hatom, hbit⟩ := hfront.starts hk
    · obtain rfl := htext.nil
      have : T.nullableOf g = true := by
        cases hg : T.nullableOf g with
        | true => rfl
        | false => exact absurd (hfront.takes hg) (Nat.lt_irrefl _)
      rw [‹T.nullableOf g = true›] at hnull
      exact hstays.look hnull h
    · have hknown := Mask.testBit_of_within hwithin hbit
      obtain ⟨-, rfl⟩ | htext := htext
      · rw [← h]
        exact (Look.holds_congr hknown hatom).symm
      · cases text with
        | nil =>
          obtain rfl : t :: ts' = rest := htext
          exact absurd hlt (Nat.lt_irrefl _)
        | cons v text =>
          obtain ⟨rfl, -⟩ := List.cons.inj htext
          rw [← h]
          exact (Look.holds_congr hknown rfl).symm
  · cases hdecides

/-- The tokens that others were read in the place of, and those behind them. -/
theorem parts_of_replace {k : Nat} {new : List Token} (hl : l.holds ts = true)
    (hlength : (l.split k).1.length = k)
    (hread : run rules m g (new ++ ts.drop k) = .read written rest)
    (hle : rest.length ≤ ts.length - k) : ∃ front more, ts = front ++ (more ++ rest) ∧
      front.length = k ∧ (Look.all (l.split k).1 .always).holds ts = true ∧
      (l.split k).2.holds (more ++ rest) = true ∧
      run rules m g (new ++ (more ++ rest)) = .read written rest := by
  obtain ⟨front, back, rfl, hfront, hback, hclasses⟩ := Look.holds_all (Look.holds_split (n := k) hl)
  rw [hlength] at hfront
  rw [← hfront, List.drop_left] at hread
  rw [← hfront, List.length_append, Nat.add_sub_cancel_left] at hle
  obtain ⟨more, rfl⟩ := suffix_of_append (suffix_of_read hread) hle
  exact ⟨front, more, rfl, hfront, hclasses _ rfl, hback, hread⟩

/-! ## Numbers of fields -/

theorem index_of_fieldNumber {n : Nat} {l : Literal} (h : fieldNumber? n = some l) :
    Class.index.holds (.literal l) = true := by
  rw [fieldNumber?] at h
  split at h
  · rename_i hn
    obtain rfl := Option.some.inj h
    simp [Class.holds, isFieldNumber, fieldNumber?, hn]
  · cases h

theorem index_of_fieldPart {cs : List Char} {t : Token} (h : fieldPart? cs = some t) :
    Class.index.holds t = true := by
  cases cs with
  | nil => cases h
  | cons c cs =>
    rw [fieldPart?] at h
    split at h
    · obtain ⟨l, hl, rfl⟩ := Option.map_eq_some_iff.1 h
      exact index_of_fieldNumber hl
    · cases h

/-- What is read for a token is that token, or for a number something that starts with the number
of a field; behind it at most its point stands if the number ends with it. -/
theorem cases_of_fieldTokens {t : Token} {new : List Token} (h : fieldTokens? t = some new) :
    (new = [t] ∧ Class.integer.holds t = false ∧ Class.fraction.holds t = false) ∨
      (Class.integer.holds t = true ∨ Class.fraction.holds t = true) ∧
      ∃ u more, new = u :: more ∧ Class.index.holds u = true ∧
        (Class.pointed.holds t = true → more = [Token.sign '.']) := by
  cases t with
  | literal l =>
    obtain ⟨spelling, value⟩ := l
    cases value with
    | integer n suffix =>
      cases suffix with
      | nil =>
        obtain ⟨l, hl, rfl⟩ := Option.map_eq_some_iff.1 h
        exact .inr ⟨.inl rfl, _, [], rfl, index_of_fieldNumber hl, nofun⟩
      | cons => exact nomatch h
    | fraction =>
      refine .inr ⟨.inr rfl, ?_⟩
      have hspan := List.span_eq_takeWhile_dropWhile (p := (· != '.')) spelling.toList
      have hall := List.takeWhile_append_dropWhile (p := (· != '.')) (l := spelling.toList)
      simp only [fieldTokens?, hspan] at h
      split at h
      · obtain ⟨t, ht, rfl⟩ := Option.map_eq_some_iff.1 h
        exact ⟨t, _, rfl, index_of_fieldPart ht, fun _ => rfl⟩
      · rename_i first second hsecond heq
        obtain ⟨t, ht, h⟩ := Option.bind_eq_some_iff.1 h
        obtain ⟨u, hu, h⟩ := Option.bind_eq_some_iff.1 h
        obtain rfl := Option.some.inj h
        refine ⟨t, _, rfl, index_of_fieldPart ht, fun hpointed => ?_⟩
        -- The second part ends with a digit or an underscore.
        rw [(Prod.mk.inj heq).2] at hall
        have hlast : spelling.toList.getLast? = some '.' := beq_iff_eq.1 hpointed
        cases second with
        | nil => exact nomatch hu
        | cons c cs =>
          rw [fieldPart?] at hu
          split at hu
          · rename_i hplaces
            obtain ⟨hc, hcs⟩ := Bool.and_eq_true_iff.1 hplaces
            rw [← hall, List.getLast?_append, List.getLast?_cons_cons] at hlast
            have hmem : '.' ∈ c :: cs := by
              refine List.mem_of_getLast? ?_
              simpa using hlast
            obtain rfl | hmem := List.mem_cons.1 hmem
            · exact absurd hc (by decide)
            · exact absurd (List.all_eq_true.1 hcs _ hmem) (by decide)
          · exact nomatch hu
      · exact nomatch h
    | text | other => exact .inl ⟨(Option.some.inj h).symm, rfl, rfl⟩
  | _ => exact .inl ⟨(Option.some.inj h).symm, rfl, rfl⟩

theorem holds_of_closes {c d : Char} {i j : Bool} (hl : closes l = true) (hc : c = ',' ∨ c = '>')
    (hd : d = ',' ∨ d = '>') (h : l.holds (.mark c i :: ts) = true) :
    l.holds (.mark d j :: us) = true := by
  have hcomma {i : Bool} {ts : List Token} :
      ((Look.mark ',').settles l).Fits (l.holds (.mark ',' i :: ts)) :=
    Look.fits_settles (Look.mark_holds.2 ⟨i, ts, rfl⟩)
  have hclose {i : Bool} {ts : List Token} :
      ((Look.mark '>').settles l).Fits (l.holds (.mark '>' i :: ts)) :=
    Look.fits_settles (Look.mark_holds.2 ⟨i, ts, rfl⟩)
  rw [closes] at hl
  split at hl
  · rename_i hyes hyes'
    rw [hyes] at hcomma
    rw [hyes'] at hclose
    obtain rfl | rfl := hd
    · exact hcomma
    · exact hclose
  · rename_i hno hno'
    rw [hno] at hcomma
    rw [hno'] at hclose
    obtain rfl | rfl := hc
    · exact nomatch h.symm.trans hcomma
    · exact nomatch h.symm.trans hclose
  · exact nomatch hl

theorem stays_closed {c d : Char} {i j : Bool} (hc : c = ',' ∨ c = '>') (hd : d = ',' ∨ d = '>') :
    T.Stays T.closed (.mark c i :: ts) (.mark d j :: us) :=
  fun _ hx _ hl h => holds_of_closes (List.all_eq_true.1 hx _ hl) hc hd h

/-- In front of every lifetime between angle brackets stands an attribute, or no plus sign stands
behind it. -/
theorem holds_at_lifetime {item : List Token} {c : Char} {i : Bool} (ha : atLifetime a = true)
    (hitem : isLifetime item = true) (hc : c = ',' ∨ c = '>') :
    a.holds (item ++ .mark c i :: us) = true := by
  obtain ⟨hattribute, hname⟩ := Bool.and_eq_true_iff.1 ha
  cases item with
  | nil => simp [isLifetime, skipAttributes] at hitem
  | cons t item =>
    cases ht : (Class.mark '#').holds t with
    | true =>
      obtain ⟨j, rfl⟩ := Class.mark_holds.1 ht
      exact Verdict.of_isYes hattribute (Look.fits_settles (Look.mark_holds.2 ⟨j, _, rfl⟩))
    | false =>
      refine Verdict.of_isYes hname (Look.fits_settles ?_)
      rw [isLifetime, skipAttributes_of_not ht] at hitem
      have hplus : c ≠ '+' := by
        obtain rfl | rfl := hc <;> decide
      cases t with
      | lifetime s =>
        cases item with
        | nil => simp [Look.holds, Look.mark, Look.one, Class.holds, hplus.symm]
        | cons u item =>
          cases u with
          | mark d j =>
            have hd : d ≠ '+' := by simpa using hitem
            simp [Look.holds, Look.mark, Look.one, Class.holds, hd.symm]
          | _ => simp [Look.holds, Look.mark, Look.one, Class.holds]
      | _ => cases hitem

section

variable [DecidableEq φ] (ih : T.Carries rules m)

include ih

theorem Carries.look (hkeep : T.keeps rules n w kept g (.look a) = true)
    (hread : run rules m g ts = .read written rest) (htext : Copied w ts written rest text)
    (hstays : T.Stays kept rest rest') (h : a.holds ts = true) : a.holds (text ++ rest') = true :=
  ih hkeep hread htext hstays a (List.mem_singleton.2 rfl) h

theorem Carries.negate (hkeep : T.keeps rules n w kept g (.look l.negate) = true)
    (hread : run rules m g ts = .read written rest) (htext : Copied w ts written rest text)
    (hstays : T.Stays kept rest rest') (h : l.holds ts = false) :
    l.holds (text ++ rest') = false :=
  Look.holds_negate_iff.1 (ih.look hkeep hread htext hstays (Look.holds_negate_iff.2 h))

/-- A question that stays for what is read in the place of some tokens stays for those. -/
theorem Carries.chain {new front more : List Token} {cs : List Class}
    (hchain : Look.chain cs (fun b => T.keeps rules n false kept g (.look (.behind new b))) a = true)
    (hfront : front.length = cs.length)
    (hclasses : (Look.all cs .always).holds (front ++ (more ++ rest)) = true)
    (hread : run rules m g (new ++ (more ++ rest)) = .read written rest)
    (hstays : T.Stays kept rest rest') (h : a.holds (front ++ (more ++ rest)) = true) :
    a.holds (front ++ (more ++ rest')) = true := by
  refine Look.holds_chain (fun b hb hback => ?_) hchain hfront hclasses h
  have hnew := ih.look hb hread (.inr (List.append_assoc new more rest).symm) hstays
    (Look.holds_behind.trans hback)
  rwa [List.append_assoc, Look.holds_behind] at hnew

theorem Carries.replace {k : Nat} {new : List Token}
    (hkeep : T.keepForm (T.keeps rules n) w kept (.replace l k new g) a = true)
    (hread : run rules (m + 1) (.replace l k new g) ts = .read written rest)
    (htext : Copied w ts written rest text) (hstays : T.Stays kept rest rest')
    (h : a.holds ts = true) : a.holds (text ++ rest') = true := by
  simp only [keepForm, Bool.and_eq_true, Bool.or_eq_true] at hkeep
  obtain ⟨hpart, hnew⟩ := hkeep
  obtain ⟨hl, hread, hle⟩ | ⟨-, hread⟩ := read_replace.1 hread
  · obtain hno | ⟨⟨hlength, hwritten⟩, hasRead⟩ := hnew
    · cases h.symm.trans (Verdict.of_isNo hno (Look.fits_settles hl))
    · have hlength := Nat.eq_of_beq_eq_true hlength
      obtain ⟨front, more, rfl, hfront, hclasses, hback, hread⟩ :=
        parts_of_replace hl hlength hread hle
      obtain ⟨rfl, rfl⟩ | htext := htext
      · have hyes := hwritten.resolve_left Bool.false_ne_true
        have hquestion : (Look.behind new (l.split k).2).holds (new ++ (more ++ rest)) = true :=
          Look.holds_behind.trans hback
        exact ih.look hpart hread (.inl ⟨rfl, rfl⟩) hstays
          (Verdict.of_isYes hyes (Look.fits_settles hquestion))
      · rw [← List.append_assoc] at htext
        obtain rfl := List.append_cancel_right htext
        have hfront := hfront.trans hlength.symm
        rw [List.append_assoc]
        obtain ⟨hyes, hchain⟩ | hchain := hasRead
        · exact Verdict.of_isYes hyes
            (Look.fits_settles (ih.chain hchain hfront hclasses hread hstays hl))
        · exact ih.chain hchain hfront hclasses hread hstays h
  · exact ih.look hpart hread htext hstays h

theorem Carries.numbers
    (hkeep : T.keepForm (T.keeps rules n) w kept (.numbers g) a = true)
    (hread : run rules (m + 1) (.numbers g) ts = .read written rest)
    (htext : Copied w ts written rest text) (hstays : T.Stays kept rest rest')
    (h : a.holds ts = true) : a.holds (text ++ rest') = true := by
  simp only [keepForm, Bool.and_eq_true, Bool.or_eq_true] at hkeep
  obtain ⟨hpart, hnumber⟩ := hkeep
  obtain ⟨t, us, new, rfl, -, hnew, hread, hle⟩ := read_numbers.1 hread
  obtain ⟨more, rfl⟩ := suffix_of_append (suffix_of_read hread) hle
  obtain ⟨rfl, -⟩ | ⟨hkind, u, behind, rfl, hu, -⟩ := cases_of_fieldTokens hnew
  · exact ih.look hpart hread htext hstays h
  · have fits {c : Class} (hc : c.holds t = true) (us : List Token) :
        ((Look.one c).settles a).Fits (a.holds (t :: us)) :=
      Look.fits_settles (by simp [Look.one, Look.holds, hc])
    obtain ⟨hwhole, hfraction⟩ | ⟨⟨hindex, hwhole⟩, hfraction⟩ := hnumber
    · obtain hc | hc := hkind
      · cases h.symm.trans (Verdict.of_isNo hwhole (fits hc _))
      · cases h.symm.trans (Verdict.of_isNo hfraction (fits hc _))
    · obtain ⟨rfl, rfl⟩ | htext := htext
      · have hyes := hindex.resolve_left Bool.false_ne_true
        exact ih.look hpart hread (.inl ⟨rfl, rfl⟩) hstays (Verdict.of_isYes hyes
          (Look.fits_settles (by simp [Look.one, Look.holds, hu])))
      · obtain rfl : t :: more = text := List.append_cancel_right htext
        rw [← h]
        obtain hc | hc := hkind
        · exact Verdict.eq_of_known hwhole (fits hc _) (fits hc _)
        · exact Verdict.eq_of_known hfraction (fits hc _) (fits hc _)

theorem Carries.many (hkeep : T.keeps rules (n + 1) w kept (.many l g) (.look a) = true)
    (hform : T.keepForm (T.keeps rules n) w kept (.many l g) a = true)
    (hread : run rules (m + 1) (.many l g) ts = .read written rest)
    (htext : Copied w ts written rest text) (hstays : T.Stays kept rest rest')
    (h : a.holds ts = true) : a.holds (text ++ rest') = true := by
  simp only [keepForm, Bool.and_eq_true, Bool.or_eq_true] at hform
  obtain ⟨hend, hmore⟩ := hform
  obtain ⟨hl, rfl, rfl⟩ | ⟨hl, first, mid, second, hg, hmany, rfl⟩ := read_many.1 hread
  · obtain rfl := htext.nil
    obtain hend | hend := hend
    · exact hstays.look hend h
    · exact nomatch h.symm.trans (Look.not_holds_of_bars hend (Look.holds_negate_iff.2 hl))
  · obtain hbars | hpart := hmore
    · exact nomatch h.symm.trans (Look.not_holds_of_bars hbars hl)
    · obtain ⟨front, back, rfl, hfront, hback⟩ :=
        htext.split (suffix_of_read hg) (suffix_of_read hmany)
      rw [List.append_assoc]
      refine ih.look hpart hg hfront (fun x hx b hb hmid => ?_) h
      obtain hsame | hx := Bool.or_eq_true_iff.1 hx
      · -- The answer itself stays in front of the repetitions that are left.
        obtain rfl := Need.eq_of_same hsame
        obtain rfl := List.mem_singleton.1 hb
        exact ih.look hkeep hmany hback hstays hmid
      · exact ih hx hmany hback hstays b hb hmid

theorem Carries.list {stop : Look} {c : Class}
    (hkeep : T.keeps rules (n + 1) w kept (.list stop g c) (.look a) = true)
    (hform : T.keepForm (T.keeps rules n) w kept (.list stop g c) a = true)
    (hread : run rules (m + 1) (.list stop g c) ts = .read written rest)
    (htext : Copied w ts written rest text) (hstays : T.Stays kept rest rest')
    (h : a.holds ts = true) : a.holds (text ++ rest') = true := by
  simp only [keepForm, Bool.and_eq_true, Bool.or_eq_true] at hform
  obtain ⟨hend, hmore⟩ := hform
  obtain ⟨hstop, rfl, rfl⟩ | hitem := read_list.1 hread
  · obtain rfl := htext.nil
    obtain hend | hend := hend
    · exact hstays.look hend h
    · exact nomatch h.symm.trans (Look.not_holds_of_bars hend hstop)
  · obtain hbars | hpart := hmore
    · have hstop : stop.negate.holds ts = true :=
        Look.holds_negate_iff.2 (hitem.elim And.left And.left)
      exact nomatch h.symm.trans (Look.not_holds_of_bars hbars hstop)
    · obtain ⟨-, hg, -⟩ | ⟨-, first, t, mid, second, hg, hc, hlist, rfl⟩ := hitem
      · refine ih.look hpart hg htext (hstays.mono fun x hx => ?_) h
        exact (Bool.and_eq_true_iff.1 hx).1
      · obtain ⟨front, back, rfl, hfront, hback⟩ := htext.split (suffix_of_read hg)
          ((suffix_of_read hlist).trans (List.suffix_cons t mid))
        obtain ⟨back, rfl, hmore⟩ := hback.cons (suffix_of_read hlist)
        rw [List.append_assoc]
        refine ih.look hpart hg hfront (fun x hx b hb hmid => ?_) h
        refine Look.holds_past (fun b hb hmid => ?_)
          (List.all_eq_true.1 (Bool.and_eq_true_iff.1 hx).2 b hb) hc (Look.Alike.refl b t) hmid
        obtain hsame | hb := Bool.or_eq_true_iff.1 hb
        · obtain rfl := Look.eq_of_same hsame
          exact ih.look hkeep hlist hmore hstays hmid
        · exact ih.look hb hlist hmore hstays hmid

theorem Carries.angles {before : Angles}
    (hform : T.keepForm (T.keeps rules n) w kept (.angles g before) a = true)
    (hread : run rules (m + 1) (.angles g before) ts = .read written rest)
    (htext : Copied w ts written rest text) (hstays : T.Stays kept rest rest')
    (h : a.holds ts = true) : a.holds (text ++ rest') = true := by
  simp only [keepForm, Bool.and_eq_true, Bool.or_eq_true] at hform
  obtain ⟨⟨hpart, hclose⟩, hwritten⟩ := hform
  have bracket {i : Bool} (h : a.holds (.mark '>' i :: rest) = true) :
      a.holds (.mark '>' i :: rest') = true :=
    Look.holds_past (fun _ hb hrest => hstays.onward hb hrest) hclose
      (Class.mark_holds.2 ⟨i, rfl⟩) (Look.Alike.refl a _) h
  obtain ⟨rfl, rfl⟩ | htext := htext
  · obtain ⟨⟨⟨hlifetime, hls⟩, hos⟩, hbare⟩ := hwritten.resolve_left Bool.false_ne_true
    obtain rfl : before = {} := by
      cases before
      simp_all
    obtain ⟨i, ps, hrow, rfl⟩ := Row.of_read hread
    rw [Piece.arranged_eq_concat hrow.separated, List.append_assoc]
    -- What stands in front is the first item that was read or a lifetime.
    have first {p : Piece} {ps : List Piece} {c : Char} {j : Bool} {mid : List Token}
        (hseparated : Piece.Separated (p :: ps)) (hc : c = ',' ∨ c = '>')
        (hg : run rules m g ts = .read p.item (.mark c j :: mid)) :
        a.holds (Piece.concat (Piece.arrange (p :: ps)) ++ .mark '>' i :: rest') = true := by
      obtain ⟨item, d, k, more, hd, hitem, heq⟩ := Piece.front_of_arrange hseparated i rest'
      rw [heq]
      obtain rfl | hitem := hitem
      · exact ih.look hpart hg (.inl ⟨rfl, rfl⟩) (stays_closed hc hd) h
      · exact holds_at_lifetime hlifetime hitem hd
    cases hrow with
    | close => exact bracket h
    | last _ hg => exact first (.last _) (.inr rfl) hg
    | next _ hg hrow => exact first (hrow.separated.cons _ _) (.inl rfl) hg
  · obtain ⟨i, rfl, -⟩ | ⟨-, ⟨item, i, hg, -⟩ | ⟨item, i, mid, hg, hmore⟩⟩ :=
      read_angles.1 hread
    · obtain rfl : [.mark '>' i] = text := List.append_cancel_right htext
      exact bracket h
    · obtain ⟨front, rfl⟩ := suffix_of_read hg
      obtain rfl : front ++ [.mark '>' i] = text :=
        List.append_cancel_right (by simpa using htext)
      simpa using ih.look hpart hg (.inr rfl) (stays_closed (.inr rfl) (.inr rfl)) h
    · obtain ⟨front, rfl⟩ := suffix_of_read hg
      obtain ⟨back, rfl⟩ := suffix_of_read hmore
      obtain rfl : front ++ .mark ',' i :: back = text :=
        List.append_cancel_right (by simpa using htext)
      simpa using ih.look hpart hg (.inr rfl) (stays_closed (.inl rfl) (.inl rfl)) h

theorem Carries.inside {d : Delimiter}
    (hform : T.keepForm (T.keeps rules n) w kept (.inside d g) a = true)
    (hread : run rules (m + 1) (.inside d g) ts = .read written rest)
    (htext : Copied w ts written rest text) (hstays : T.Stays kept rest rest')
    (h : a.holds ts = true) : a.holds (text ++ rest') = true := by
  obtain ⟨hpast, hcontents⟩ := Bool.and_eq_true_iff.1 hform
  obtain ⟨content, inner, rfl, hg, rfl⟩ := read_inside.1 hread
  have hd : (Class.group d).holds (.group d content) = true := by simp [Class.holds]
  have hkept (b : Look) (hb : onward kept b = true) (hrest : b.holds rest = true) :
      b.holds rest' = true := hstays.onward hb hrest
  obtain ⟨hw, rfl⟩ | htext := htext
  · refine Look.holds_past hkept hpast hd ⟨fun c => by cases c <;> rfl, fun heq => ?_⟩ h
    obtain ⟨rfl, rfl⟩ := Token.group.inj heq
    refine ⟨inner, rfl, fun b hb => ?_⟩
    obtain ⟨hyes, hno⟩ := Bool.and_eq_true_iff.1 (List.all_eq_true.1 hcontents b hb)
    have hinner {b : Look} (hb : T.keeps rules n w (fun _ => true) g (.look b) = true)
        (hcontent : b.holds content = true) : b.holds inner = true := by
      simpa using ih.look hb hg (.inl ⟨hw, rfl⟩) (stays_refl _ []) hcontent
    cases hb : b.holds content with
    | true => exact (hinner hyes hb).symm
    | false => exact (Look.holds_negate_iff.1 (hinner hno (Look.holds_negate_iff.2 hb))).symm
  · obtain rfl : [.group d content] = text := List.append_cancel_right htext
    exact Look.holds_past hkept hpast hd (Look.Alike.refl a _) h

/-- An answer in front of a form that is checked question by question. -/
theorem Carries.form (hT : T.Fronts rules)
    (hkeep : T.keeps rules (n + 1) w kept g (.look a) = true)
    (hform : T.keepForm (T.keeps rules n) w kept g a = true)
    (hread : run rules (m + 1) g ts = .read written rest)
    (htext : Copied w ts written rest text) (hstays : T.Stays kept rest rest')
    (ha : a.holds ts = true) : a.holds (text ++ rest') = true := by
  cases g with
  | empty | seq | call => exact nomatch hform
  | refuse => exact nomatch hread
  | take c =>
    obtain ⟨t, rfl, hc, rfl⟩ := read_take.1 hread
    obtain rfl := htext.token
    exact Look.holds_past (fun _ hb hrest => hstays.onward hb hrest) hform hc
      (Look.Alike.refl a t) ha
  | replace => exact ih.replace hform hread htext hstays ha
  | numbers => exact ih.numbers hform hread htext hstays ha
  | cond l g h =>
    simp only [keepForm, Bool.and_eq_true, Bool.or_eq_true] at hform
    obtain ⟨hyes, hno⟩ := hform
    obtain ⟨hl, hg⟩ | ⟨hl, hh⟩ := read_cond.1 hread
    · obtain (hdecides | hpart) | hbars := hyes
      · exact holds_of_decides hT hdecides hg htext hstays ha
      · exact ih.look hpart hg htext hstays ha
      · exact nomatch ha.symm.trans (Look.not_holds_of_bars hbars hl)
    · obtain hpart | hbars := hno
      · exact ih.look hpart hh htext hstays ha
      · exact nomatch ha.symm.trans (Look.not_holds_of_bars hbars (Look.holds_negate_iff.2 hl))
  | ending q c g h =>
    obtain ⟨first, mid, second, hq, hsecond, rfl⟩ := read_ending.1 hread
    obtain ⟨front, back, rfl, hfront, hback⟩ :=
      htext.split (suffix_of_read hq) (suffix_of_read hsecond)
    rw [List.append_assoc]
    refine ih.look hform hq hfront (fun x hx b hb hmid => ?_) ha
    obtain ⟨hg, hh⟩ := Bool.and_eq_true_iff.1 hx
    split at hsecond
    · exact ih hg hsecond hback hstays b hb hmid
    · exact ih hh hsecond hback hstays b hb hmid
  | many => exact ih.many hkeep hform hread htext hstays ha
  | list => exact ih.list hkeep hform hread htext hstays ha
  | angles => exact ih.angles hform hread htext hstays ha
  | inside => exact ih.inside hform hread htext hstays ha
  | verbatim g =>
    obtain ⟨⟨inner, hg⟩, rfl⟩ := read_verbatim.1 hread
    exact ih.look hform hg (.inr (htext.asRead (suffix_of_read hg))) hstays ha
  | lenient g =>
    obtain ⟨hstrict, hverbatim⟩ := Bool.and_eq_true_iff.1 hform
    obtain hg | ⟨-, hasRead⟩ := read_lenient hread
    · exact ih.look hstrict hg htext hstays ha
    · obtain ⟨m, rfl⟩ := depth_of_read hasRead
      obtain ⟨⟨inner, hg⟩, rfl⟩ := read_verbatim.1 hasRead
      exact ih.look hverbatim (read_mono hg m.le_succ) (.inr (htext.asRead (suffix_of_read hg)))
        hstays ha
  | loose g h => exact ih.look hform (read_loose.1 hread) htext hstays ha

end

/-- What some needs cover stays if they are met. -/
theorem stays_of_met [DecidableEq φ] {met : List (Need φ)}
    (hmet : ∀ x ∈ met, ∀ l ∈ T.asks x, l.holds ts = true → l.holds us = true) :
    T.Stays (T.covers met) ts us := by
  intro x hx l hl h
  have one (hl : (met.any fun y => (T.asks y).any l.same) = true) : l.holds us = true := by
    obtain ⟨y, hy, hany⟩ := List.any_eq_true.1 hl
    obtain ⟨l', hl', hsame⟩ := List.any_eq_true.1 hany
    obtain rfl := Look.eq_of_same hsame
    exact hmet y hy l hl' h
  cases x with
  | look b =>
    obtain rfl := List.mem_singleton.1 hl
    obtain hconstant | hany := Bool.or_eq_true_iff.1 hx
    · rwa [← Look.holds_constant hconstant]
    · exact one hany
  | all f =>
    obtain hsame | hall := Bool.or_eq_true_iff.1 hx
    · obtain ⟨y, hy, hsame⟩ := List.any_eq_true.1 hsame
      obtain rfl := Need.eq_of_same hsame
      exact hmet _ hy l hl h
    · exact one (List.all_eq_true.1 hall l hl)

theorem stays_of_covers [DecidableEq φ] {met : List (Need φ)}
    (hmet : met.all kept = true) (hstays : T.Stays kept ts us) :
    T.Stays (T.covers met) ts us :=
  stays_of_met fun x hx => hstays x (List.all_eq_true.1 hmet x hx)

/-- **What passes the check stays** in front of every reading. -/
theorem carries [DecidableEq φ] (hT : T.Fronts rules) (hcross : T.Crosses rules) (m : Nat) :
    T.Carries rules m := by
  induction m with
  | zero => exact fun _ _ _ _ _ _ _ _ _ _ _ hread => nomatch hread
  | succ m ih =>
    intro n w kept g x ts written rest text rest' hkeep hread htext hstays a ha h
    cases n with
    | zero => exact nomatch hkeep
    | succ n =>
      have forms (hall : (T.asks x).all (fun a => a.constant || T.decides kept g a ||
            T.keepForm (T.keeps rules n) w kept g a) = true)
          (hone : T.keeps rules (n + 1) w kept g (.look a) =
            ((T.asks (.look a)).all fun a => a.constant || T.decides kept g a ||
              T.keepForm (T.keeps rules n) w kept g a)) : a.holds (text ++ rest') = true := by
        have hall := List.all_eq_true.1 hall a ha
        rw [asks, List.all_cons, List.all_nil, Bool.and_true, hall] at hone
        obtain hall | hform := Bool.or_eq_true_iff.1 hall
        · obtain hconstant | hdecides := Bool.or_eq_true_iff.1 hall
          · rwa [← Look.holds_constant hconstant]
          · exact holds_of_decides hT hdecides hread htext hstays h
        · exact ih.form hT hone hform hread htext hstays h
      cases g with
      | empty =>
        obtain ⟨rfl, rfl⟩ := read_empty.1 hread
        obtain rfl := htext.nil
        obtain hconstant | hkept := Bool.or_eq_true_iff.1 hkeep
        · cases x with
          | look b =>
            obtain rfl := List.mem_singleton.1 ha
            rwa [← Look.holds_constant hconstant]
          | all f => exact nomatch hconstant
        · exact hstays x hkept a ha h
      | seq g k =>
        obtain ⟨first, mid, second, hg, hk, rfl⟩ := read_seq.1 hread
        obtain ⟨front, back, rfl, hfront, hback⟩ :=
          htext.split (suffix_of_read hg) (suffix_of_read hk)
        rw [List.append_assoc]
        have hkeep : T.keeps rules n w (T.keeps rules n w kept k) g x = true := hkeep
        exact ih hkeep hg hfront (fun y hy b hb hmid => ih hy hk hback hstays b hb hmid) a ha h
      | call r =>
        have hcall := read_call.1 hread
        simp only [keeps, keepStep] at hkeep
        split at hkeep
        · rename_i c hfind
          have hsame : c.1.same x = true := by simpa using List.find?_some hfind
          obtain rfl := Need.eq_of_same hsame
          obtain ⟨k, hc⟩ := hcross r c (List.mem_of_find?_eq_some hfind)
          exact ih hc hcall (htext.imp_left fun h => ⟨rfl, h.2⟩)
            (stays_of_covers hkeep hstays) a ha h
        · have hall := List.all_eq_true.1 hkeep a ha
          obtain hall | hpart := Bool.or_eq_true_iff.1 hall
          · obtain hconstant | hdecides := Bool.or_eq_true_iff.1 hall
            · rwa [← Look.holds_constant hconstant]
            · exact holds_of_decides hT hdecides hread htext hstays h
          · exact ih.look hpart hcall htext hstays h
      | _ => exact forms hkeep rfl

end Table

end Vigil.Source
