import Vigil.Proofs.Source.Verdict

/-!
# What a reading starts with

The table of a grammar tells of each rule with which kinds of tokens it may start and whether it
may read nothing. What it tells is carried over to all grammars that use the rules.

* `Table`: what is known of the rules.
* `Table.headsOf`, `Table.nullableOf`: the same of a grammar.
* `fronted_of_read`: **what is told of a grammar is true of its readings**.
-/

namespace Vigil.Source

open Grammar

/-- Something that has to stay: the answer to a question, or those to all questions of a family. -/
inductive Need (φ : Type)
  | look (l : Look)
  | all (f : φ)

/-- What is known of the rules of a grammar. -/
structure Table (ρ φ : Type) where
  /-- The kinds of the first token of what a rule reads. -/
  heads : ρ → Option Nat
  /-- Whether a rule may read nothing. -/
  nullable : ρ → Bool
  /-- What has to stay behind what a rule reads, so that it is read again. -/
  needs : ρ → List (Need φ)
  /-- What stays in front of what a rule reads, and what has to stay behind it for that. -/
  crossings : ρ → List (Need φ × List (Need φ))
  /-- The first rule is the second as it is read strictly. -/
  stricts : ρ → ρ → Bool
  /-- Whether what a rule writes is read again, not only what it reads. -/
  faithful : ρ → Bool
  looks : φ → List Look

namespace Table

variable {ρ φ : Type} (T : Table ρ φ) (rules : ρ → Grammar ρ)

/-- The questions that something asks. -/
def asks : Need φ → List Look
  | .look l => [l]
  | .all f => T.looks f

/-! ## The first token -/

/-- Whether a grammar may read nothing, strictly or not. -/
def nullableOf : Grammar ρ → Bool
  | .refuse | .take _ | .inside _ _ | .angles _ _ => false
  | .seq g h => nullableOf g && nullableOf h
  | .cond _ g h => nullableOf g || nullableOf h
  | .ending g _ h k => nullableOf g && (nullableOf h || nullableOf k)
  | .verbatim g | .lenient g => nullableOf g
  | .loose g h => nullableOf g || nullableOf h
  | .call r => T.nullable r
  | .empty | .replace _ _ _ _ | .numbers _ | .many _ _ | .list _ _ _ => true

/-- The kinds in two sets. -/
def either : Option Nat → Option Nat → Option Nat
  | some m, some n => some (Nat.lor m n)
  | _, _ => none

/-- The kinds of the first token of what a grammar reads, strictly or not. -/
def headsOf : Grammar ρ → Option Nat
  | .empty | .refuse => some 0
  | .take c => some c.upper
  | .inside d _ => some (Class.group d).upper
  | .seq g h => if T.nullableOf g then either (headsOf g) (headsOf h) else headsOf g
  | .cond _ g h => either (headsOf g) (headsOf h)
  | .ending g _ h k =>
    if T.nullableOf g then either (headsOf g) (either (headsOf h) (headsOf k)) else headsOf g
  | .many _ g | .list _ g _ => if T.nullableOf g then none else headsOf g
  | .verbatim g | .lenient g => headsOf g
  | .loose g h => either (headsOf g) (headsOf h)
  | .call r => T.heads r
  | .replace _ _ _ _ | .numbers _ | .angles _ _ => none

/-- The table tells of the first tokens what is true of the rules. -/
structure Fronts : Prop where
  nullable (r : ρ) : T.nullableOf (rules r) = true → T.nullable r = true
  heads (r : ρ) {m : Nat} : T.heads r = some m →
    ∃ n, T.headsOf (rules r) = some n ∧ Mask.within n m = true

end Table

namespace Grammar

variable {ρ : Type} {g h : Grammar ρ} {l : Look} {s : Bool}

/-- A grammar as it is read, strictly or not. -/
def reading (s : Bool) (g : Grammar ρ) : Grammar ρ := if s then g.strict else g

theorem reading_of_strict (h : g.strict = g) : g.reading s = g := by
  cases s
  · rfl
  · exact h

theorem reading_seq : (g.seq h).reading s = (g.reading s).seq (h.reading s) := by
  cases s <;> rfl

theorem reading_cond : (cond l g h).reading s = cond l (g.reading s) (h.reading s) := by
  cases s <;> rfl

end Grammar

namespace Table

variable {ρ φ : Type} {T : Table ρ φ} {rules : ρ → Grammar ρ} {m : Nat} {g : Grammar ρ} {s : Bool}
  {ts written rest : List Token}

/-- What can be told in front of a reading: it takes a token where it has to, and what it writes
starts with a token of the same kind as what it reads. -/
structure Fronted (T : Table ρ φ) (g : Grammar ρ) (ts written rest : List Token) : Prop where
  takes : T.nullableOf g = false → rest.length < ts.length
  starts {k : Nat} : T.headsOf g = some k → rest = ts ∧ written = [] ∨
    rest.length < ts.length ∧ ∃ t u ts' written', ts = t :: ts' ∧ written = u :: written' ∧
      u.atom = t.atom ∧ k.testBit t.atom = true

/-- One of the sets that a set of kinds was put together from. -/
def Among (a : Option Nat) (k : Nat) : Prop :=
  ∃ n, a = some n ∧ ∀ j, n.testBit j = true → k.testBit j = true

theorem among_of_either {a b : Option Nat} {k : Nat} (h : either a b = some k) :
    Among a k ∧ Among b k := by
  cases a with
  | none => exact nomatch h
  | some m =>
    cases b with
    | none => exact nomatch h
    | some n =>
      obtain rfl : m ||| n = k := Option.some.inj h
      exact ⟨⟨m, rfl, fun j hj => by simp [Nat.testBit_or, hj]⟩,
        ⟨n, rfl, fun j hj => by simp [Nat.testBit_or, hj]⟩⟩

theorem Among.trans {a b : Option Nat} {k : Nat} (ha : Among a k)
    (h : ∀ n, a = some n → Among b n) : Among b k := by
  obtain ⟨n, hn, hbits⟩ := ha
  obtain ⟨n', hn', hbits'⟩ := h n hn
  exact ⟨n', hn', fun j hj => hbits j (hbits' j hj)⟩

/-- What stands behind only counts if there may be nothing in front. -/
theorem among_of_behind {a b : Option Nat} {k : Nat} {c : Bool}
    (h : (if c then either a b else a) = some k) : Among a k ∧ (c = true → Among b k) := by
  cases c with
  | true => exact (among_of_either h).imp_right fun hb _ => hb
  | false => exact ⟨⟨k, h, fun _ hj => hj⟩, nofun⟩

namespace Fronted

variable {h : Grammar ρ} {first mid second : List Token}

theorem mono (hg : Fronted T g ts written rest)
    (hnullable : T.nullableOf h = false → T.nullableOf g = false)
    (hheads : ∀ k, T.headsOf h = some k → Among (T.headsOf g) k) :
    Fronted T h ts written rest where
  takes hh := hg.takes (hnullable hh)
  starts hk := by
    obtain ⟨n, hn, hbits⟩ := hheads _ hk
    obtain hnone | ⟨hlt, t, u, ts', written', hts, hwritten, hatom, hbit⟩ := hg.starts hn
    · exact .inl hnone
    · exact .inr ⟨hlt, t, u, ts', written', hts, hwritten, hatom, hbits _ hbit⟩

/-- What takes a token decides, whatever stands behind it. -/
theorem append {more : List Token} (hg : Fronted T g ts first mid)
    (hnullable : T.nullableOf g = false) (hle : rest.length ≤ mid.length) :
    Fronted T g ts (first ++ more) rest where
  takes _ := Nat.lt_of_le_of_lt hle (hg.takes hnullable)
  starts hk := by
    obtain ⟨rfl, rfl⟩ | ⟨hlt, t, u, ts', written', hts, rfl, hatom, hbit⟩ := hg.starts hk
    · exact absurd (hg.takes hnullable) (Nat.lt_irrefl _)
    · exact .inr ⟨Nat.lt_of_le_of_lt hle hlt, t, u, ts', written' ++ more, hts, rfl, hatom, hbit⟩

/-- One behind the other: the first one decides unless it reads nothing. -/
theorem seq {q : Grammar ρ} (hg : Fronted T g ts first mid) (hh : Fronted T h mid second rest)
    (hmid : mid.length ≤ ts.length) (hrest : rest.length ≤ mid.length)
    (hnullable : T.nullableOf q = false → T.nullableOf g = false ∨ T.nullableOf h = false)
    (hheads : ∀ k, T.headsOf q = some k →
      Among (T.headsOf g) k ∧ (T.nullableOf g = true → Among (T.headsOf h) k)) :
    Fronted T q ts (first ++ second) rest where
  takes hq := by
    obtain hq | hq := hnullable hq
    · exact Nat.lt_of_le_of_lt hrest (hg.takes hq)
    · exact Nat.lt_of_lt_of_le (hh.takes hq) hmid
  starts {k} hk := by
    obtain ⟨hfirst, hsecond⟩ := hheads _ hk
    cases hnull : T.nullableOf g with
    | false =>
      have hq : Fronted T g ts (first ++ second) rest := hg.append hnull hrest
      obtain ⟨n, hn, hbits⟩ := hfirst
      obtain ⟨rfl, -⟩ | ⟨hlt, t, u, ts', written', hts, hwritten, hatom, hbit⟩ := hq.starts hn
      · exact absurd (hq.takes hnull) (Nat.lt_irrefl _)
      · exact .inr ⟨hlt, t, u, ts', written', hts, hwritten, hatom, hbits _ hbit⟩
    | true =>
      obtain ⟨n, hn, hbits⟩ := hfirst
      obtain ⟨rfl, rfl⟩ | ⟨hlt, t, u, ts', written', hts, rfl, hatom, hbit⟩ := hg.starts hn
      · obtain ⟨n', hn', hbits'⟩ := hsecond hnull
        obtain hnone | ⟨hlt, t, u, ts', written', hts, rfl, hatom, hbit⟩ := hh.starts hn'
        · exact .inl hnone
        · exact .inr ⟨hlt, t, u, ts', written', hts, rfl, hatom, hbits' _ hbit⟩
      · exact .inr ⟨Nat.lt_of_le_of_lt hrest hlt, t, u, ts', written' ++ second, hts, rfl, hatom,
          hbits _ hbit⟩

end Fronted

/-- **What a reading starts with**, by what the table tells of the rules. -/
theorem fronted_of_read (hT : T.Fronts rules)
    (hread : run rules m (g.reading s) ts = .read written rest) :
    Fronted T g ts written rest := by
  induction m generalizing g s ts written rest with
  | zero => exact nomatch hread
  | succ m ih =>
    have hle {g : Grammar ρ} {ts written rest : List Token}
        (h : run rules m g ts = .read written rest) : rest.length ≤ ts.length :=
      (suffix_of_read h).length_le
    have plain {g : Grammar ρ} {ts written rest : List Token}
        (h : run rules m g ts = .read written rest) : Fronted T g ts written rest :=
      ih (s := false) h
    -- By the form as well: read strictly, a loose part is another one at the same depth.
    induction g generalizing s with
    | empty =>
      rw [reading_of_strict rfl] at hread
      obtain ⟨rfl, rfl⟩ := read_empty.1 hread
      exact ⟨nofun, fun _ => .inl ⟨rfl, rfl⟩⟩
    | refuse => cases s <;> exact nomatch hread
    | take c =>
      rw [reading_of_strict rfl] at hread
      obtain ⟨t, rfl, hc, rfl⟩ := read_take.1 hread
      refine ⟨fun _ => Nat.lt_succ_self _, fun hk => ?_⟩
      obtain rfl := Option.some.inj hk
      exact .inr ⟨Nat.lt_succ_self _, t, t, rest, [], rfl, rfl, rfl, Class.testBit_upper hc⟩
    | replace | numbers => exact ⟨nofun, nofun⟩
    | seq g h =>
      rw [reading_seq] at hread
      obtain ⟨first, mid, second, hg, hh, rfl⟩ := read_seq.1 hread
      exact (ih hg).seq (ih hh) (hle hg) (hle hh) Bool.and_eq_false_iff.1
        fun _ => among_of_behind
    | cond l g h =>
      rw [reading_cond] at hread
      obtain ⟨-, h⟩ | ⟨-, h⟩ := read_cond.1 hread
      · exact (ih h).mono (fun hn => (Bool.or_eq_false_iff.1 hn).1)
          fun _ hk => (among_of_either hk).1
      · exact (ih h).mono (fun hn => (Bool.or_eq_false_iff.1 hn).2)
          fun _ hk => (among_of_either hk).2
    | ending q c g h =>
      rw [reading_of_strict rfl] at hread
      obtain ⟨first, mid, second, hq, hsecond, rfl⟩ := read_ending.1 hread
      have hnull (hn : T.nullableOf (.ending q c g h) = false) :
          T.nullableOf q = false ∨ T.nullableOf g = false ∧ T.nullableOf h = false :=
        (Bool.and_eq_false_iff.1 hn).imp_right Bool.or_eq_false_iff.1
      split at hsecond
      · refine (plain hq).seq (plain hsecond) (hle hq) (hle hsecond)
          (fun hn => (hnull hn).imp_right And.left) fun _ hk => ?_
        exact (among_of_behind hk).imp_right fun hb hn =>
          (hb hn).trans fun _ h => (among_of_either h).1
      · refine (plain hq).seq (plain hsecond) (hle hq) (hle hsecond)
          (fun hn => (hnull hn).imp_right And.right) fun _ hk => ?_
        exact (among_of_behind hk).imp_right fun hb hn =>
          (hb hn).trans fun _ h => (among_of_either h).2
    | many l g =>
      rw [reading_of_strict rfl] at hread
      obtain ⟨-, rfl, rfl⟩ | ⟨-, first, mid, second, hg, hmany, rfl⟩ := read_many.1 hread
      · exact ⟨nofun, fun _ => .inl ⟨rfl, rfl⟩⟩
      · refine ⟨nofun, fun {k} hk => ?_⟩
        cases hn : T.nullableOf g with
        | true => simp [headsOf, hn] at hk
        | false =>
          rw [headsOf, hn] at hk
          exact ((plain hg).append hn (hle hmany)).starts hk
    | list stop g c =>
      rw [reading_of_strict rfl] at hread
      refine ⟨nofun, fun {k} hk => ?_⟩
      obtain ⟨-, rfl, rfl⟩ | hitem := read_list.1 hread
      · exact .inl ⟨rfl, rfl⟩
      · cases hn : T.nullableOf g with
        | true => simp [headsOf, hn] at hk
        | false =>
          rw [headsOf, hn] at hk
          obtain ⟨-, hg, -⟩ | ⟨-, first, t, mid, second, hg, -, hlist, rfl⟩ := hitem
          · exact (plain hg).starts hk
          · exact ((plain hg).append hn (Nat.le_succ_of_le (hle hlist))).starts hk
    | angles g before =>
      rw [reading_of_strict rfl] at hread
      refine ⟨fun _ => ?_, nofun⟩
      obtain ⟨i, rfl, -⟩ | ⟨-, ⟨item, i, hg, -⟩ | ⟨item, i, mid, hg, hmore⟩⟩ :=
        read_angles.1 hread
      · exact Nat.lt_succ_self _
      · exact hle hg
      · exact Nat.lt_of_le_of_lt (hle hmore) (hle hg)
    | inside d g =>
      rw [reading_of_strict rfl] at hread
      obtain ⟨content, inner, rfl, -, rfl⟩ := read_inside.1 hread
      refine ⟨fun _ => Nat.lt_succ_self _, fun hk => ?_⟩
      obtain rfl := Option.some.inj hk
      exact .inr ⟨Nat.lt_succ_self _, _, _, rest, [], rfl, rfl, rfl,
        Class.testBit_upper (by simp [Class.holds])⟩
    | verbatim g =>
      rw [reading_of_strict rfl] at hread
      obtain ⟨⟨inner, hg⟩, rfl⟩ := read_verbatim.1 hread
      refine ⟨(plain hg).takes, fun hk => ?_⟩
      obtain ⟨rfl, -⟩ | ⟨hlt, t, u, ts', written', rfl, -, -, hbit⟩ := (plain hg).starts hk
      · exact .inl ⟨rfl, by simp⟩
      · have hsub : (t :: ts').length - rest.length = ts'.length - rest.length + 1 := by
          rw [List.length_cons] at hlt ⊢
          omega
        exact .inr ⟨hlt, t, t, ts', _, rfl, by rw [hsub, List.take_succ_cons], rfl, hbit⟩
    | lenient g =>
      rw [reading_of_strict rfl] at hread
      obtain h | ⟨-, h⟩ := read_lenient hread
      · exact (ih (s := true) h).mono id fun k hk => ⟨k, hk, fun _ => id⟩
      · exact (plain h).mono id fun k hk => ⟨k, hk, fun _ => id⟩
    | loose g h ihg _ =>
      cases s with
      | true =>
        exact (ihg (s := false) hread).mono (fun hn => (Bool.or_eq_false_iff.1 hn).1)
          fun _ hk => (among_of_either hk).1
      | false =>
        exact (plain (read_loose.1 hread)).mono (fun hn => (Bool.or_eq_false_iff.1 hn).2)
          fun _ hk => (among_of_either hk).2
    | call r =>
      rw [reading_of_strict rfl] at hread
      refine (plain (read_call.1 hread)).mono (fun hn => ?_) fun k hk => ?_
      · exact Bool.eq_false_iff.2 fun h => by simp [nullableOf, hT.nullable r h] at hn
      · obtain ⟨n, hn, hwithin⟩ := hT.heads r hk
        exact ⟨n, hn, fun _ => Mask.testBit_of_within hwithin⟩

end Table

end Vigil.Source
