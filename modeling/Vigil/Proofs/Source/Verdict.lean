import Vigil.Proofs.Source.Front
import Vigil.Source.Rule

/-!
# What one answer tells about another

Questions about the tokens to come, compared without the tokens: an answer may be settled by the
kind of the first token or by the answer to another question, and it may be known to stay behind
a token of some class.

* `Look.sure`: the kinds of a first token that settle a question.
* `Look.settles`: what the answer to one question says about another one.
* `Look.past`: what has to stay behind a token for an answer to stay.
* `Grammar.under`: a grammar where an answer is known.
-/

namespace Vigil.Source

/-! ## By the first token -/

/-- All kinds. -/
def everyAtom : Nat := mask (List.range 291)

/-- The kinds that are not among these. -/
def Mask.compl (m : Nat) : Nat := Nat.land everyAtom (Nat.xor everyAtom m)

theorem Token.atom_lt (t : Token) : t.atom < 291 := by
  cases t with
  | word w => exact Nat.lt_succ_of_le (wordAtom_le w)
  | lifetime s => exact Nat.lt_of_le_of_lt (Nat.le_refl 1) (by omega)
  | mark c i =>
    have hle : punctuation.findIdx (·.toNat.beq c.toNat) ≤ punctuation.length :=
      List.findIdx_le_length
    have hlength : punctuation.length = 21 := rfl
    have hi : i.toNat ≤ 1 := Bool.toNat_le i
    rw [atom, markAtom]
    omega
  | literal l =>
    have := (Literal.atom_spec l).2.2.2.2.2
    simp only [List.mem_cons, List.not_mem_nil, or_false] at this
    rw [atom]
    omega
  | group d content => cases d <;> simp [atom, Delimiter.atom]

theorem testBit_everyAtom (t : Token) : everyAtom.testBit t.atom = true :=
  testBit_mask.2 (List.mem_range.2 t.atom_lt)

theorem Mask.testBit_compl {m k : Nat} (h : (Mask.compl m).testBit k = true) :
    m.testBit k = false := by
  have h : (everyAtom &&& (everyAtom ^^^ m)).testBit k = true := h
  rw [Nat.testBit_and, Nat.testBit_xor] at h
  revert h
  cases everyAtom.testBit k <;> cases m.testBit k <;> simp

theorem Mask.testBit_compl_of_not {m : Nat} {t : Token} (h : m.testBit t.atom = false) :
    (Mask.compl m).testBit t.atom = true := by
  change (everyAtom &&& (everyAtom ^^^ m)).testBit t.atom = true
  rw [Nat.testBit_and, Nat.testBit_xor, testBit_everyAtom, h]
  rfl

/-- The kinds of a first token for which the answer is this one, whatever stands behind it. -/
def Look.sure (b : Bool) : Look → Nat
  | .always => if b then everyAtom else 0
  | .ended => if b then 0 else everyAtom
  | .next c l =>
    match b, l with
    | true, .always => c.lower
    | true, _ => 0
    | false, _ => Mask.compl c.upper
  | .within d _ => if b then 0 else Mask.compl (Class.group d).upper
  | .behindPath _ => if b then 0 else Mask.compl Class.pathWord.upper
  | .behindAttributes l => Nat.land (sure b l) (Mask.compl (Class.mark '#').upper)
  | .not l => sure (!b) l
  | .and l m =>
    if b then Nat.land (sure b l) (sure b m) else Nat.lor (sure b l) (sure b m)
  | .or l m =>
    if b then Nat.lor (sure b l) (sure b m) else Nat.land (sure b l) (sure b m)

theorem skipPath_eq_none {t : Token} {ts : List Token} (h : Class.pathWord.holds t = false) :
    skipPath (t :: ts) = none := by
  cases t with
  | word w =>
    have hw : isPathWord w = false := h
    rw [skipPath.eq_def]
    split
    · rename_i heq
      obtain ⟨hword, -⟩ := List.cons.inj heq
      obtain rfl := Token.word.inj hword
      rw [hw]
      rfl
    · rename_i heq
      obtain ⟨hword, -⟩ := List.cons.inj heq
      obtain rfl := Token.word.inj hword
      rw [hw]
      rfl
    · rfl
  | _ => rfl

theorem skipAttributes_of_not {t : Token} {ts : List Token}
    (h : (Class.mark '#').holds t = false) : skipAttributes (t :: ts) = t :: ts := by
  rw [skipAttributes.eq_def]
  split
  · rename_i heq
    obtain ⟨rfl, -⟩ := List.cons.inj heq
    simp [Class.holds] at h
  · rfl

theorem Class.not_holds_of_compl {c : Class} {t : Token}
    (h : (Mask.compl c.upper).testBit t.atom = true) : c.holds t = false := by
  refine Bool.eq_false_iff.2 fun hc => ?_
  have := Mask.testBit_compl h
  rw [testBit_upper hc] at this
  exact Bool.noConfusion this

theorem Look.holds_of_sure {l : Look} {b : Bool} {t : Token} {ts : List Token}
    (h : (l.sure b).testBit t.atom = true) : l.holds (t :: ts) = b := by
  induction l generalizing b with
  | always => cases b <;> simp_all [sure, holds]
  | ended => cases b <;> simp_all [sure, holds]
  | next c l _ =>
    cases b with
    | true =>
      cases l with
      | always => simp [holds, Class.holds_of_testBit h]
      | _ => simp [sure] at h
    | false =>
      have hc : c.holds t = false := Class.not_holds_of_compl (by cases l <;> exact h)
      simp [holds, hc]
  | within d l _ =>
    cases b with
    | true => simp [sure] at h
    | false =>
      have hc : (Class.group d).holds t = false := Class.not_holds_of_compl h
      cases t <;> simp_all [holds, Class.holds]
  | behindPath l _ =>
    cases b with
    | true => simp [sure] at h
    | false =>
      have h : (Mask.compl Class.pathWord.upper).testBit t.atom = true := by
        simpa only [sure, Bool.false_eq_true, if_false] using h
      rw [holds, skipPath_eq_none (Class.not_holds_of_compl h)]
      rfl
  | behindAttributes l ih =>
    have h : (l.sure b &&& Mask.compl (Class.mark '#').upper).testBit t.atom = true := h
    rw [Nat.testBit_and, Bool.and_eq_true] at h
    rw [holds, skipAttributes_of_not (Class.not_holds_of_compl h.2)]
    exact ih h.1
  | not l ih => simp [holds, ih h]
  | and l m ihl ihm =>
    cases b with
    | true =>
      have h : (l.sure true &&& m.sure true).testBit t.atom = true := h
      rw [Nat.testBit_and, Bool.and_eq_true] at h
      simp [holds, ihl h.1, ihm h.2]
    | false =>
      have h : (l.sure false ||| m.sure false).testBit t.atom = true := h
      rw [Nat.testBit_or, Bool.or_eq_true] at h
      obtain h | h := h
      · simp [holds, ihl h]
      · simp [holds, ihm h]
  | or l m ihl ihm =>
    cases b with
    | false =>
      have h : (l.sure false &&& m.sure false).testBit t.atom = true := h
      rw [Nat.testBit_and, Bool.and_eq_true] at h
      simp [holds, ihl h.1, ihm h.2]
    | true =>
      have h : (l.sure true ||| m.sure true).testBit t.atom = true := h
      rw [Nat.testBit_or, Bool.or_eq_true] at h
      obtain h | h := h
      · simp [holds, ihl h]
      · simp [holds, ihm h]

/-- The kinds of a first token that settle a question. -/
def Look.known (l : Look) : Nat := Nat.lor (l.sure true) (l.sure false)

/-- Two sequences that start with tokens of one kind are answered alike, if the kind settles it. -/
theorem Look.holds_congr {l : Look} {t u : Token} {ts us : List Token}
    (h : l.known.testBit t.atom = true) (hu : u.atom = t.atom) :
    l.holds (t :: ts) = l.holds (u :: us) := by
  have h : (l.sure true ||| l.sure false).testBit t.atom = true := h
  rw [Nat.testBit_or, Bool.or_eq_true] at h
  obtain h | h := h
  · rw [holds_of_sure h, holds_of_sure (hu ▸ h)]
  · rw [holds_of_sure h, holds_of_sure (hu ▸ h)]

/-! ## The same question -/

def sameWords : List String → List String → Bool
  | [], [] => true
  | v :: vs, w :: ws => sameWord v w && sameWords vs ws
  | _, _ => false

def sameChars : List Char → List Char → Bool
  | [], [] => true
  | c :: cs, d :: ds => c.toNat.beq d.toNat && sameChars cs ds
  | _, _ => false

def Delimiter.same : Delimiter → Delimiter → Bool
  | .paren, .paren | .bracket, .bracket | .brace, .brace => true
  | _, _ => false

def Class.same : Class → Class → Bool
  | .word v, .word w => sameWord v w
  | .words vs, .words ws => sameWords vs ws
  | .nameOr vs, .nameOr ws => sameWords vs ws
  | .name, .name | .anyWord, .anyWord | .lifetime, .lifetime | .literal, .literal
  | .value, .value | .text, .text | .integer, .integer | .fraction, .fraction
  | .pointed, .pointed | .index, .index | .anyGroup, .anyGroup => true
  | .mark c, .mark d => c.toNat.beq d.toNat
  | .joint c, .joint d => c.toNat.beq d.toNat
  | .marks cs, .marks ds => sameChars cs ds
  | .joints cs, .joints ds => sameChars cs ds
  | .group d, .group e => d.same e
  | _, _ => false

/-- Whether two questions are the same; texts in them are compared as numbers. -/
def Look.same : Look → Look → Bool
  | .always, .always | .ended, .ended => true
  | .next c l, .next d m => c.same d && l.same m
  | .within d l, .within e m => d.same e && l.same m
  | .behindPath l, .behindPath m => l.same m
  | .behindAttributes l, .behindAttributes m => l.same m
  | .not l, .not m => l.same m
  | .and l m, .and l' m' => l.same l' && m.same m'
  | .or l m, .or l' m' => l.same l' && m.same m'
  | _, _ => false

theorem eq_of_sameWords {vs ws : List String} (h : sameWords vs ws = true) : vs = ws := by
  induction vs generalizing ws with
  | nil => cases ws with
    | nil => rfl
    | cons => simp [sameWords] at h
  | cons v vs ih => cases ws with
    | nil => simp [sameWords] at h
    | cons w ws =>
      obtain ⟨hword, hwords⟩ := Bool.and_eq_true_iff.1 h
      rw [sameWord_iff.1 hword, ih hwords]

theorem eq_of_sameChar {c d : Char} (h : c.toNat.beq d.toNat = true) : c = d :=
  Char.toNat_inj.1 (Nat.eq_of_beq_eq_true h)

theorem eq_of_sameChars {cs ds : List Char} (h : sameChars cs ds = true) : cs = ds := by
  induction cs generalizing ds with
  | nil => cases ds with
    | nil => rfl
    | cons => simp [sameChars] at h
  | cons c cs ih => cases ds with
    | nil => simp [sameChars] at h
    | cons d ds =>
      obtain ⟨hchar, hchars⟩ := Bool.and_eq_true_iff.1 h
      rw [eq_of_sameChar hchar, ih hchars]

theorem Delimiter.same_self (d : Delimiter) : d.same d = true := by
  cases d <;> rfl

theorem Delimiter.eq_of_same {d e : Delimiter} (h : d.same e = true) : d = e := by
  cases d <;> cases e <;> first | rfl | simp [same] at h

theorem Class.eq_of_same {c d : Class} (h : c.same d = true) : c = d := by
  cases c <;> cases d <;> first
    | rfl
    | exact congrArg _ (sameWord_iff.1 h)
    | exact congrArg _ (eq_of_sameWords h)
    | exact congrArg _ (eq_of_sameChar h)
    | exact congrArg _ (eq_of_sameChars h)
    | exact congrArg _ (Delimiter.eq_of_same h)
    | simp [same] at h

theorem Look.eq_of_same {l m : Look} (h : l.same m = true) : l = m := by
  induction l generalizing m with
  | always | ended => cases m <;> first | rfl | simp [same] at h
  | next c l ih =>
    cases m with
    | next d m =>
      obtain ⟨hclass, hrest⟩ := Bool.and_eq_true_iff.1 h
      rw [Class.eq_of_same hclass, ih hrest]
    | _ => simp [same] at h
  | within d l ih =>
    cases m with
    | within e m =>
      obtain ⟨hdelimiter, hrest⟩ := Bool.and_eq_true_iff.1 h
      rw [Delimiter.eq_of_same hdelimiter, ih hrest]
    | _ => simp [same] at h
  | behindPath l ih | behindAttributes l ih | not l ih =>
    cases m <;> first | exact congrArg _ (ih h) | simp [same] at h
  | and l l' ihl ihl' =>
    cases m with
    | and m m' =>
      obtain ⟨hleft, hright⟩ := Bool.and_eq_true_iff.1 h
      rw [ihl hleft, ihl' hright]
    | _ => simp [same] at h
  | or l l' ihl ihl' =>
    cases m with
    | or m m' =>
      obtain ⟨hleft, hright⟩ := Bool.and_eq_true_iff.1 h
      rw [ihl hleft, ihl' hright]
    | _ => simp [same] at h

/-- The class of a token, as far as its kind goes. -/
def Class.ofToken : Token → Class
  | .word w => .word w
  | .lifetime _ => .lifetime
  | .mark c true => .joint c
  | .mark c false => .mark c
  | .literal _ => .literal
  | .group d _ => .group d

theorem Class.ofToken_holds (t : Token) : (ofToken t).holds t = true := by
  cases t with
  | mark c i => cases i <;> simp [ofToken, holds]
  | group d content => simp [ofToken, holds]
  | _ => simp [ofToken, holds]

/-! ## By another answer -/

/-- What is known of an answer. -/
inductive Verdict
  | yes
  | no
  | unknown

namespace Verdict

/-- What a verdict says of an answer. -/
def Fits : Verdict → Bool → Prop
  | .yes, b => b = true
  | .no, b => b = false
  | .unknown, _ => True

def negate : Verdict → Verdict
  | .yes => .no
  | .no => .yes
  | .unknown => .unknown

def meet : Verdict → Verdict → Verdict
  | .no, _ => .no
  | _, .no => .no
  | .yes, v => v
  | .unknown, _ => .unknown

def join : Verdict → Verdict → Verdict
  | .yes, _ => .yes
  | _, .yes => .yes
  | .no, v => v
  | .unknown, _ => .unknown

/-- The first verdict, or else the second. -/
def orElse : Verdict → Verdict → Verdict
  | .unknown, v => v
  | v, _ => v

/-- The verdict that both are. -/
def agree : Verdict → Verdict → Verdict
  | .yes, .yes => .yes
  | .no, .no => .no
  | _, _ => .unknown

/-- The verdict that all of them are. -/
def common : List Verdict → Verdict
  | [] => .no
  | [v] => v
  | v :: vs => v.agree (common vs)

/-- A yes is not taken for sure. -/
def atMost : Verdict → Verdict
  | .no => .no
  | _ => .unknown

def isYes : Verdict → Bool
  | .yes => true
  | _ => false

def isNo : Verdict → Bool
  | .no => true
  | _ => false

/-- The answer is known. -/
def known : Verdict → Bool
  | .unknown => false
  | _ => true

variable {v w : Verdict} {b c : Bool}

theorem fits_negate (h : v.Fits b) : v.negate.Fits (!b) := by
  cases v <;> simp_all [Fits, negate]

theorem fits_meet (h : v.Fits b) (k : w.Fits c) : (v.meet w).Fits (b && c) := by
  cases v <;> cases w <;> simp_all [Fits, meet]

theorem fits_join (h : v.Fits b) (k : w.Fits c) : (v.join w).Fits (b || c) := by
  cases v <;> cases w <;> simp_all [Fits, join]

theorem fits_orElse (h : v.Fits b) (k : w.Fits b) : (v.orElse w).Fits b := by
  cases v <;> first | exact h | exact k

theorem fits_agree (h : v.Fits b ∨ w.Fits b) : (v.agree w).Fits b := by
  cases v <;> cases w <;> simp_all [Fits, agree]

theorem fits_common {vs : List Verdict} (hv : v ∈ vs) (h : v.Fits b) : (common vs).Fits b := by
  induction vs with
  | nil => simp at hv
  | cons u us ih =>
    cases us with
    | nil => exact List.mem_singleton.1 hv ▸ h
    | cons u' us =>
      obtain rfl | hv := List.mem_cons.1 hv
      · exact fits_agree (.inl h)
      · exact fits_agree (.inr (ih hv))

theorem of_isYes (hv : v.isYes = true) (h : v.Fits b) : b = true := by
  cases v <;> simp_all [isYes, Fits]

theorem of_isNo (hv : v.isNo = true) (h : v.Fits b) : b = false := by
  cases v <;> simp_all [isNo, Fits]

/-- Two answers to which the same known verdict applies are the same. -/
theorem eq_of_known (hv : v.known = true) (h : v.Fits b) (k : v.Fits c) : b = c := by
  cases v <;> simp_all [known, Fits]

end Verdict

namespace Look

/-- The verdict on a question from those on its parts. -/
def weigh (leaf : Look → Verdict) : Look → Verdict
  | .always => .yes
  | .not l => (weigh leaf l).negate
  | .and l m => (weigh leaf l).meet (weigh leaf m)
  | .or l m => (weigh leaf l).join (weigh leaf m)
  | l => leaf l

/-- The class of the first token if the answer is yes. -/
def first? : Look → Option Class
  | .next c _ => some c
  | .within d _ => some (.group d)
  | .behindPath _ => some .pathWord
  | _ => none

/-- What is known if a token of this class comes next, from what is known behind it. -/
def ifNext (c : Class) (behind : Look → Verdict) : Look → Verdict
  | .ended => .no
  | .next d m =>
    if c.apart d then .no else if c.below d then behind m else (behind m).atMost
  | q =>
    match q.first? with
    | some d => if c.apart d then .no else .unknown
    | none => .unknown

/-- What is known if it is not the case that a token of this class comes next with this answer
behind it. -/
def unlessNext (c : Class) (l q : Look) : Verdict :=
  if q.same (.next c l) || l.same .always && q.first?.any (·.below c) then .no else .unknown

/-- The ways to get this answer, each with what it says about the parts of other questions. -/
def cases (yes : Bool) : Look → List (Look → Verdict)
  | .always => if yes then [fun _ => .unknown] else []
  | .not l => cases (!yes) l
  | .and l m =>
    if yes then (cases true l).flatMap fun f => (cases true m).map fun g q => (f q).orElse (g q)
    else cases false l ++ cases false m
  | .or l m =>
    if yes then cases true l ++ cases true m
    else (cases false l).flatMap fun f => (cases false m).map fun g q => (f q).orElse (g q)
  | .ended => [fun q =>
      if yes then if q.holds [] then .yes else .no
      else if q.same .ended then .no else .unknown]
  | .next c l => [
      if yes then ifNext c fun q => .common ((cases true l).map q.weigh) else unlessNext c l]
  | l => [fun q => if q.same l then if yes then .yes else .no else .unknown]

/-- What a yes to the first question says about the second. -/
def settles (l m : Look) : Verdict := .common ((cases true l).map m.weigh)

variable {l m : Look} {ts : List Token}

theorem fits_weigh {leaf : Look → Verdict} (h : ∀ q, (leaf q).Fits (q.holds ts)) :
    (weigh leaf l).Fits (l.holds ts) := by
  induction l with
  | always => rfl
  | not l ih => exact Verdict.fits_negate ih
  | and l m ihl ihm => exact Verdict.fits_meet ihl ihm
  | or l m ihl ihm => exact Verdict.fits_join ihl ihm
  | _ => exact h _

theorem not_holds_of_first {d : Class} {t : Token} (h : l.first? = some d)
    (ht : d.holds t = false) : l.holds (t :: ts) = false := by
  cases l with
  | next c l =>
    obtain rfl := Option.some.inj h
    simp [holds, ht]
  | within e l =>
    obtain rfl := Option.some.inj h
    cases t <;> simp_all [holds, Class.holds]
  | behindPath l =>
    obtain rfl := Option.some.inj h
    simp [holds, skipPath_eq_none ht]
  | _ => simp [first?] at h

theorem not_holds_nil_of_first {d : Class} (h : l.first? = some d) : l.holds [] = false := by
  cases l with
  | next | within | behindPath => rfl
  | _ => simp [first?] at h

theorem fits_ifNext {c : Class} {behind : Look → Verdict} {t : Token} (hc : c.holds t = true)
    (hbehind : ∀ q, (behind q).Fits (q.holds ts)) (q : Look) :
    (ifNext c behind q).Fits (q.holds (t :: ts)) := by
  have hfirst {d : Class} (h : q.first? = some d) :
      (if c.apart d then Verdict.no else .unknown).Fits (q.holds (t :: ts)) := by
    split
    · rename_i hapart
      exact not_holds_of_first h (Class.not_holds_of_apart hapart hc)
    · trivial
  cases q with
  | ended => rfl
  | next d m =>
    have hm := hbehind m
    simp only [ifNext]
    split
    · rename_i hapart
      simp [Verdict.Fits, holds, Class.not_holds_of_apart hapart hc]
    · split
      · rename_i hbelow
        simpa [holds, Class.holds_of_below hbelow hc] using hm
      · cases hv : behind m <;> simp_all [Verdict.Fits, Verdict.atMost, holds]
  | within d l => exact hfirst rfl
  | behindPath l => exact hfirst rfl
  | _ => trivial

theorem fits_unlessNext {c : Class} (h : (next c l).holds ts = false) (q : Look) :
    (unlessNext c l q).Fits (q.holds ts) := by
  rw [unlessNext]
  split
  · rename_i hq
    obtain hsame | hbelow := Bool.or_eq_true_iff.1 hq
    · rw [eq_of_same hsame]
      exact h
    · obtain ⟨hl, hany⟩ := Bool.and_eq_true_iff.1 hbelow
      obtain ⟨d, hfirst, hd⟩ := (Option.any_eq_true _ _).1 hany
      obtain rfl := eq_of_same hl
      cases ts with
      | nil => exact not_holds_nil_of_first hfirst
      | cons t ts =>
        refine not_holds_of_first hfirst (Bool.eq_false_iff.2 fun ht => ?_)
        simp [holds, Class.holds_of_below hd ht] at h
  · trivial

/-- Of a question of its own only the answer itself is known. -/
theorem fits_same {yes : Bool} (h : l.holds ts = yes) (q : Look) :
    (if q.same l then if yes then Verdict.yes else .no else .unknown).Fits (q.holds ts) := by
  split
  · rename_i hsame
    rw [eq_of_same hsame, h]
    cases yes <;> rfl
  · trivial

/-- What holds in both cases: one way for each of them. -/
theorem fits_both {yes : Bool} (hl : ∃ f ∈ l.cases yes, ∀ q, (f q).Fits (q.holds ts))
    (hm : ∃ f ∈ m.cases yes, ∀ q, (f q).Fits (q.holds ts)) :
    ∃ f ∈ (l.cases yes).flatMap fun f => (m.cases yes).map fun g q => (f q).orElse (g q),
      ∀ q, (f q).Fits (q.holds ts) := by
  obtain ⟨f, hf, hfits⟩ := hl
  obtain ⟨g, hg, hfits'⟩ := hm
  exact ⟨_, List.mem_flatMap.2 ⟨f, hf, List.mem_map_of_mem hg⟩,
    fun q => Verdict.fits_orElse (hfits q) (hfits' q)⟩

theorem fits_either {fs gs : List (Look → Verdict)}
    (h : (∃ f ∈ fs, ∀ q, (f q).Fits (q.holds ts)) ∨ ∃ f ∈ gs, ∀ q, (f q).Fits (q.holds ts)) :
    ∃ f ∈ fs ++ gs, ∀ q, (f q).Fits (q.holds ts) := by
  obtain ⟨f, hf, hfits⟩ | ⟨f, hf, hfits⟩ := h
  · exact ⟨f, List.mem_append.2 (.inl hf), hfits⟩
  · exact ⟨f, List.mem_append.2 (.inr hf), hfits⟩

/-- **An answer comes about in one of its ways**, and what that way says is true. -/
theorem fits_cases {yes : Bool} (h : l.holds ts = yes) :
    ∃ f ∈ l.cases yes, ∀ q, (f q).Fits (q.holds ts) := by
  induction l generalizing yes ts with
  | always =>
    obtain rfl : true = yes := h
    exact ⟨_, List.mem_singleton.2 rfl, fun _ => trivial⟩
  | ended =>
    refine ⟨_, List.mem_singleton.2 rfl, fun q => ?_⟩
    cases yes with
    | true =>
      obtain rfl := List.isEmpty_iff.1 h
      cases hq : q.holds [] <;> simp [Verdict.Fits]
    | false => exact fits_same h q
  | next c l ih =>
    refine ⟨_, List.mem_singleton.2 rfl, ?_⟩
    cases yes with
    | true =>
      cases ts with
      | nil => exact nomatch h
      | cons t ts =>
        obtain ⟨hc, hl⟩ := Bool.and_eq_true_iff.1 h
        obtain ⟨f, hf, hfits⟩ := ih hl
        exact fits_ifNext hc fun q =>
          Verdict.fits_common (List.mem_map_of_mem hf) (fits_weigh hfits)
    | false => exact fits_unlessNext h
  | within d l _ => exact ⟨_, List.mem_singleton.2 rfl, fits_same h⟩
  | behindPath l _ => exact ⟨_, List.mem_singleton.2 rfl, fits_same h⟩
  | behindAttributes l _ => exact ⟨_, List.mem_singleton.2 rfl, fits_same h⟩
  | not l ih =>
    exact ih (by rw [← h, holds, Bool.not_not])
  | and l m ihl ihm =>
    cases yes with
    | true =>
      obtain ⟨hl, hm⟩ := Bool.and_eq_true_iff.1 h
      exact fits_both (ihl hl) (ihm hm)
    | false =>
      exact fits_either ((Bool.and_eq_false_iff.1 h).imp ihl ihm)
  | or l m ihl ihm =>
    cases yes with
    | false =>
      obtain ⟨hl, hm⟩ := Bool.or_eq_false_iff.1 h
      exact fits_both (ihl hl) (ihm hm)
    | true => exact fits_either ((Bool.or_eq_true_iff.1 h).imp ihl ihm)

theorem fits_settles (h : l.holds ts = true) : (l.settles m).Fits (m.holds ts) := by
  obtain ⟨f, hf, hfits⟩ := fits_cases h
  exact Verdict.fits_common (List.mem_map_of_mem hf) (fits_weigh hfits)

/-- Whether a yes to the first question rules a yes to the second out. -/
def bars (l m : Look) : Bool :=
  Mask.within (Mask.compl (l.sure false)) (m.sure false) && (!l.holds [] || !m.holds []) ||
    (l.settles m).isNo

theorem not_holds_of_bars (h : l.bars m = true) (hl : l.holds ts = true) : m.holds ts = false := by
  obtain h | h := Bool.or_eq_true_iff.1 h
  · obtain ⟨hwithin, hnil⟩ := Bool.and_eq_true_iff.1 h
    cases ts with
    | nil => simpa [hl] using hnil
    | cons t ts =>
      refine holds_of_sure (Mask.testBit_of_within hwithin (Mask.testBit_compl_of_not ?_))
      refine Bool.eq_false_iff.2 fun hsure => ?_
      rw [holds_of_sure hsure] at hl
      exact Bool.noConfusion hl
  · exact Verdict.of_isNo h (fits_settles hl)

/-! ## Behind a token -/

/-- What has to hold behind a word of a path, so that it holds behind the path. -/
def pathTail (l : Look) : Look := .or (colons (.behindPath l)) (.and (.not (.operator "::")) l)

/-- The question with the other answer. -/
def negate : Look → Look
  | .not l => l
  | l => .not l

/-- The question that is answered by yes if this one is answered as told. -/
def signed (yes : Bool) (l : Look) : Look := if yes then l else l.negate

/-- Whether the answer is the same for all tokens. -/
def constant : Look → Bool
  | .always | .not .always => true
  | _ => false

/-- An answer stays behind a token of a class, if what `kept` tells stays behind that token. -/
def past (c : Class) (kept : Look → Bool) (yes : Bool) : Look → Bool
  | .always | .ended | .within _ _ => true
  | .next d l => c.apart d || kept (l.signed yes)
  | .behindPath l => c.apart .pathWord || kept (l.pathTail.signed yes)
  | .behindAttributes l =>
    past c kept yes l && (c.apart (.mark '#') ||
      kept (.group .bracket) && kept (.not (.group .bracket)) &&
        kept (signed yes (.next (.group .bracket) (.behindAttributes l))))
  | .not l => past c kept (!yes) l
  | .and l m | .or l m => past c kept yes l && past c kept yes m

/-- What a question asks about the content of such a group. -/
def contents (d : Delimiter) : Look → List Look
  | .within e l => if d.same e then [l] else []
  | .behindAttributes l | .not l => contents d l
  | .and l m | .or l m => contents d l ++ contents d m
  | _ => []

theorem holds_negate : l.negate.holds ts = !l.holds ts := by
  cases l <;> simp [negate, holds]

theorem holds_negate_iff : l.negate.holds ts = true ↔ l.holds ts = false := by
  rw [holds_negate, Bool.not_eq_true']

theorem holds_signed {yes : Bool} : (l.signed yes).holds ts = true ↔ l.holds ts = yes := by
  cases yes <;> simp [signed, holds_negate]

theorem holds_constant {us : List Token} (h : l.constant = true) : l.holds ts = l.holds us := by
  cases l with
  | always => rfl
  | not l => cases l <;> first | rfl | simp [constant] at h
  | _ => simp [constant] at h

theorem holds_colons : (colons l).holds ts = true ↔
    ∃ i us, ts = .mark ':' true :: .mark ':' i :: us ∧ l.holds us = true := by
  change (next (.joint ':') (next (.mark ':') l)).holds ts = true ↔ _
  match ts with
  | t :: u :: us =>
    simp only [holds, Bool.and_eq_true, Class.joint_holds, Class.mark_holds, List.cons.injEq]
    constructor
    · rintro ⟨rfl, ⟨i, rfl⟩, h⟩
      exact ⟨i, us, ⟨rfl, rfl, rfl⟩, h⟩
    · rintro ⟨i, _, ⟨rfl, rfl, rfl⟩, h⟩
      exact ⟨rfl, ⟨i, rfl⟩, h⟩
  | [t] => simp [holds]
  | [] => simp [holds]

theorem holds_behindPath {t : Token} (h : Class.pathWord.holds t = true) :
    (behindPath l).holds (t :: ts) = l.pathTail.holds ts := by
  cases t with
  | word w =>
    have hw : isPathWord w = true := h
    by_cases hcolons : ∃ i us, ts = .mark ':' true :: .mark ':' i :: us
    · obtain ⟨i, us, rfl⟩ := hcolons
      have hmore (m : Look) : (colons m).holds (.mark ':' true :: .mark ':' i :: us) =
          m.holds us := rfl
      have hoperator : (operator "::").holds (.mark ':' true :: .mark ':' i :: us) = true :=
        hmore .always
      simp [pathTail, holds, hmore, hoperator, skipPath, hw]
    · have hmore (m : Look) : (colons m).holds ts = false := by
        refine Bool.eq_false_iff.2 fun h => ?_
        obtain ⟨i, us, hts, -⟩ := holds_colons.1 h
        exact hcolons ⟨i, us, hts⟩
      have hoperator : (operator "::").holds ts = false := hmore .always
      have hskip : skipPath (.word w :: ts) = some ts := by
        rw [skipPath.eq_def]
        split
        · rename_i heq
          exact absurd ⟨_, _, (List.cons.inj heq).2⟩ hcolons
        · rename_i heq
          obtain ⟨hword, rfl⟩ := List.cons.inj heq
          obtain rfl := Token.word.inj hword
          rw [if_pos hw]
        · rename_i hno
          exact absurd rfl (hno w ts)
      simp [pathTail, holds, hmore, hoperator, hskip]
  | _ => simp [Class.pathWord, Class.holds] at h

/-- Behind the mark of an attribute it depends on whether brackets follow. -/
theorem holds_behindAttributes (i : Bool) : (behindAttributes l).holds (.mark '#' i :: ts) =
    if (group .bracket).holds ts then (next (.group .bracket) (behindAttributes l)).holds ts
    else l.holds (.mark '#' i :: ts) := by
  split
  · rename_i hgroup
    cases ts with
    | nil => simp [group, one, holds] at hgroup
    | cons t ts =>
      cases t with
      | group e content =>
        obtain rfl : .bracket = e := by simpa [group, one, holds, Class.holds] using hgroup
        rfl
      | _ => simp [group, one, holds, Class.holds] at hgroup
  · rename_i hgroup
    rw [holds, skipAttributes.eq_def]
    split
    · rename_i heq
      obtain ⟨-, rfl⟩ := List.cons.inj heq
      exact absurd rfl hgroup
    · rfl

/-- Two tokens that are in the same classes, and if they are groups, then with contents for which
the question is answered alike. -/
structure Alike (l : Look) (t u : Token) : Prop where
  holds (c : Class) : c.holds t = c.holds u
  contents {d : Delimiter} {content : List Token} : t = .group d content →
    ∃ content', u = .group d content' ∧ ∀ m ∈ l.contents d, m.holds content = m.holds content'

theorem Alike.mono {t u : Token} (h : l.Alike t u)
    (hsubset : ∀ d, m.contents d ⊆ l.contents d) : m.Alike t u :=
  ⟨h.holds, fun ht => (h.contents ht).imp fun _ hu => ⟨hu.1, fun q hq => hu.2 q (hsubset _ hq)⟩⟩

theorem Alike.refl (l : Look) (t : Token) : l.Alike t t :=
  ⟨fun _ => rfl, fun ht => ⟨_, ht, fun _ _ => rfl⟩⟩

/-- **What stays behind a token stays in front of it.** -/
theorem holds_past {c : Class} {kept : Look → Bool} {yes : Bool} {t u : Token}
    {us : List Token} (hkept : ∀ m, kept m = true → m.holds ts = true → m.holds us = true)
    (hpast : l.past c kept yes = true) (hc : c.holds t = true) (hu : l.Alike t u)
    (h : l.holds (t :: ts) = yes) : l.holds (u :: us) = yes := by
  have hsigned {m : Look} {b : Bool} (hm : kept (m.signed b) = true) (h : m.holds ts = b) :
      m.holds us = b :=
    holds_signed.1 (hkept _ hm (holds_signed.2 h))
  induction l generalizing yes with
  | always => exact h
  | ended => exact h
  | next d l _ =>
    rw [holds, hu.holds] at h
    rw [holds]
    obtain hapart | hm := Bool.or_eq_true_iff.1 hpast
    · rw [← hu.holds, Class.not_holds_of_apart hapart hc] at h ⊢
      exact h
    · cases hd : d.holds u with
      | true =>
        rw [hd, Bool.true_and] at h
        exact hsigned hm h
      | false =>
        rw [hd, Bool.false_and] at h
        exact h
  | within d l _ =>
    have hgroup := hu.holds .anyGroup
    cases t with
    | group e content =>
      -- What stands behind the group does not count, and its content is answered alike.
      obtain ⟨content', rfl, hcontent⟩ := hu.contents rfl
      cases hd : decide (d = e) with
      | true =>
        obtain rfl := of_decide_eq_true hd
        have hl : l ∈ (within d l).contents d := by simp [Look.contents, Delimiter.same_self]
        simp only [holds, beq_self_eq_true, Bool.true_and] at h ⊢
        rw [← hcontent l hl, h]
      | false =>
        have hd : (d == e) = false := hd
        simp only [holds, hd, Bool.false_and] at h ⊢
        exact h
    | _ => cases u <;> first | exact h | simp [Class.holds] at hgroup
  | behindPath l _ =>
    obtain hapart | hm := Bool.or_eq_true_iff.1 hpast
    · have ht := Class.not_holds_of_apart hapart hc
      rw [holds, skipPath_eq_none (hu.holds _ ▸ ht)]
      rwa [holds, skipPath_eq_none ht] at h
    · cases ht : Class.pathWord.holds t with
      | true =>
        rw [holds_behindPath (hu.holds _ ▸ ht)]
        rw [holds_behindPath ht] at h
        exact hsigned hm h
      | false =>
        rw [holds, skipPath_eq_none (hu.holds _ ▸ ht)]
        rwa [holds, skipPath_eq_none ht] at h
  | behindAttributes l ih =>
    obtain ⟨hl, hattributes⟩ := Bool.and_eq_true_iff.1 hpast
    cases ht : (Class.mark '#').holds t with
    | false =>
      rw [holds, skipAttributes_of_not (hu.holds _ ▸ ht)]
      rw [holds, skipAttributes_of_not ht] at h
      exact ih hl (hu.mono fun _ => List.Subset.refl _) h
    | true =>
      -- It is an attribute if brackets come next, so that has to stay as well as its negation.
      have hapart : c.apart (.mark '#') = false := Bool.eq_false_iff.2 fun hapart => by
        rw [Class.not_holds_of_apart hapart hc] at ht
        exact Bool.noConfusion ht
      simp only [hapart, Bool.false_or, Bool.and_eq_true] at hattributes
      obtain ⟨⟨hgroup, hnone⟩, hnext⟩ := hattributes
      obtain ⟨i, rfl⟩ := Class.mark_holds.1 ht
      obtain ⟨j, rfl⟩ := Class.mark_holds.1 (hu.holds _ ▸ ht)
      rw [holds_behindAttributes] at h ⊢
      cases hts : (group .bracket).holds ts with
      | true =>
        rw [if_pos hts] at h
        rw [if_pos (hkept _ hgroup hts)]
        exact hsigned hnext h
      | false =>
        have hus : (group .bracket).holds us = false := by
          simpa [holds] using hkept _ hnone (by simp [holds, hts])
        rw [if_neg (by simp [hts])] at h
        rw [if_neg (by simp [hus])]
        exact ih hl (hu.mono fun _ => List.Subset.refl _) h
  | not l ih =>
    have h : l.holds (t :: ts) = !yes := by rw [← h, holds, Bool.not_not]
    rw [holds, ih hpast ⟨hu.holds, hu.contents⟩ h, Bool.not_not]
  | and l m ihl ihm =>
    obtain ⟨hl, hm⟩ := Bool.and_eq_true_iff.1 hpast
    have hul : l.Alike t u := hu.mono fun _ => List.subset_append_left _ _
    have hum : m.Alike t u := hu.mono fun _ => List.subset_append_right _ _
    rw [holds] at h ⊢
    cases yes with
    | true =>
      rw [Bool.and_eq_true] at h ⊢
      exact ⟨ihl hl hul h.1, ihm hm hum h.2⟩
    | false =>
      rw [Bool.and_eq_false_iff] at h ⊢
      exact h.imp (ihl hl hul) (ihm hm hum)
  | or l m ihl ihm =>
    obtain ⟨hl, hm⟩ := Bool.and_eq_true_iff.1 hpast
    have hul : l.Alike t u := hu.mono fun _ => List.subset_append_left _ _
    have hum : m.Alike t u := hu.mono fun _ => List.subset_append_right _ _
    rw [holds] at h ⊢
    cases yes with
    | true =>
      rw [Bool.or_eq_true] at h ⊢
      exact h.imp (ihl hl hul) (ihm hm hum)
    | false =>
      rw [Bool.or_eq_false_iff] at h ⊢
      exact ⟨ihl hl hul h.1, ihm hm hum h.2⟩

/-! ## Several tokens -/

/-- The classes that a question asks of the first tokens, and what it asks behind them. -/
def split : Nat → Look → List Class × Look
  | n + 1, .next c l => (c :: (split n l).1, (split n l).2)
  | n + 1, .and _ (.next c l) => (c :: (split n l).1, (split n l).2)
  | _, l => ([], l)

theorem holds_all : ∀ {cs : List Class} {ts : List Token}, (all cs l).holds ts = true →
    ∃ front back, ts = front ++ back ∧ front.length = cs.length ∧ l.holds back = true ∧
      ∀ m : Look, m.holds back = true → (all cs m).holds ts = true
  | [], ts, h => ⟨[], ts, rfl, rfl, h, fun _ hm => hm⟩
  | _ :: _, [], h => nomatch h
  | c :: cs, t :: ts, h => by
    obtain ⟨hc, h⟩ := Bool.and_eq_true_iff.1 h
    obtain ⟨front, back, rfl, hlength, hl, hm⟩ := holds_all h
    exact ⟨t :: front, back, rfl, by simp [hlength], hl,
      fun m h => Bool.and_eq_true_iff.2 ⟨hc, hm m h⟩⟩

theorem holds_split : ∀ {n : Nat} {l : Look} {ts : List Token}, l.holds ts = true →
    (all (l.split n).1 (l.split n).2).holds ts = true := by
  intro n
  induction n with
  | zero => exact fun h => by simpa [split, all] using h
  | succ n ih =>
    have hnext {c : Class} {l : Look} {ts : List Token} (h : (next c l).holds ts = true) :
        (all (c :: (split n l).1) (split n l).2).holds ts = true := by
      cases ts with
      | nil => exact nomatch h
      | cons t ts =>
        obtain ⟨hc, h⟩ := Bool.and_eq_true_iff.1 h
        exact Bool.and_eq_true_iff.2 ⟨hc, ih h⟩
    intro l ts h
    cases l with
    | next c l => exact hnext h
    | and l m =>
      cases m with
      | next c m => exact hnext (Bool.and_eq_true_iff.1 h).2
      | _ => exact h
    | _ => exact h

/-- The question about what stands behind these tokens. -/
def behind (front : List Token) (l : Look) : Look := all (front.map Class.ofToken) l

theorem holds_behind {front : List Token} : (behind front l).holds (front ++ ts) = l.holds ts := by
  induction front with
  | nil => rfl
  | cons t front ih =>
    change ((Class.ofToken t).holds t && (behind front l).holds (front ++ ts)) = _
    rw [ih, Class.ofToken_holds, Bool.true_and]

/-- What stays behind some tokens, class by class. -/
def chain (cs : List Class) (kept : Look → Bool) : Look → Bool :=
  cs.foldr (fun c kept l => l.past c kept true) kept

theorem holds_chain {cs : List Class} {kept : Look → Bool} {front us : List Token}
    (hkept : ∀ m, kept m = true → m.holds ts = true → m.holds us = true)
    (hchain : chain cs kept l = true) (hlength : front.length = cs.length)
    (hcs : (all cs .always).holds (front ++ ts) = true) (h : l.holds (front ++ ts) = true) :
    l.holds (front ++ us) = true := by
  induction cs generalizing front l with
  | nil =>
    obtain rfl := List.length_eq_zero_iff.1 hlength
    exact hkept l hchain h
  | cons c cs ih =>
    cases front with
    | nil => exact nomatch hlength
    | cons t front =>
      obtain ⟨hc, hcs⟩ := Bool.and_eq_true_iff.1 hcs
      exact holds_past (fun m hm hts => ih hm (Nat.succ.inj hlength) hcs hts) hchain hc
        (Alike.refl l t) h

end Look

/-! ## Grammars under an answer -/

namespace Grammar

variable {ρ : Type} {rules : ρ → Grammar ρ} {g : Grammar ρ} {a : Look}
  {ts written rest : List Token}

/-- A grammar where the answer to a question is yes: the choices it settles are made. -/
def under (a : Look) : Grammar ρ → Grammar ρ
  | .cond l g h =>
    match a.settles l with
    | .yes => under a g
    | .no => under a h
    | .unknown => .cond l g h
  | .seq g h => .seq (under a g) h
  | g => g

theorem reads_under (ha : a.holds ts = true) :
    Reads rules (g.under a) ts written rest ↔ Reads rules g ts written rest := by
  induction g generalizing written rest with
  | cond l g h ihg ihh =>
    rw [under]
    have hfits : (a.settles l).Fits (l.holds ts) := Look.fits_settles ha
    split
    · rename_i hyes
      rw [hyes] at hfits
      rw [ihg, reads_cond_of_holds hfits]
    · rename_i hno
      rw [hno] at hfits
      rw [ihh, reads_cond_of_not hfits]
    · exact Iff.rfl
  | seq g h ihg _ => simp only [under, reads_seq, ihg]
  | _ => exact Iff.rfl

/-- What a rule reads where the answer to a question is yes. -/
theorem reads_call_under {r : ρ} (ha : a.holds ts = true) :
    Reads rules (.call r) ts written rest ↔ Reads rules ((rules r).under a) ts written rest := by
  rw [reads_call, reads_under ha]

end Grammar

end Vigil.Source
