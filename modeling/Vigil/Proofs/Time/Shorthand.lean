import Vigil.Time.Shorthand
import Mathlib.Algebra.Group.Nat.Defs

/-!
# What the shorthand accepts

A text is a duration just when it is spelled as one: digits of a number that 64 bits hold, the
suffix of a unit or none, and blanks around both.

* `Shorthand.Spells`: the texts that spell a number of a unit.
* `trim_append`: what is left of a text without its blanks.
* `read?_of_spells`, `spells_of_read?`: spelled and read are the same.
* `reads_exactly`: **which texts are durations, and how long they are**, whatever the number is.
-/

namespace Vigil

/-! ## Trimming -/

namespace Text

theorem dropWhile_append_blanks {before cs : List Char} (hbefore : before.all isBlank)
    (hhead : ∀ c ∈ cs.head?, isBlank c = false) : (before ++ cs).dropWhile isBlank = cs := by
  rw [List.dropWhile_append_of_pos (List.all_eq_true.1 hbefore)]
  cases cs with
  | nil => rfl
  | cons c cs => simp [hhead c rfl]

/-- **What is left without the blanks**: all that stands between a first and a last character
that are none. -/
theorem trim_append {before cs after : List Char} (hbefore : before.all isBlank)
    (hafter : after.all isBlank) (hne : cs ≠ []) (hhead : ∀ c ∈ cs.head?, isBlank c = false)
    (hlast : ∀ c ∈ cs.getLast?, isBlank c = false) : trim (before ++ cs ++ after) = cs := by
  have hfront : (before ++ cs ++ after).dropWhile isBlank = cs ++ after := by
    rw [List.append_assoc]
    refine dropWhile_append_blanks hbefore ?_
    obtain ⟨c, rest, rfl⟩ := List.exists_cons_of_ne_nil hne
    exact hhead
  have hback : (after.reverse ++ cs.reverse).dropWhile isBlank = cs.reverse := by
    refine dropWhile_append_blanks (by rwa [List.all_reverse]) ?_
    rwa [List.head?_reverse]
  rw [trim, hfront, trimEnd, List.reverse_append, hback, List.reverse_reverse]

theorem isBlank_eq_false_of_isDigit {c : Char} (h : c.isDigit) : isBlank c = false := by
  have hrange : 48 ≤ c.toNat ∧ c.toNat ≤ 57 := by
    simpa [Char.isDigit, UInt32.le_iff_toNat_le] using h
  simp only [isBlank, Bool.or_eq_false_iff, Bool.and_eq_false_iff, decide_eq_false_iff_not,
    beq_eq_false_iff_ne]
  omega

end Text

/-! ## Units -/

namespace TimeUnit

/-- So many of a unit in nanoseconds. Minutes and hours count no further than the longest whole
number of seconds. -/
def nanos : TimeUnit → Nat → Nat
  | milliseconds, n => n * 1000000
  | seconds, n => n * 1000000000
  | minutes, n => min (60 * n) (2 ^ 64 - 1) * 1000000000
  | hours, n => min (3600 * n) (2 ^ 64 - 1) * 1000000000

/-- What may follow a number, and the unit that it then counts. -/
inductive Suffixed : List Char → TimeUnit → Prop
  | bare : Suffixed [] .milliseconds
  | milliseconds : Suffixed ['m', 's'] .milliseconds
  | seconds : Suffixed ['s'] .seconds
  | minutes : Suffixed ['m'] .minutes
  | hours : Suffixed ['h'] .hours

variable {u : TimeUnit} {cs : List Char}

theorem totalNanos_toDuration (u : TimeUnit) (n : UInt64) :
    (u.toDuration n).totalNanos = u.nanos n.toNat := by
  have hword := n.toNat_lt
  cases u with
  | milliseconds => exact Duration.totalNanos_ofMillis n
  | seconds =>
    simp only [toDuration, nanos, Duration.totalNanos, Duration.ofSecsClamped]
    omega
  | minutes | hours => simp [toDuration, nanos, Duration.totalNanos, Duration.ofSecsClamped]

theorem nanos_mono (u : TimeUnit) {n m : Nat} (h : n ≤ m) : u.nanos n ≤ u.nanos m := by
  cases u <;> simp only [nanos] <;> omega

theorem ofSuffix?_eq_some_iff : ofSuffix? cs = some u ↔ Suffixed cs u := by
  constructor
  · intro h
    unfold ofSuffix? at h
    split at h
    · obtain rfl := Option.some.inj h
      subst cs
      exact .bare
    · have hsuffix : u.suffix = cs := by simpa using List.find?_some h
      subst hsuffix
      cases u with
      | milliseconds => exact .milliseconds
      | seconds => exact .seconds
      | minutes => exact .minutes
      | hours => exact .hours
  · rintro ⟨⟩ <;> rfl

/-- No digit and no blank is part of a suffix. -/
theorem Suffixed.letters (h : Suffixed cs u) :
    ∀ c ∈ cs, c.isDigit = false ∧ Text.isBlank c = false := by
  have hm : 'm'.isDigit = false ∧ Text.isBlank 'm' = false := ⟨rfl, rfl⟩
  have hs : 's'.isDigit = false ∧ Text.isBlank 's' = false := ⟨rfl, rfl⟩
  have hh : 'h'.isDigit = false ∧ Text.isBlank 'h' = false := ⟨rfl, rfl⟩
  cases h <;> simp [hm, hs, hh]

end TimeUnit

/-! ## Texts -/

namespace Shorthand

/-- A text that spells so many of a unit: the digits of the number, zeros in front or not, at
once the suffix, and blanks around both. -/
def Spells (s : String) (n : Nat) (u : TimeUnit) : Prop :=
  ∃ before digits suffix after : List Char,
    s.toList = before ++ (digits ++ suffix) ++ after ∧
    before.all Text.isBlank ∧ after.all Text.isBlank ∧
    digits ≠ [] ∧ digits.all Char.isDigit ∧ Text.Decimal.value digits = n ∧ n < 2 ^ 64 ∧
    u.Suffixed suffix

variable {s : String} {n : Nat} {u : TimeUnit}

theorem word?_eq_some_iff {digits : List Char} {w : UInt64} :
    word? digits = some w ↔ digits ≠ [] ∧ Text.Decimal.value digits = w.toNat := by
  unfold word?
  split
  · simp_all
  · rename_i hne
    split
    · rename_i hlt
      simp only [Option.some.injEq, ne_eq, hne, not_false_eq_true, true_and]
      rw [← UInt64.toNat_inj, UInt64.toNat_ofNatLT]
    · rename_i hge
      have hword := w.toNat_lt
      simp only [reduceCtorEq, false_iff, not_and]
      omega

/-- A text without blanks around it, when it has digits in front of a suffix. -/
theorem readBare?_append {digits suffix : List Char} (hdigits : digits.all Char.isDigit)
    (hsuffix : u.Suffixed suffix) {w : UInt64} (hw : word? digits = some w) :
    readBare? (digits ++ suffix) = some (u.toDuration w) := by
  have hstop : suffix.takeWhile Char.isDigit = [] ∧ suffix.dropWhile Char.isDigit = suffix := by
    cases suffix with
    | nil => exact ⟨rfl, rfl⟩
    | cons c cs => simp [(hsuffix.letters c (List.mem_cons_self ..)).1]
  have hpos := List.all_eq_true.1 hdigits
  unfold readBare?
  rw [List.takeWhile_append_of_pos hpos, List.dropWhile_append_of_pos hpos, hstop.1, hstop.2,
    List.append_nil, hw, TimeUnit.ofSuffix?_eq_some_iff.2 hsuffix]

/-- **A text that spells a number of a unit is read** as so many of them. -/
theorem read?_of_spells (h : Spells s n u) :
    ∃ d, read? s = some d ∧ d.totalNanos = u.nanos n := by
  obtain ⟨before, digits, suffix, after, htext, hbefore, hafter, hne, hdigits, hvalue, hlt,
    hsuffix⟩ := h
  have hsolid : ∀ c ∈ digits ++ suffix, Text.isBlank c = false := by
    intro c hc
    rcases List.mem_append.1 hc with hc | hc
    · exact Text.isBlank_eq_false_of_isDigit (List.all_eq_true.1 hdigits c hc)
    · exact (hsuffix.letters c hc).2
  have htrim : Text.trim s.toList = digits ++ suffix := by
    rw [htext]
    exact Text.trim_append hbefore hafter (List.append_ne_nil_of_left_ne_nil hne _)
      (fun c hc => hsolid c (List.mem_of_mem_head? hc))
      (fun c hc => hsolid c (List.mem_of_getLast? hc))
  have hword : word? digits = some (UInt64.ofNatLT n hlt) :=
    word?_eq_some_iff.2 ⟨hne, by rw [hvalue, UInt64.toNat_ofNatLT]⟩
  refine ⟨u.toDuration (UInt64.ofNatLT n hlt), ?_, ?_⟩
  · rw [read?, htrim, readBare?_append hdigits hsuffix hword]
  · rw [TimeUnit.totalNanos_toDuration, UInt64.toNat_ofNatLT]

/-- **A text that is read spells** a number of a unit. -/
theorem spells_of_read? {d : Duration} (h : read? s = some d) : ∃ n u, Spells s n u := by
  obtain ⟨before, after, hbefore, hafter, htext⟩ := Text.trim_eq s.toList
  unfold read? readBare? at h
  split at h
  · rename_i w u hw hu
    obtain ⟨hne, hvalue⟩ := word?_eq_some_iff.1 hw
    refine ⟨w.toNat, u, before, _, _, after, ?_, hbefore, hafter, hne, List.all_takeWhile, hvalue,
      w.toNat_lt, TimeUnit.ofSuffix?_eq_some_iff.1 hu⟩
    rw [List.takeWhile_append_dropWhile]
    exact htext
  · cases h

/-- **Which texts are durations**: those that spell a number of a unit. Each is exactly so long,
and of one unit a larger number is never shorter. -/
theorem reads_exactly :
    (∀ s, (read? s).isSome ↔ ∃ n u, Spells s n u) ∧
      (∀ s n u, Spells s n u → ∃ d, read? s = some d ∧ d.totalNanos = u.nanos n) ∧
      ∀ s s' n m u d d', Spells s n u → Spells s' m u → n ≤ m →
        read? s = some d → read? s' = some d' → d.totalNanos ≤ d'.totalNanos := by
  refine ⟨fun s => ⟨fun h => ?_, fun ⟨n, u, h⟩ => ?_⟩, fun s n u h => read?_of_spells h, ?_⟩
  · obtain ⟨d, hd⟩ := Option.isSome_iff_exists.1 h
    exact spells_of_read? hd
  · obtain ⟨d, hd, -⟩ := read?_of_spells h
    exact Option.isSome_iff_exists.2 ⟨d, hd⟩
  · intro s s' n m u d d' hs hs' hle hd hd'
    obtain ⟨e, he, hlength⟩ := read?_of_spells hs
    obtain ⟨e', he', hlength'⟩ := read?_of_spells hs'
    obtain rfl : e = d := Option.some.inj (he.symm.trans hd)
    obtain rfl : e' = d' := Option.some.inj (he'.symm.trans hd')
    rw [hlength, hlength']
    exact u.nanos_mono hle

/-- An hour with zeros and wide blanks, and the largest number of hours: no more seconds than
64 bits hold. -/
theorem hours_read_exactly :
    Spells "\u2003001h\n" 1 .hours ∧ Spells "18446744073709551615h" (2 ^ 64 - 1) .hours ∧
      ∃ d d', read? "\u2003001h\n" = some d ∧ read? "18446744073709551615h" = some d' ∧
        d.totalNanos = 3600 * 1000000000 ∧ d'.totalNanos = (2 ^ 64 - 1) * 1000000000 ∧
        d.totalNanos ≤ d'.totalNanos := by
  have hshort : Spells "\u2003001h\n" 1 .hours :=
    ⟨['\u2003'], ['0', '0', '1'], ['h'], ['\n'], rfl, rfl, rfl, by decide, rfl, rfl, by decide,
      .hours⟩
  have hlong : Spells "18446744073709551615h" (2 ^ 64 - 1) .hours :=
    ⟨[], "18446744073709551615".toList, ['h'], [], rfl, rfl, rfl, by decide, rfl, rfl, by decide,
      .hours⟩
  obtain ⟨d, hd, hlength⟩ := reads_exactly.2.1 _ _ _ hshort
  obtain ⟨d', hd', hlength'⟩ := reads_exactly.2.1 _ _ _ hlong
  exact ⟨hshort, hlong, d, d', hd, hd', hlength, hlength',
    reads_exactly.2.2 _ _ _ _ _ _ _ hshort hlong (by decide) hd hd'⟩

end Shorthand

end Vigil
