import Vigil.Proofs.Attribute.Layout
import Vigil.Proofs.Config.Millis

/-!
# A unit behind a number

A unit may follow a number in a text. The same characters as a bare literal are a whole number with
a suffix, and an attribute takes only the number. So the unit is lost, and the number counts
milliseconds.

* `Literal.value_of_spells`: a literal of decimal digits and a suffix has the value of its digits.
* `Shorthand.suffixed_of_read?_append`: digits and a suffix are a duration only with a unit.
* `bare_and_quoted`: **the same characters bare and as a text**, and when they agree.
-/

namespace Vigil

/-! ## Digits and a suffix as a literal -/

namespace Source.Literal

open Text (isIdentifierStart isIdentifierRest)

variable {n : Nat} {digits suffix : List Char}

/-- A suffix is a name or there is none, and with what follows it is the whole text. -/
theorem splitSuffix_name (cs : List Char) :
    (splitSuffix cs).1 ++ (splitSuffix cs).2 = cs ∧
      (∀ c ∈ (splitSuffix cs).1.head?, isIdentifierStart c = true) ∧
      (splitSuffix cs).1.all isIdentifierRest = true := by
  cases cs with
  | nil => exact ⟨rfl, nofun, rfl⟩
  | cons c cs =>
    by_cases hc : isIdentifierStart c = true
    · have hrest := Text.isIdentifierRest_of_start hc
      simp [splitSuffix, hc, hrest]
    · simp [splitSuffix, hc]

theorem magnitude_digits (hdigits : digits.all Char.isDigit) :
    magnitude 10 digits = Text.Decimal.value digits := by
  unfold magnitude Text.Decimal.value
  refine List.foldl_ext _ _ _ fun a c hc => ?_
  simp [Text.hexDigit?, List.all_eq_true.1 hdigits c hc, Text.Decimal.digit]

/-- A whole number is its digits in the base that its mark names. -/
theorem splitBase_of_readInteger? {cs rest : List Char} (h : readInteger? cs = some (n, rest)) :
    ∃ base numerals, splitBase cs = (base, numerals ++ rest) ∧ n = magnitude base numerals := by
  simp only [readInteger?, Option.ite_none_left_eq_some, Option.some.injEq, Prod.mk.injEq] at h
  obtain ⟨-, hn, hrest⟩ := h
  refine ⟨(splitBase cs).1, _, ?_, hn.symm⟩
  rw [← hrest, List.takeWhile_append_dropWhile]

theorem readInteger?_of_readNumber? {cs rest : List Char}
    (h : readNumber? cs = some (.integer n suffix, rest)) :
    ∃ tail, readInteger? cs = some (n, tail) ∧ splitSuffix tail = (suffix, rest) := by
  simp only [readNumber?, Option.or_eq_some_iff, Option.filter_eq_some_iff,
    Option.map_eq_some_iff] at h
  rcases h with ⟨⟨_, _, hfraction⟩, -⟩ | ⟨-, ⟨⟨m, tail⟩, hread, heq⟩, -⟩
  · cases hfraction
  · simp only [Prod.mk.injEq, Value.integer.injEq] at heq
    obtain ⟨⟨rfl, hsuffix⟩, hrest⟩ := heq
    exact ⟨tail, hread, Prod.ext hsuffix hrest⟩

/-- Decimal digits that are read up to the suffix have their value: no mark is among them. -/
theorem value_of_readInteger? (hdigits : digits.all Char.isDigit)
    (h : readInteger? (digits ++ suffix) = some (n, suffix)) : n = Text.Decimal.value digits := by
  obtain ⟨base, numerals, hbase, rfl⟩ := splitBase_of_readInteger? h
  rcases splitBase_cases (digits ++ suffix) with hten | ⟨d, _, _, hd, hmarked, hsplit⟩
  · obtain ⟨rfl, hsame⟩ := Prod.mk.inj (hten.symm.trans hbase)
    rw [← List.append_cancel_right hsame, magnitude_digits hdigits]
  · -- the mark would be one of the digits, or the suffix longer than itself
    obtain ⟨-, rfl⟩ := Prod.mk.inj (hsplit.symm.trans hbase)
    have hlength := congrArg List.length hmarked
    simp only [List.length_append, List.length_cons] at hlength
    rcases digits with _ | ⟨c, _ | ⟨e, cs⟩⟩
    · simp at hlength
      omega
    · simp at hlength
      omega
    · obtain ⟨-, hmarked⟩ := List.cons.inj hmarked
      obtain ⟨rfl, -⟩ := List.cons.inj hmarked
      have he : e.isDigit = true := List.all_eq_true.1 hdigits e (by simp)
      have hnot : ['x', 'o', 'b'].any Char.isDigit = false := rfl
      exact absurd he (List.any_eq_false.1 hnot e hd)

/-- **A literal of decimal digits and a suffix has the value of its digits**, and its suffix is a
name. -/
theorem value_of_spells (hne : digits ≠ []) (hdigits : digits.all Char.isDigit)
    (h : Spells (digits ++ suffix) (.integer n suffix)) :
    n = Text.Decimal.value digits ∧ (∀ c ∈ suffix.head?, isIdentifierStart c = true) ∧
      suffix.all isIdentifierRest = true := by
  obtain ⟨c, cs, rfl⟩ := List.exists_cons_of_ne_nil hne
  have hc : c.isDigit = true := List.all_eq_true.1 hdigits c (by simp)
  have hread := h [] (by simp [Ends])
  rw [List.append_nil] at hread
  obtain ⟨⟨v, rest⟩, hvalue, heq⟩ := Option.map_eq_some_iff.1 hread
  obtain ⟨⟨-, rfl⟩, rfl⟩ : (_ ∧ v = .integer n suffix) ∧ rest = [] := by simpa using heq
  rw [List.cons_append, readValue?_of_isDigit hc] at hvalue
  obtain ⟨tail, hinteger, hsplit⟩ := readInteger?_of_readNumber? hvalue
  have hname := splitSuffix_name tail
  rw [hsplit, List.append_nil] at hname
  obtain ⟨rfl, hstart, hall⟩ := hname
  exact ⟨value_of_readInteger? hdigits hinteger, hstart, hall⟩

end Source.Literal

/-! ## Digits and a suffix as a text -/

/-- Without blanks nothing is trimmed. -/
theorem Text.trim_of_solid {cs : List Char} (h : ∀ c ∈ cs, isBlank c = false) : trim cs = cs := by
  cases cs with
  | nil => rfl
  | cons c cs =>
    have htrim : trim ([] ++ c :: cs ++ []) = c :: cs :=
      trim_append rfl rfl (List.cons_ne_nil c cs) (fun d hd => h d (List.mem_of_mem_head? hd))
        (fun d hd => h d (List.mem_of_getLast? hd))
    simpa using htrim

namespace Shorthand

variable {digits suffix : List Char} {d : Duration}

/-- **Digits and a suffix are a duration** only if that suffix is one of a unit. -/
theorem suffixed_of_read?_append (hdigits : digits.all Char.isDigit)
    (hstart : ∀ c ∈ suffix.head?, c.isDigit = false)
    (hsolid : ∀ c ∈ suffix, Text.isBlank c = false)
    (h : (read? (String.ofList (digits ++ suffix))).isSome) :
    Text.Decimal.value digits < 2 ^ 64 ∧ ∃ u : TimeUnit, u.Suffixed suffix := by
  have htrim : Text.trim (digits ++ suffix) = digits ++ suffix := by
    refine Text.trim_of_solid fun c hc => ?_
    rcases List.mem_append.1 hc with hc | hc
    · exact Text.isBlank_eq_false_of_isDigit (List.all_eq_true.1 hdigits c hc)
    · exact hsolid c hc
  obtain ⟨htake, hdrop⟩ :=
    Source.Literal.takeWhile_of_head (List.all_eq_true.1 hdigits) hstart
  obtain ⟨d, hd⟩ := Option.isSome_iff_exists.1 h
  rw [read?, String.toList_ofList, htrim, readBare?, htake, hdrop] at hd
  split at hd
  · next w u hw hu =>
    refine ⟨?_, u, TimeUnit.ofSuffix?_eq_some_iff.1 hu⟩
    rw [(word?_eq_some_iff.1 hw).2]
    exact w.toNat_lt
  · cases hd

end Shorthand

/-- So many of a unit are as long as so many milliseconds just when the unit is that or the number
is zero. -/
theorem TimeUnit.nanos_eq_iff {n : Nat} (hn : n < 2 ^ 64) (u : TimeUnit) :
    milliseconds.nanos n = u.nanos n ↔ u = milliseconds ∨ n = 0 := by
  cases u <;> simp only [nanos, reduceCtorEq, false_or, true_or] <;> omega

/-! ## The same characters twice -/

namespace Attribute

open Source
open Literal (Spells)

variable {n : Nat} {digits suffix front back : List Char} {p : Part}

theorem isDigit_of_isIdentifierStart {c : Char} (hc : Text.isIdentifierStart c = true) :
    c.isDigit = false := by
  by_contra hdigit
  have hrange := Text.isDigit_iff.1 (by simpa using hdigit)
  simp only [Text.isIdentifierStart, Bool.or_eq_true, Bool.and_eq_true, beq_iff_eq,
    decide_eq_true_eq, Text.isAlpha_iff] at hc
  rcases hc with (hletter | rfl) | ⟨hwide, -⟩
  · omega
  · exact absurd hdigit (by decide)
  · omega

theorem isBlank_of_isIdentifierRest {c : Char} (hc : Text.isIdentifierRest c = true) :
    Text.isBlank c = false := by
  have hgap := Literal.isGap_of_isIdentifierRest hc
  simp only [isGap, Bool.or_eq_false_iff] at hgap
  exact hgap.1.1

/-- **The same characters as a bare literal and as a text**, at the same place in an attribute. Both
are accepted; the bare literal gives the number alone, the text all characters. That text is a
duration only with a unit behind a number that 64 bits hold. Then the bare number is one as well,
but of milliseconds, so they agree just when that is the unit or the number is zero. -/
theorem bare_and_quoted (hne : digits ≠ []) (hdigits : digits.all Char.isDigit)
    (hspells : Spells (digits ++ suffix) (.integer n suffix)) (hplace : Place p front back)
    {item : String} {block : ImplBlock}
    (hblock : (tokens? item).bind ImplBlock.ofTokens? = some block) :
    ∃ bare quoted,
      expand (String.ofList (front ++ (digits ++ suffix ++ back))) item = .expanded block bare ∧
      (∀ l, Spells l (.text (String.ofList (digits ++ suffix))) →
        expand (String.ofList (front ++ (l ++ back))) item = .expanded block quoted) ∧
      p.text bare = Text.Decimal.natural n ∧
      p.text quoted = String.ofList (digits ++ suffix) ∧
      p.other.text bare = p.other.text quoted ∧
      ((Shorthand.read? (p.text quoted)).isSome → n < 2 ^ 64 ∧ ∃ u : TimeUnit, u.Suffixed suffix) ∧
      ∀ u : TimeUnit, n < 2 ^ 64 → u.Suffixed suffix →
        ∃ d e, Shorthand.read? (p.text bare) = some d ∧ Shorthand.read? (p.text quoted) = some e ∧
          d.totalNanos = TimeUnit.milliseconds.nanos n ∧ e.totalNanos = u.nanos n ∧
          (d = e ↔ u = .milliseconds ∨ n = 0) := by
  obtain ⟨other, hexpand⟩ := hplace.expand
  have htext (s : String) : p.text (p.annotation s other) = s := by cases p <;> rfl
  have hother (s : String) : p.other.text (p.annotation s other) = other := by cases p <;> rfl
  obtain ⟨hvalue, hstart, hname⟩ := Literal.value_of_spells hne hdigits hspells
  refine ⟨p.annotation (Text.Decimal.natural n) other,
    p.annotation (String.ofList (digits ++ suffix)) other,
    hexpand (.integer hspells) rfl hblock, fun l hl => hexpand (.text hl) rfl hblock,
    htext _, htext _, by rw [hother, hother], ?_, ?_⟩
  · rw [htext, hvalue]
    exact Shorthand.suffixed_of_read?_append hdigits
      (fun c hc => isDigit_of_isIdentifierStart (hstart c hc))
      (fun c hc => isBlank_of_isIdentifierRest (List.all_eq_true.1 hname c hc))
  · intro u hlt hu
    rw [htext, htext]
    have hquoted : Shorthand.Spells (String.ofList (digits ++ suffix)) n u :=
      ⟨[], digits, suffix, [], by simp, rfl, rfl, hne, hdigits, hvalue.symm, hlt, hu⟩
    obtain ⟨d, hd, hbare⟩ := Shorthand.read?_of_spells (Shorthand.spells_natural hlt)
    obtain ⟨e, he, hlength⟩ := Shorthand.read?_of_spells hquoted
    refine ⟨d, e, hd, he, hbare, hlength, ?_⟩
    rw [← TimeUnit.nanos_eq_iff hlt u, ← hbare, ← hlength]
    exact ⟨congrArg _, Duration.ext_totalNanos⟩

/-! ## Ten seconds -/

/-- An attribute that gives the rate alone. -/
theorem place_rate : Place .rate "fixed_rate = ".toList [] :=
  .behind .nil gap_nil (.blank rfl gap_nil) (.blank rfl gap_nil) (.last gap_nil) nofun (.inl rfl)

theorem spells_tenSeconds : Spells (['1', '0'] ++ ['s']) (.integer 10 ['s']) := by
  have hplaces : Literal.Places 10 ['1', '0'] 10 := by decide
  have hfollows : Literal.Follows 10 ['s'] := by decide
  exact Literal.spells_integer .decimal hplaces hfollows

/-- Both attributes, as the rate's place and a literal at it. -/
theorem rate_spelled :
    String.ofList ("fixed_rate = ".toList ++ (['1', '0'] ++ ['s'] ++ [])) = "fixed_rate = 10s" ∧
      String.ofList ("fixed_rate = ".toList ++ ((Literal.ofText "10s").spelling.toList ++ [])) =
        "fixed_rate = \"10s\"" := by
  decide +kernel

/-- Bare they are ten milliseconds. -/
theorem ten_seconds_read_apart : ∃ bare quoted,
    expand "fixed_rate = 10s" "impl A \x7b\x7d" =
      .expanded ⟨[.word "impl"], [.word "A"], [], []⟩ bare ∧
    expand "fixed_rate = \"10s\"" "impl A \x7b\x7d" =
      .expanded ⟨[.word "impl"], [.word "A"], [], []⟩ quoted ∧
    bare.fixedRate = "10" ∧ quoted.fixedRate = "10s" ∧
    bare.initialDelay = quoted.initialDelay ∧
    ∃ d e, Shorthand.read? bare.fixedRate = some d ∧ Shorthand.read? quoted.fixedRate = some e ∧
      d.totalNanos = 10 * 1000000 ∧ e.totalNanos = 10 * 1000000000 ∧ d ≠ e := by
  obtain ⟨bare, quoted, hbare, hquoted, hn, htext, hother, -, hlength⟩ :=
    bare_and_quoted (show ['1', '0'] ≠ [] by decide) rfl spells_tenSeconds place_rate
      ofTokens?_plain
  obtain ⟨d, e, hd, he, hmillis, hseconds, hiff⟩ := hlength .seconds (by decide) .seconds
  have hquoted := hquoted _ (spells_ofText "10s")
  rw [rate_spelled.2] at hquoted
  exact ⟨bare, quoted, rate_spelled.1 ▸ hbare, hquoted, hn, htext, hother, d, e, hd, he, hmillis,
    hseconds, fun heq => by simp [hiff] at heq⟩

/-- **A unit that is lost**: ten seconds without quotes are ten milliseconds. -/
theorem bare_seconds_are_millis :
    ∃ block, expand "fixed_rate = 10s" "impl A \x7b\x7d" = .expanded block ⟨"10s", "10"⟩ ∧
      expand "fixed_rate = \"10s\"" "impl A \x7b\x7d" = .expanded block ⟨"10s", "10s"⟩ ∧
      Shorthand.read? "10" = some (.ofMillis 10) ∧
      Shorthand.read? "10s" = some (.ofMillis 10000) ∧
      Duration.ofMillis 10 ≠ .ofMillis 10000 := by
  have hgiven {l : List Char} {v : Value} (hl : Written l v) :
      Argument.ofText? (String.ofList ("fixed_rate = ".toList ++ (l ++ []))) =
        some [.assign (.plain "fixed_rate") v] := by
    have hblank : Gap [' '] := .blank rfl gap_nil
    have hassigns := Leads.nil.assigns (.assign .rate gap_nil hblank hblank hl) (.last gap_nil)
    exact ofText?_of_assigns hassigns
  have hbare := hgiven (.integer spells_tenSeconds)
  have hquoted := hgiven (.text (spells_ofText "10s"))
  rw [rate_spelled.1] at hbare
  rw [rate_spelled.2] at hquoted
  refine ⟨_, expand_eq_expanded_iff.2 ⟨?_, ofTokens?_plain⟩,
    expand_eq_expanded_iff.2 ⟨?_, ofTokens?_plain⟩, by decide, by decide, by decide⟩
  · rw [hbare]
    rfl
  · rw [hquoted]
    rfl

end Attribute

end Vigil
