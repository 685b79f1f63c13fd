import Vigil.Proofs.Config.Fallback
import Vigil.Proofs.Config.Part
import Vigil.Proofs.Config.Section
import Vigil.Proofs.Time.Shorthand

/-!
# Bare numbers count milliseconds

A number without a unit may be a value in a configuration, a text, or the default in a placeholder.
It is so many milliseconds in all of these, up to the largest number that 64 bits hold.

* `Shorthand.read?_millis`: digits are read as exactly so many milliseconds.
* `Config.Counts`, `Config.Means`, `Config.Holds`: values, texts and fields that are a number of
  milliseconds.
* `Means.duration`: **a text that means a number of milliseconds**, whether it is spelled or stands
  for a value.
* `settings_of_holds`: the same for a part of a section.
-/

namespace Vigil

open Config Placeholder

variable {c : Config} {n : UInt64} {s : String} {v : Value}

/-! ## Numbers as digits -/

/-- The digits of a number have its value. -/
theorem Text.Decimal.value_digits (n : Nat) : value (digits n) = n := by
  unfold digits
  induction n using Nat.strongRecOn with
  | ind n ih =>
    have hdigit {d : Nat} (hd : d < 10) : digit (Nat.digitChar d) = d := by
      decide +revert
    by_cases hlt : n < 10
    · rw [Nat.toDigits_of_lt_base hlt]
      simpa [value] using hdigit hlt
    · -- all digits but the last one have the value of the tenth part
      have htenth : value (Nat.toDigits 10 (n / 10)) = n / 10 := ih _ (by omega)
      unfold value at htenth ⊢
      rw [Nat.toDigits_of_base_le (by decide) (Nat.not_lt.1 hlt), List.foldl_append, htenth]
      simp only [List.foldl_cons, List.foldl_nil, hdigit (Nat.mod_lt n (by decide)),
        Nat.div_add_mod]

namespace Shorthand

theorem spells_natural {n : Nat} (h : n < 2 ^ 64) :
    Spells (Text.Decimal.natural n) n .milliseconds :=
  ⟨[], Text.Decimal.digits n, [], [], by simp [Text.Decimal.natural], rfl, rfl,
    Nat.toDigits_ne_nil, List.all_eq_true.2 fun _ => Text.Decimal.isDigit_of_mem_digits,
    Text.Decimal.value_digits n, h, .bare⟩

/-- **Digits are read as exactly so many milliseconds.** -/
theorem read?_millis (h : Spells s n.toNat .milliseconds) : read? s = some (.ofMillis n) := by
  obtain ⟨d, hd, hlength⟩ := read?_of_spells h
  rw [hd, Duration.ext_totalNanos (hlength.trans (Duration.totalNanos_ofMillis n).symm)]

end Shorthand

namespace Config

/-! ## What means a number of milliseconds -/

/-- A value that is a number of milliseconds: the number, or a text that spells it. -/
inductive Counts (n : UInt64) : Value → Prop
  | number (o : Option String) : Counts n (.scalar o (.int n.toNat))
  | text (o : Option String) {s : String} (h : Shorthand.Spells s n.toNat .milliseconds) :
    Counts n (.scalar o (.text s))

/-- **A text that means a number of milliseconds**: one that spells it, a placeholder for a value
that is the number, or one with such a default where nothing is set. -/
inductive Means (c : Config) (n : UInt64) : String → Prop
  | spelled {s : String} (h : Shorthand.Spells s n.toNat .milliseconds) : Means c n s
  | value {key : String} {v : Value} (hget : c.get key = .ok v) (hv : Counts n v) :
    Means c n ("$\x7b" ++ key ++ "\x7d")
  | valueOr {key : String} {v : Value} (fallback : String) (hget : c.get key = .ok v)
    (hv : Counts n v) : Means c n ("$\x7b" ++ key ++ ":" ++ fallback ++ "\x7d")
  | fallback {key s : String} (hget : c.get key = .error (.missing key))
    (h : Shorthand.Spells s n.toNat .milliseconds) :
    Means c n ("$\x7b" ++ key ++ ":" ++ s ++ "\x7d")

/-- A field of a section that is a number of milliseconds: the number, or a text that means it. -/
inductive Holds (c : Config) (n : UInt64) : Value → Prop
  | number (o : Option String) : Holds c n (.scalar o (.int n.toNat))
  | text (o : Option String) {s : String} (h : c.Means n s) : Holds c n (.scalar o (.text s))

theorem Counts.asText (h : Counts n v) (key : String) :
    ∃ s, Value.asText key v = .ok s ∧ Shorthand.Spells s n.toNat .milliseconds := by
  cases h with
  | number o => exact ⟨_, rfl, Shorthand.spells_natural n.toNat_lt⟩
  | text o h => exact ⟨_, rfl, h⟩

/-- A key that is looked up is a path, so a placeholder for it ends at its first colon. -/
theorem colon_not_mem_of_get {key : String} (h : c.get key ≠ .error .badKey) :
    ':' ∉ key.toList := by
  cases hpath : KeyPath.read? key with
  | none =>
    rw [get, hpath] at h
    exact absurd rfl h
  | some path => exact KeyPath.colon_not_mem hpath

/-- A placeholder for a value stands for its text, with a default or without. -/
theorem resolve_of_get {key : String} (hget : c.get key = .ok v) (fallback : String) :
    c.resolve ("$\x7b" ++ key ++ "\x7d") = Value.asText key v ∧
      c.resolve ("$\x7b" ++ key ++ ":" ++ fallback ++ "\x7d") = Value.asText key v := by
  have hcolon : ':' ∉ key.toList := colon_not_mem_of_get (c := c) (by simp [hget])
  rw [resolve_key hcolon, resolve_default hcolon, getText_of_get hget, orDefault_asText]
  exact ⟨rfl, rfl⟩

/-- What means a number of milliseconds stands for a text that spells it. -/
theorem Means.resolve (h : c.Means n s) :
    ∃ text, c.resolve s = .ok text ∧ Shorthand.Spells text n.toNat .milliseconds := by
  cases h with
  | spelled h =>
    have hread := Shorthand.read?_millis h
    refine ⟨s, resolve_of_not_shaped fun hshaped => ?_, h⟩
    simp [Shorthand.read?_eq_none_of_shaped hshaped] at hread
  | @value key v hget hv =>
    obtain ⟨text, htext, hspells⟩ := hv.asText key
    exact ⟨text, (resolve_of_get hget "").1.trans htext, hspells⟩
  | @valueOr key v fallback hget hv =>
    obtain ⟨text, htext, hspells⟩ := hv.asText key
    exact ⟨text, (resolve_of_get hget fallback).2.trans htext, hspells⟩
  | @fallback key s hget h =>
    refine ⟨s, ?_, h⟩
    rw [resolve_default (colon_not_mem_of_get (c := c) (by simp [hget])), getText, hget]
    rfl

/-- **A text that means a number of milliseconds** is a duration of exactly so many. -/
theorem Means.duration (h : c.Means n s) (key : String) :
    c.duration key s = .ok (.ofMillis n) := by
  obtain ⟨text, hresolve, hspells⟩ := h.resolve
  rw [duration_of_resolve key hresolve, Shorthand.read?_millis hspells]

/-- **A part of a section that is a number of milliseconds**, whatever the other part is. -/
theorem settings_of_holds {p : Part} {field : Value} (hget : c.get s = .ok v) (hv : IsSection v)
    (hfield : p.held? v = some field) (h : c.Holds n field) :
    c.settings s = (c.partDuration s v p.other).map fun e => p.settings (.ofMillis n) e := by
  refine settings_of_part hget hv (partDuration_eq_ok_iff.2 ?_)
  rw [hfield]
  cases h with
  | number o => exact ⟨_, rfl, (Means.spelled (Shorthand.spells_natural n.toNat_lt)).duration _⟩
  | text o h => exact ⟨_, rfl, h.duration _⟩

end Config

end Vigil
