import Vigil.Config.Settings

/-!
# What placeholders are and stand for

* `Placeholder.Shaped`: the texts that are placeholders, by their first two characters and their
  last one.
* `read?_of_colon`: the parts of a placeholder with a default.
* `Config.Gives`: what a placeholder stands for, which is not read as a placeholder again.
* `Shorthand.read?_eq_none_of_shaped`: **what looks like a placeholder is no duration**.
-/

namespace Vigil

open Config

variable {c : Config} {text value : String}

namespace Placeholder

/-- A text that starts like a placeholder and ends like one. -/
def Shaped (text : String) : Prop := ∃ inner, text.toList = '$' :: '{' :: (inner ++ ['}'])

theorem inner?_eq_some_iff {cs inner : List Char} :
    inner? cs = some inner ↔ cs = '$' :: '{' :: (inner ++ ['}']) := by
  constructor
  · intro h
    unfold inner? at h
    split at h
    · rename_i rest
      simp only [Option.ite_none_right_eq_some, Option.some.injEq] at h
      obtain ⟨hlast, rfl⟩ := h
      obtain ⟨front, rfl⟩ := List.getLast?_eq_some_iff.1 hlast
      rw [List.dropLast_concat]
    · cases h
  · rintro rfl
    simp [inner?]

theorem read?_eq_none_iff : read? text = none ↔ ¬ Shaped text := by
  unfold read? Shaped
  rw [Option.map_eq_none_iff, Option.eq_none_iff_forall_ne_some, not_exists]
  exact forall_congr' fun inner => not_congr inner?_eq_some_iff

instance (text : String) : Decidable (Shaped text) :=
  decidable_of_iff (read? text ≠ none) (by rw [Ne, read?_eq_none_iff, Classical.not_not])

/-- A placeholder with a default is split at its first colon. -/
theorem read?_of_colon {key : String} (h : ':' ∉ key.toList) (fallback : String) :
    read? ("$\x7b" ++ key ++ ":" ++ fallback ++ "\x7d") = some ⟨key, some fallback⟩ := by
  have htext : ("$\x7b" ++ key ++ ":" ++ fallback ++ "\x7d").toList =
      '$' :: '{' :: ((key.toList ++ ':' :: fallback.toList) ++ ['}']) := by
    simp [String.toList_append]
  have hkey : ∀ d ∈ key.toList, (d != ':') = true := by
    intro d hd
    simp only [bne_iff_ne]
    rintro rfl
    exact h hd
  unfold read?
  rw [inner?_eq_some_iff.2 htext]
  simp only [Option.map_some, ofInner, List.takeWhile_append_of_pos hkey,
    List.dropWhile_append_of_pos hkey]
  simp

end Placeholder

open Placeholder

/-- **A text that looks like a placeholder is no duration.** -/
theorem Shorthand.read?_eq_none_of_shaped (h : Shaped text) : Shorthand.read? text = none := by
  obtain ⟨inner, htext⟩ := h
  have hfirst : Text.isBlank '$' = false := rfl
  have hlast : Text.isBlank '}' = false := rfl
  have htrim : Text.trim text.toList = text.toList := by
    simp [htext, Text.trim, Text.trimEnd, hfirst, hlast]
  unfold Shorthand.read?
  rw [htrim, htext]
  rfl

namespace Config

/-- What a placeholder stands for: the text at its key, or its default if nothing is set there. -/
def Gives (c : Config) (p : Placeholder) (text : String) : Prop :=
  c.getText p.key = .ok text ∨
    (∃ key, c.getText p.key = .error (.missing key)) ∧ p.fallback = some text

theorem lookup_eq_ok_iff {p : Placeholder} : c.lookup p = .ok text ↔ c.Gives p text := by
  unfold lookup Gives
  cases hget : c.getText p.key with
  | ok found => simp
  | error e => cases e <;> cases p.fallback <;> simp

theorem resolve_of_not_shaped (h : ¬ Shaped value) : c.resolve value = .ok value := by
  unfold resolve
  rw [read?_eq_none_iff.2 h]

theorem resolve_of_read? {p : Placeholder} (h : Placeholder.read? value = some p) :
    c.resolve value = c.lookup p := by
  unfold resolve
  rw [h]

/-- The duration of a timing, from the text that it stands for. -/
theorem duration_of_resolve (key : String) (h : c.resolve value = .ok text) :
    c.duration key value =
      match Shorthand.read? text with
      | some d => .ok d
      | none => .error (.invalidDuration key text) := by
  cases hread : Shorthand.read? text <;> simp only [duration, h, hread]

end Config

end Vigil
