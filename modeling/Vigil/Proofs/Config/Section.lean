import Vigil.Proofs.Config.KeyPath
import Vigil.Proofs.Config.Placeholder

/-!
# Sections and their fields

Settings are read from a section as a whole, and a timing can be a placeholder for one field of the
section, with the default in it. Both come to the same.

* `Plain`: a field that is read the same either way.
* `duration_field`: **a field of a section, and a placeholder for it**.
* `settings_eq_durations`: the settings of a section are the two durations of placeholders for its
  fields, errors included.
-/

namespace Vigil

open Config Placeholder

/-! ## Scalars are no placeholders -/

theorem Placeholder.not_shaped_of_dollar {text : String} (h : '$' ∉ text.toList) :
    ¬ Shaped text := by
  rintro ⟨inner, htext⟩
  rw [htext] at h
  exact h (List.mem_cons_self ..)

theorem Text.Decimal.dollar_not_mem_digits (n : Nat) : '$' ∉ digits n := by
  intro h
  exact absurd (isDigit_of_mem_digits h) (by decide)

theorem Text.Decimal.dollar_not_mem_integer (n : Int) : '$' ∉ (integer n).toList := by
  cases n with
  | ofNat n => simpa [integer, natural] using dollar_not_mem_digits n
  | negSucc n => simpa [integer, natural] using dollar_not_mem_digits (n + 1)

theorem Binary64.dollar_not_mem_positional (ds : Nat) (scale : Int) :
    '$' ∉ positional ds scale := by
  have hdigits := Text.Decimal.dollar_not_mem_digits ds
  unfold positional
  simp only
  split
  · simpa using hdigits
  · split
    · simpa using hdigits
    · have htake (n : Nat) : '$' ∉ (Text.Decimal.digits ds).take n := fun h =>
        hdigits (List.mem_of_mem_take h)
      have hdrop (n : Nat) : '$' ∉ (Text.Decimal.digits ds).drop n := fun h =>
        hdigits (List.mem_of_mem_drop h)
      simp [htake, hdrop]

theorem Binary64.dollar_not_mem_render (x : Binary64) : '$' ∉ x.render.toList := by
  have hsign (negative : Bool) : '$' ∉ sign negative := by cases negative <;> decide
  cases x with
  | nan => decide
  | infinite negative => simpa [render] using hsign negative
  | finite negative m e =>
    have hmagnitude : '$' ∉ magnitude m e := by
      unfold magnitude
      split
      · decide
      · exact dollar_not_mem_positional _ _
    simpa [render] using ⟨hsign negative, hmagnitude⟩

namespace Config

/-- A field of a section that is not there, or a scalar other than nil and no placeholder. -/
inductive Plain : Option Value → Prop
  | absent : Plain none
  | bool (o : Option String) (b : Bool) : Plain (some (.scalar o (.bool b)))
  | int (o : Option String) (n : Int) : Plain (some (.scalar o (.int n)))
  | float (o : Option String) (x : Binary64) : Plain (some (.scalar o (.float x)))
  | text (o : Option String) (s : String) (h : ¬ Shaped s) : Plain (some (.scalar o (.text s)))

/-- A plain field that is there has a text, which is no placeholder. -/
theorem Plain.text_of_some {v : Value} (h : Plain (some v)) :
    ∃ o s text, v = .scalar o s ∧ s.asText? = some text ∧ ¬ Shaped text := by
  cases h with
  | bool o b => exact ⟨o, _, _, rfl, rfl, by cases b <;> decide⟩
  | int o n =>
    exact ⟨o, _, _, rfl, rfl, not_shaped_of_dollar (Text.Decimal.dollar_not_mem_integer n)⟩
  | float o x => exact ⟨o, _, _, rfl, rfl, not_shaped_of_dollar (Binary64.dollar_not_mem_render x)⟩
  | text o s h => exact ⟨o, _, _, rfl, rfl, h⟩

/-! ## Fields -/

variable {c : Config} {s : String} {path : KeyPath}

/-- The value of a field of the section at a path. -/
def fieldAt (c : Config) (path : KeyPath) (field : String) : Option Value :=
  (path.get? c.root).bind (KeyPath.follow? · (.name field))

/-- The text at a field of a section. -/
theorem getText_field (hpath : KeyPath.read? s = some path) {field : String}
    (hfield : KeyPath.IsName field) : c.getText (s ++ "." ++ field) =
      match c.fieldAt path field with
      | none => .error (.missing (s ++ "." ++ field))
      | some v => Value.asText (s ++ "." ++ field) v := by
  unfold getText get
  rw [KeyPath.read?_append_name hpath hfield]
  simp only [KeyPath.get?_append_name]
  unfold fieldAt
  cases (path.get? c.root).bind (KeyPath.follow? · (.name field)) <;> rfl

/-- **A field of a section, and a placeholder for it** with the field's default. -/
theorem duration_field (hpath : KeyPath.read? s = some path) {field : String}
    (hfield : KeyPath.IsName field) (hplain : Plain (c.fieldAt path field)) {fallback : String}
    {d : Duration} (hd : Shorthand.read? fallback = some d) :
    ∃ raw, rawField s (c.fieldAt path field) = .ok raw ∧
      c.duration (s ++ "." ++ field) ("$\x7b" ++ (s ++ "." ++ field) ++ ":" ++ fallback ++ "\x7d") =
        c.durationOr (s ++ "." ++ field) raw d := by
  have hcolon : ':' ∉ (s ++ "." ++ field).toList :=
    KeyPath.colon_not_mem (KeyPath.read?_append_name hpath hfield)
  have hresolve := resolve_of_read? (c := c) (read?_of_colon hcolon fallback)
  have htext := getText_field (c := c) hpath hfield
  cases hv : c.fieldAt path field with
  | none =>
    -- the default is parsed like any text, and was chosen to be the duration meant
    rw [hv] at htext
    have hgives : c.lookup ⟨s ++ "." ++ field, some fallback⟩ = .ok fallback :=
      lookup_eq_ok_iff.2 (.inr ⟨⟨_, htext⟩, rfl⟩)
    refine ⟨none, rfl, ?_⟩
    rw [duration_of_resolve _ (hresolve.trans hgives), hd]
    rfl
  | some v =>
    rw [hv] at htext hplain
    obtain ⟨o, scalar, text, rfl, hscalar, hshaped⟩ := hplain.text_of_some
    have hgives : c.lookup ⟨s ++ "." ++ field, some fallback⟩ = .ok text :=
      lookup_eq_ok_iff.2 (.inl (by rw [htext]; simp only [Value.asText, hscalar]))
    refine ⟨some text, by simp only [rawField, hscalar], ?_⟩
    show _ = c.duration (s ++ "." ++ field) text
    rw [duration_of_resolve _ (hresolve.trans hgives),
      duration_of_resolve _ (resolve_of_not_shaped hshaped)]

/-! ## Sections -/

/-- A section that is not there, or a table in which the two fields are plain. -/
def PlainSection (c : Config) (path : KeyPath) : Prop :=
  path.get? c.root = none ∨ ∃ o entries, path.get? c.root = some (.table o entries) ∧
    Plain (entries.lookup "initial_delay") ∧ Plain (entries.lookup "rate")

theorem fieldAt_of_none (h : path.get? c.root = none) (field : String) :
    c.fieldAt path field = none := by
  unfold fieldAt
  rw [h]
  rfl

theorem fieldAt_of_table {o : Option String} {entries : List (String × Value)}
    (h : path.get? c.root = some (.table o entries)) (field : String) :
    c.fieldAt path field = entries.lookup field := by
  unfold fieldAt
  rw [h]
  rfl

theorem PlainSection.plain (h : PlainSection c path) :
    Plain (c.fieldAt path "initial_delay") ∧ Plain (c.fieldAt path "rate") := by
  rcases h with hnone | ⟨o, entries, htable, hdelay, hrate⟩
  · rw [fieldAt_of_none hnone, fieldAt_of_none hnone]
    exact ⟨.absent, .absent⟩
  · rw [fieldAt_of_table htable, fieldAt_of_table htable]
    exact ⟨hdelay, hrate⟩

/-- What is read of a section are its two fields. -/
theorem rawSection_of_fields (hpath : KeyPath.read? s = some path) (h : PlainSection c path)
    {rawDelay rawRate : Option String}
    (hdelay : rawField s (c.fieldAt path "initial_delay") = .ok rawDelay)
    (hrate : rawField s (c.fieldAt path "rate") = .ok rawRate) :
    c.rawSection s = .ok ⟨rawDelay, rawRate⟩ := by
  unfold rawSection get
  rw [hpath]
  rcases h with hnone | ⟨o, entries, htable, -, -⟩
  · rw [fieldAt_of_none hnone] at hdelay hrate
    cases hdelay
    cases hrate
    simp only [hnone]
  · rw [fieldAt_of_table htable] at hdelay hrate
    simp only [htable, rawSettings, hdelay, hrate]
    rfl

/-- A field's key, and the placeholder for it. -/
theorem field_spelled (s field fallback : String) :
    s ++ ("." ++ field) = s ++ "." ++ field ∧
    "$\x7b" ++ s ++ ("." ++ field ++ ":" ++ fallback ++ "\x7d") =
      "$\x7b" ++ (s ++ "." ++ field) ++ ":" ++ fallback ++ "\x7d" := by
  simp only [String.append_assoc, and_self]

/-- **Two ways to read a schedule.** For every key that is a path, at which there is nothing or a
table in which the two fields are plain, the settings of the section are the same, or fail in the
same way, as the durations of two placeholders for its fields with the defaults in them, one read
after the other. -/
theorem settings_eq_durations (hpath : KeyPath.read? s = some path) (h : PlainSection c path) :
    c.settings s = (do
      let initialDelay ←
        c.duration (s ++ ".initial_delay") ("$\x7b" ++ s ++ ".initial_delay:10s\x7d")
      let rate ← c.duration (s ++ ".rate") ("$\x7b" ++ s ++ ".rate:1s\x7d")
      pure ⟨initialDelay, rate⟩) := by
  obtain ⟨rawDelay, hrawDelay, hdelay⟩ := duration_field hpath (by decide) h.plain.1
    (show Shorthand.read? "10s" = some Settings.defaultInitialDelay by decide)
  obtain ⟨rawRate, hrawRate, hrate⟩ := duration_field hpath (by decide) h.plain.2
    (show Shorthand.read? "1s" = some Settings.defaultRate by decide)
  obtain ⟨hdelayKey, hdelayText⟩ : s ++ ".initial_delay" = _ ∧
    "$\x7b" ++ s ++ ".initial_delay:10s\x7d" = _ := field_spelled s "initial_delay" "10s"
  obtain ⟨hrateKey, hrateText⟩ : s ++ ".rate" = _ ∧ "$\x7b" ++ s ++ ".rate:1s\x7d" = _ :=
    field_spelled s "rate" "1s"
  rw [hdelayText, hrateText, hdelayKey, hrateKey, hdelay, hrate]
  unfold settings
  rw [rawSection_of_fields hpath h hrawDelay hrawRate, hdelayKey, hrateKey]
  rfl

/-- Two jobs in an array, the second with a delay in milliseconds and a rate that is no duration. -/
def jobs : Config :=
  ⟨.table none [("jobs", .array none [.table none [],
    .table none [("initial_delay", .scalar none (.int 1500)),
      ("rate", .scalar none (.text "soon"))]])]⟩

theorem jobs_read_alike :
    KeyPath.read? "jobs[-1]" = some [.name "jobs", .position (-1)] ∧
    PlainSection jobs [.name "jobs", .position (-1)] ∧
    jobs.settings "jobs[-1]" = (do
      let initialDelay ← jobs.duration "jobs[-1].initial_delay"
        ("$\x7b" ++ "jobs[-1]" ++ ".initial_delay:10s\x7d")
      let rate ← jobs.duration "jobs[-1].rate" ("$\x7b" ++ "jobs[-1]" ++ ".rate:1s\x7d")
      pure ⟨initialDelay, rate⟩) := by
  have hsteps : KeyPath.readSteps? "[-1]".toList = some [.position (-1)] := by
    show KeyPath.readSteps? ('[' :: "-1]".toList) = _
    rw [KeyPath.readSteps?_bracket (show KeyPath.readBracket? "-1]".toList = some (-1, []) by decide),
      KeyPath.readSteps?_nil]
    rfl
  have hpath : KeyPath.read? "jobs[-1]" = some [.name "jobs", .position (-1)] :=
    KeyPath.read?_of_readName? (by decide) hsteps
  have hplain : PlainSection jobs [.name "jobs", .position (-1)] :=
    .inr ⟨none,
      [("initial_delay", .scalar none (.int 1500)), ("rate", .scalar none (.text "soon"))],
      rfl, .int none 1500, .text none "soon" (by decide)⟩
  exact ⟨hpath, hplain, settings_eq_durations hpath hplain⟩

end Config

end Vigil
