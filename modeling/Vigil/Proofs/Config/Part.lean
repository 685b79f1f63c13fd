import Vigil.Config.Settings
import Vigil.Schedule.Scheduler

/-!
# The two parts of a timing

A timing has a delay and a rate. A section and an annotation name them differently, but treat them
alike: what one part is does not depend on what the other one is, as long as neither fails.

* `Part`: the delay or the rate, with its names and its default.
* `settings_of_part`: **one part of a section that is known**, and the other one left open.
* `annotated_of_part`: the same for an annotation.
-/

namespace Vigil

open Config

/-- A part of a timing. -/
inductive Part
  | delay
  | rate
  deriving DecidableEq

namespace Part

/-- The part that is not this one. -/
def other : Part → Part
  | delay => rate
  | rate => delay

/-- The name in a section. -/
def field : Part → String
  | delay => "initial_delay"
  | rate => "rate"

/-- The name in an annotation. -/
def parameter : Part → String
  | delay => "initial_delay"
  | rate => "fixed_rate"

/-- What the part is where a section does not tell. -/
def fallback : Part → Duration
  | delay => Settings.defaultInitialDelay
  | rate => Settings.defaultRate

/-- The settings with this part and the other one. -/
def settings (own other : Duration) : Part → Settings
  | delay => ⟨own, other⟩
  | rate => ⟨other, own⟩

/-- The annotation with a text for this part and one for the other one. -/
def annotation (own other : String) : Part → AnnotatedTiming
  | delay => ⟨own, other⟩
  | rate => ⟨other, own⟩

/-- The text of this part in an annotation. -/
def text (t : AnnotatedTiming) : Part → String
  | delay => t.initialDelay
  | rate => t.fixedRate

/-- What a section holds for this part: a table by name, an array by place. -/
def held? : Part → Value → Option Value
  | p, .table _ entries => entries.lookup p.field
  | delay, .array _ items => items[0]?
  | rate, .array _ items => items[1]?
  | _, .scalar _ _ => none

end Part

namespace Config

/-- A value that can be a section: a table, or an array with an item for each part. -/
inductive IsSection : Value → Prop
  | table (o : Option String) (entries : List (String × Value)) : IsSection (.table o entries)
  | array (o : Option String) (delay rate : Value) (more : List Value) :
    IsSection (.array o (delay :: rate :: more))

variable {c : Config} {s : String} {v : Value} {p : Part} {d : Duration}

/-- **What a section gives for one of its parts**, the default if it holds nothing. -/
def partDuration (c : Config) (s : String) (v : Value) (p : Part) : Except SetupError Duration := do
  let raw ← (rawField s (p.held? v)).mapError .config
  c.durationOr (s ++ "." ++ p.field) raw p.fallback

theorem partDuration_eq_ok_iff : c.partDuration s v p = .ok d ↔
    ∃ raw, rawField s (p.held? v) = .ok raw ∧
      c.durationOr (s ++ "." ++ p.field) raw p.fallback = .ok d := by
  unfold partDuration
  cases rawField s (p.held? v) with
  | error e =>
    constructor
    · rintro ⟨⟩
    · rintro ⟨_, ⟨⟩, _⟩
  | ok raw =>
    constructor
    · exact fun h => ⟨raw, rfl, h⟩
    · rintro ⟨_, ⟨⟩, h⟩
      exact h

/-- The parts of a section are looked at one after the other, first as texts. -/
theorem settings_of_isSection (hget : c.get s = .ok v) (hv : IsSection v) : c.settings s = (do
    let rawDelay ← (rawField s (Part.delay.held? v)).mapError .config
    let rawRate ← (rawField s (Part.rate.held? v)).mapError .config
    let initialDelay ← c.durationOr (s ++ "." ++ Part.delay.field) rawDelay Part.delay.fallback
    let rate ← c.durationOr (s ++ "." ++ Part.rate.field) rawRate Part.rate.fallback
    pure ⟨initialDelay, rate⟩) := by
  have hraw : c.rawSection s = (do
      let rawDelay ← rawField s (Part.delay.held? v)
      let rawRate ← rawField s (Part.rate.held? v)
      pure ⟨rawDelay, rawRate⟩) := by
    rw [rawSection, hget]
    cases hv <;> rfl
  have hkeys : s ++ ".initial_delay" = s ++ "." ++ Part.delay.field ∧
      s ++ ".rate" = s ++ "." ++ Part.rate.field := by
    simp only [String.append_assoc]
    exact ⟨rfl, rfl⟩
  unfold settings
  rw [hraw, hkeys.1, hkeys.2]
  cases rawField s (Part.delay.held? v) with
  | error e => rfl
  | ok rawDelay => cases rawField s (Part.rate.held? v) <;> rfl

/-- **A part that is known**: what becomes of the settings depends on the other part alone. -/
theorem settings_of_part (hget : c.get s = .ok v) (hv : IsSection v)
    (hd : c.partDuration s v p = .ok d) :
    c.settings s = (c.partDuration s v p.other).map fun e => p.settings d e := by
  obtain ⟨raw, hraw, hdur⟩ := partDuration_eq_ok_iff.1 hd
  have hown : (rawField s (p.held? v)).mapError SetupError.config = .ok raw := by
    rw [hraw]
    rfl
  rw [settings_of_isSection hget hv]
  unfold partDuration
  cases p with
  | delay =>
    simp only [Part.other, hown, bind, Except.bind, hdur]
    cases rawField s (Part.rate.held? v) with
    | error e => rfl
    | ok rawRate =>
      cases c.durationOr (s ++ "." ++ Part.rate.field) rawRate Part.rate.fallback <;> rfl
  | rate =>
    simp only [Part.other, hown, bind, Except.bind, hdur]
    cases rawField s (Part.delay.held? v) with
    | error e => rfl
    | ok rawDelay =>
      cases c.durationOr (s ++ "." ++ Part.delay.field) rawDelay Part.delay.fallback <;> rfl

/-- **A text that is known** in an annotation: what becomes of it depends on the other one alone. -/
theorem annotated_of_part {ε ω : Type} {own : String} (caretaker : Caretaker ε ω)
    (typeName other : String) (hd : c.duration p.parameter own = .ok d) :
    SchedulerBuilder.annotated caretaker typeName (p.annotation own other) c =
      (c.duration p.other.parameter other).map fun e =>
        (SchedulerBuilder.ofCaretaker caretaker typeName).withSettings (p.settings d e) := by
  cases p with
  | delay =>
    replace hd : c.duration "initial_delay" own = .ok d := hd
    simp only [SchedulerBuilder.annotated, Part.annotation, hd]
    rfl
  | rate =>
    replace hd : c.duration "fixed_rate" own = .ok d := hd
    simp only [SchedulerBuilder.annotated, Part.annotation, hd, Part.other, Part.parameter]
    cases c.duration "initial_delay" other <;> rfl

end Config

end Vigil
