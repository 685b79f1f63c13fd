import Vigil.Config.Placeholder

/-!
# Scheduler settings

The delay before the first firing and the time between firings, with their defaults of ten
seconds and one second, read from a section of the configuration.
-/

namespace Vigil

open Config

/-- The timing of a periodic scheduler. -/
structure Settings where
  initialDelay : Duration
  rate : Duration
  deriving DecidableEq

namespace Settings

/-- The delay before the first firing if nothing else is said. -/
def defaultInitialDelay : Duration := .ofMillis 10000

/-- The time between firings if nothing else is said. -/
def defaultRate : Duration := .ofMillis 1000

/-- The timing if nothing else is said. -/
def default : Settings := ⟨defaultInitialDelay, defaultRate⟩

end Settings

namespace Config

/-- The texts of a section's two fields, as far as they are given. -/
structure RawSettings where
  initialDelay : Option String
  rate : Option String
  deriving DecidableEq

/-- A field of a section as text; one that is missing or nil is not given. Diagnostics name the
section, not the field. -/
def rawField (sectionKey : String) : Option Value → Except ConfigError (Option String)
  | none => .ok none
  | some (.scalar _ s) => .ok s.asText?
  | some v => .error (.notText v sectionKey)

/-- The fields of the value found at a section's key: of a table by name, of an array by place. -/
def rawSettings (sectionKey : String) : Value → Except ConfigError RawSettings
  | .table _ entries => do
    let initialDelay ← rawField sectionKey (entries.lookup "initial_delay")
    let rate ← rawField sectionKey (entries.lookup "rate")
    pure ⟨initialDelay, rate⟩
  | .array _ [] => .error (.shortSection 0 sectionKey)
  | .array _ [v] => do
    -- An item that is no text is found before the array is found too short.
    let _ ← rawField sectionKey (some v)
    .error (.shortSection 1 sectionKey)
  | .array _ (v :: w :: _) => do
    let initialDelay ← rawField sectionKey (some v)
    let rate ← rawField sectionKey (some w)
    pure ⟨initialDelay, rate⟩
  | .scalar _ s => .error (.notSection s sectionKey)

/-- The fields of the section at a key; a section that is not there gives none. -/
def rawSection (c : Config) (sectionKey : String) : Except ConfigError RawSettings :=
  match c.get sectionKey with
  | .ok v => rawSettings sectionKey v
  | .error (.missing _) => .ok ⟨none, none⟩
  | .error e => .error e

/-- A field as a duration, or its default if it is not given. -/
def durationOr (c : Config) (key : String) (field : Option String) (fallback : Duration) :
    Except SetupError Duration :=
  match field with
  | some value => c.duration key value
  | none => .ok fallback

/-- The settings in the section at a key, defaults filled in. -/
def settings (c : Config) (sectionKey : String) : Except SetupError Settings := do
  let raw ← (c.rawSection sectionKey).mapError .config
  let initialDelay ←
    c.durationOr (sectionKey ++ ".initial_delay") raw.initialDelay Settings.defaultInitialDelay
  let rate ← c.durationOr (sectionKey ++ ".rate") raw.rate Settings.defaultRate
  pure ⟨initialDelay, rate⟩

end Config

end Vigil
