import Vigil.Proofs.Config.KeyPath
import Vigil.Proofs.Config.Placeholder
import Vigil.Schedule.Session

/-!
# How schedulers are built

An annotated timing goes through four stages: it is resolved, read as durations, its rate looked
at, and then the runtime. What can stand against it at each stage is said here on its own, and the
scheduler fails with the first that does.

* `SchedulerBuilder.build_cases`: what building comes to.
* `objections`: what can stand against an annotated timing, in order.
* `annotated_cases`: **the scheduler of an annotated caretaker, or the first objection to it**.
* `annotated_outcome`: success and what was built, which error it is otherwise, what is logged, and
  that placeholders are resolved one level deep.
-/

namespace Vigil

open Config Placeholder

namespace Config

variable (c : Config)

/-- The duration that a timing means. -/
def meaning (value : String) : Option Duration := (c.resolve value).toOption.bind Shorthand.read?

/-- A timing cannot be resolved. -/
def unresolved (value : String) : Option SetupError :=
  match c.resolve value with
  | .error e => some (.config e)
  | .ok _ => none

/-- A timing is resolved to a text that is no duration. -/
def unreadable (key value : String) : Option SetupError :=
  match c.resolve value with
  | .error _ => none
  | .ok text => if Shorthand.read? text = none then some (.invalidDuration key text) else none

/-- A timing means no time at all. -/
def instantaneous (value : String) : Option SetupError :=
  if c.meaning value = some .zero then some .zeroRate else none

theorem meaning_eq_some_iff {value : String} {d : Duration} :
    c.meaning value = some d ↔
      ∃ text, c.resolve value = .ok text ∧ Shorthand.read? text = some d := by
  unfold meaning
  cases c.resolve value <;> simp [Except.toOption]

theorem instantaneous_eq_none_iff {value : String} {d : Duration} (h : c.meaning value = some d) :
    c.instantaneous value = none ↔ d ≠ .zero := by
  simp [instantaneous, h]

/-- A timing is resolved and readable just when it means some duration. -/
theorem unresolved_unreadable_eq_none_iff (key value : String) :
    c.unresolved value = none ∧ c.unreadable key value = none ↔ ∃ d, c.meaning value = some d := by
  unfold unresolved unreadable meaning
  cases hresolve : c.resolve value with
  | error e => simp [Except.toOption]
  | ok text => simp [Except.toOption, Option.ne_none_iff_exists']

/-- A placeholder that stands for one is resolved, and not readable. -/
theorem objection_of_shaped (key : String) {value text : String} {p : Placeholder}
    (hp : Placeholder.read? value = some p) (h : c.Gives p text) (hshaped : Shaped text) :
    c.unresolved value = none ∧ c.unreadable key value = some (.invalidDuration key text) := by
  have hresolve : c.resolve value = .ok text := (resolve_of_read? hp).trans (lookup_eq_ok_iff.2 h)
  unfold unresolved unreadable
  rw [hresolve]
  exact ⟨rfl, if_pos (Shorthand.read?_eq_none_of_shaped hshaped)⟩

/-- **The duration of a timing**, or the first that stands against it. -/
theorem duration_cases (key value : String) :
    (∃ e, c.unresolved value = some e ∧ c.duration key value = .error e) ∨
    (c.unresolved value = none ∧
      ∃ e, c.unreadable key value = some e ∧ c.duration key value = .error e) ∨
    (c.unresolved value = none ∧ c.unreadable key value = none ∧
      ∃ d, c.meaning value = some d ∧ c.duration key value = .ok d) := by
  unfold unresolved unreadable meaning
  cases hresolve : c.resolve value with
  | error e =>
    refine .inl ⟨_, rfl, ?_⟩
    unfold duration
    rw [hresolve]
  | ok text =>
    rw [duration_of_resolve key hresolve]
    cases hread : Shorthand.read? text with
    | none => exact .inr (.inl ⟨rfl, _, if_pos hread, rfl⟩)
    | some d => exact .inr (.inr ⟨rfl, if_neg (by simp [hread]), d, hread, rfl⟩)

end Config

/-- The entry that the building of a scheduler logs. -/
def Scheduler.builtEntry {ε ω : Type} (s : Scheduler ε ω) : Log.Entry :=
  ⟨.info, "Building periodic scheduler", s.nameField :: timingFields s.settings⟩

/-- **What building comes to.** -/
theorem SchedulerBuilder.build_cases {ε ω : Type} (b : SchedulerBuilder ε ω)
    (current : Option Runtime) :
    (b.settings.rate = .zero ∧ b.build current = .error .zeroRate) ∨
    (b.settings.rate ≠ .zero ∧ b.runtime.or current = none ∧
      b.build current = .error .noRuntime) ∨
    ∃ (hrate : b.settings.rate ≠ .zero) (runtime : Runtime), b.runtime.or current = some runtime ∧
      let s : Scheduler ε ω := ⟨b.caretaker, b.name, b.settings, runtime, hrate⟩
      b.build current = .ok (s, s.builtEntry) := by
  unfold build
  by_cases hrate : b.settings.rate = .zero
  · exact .inl ⟨hrate, dif_pos hrate⟩
  · rw [dif_neg hrate]
    cases hruntime : b.runtime.or current with
    | none => exact .inr (.inl ⟨hrate, rfl, rfl⟩)
    | some runtime => exact .inr (.inr ⟨hrate, runtime, rfl, rfl⟩)

namespace Scheduler

variable {ε ω : Type} (c : Caretaker ε ω) (typeName : String) (a : AnnotatedTiming)
  (config : Config) (current : Option Runtime)

/-- No runtime is there to spawn on. -/
def runtimeless : Option SetupError := if current = none then some .noRuntime else none

/-- What can stand against an annotated timing, in order. -/
def objections : List (Option SetupError) :=
  [config.unresolved a.initialDelay, config.unreadable "initial_delay" a.initialDelay,
    config.unresolved a.fixedRate, config.unreadable "fixed_rate" a.fixedRate,
    config.instantaneous a.fixedRate, runtimeless current]

/-- **The scheduler of an annotated caretaker**, or the first objection to it. -/
theorem annotated_cases :
    (∃ e, (objections a config current).findSome? id = some e ∧
      annotated c typeName a config current = .error e) ∨
    ((objections a config current).findSome? id = none ∧
      ∃ initialDelay rate runtime, ∃ hrate : rate ≠ Duration.zero,
        config.meaning a.initialDelay = some initialDelay ∧
        config.meaning a.fixedRate = some rate ∧ current = some runtime ∧
        let s : Scheduler ε ω := ⟨c, shortTypeName typeName, ⟨initialDelay, rate⟩, runtime, hrate⟩
        annotated c typeName a config current = .ok (s, s.builtEntry)) := by
  unfold annotated SchedulerBuilder.annotated objections
  rcases config.duration_cases "initial_delay" a.initialDelay with
    ⟨e, he, hd⟩ | ⟨hres, e, he, hd⟩ | ⟨hres, hread, initialDelay, hdelay, hd⟩
  · rw [hd]
    exact .inl ⟨e, by simp [he], rfl⟩
  · rw [hd]
    exact .inl ⟨e, by simp [hres, he], rfl⟩
  rw [hd]
  rcases config.duration_cases "fixed_rate" a.fixedRate with
    ⟨e, he, hr⟩ | ⟨hres', e, he, hr⟩ | ⟨hres', hread', rate, hrate, hr⟩
  · rw [hr]
    exact .inl ⟨e, by simp [hres, hread, he], rfl⟩
  · rw [hr]
    exact .inl ⟨e, by simp [hres, hread, hres', he], rfl⟩
  rw [hr]
  -- the builder has no runtime of its own, so the current one decides
  rcases ((SchedulerBuilder.ofCaretaker c typeName).withSettings ⟨initialDelay, rate⟩).build_cases
    current with ⟨hzero, hb⟩ | ⟨hne, hruntime, hb⟩ | ⟨hne, runtime, hruntime, hb⟩
  · have hinst : config.instantaneous a.fixedRate = some .zeroRate :=
      if_pos (hrate.trans (congrArg some hzero))
    exact .inl ⟨.zeroRate, by simp [hres, hread, hres', hread', hinst], hb⟩
  · have hinst := (config.instantaneous_eq_none_iff hrate).2 hne
    have hless : runtimeless current = some .noRuntime := if_pos hruntime
    exact .inl ⟨.noRuntime, by simp [hres, hread, hres', hread', hinst, hless], hb⟩
  · have hinst := (config.instantaneous_eq_none_iff hrate).2 hne
    have hless : runtimeless current = none := by
      rw [show current = some runtime from hruntime]
      rfl
    exact .inr ⟨by simp [hres, hread, hres', hread', hinst, hless],
      initialDelay, rate, runtime, hne, hdelay, hrate, hruntime, hb⟩

/-- Nothing stands against a timing of two durations, the second not zero, on a runtime. -/
theorem objections_eq_none_iff :
    (objections a config current).findSome? id = none ↔
      (∃ d, config.meaning a.initialDelay = some d) ∧
      (∃ d, config.meaning a.fixedRate = some d ∧ d ≠ .zero) ∧ current ≠ none := by
  have hdelay := config.unresolved_unreadable_eq_none_iff "initial_delay" a.initialDelay
  have hrate := config.unresolved_unreadable_eq_none_iff "fixed_rate" a.fixedRate
  have hruntime : runtimeless current = none ↔ current ≠ none := by simp [runtimeless]
  simp only [objections, List.findSome?_eq_none_iff, List.forall_mem_cons, id]
  constructor
  · rintro ⟨hres, hread, hres', hread', hinst, hless, -⟩
    obtain ⟨rate, hmeans⟩ := hrate.1 ⟨hres', hread'⟩
    have hne := (config.instantaneous_eq_none_iff hmeans).1 hinst
    exact ⟨hdelay.1 ⟨hres, hread⟩, ⟨rate, hmeans, hne⟩, hruntime.1 hless⟩
  · rintro ⟨hmeans, ⟨rate, hmeans', hne⟩, hsome⟩
    obtain ⟨hres, hread⟩ := hdelay.2 hmeans
    obtain ⟨hres', hread'⟩ := hrate.2 ⟨rate, hmeans'⟩
    have hinst := (config.instantaneous_eq_none_iff hmeans').2 hne
    exact ⟨hres, hread, hres', hread', hinst, hruntime.2 hsome, by simp⟩

theorem annotated_eq_error_iff {e : SetupError} :
    annotated c typeName a config current = .error e ↔
      (objections a config current).findSome? id = some e := by
  rcases annotated_cases c typeName a config current with
    ⟨e', hfirst, hr⟩ | ⟨hnone, _, _, _, _, _, _, _, hr⟩
  · rw [hr, hfirst]
    simp
  · rw [hr, hnone]
    simp

/-- What an annotated scheduler is like. -/
theorem annotated_eq_ok {s : Scheduler ε ω} {entry : Log.Entry}
    (h : annotated c typeName a config current = .ok (s, entry)) :
    s.caretaker = c ∧ s.name = shortTypeName typeName ∧
      config.meaning a.initialDelay = some s.settings.initialDelay ∧
      config.meaning a.fixedRate = some s.settings.rate ∧ current = some s.runtime ∧
      entry = s.builtEntry := by
  rcases annotated_cases c typeName a config current with
    ⟨e, -, hr⟩ | ⟨-, _, _, _, _, hdelay, hrate, hruntime, hr⟩
  · rw [hr] at h
    cases h
  · rw [hr] at h
    cases h
    exact ⟨rfl, rfl, hdelay, hrate, hruntime, rfl⟩

theorem exists_annotated_iff :
    (∃ built, annotated c typeName a config current = .ok built) ↔
      (objections a config current).findSome? id = none := by
  rcases annotated_cases c typeName a config current with
    ⟨e, hfirst, hr⟩ | ⟨hnone, _, _, _, _, _, _, _, hr⟩
  · rw [hr, hfirst]
    simp
  · rw [hr, hnone]
    simp

/-- What the making of a scheduler logs. -/
def logged : Except SetupError (Scheduler ε ω × Log.Entry) → List Log.Entry
  | .ok (_, entry) => [entry]
  | .error _ => []

/-- **The scheduler of an annotated caretaker.** For every timing, configuration and runtime:

* it is made just when both timings stand for texts that are durations, the rate is not zero and
  there is a runtime; it is then disarmed, has the two durations and logs that it is built;
* it fails with an error just when that is the first objection, and logs nothing;
* a placeholder stands for a text of the configuration or its default, whatever that looks like; if
  it looks like a placeholder too, that text is no duration. -/
theorem annotated_outcome :
    ((∃ built, annotated c typeName a config current = .ok built) ↔
      ∃ textDelay textRate initialDelay rate,
        config.resolve a.initialDelay = .ok textDelay ∧ config.resolve a.fixedRate = .ok textRate ∧
        Shorthand.read? textDelay = some initialDelay ∧ Shorthand.read? textRate = some rate ∧
        rate ≠ .zero ∧ current ≠ none) ∧
    (∀ s entry, annotated c typeName a config current = .ok (s, entry) →
      s.caretaker = c ∧ s.name = shortTypeName typeName ∧
      config.meaning a.initialDelay = some s.settings.initialDelay ∧
      config.meaning a.fixedRate = some s.settings.rate ∧ current = some s.runtime ∧
      (∀ w, (Session.idle s w).state.isArmed = false) ∧
      logged (annotated c typeName a config current) = [s.builtEntry]) ∧
    (∀ e, annotated c typeName a config current = .error e ↔
      (objections a config current).findSome? id = some e) ∧
    (∀ e, annotated c typeName a config current = .error e →
      logged (annotated c typeName a config current) = []) ∧
    (∀ value p text, Placeholder.read? value = some p →
      (config.resolve value = .ok text ↔ config.Gives p text)) ∧
    (∀ p text, Placeholder.read? a.initialDelay = some p → config.Gives p text → Shaped text →
      annotated c typeName a config current = .error (.invalidDuration "initial_delay" text)) ∧
    (∀ p text, Placeholder.read? a.fixedRate = some p → config.Gives p text → Shaped text →
      (∃ d, config.meaning a.initialDelay = some d) →
      annotated c typeName a config current = .error (.invalidDuration "fixed_rate" text)) := by
  refine ⟨?ok, ?built, fun e => annotated_eq_error_iff .., ?unlogged, ?given, ?delay, ?rate⟩
  case ok =>
    rw [exists_annotated_iff, objections_eq_none_iff]
    simp only [meaning_eq_some_iff]
    constructor
    · rintro ⟨⟨delay, textDelay, hres, hread⟩, ⟨rate, ⟨textRate, hres', hread'⟩, hne⟩, hsome⟩
      exact ⟨textDelay, textRate, delay, rate, hres, hres', hread, hread', hne, hsome⟩
    · rintro ⟨textDelay, textRate, delay, rate, hres, hres', hread, hread', hne, hsome⟩
      exact ⟨⟨delay, textDelay, hres, hread⟩, ⟨rate, ⟨textRate, hres', hread'⟩, hne⟩, hsome⟩
  case built =>
    intro s entry h
    obtain ⟨hcaretaker, hname, hdelay, hrate, hruntime, rfl⟩ := annotated_eq_ok _ _ _ _ _ h
    exact ⟨hcaretaker, hname, hdelay, hrate, hruntime, fun _ => rfl, by rw [h]; rfl⟩
  case unlogged =>
    intro e h
    rw [h]
    rfl
  case given =>
    intro value p text hp
    rw [resolve_of_read? hp, lookup_eq_ok_iff]
  case delay =>
    intro p text hp hgives hshaped
    obtain ⟨hres, hread⟩ := objection_of_shaped config "initial_delay" hp hgives hshaped
    rw [annotated_eq_error_iff]
    simp [objections, hres, hread]
  case rate =>
    intro p text hp hgives hshaped hdelay
    obtain ⟨hres, hread⟩ :=
      (config.unresolved_unreadable_eq_none_iff "initial_delay" a.initialDelay).2 hdelay
    obtain ⟨hres', hread'⟩ := objection_of_shaped config "fixed_rate" hp hgives hshaped
    rw [annotated_eq_error_iff]
    simp [objections, hres, hread, hres', hread']

-- A value that is a placeholder for itself, with no runtime to spawn on.
example : annotated c "Probe" ⟨"$\x7ba\x7d", "0"⟩
    ⟨.table none [("a", .scalar none (.text "$\x7ba\x7d"))]⟩ none =
      .error (.invalidDuration "initial_delay" "$\x7ba\x7d") := by
  have hpath : KeyPath.read? "a" = some [.name "a"] :=
    KeyPath.read?_of_readName? (by decide) KeyPath.readSteps?_nil
  have hgives : Gives ⟨.table none [("a", .scalar none (.text "$\x7ba\x7d"))]⟩ ⟨"a", none⟩
      "$\x7ba\x7d" := by
    refine .inl ?_
    unfold getText Config.get
    rw [hpath]
    rfl
  obtain ⟨hres, hread⟩ := objection_of_shaped _ "initial_delay"
    (show Placeholder.read? "$\x7ba\x7d" = some ⟨"a", none⟩ by decide) hgives (by decide)
  rw [annotated_eq_error_iff]
  simp [objections, hres, hread]

end Scheduler

end Vigil
