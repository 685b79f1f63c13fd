import Vigil.Proofs.Schedule.Building
import Mathlib.Logic.Basic

/-!
# Chains of setters

A builder of schedulers is begun with a caretaker, and setters change it one after the other. A
setter writes one field or two, so what a chain comes to is said field by field.

* `get?_set`: what one setter leaves in a field.
* `get?_setAll`: **what a chain leaves in a field**: the last that was written to it, or what the
  builder began with.
* `setAll_swap`: setters of different fields trade places anywhere in a chain.
* `Scheduler.Built.exists_chain`: every scheduler is built by some chain.
* `chain_outcome`: the scheduler that a chain builds, which error it is otherwise, what is logged,
  and that no scheduler has a rate of zero or begins armed.
-/

namespace Vigil

namespace SchedulerBuilder

/-! ## Fields and setters -/

/-- What setters write. -/
inductive Field
  | initialDelay
  | rate
  | name
  | runtime
  deriving DecidableEq

/-- What is written to a field. -/
abbrev Field.Value : Field → Type
  | initialDelay => Duration
  | rate => Duration
  | name => String
  | runtime => Runtime

/-- A call in a chain. -/
inductive Setter
  | initialDelay (d : Duration)
  | rate (d : Duration)
  | settings (s : Settings)
  | name (text : String)
  | runtime (r : Runtime)
  deriving DecidableEq

/-- What a setter writes to a field, if it does. -/
def Setter.write? : (f : Field) → Setter → Option f.Value
  | .initialDelay, .initialDelay d => some d
  | .initialDelay, .settings s => some s.initialDelay
  | .rate, .rate d => some d
  | .rate, .settings s => some s.rate
  | .name, .name text => some text
  | .runtime, .runtime r => some r
  | _, _ => none

/-- No field is written by both setters. -/
def Setter.Apart (s t : Setter) : Prop := ∀ f, s.write? f = none ∨ t.write? f = none

/-- The last that a chain writes to a field. -/
def lastWrite? (f : Field) (ss : List Setter) : Option f.Value :=
  ss.reverse.findSome? (Setter.write? f)

variable {ε ω : Type} (b : SchedulerBuilder ε ω) {f : Field} {ss : List Setter}

/-- What a field of a builder holds; the runtime may be left open. -/
def get? : (f : Field) → Option f.Value
  | .initialDelay => some b.settings.initialDelay
  | .rate => some b.settings.rate
  | .name => some b.name
  | .runtime => b.runtime

/-- The builder after a call. -/
def set : Setter → SchedulerBuilder ε ω
  | .initialDelay d => b.withInitialDelay d
  | .rate d => b.withRate d
  | .settings s => b.withSettings s
  | .name text => b.withName text
  | .runtime r => b.withRuntime r

/-- The builder after a chain of calls. -/
def setAll (ss : List Setter) : SchedulerBuilder ε ω := ss.foldl set b

/-- A builder is its caretaker and its fields. -/
theorem ext_get? {b b' : SchedulerBuilder ε ω} (hcaretaker : b.caretaker = b'.caretaker)
    (hfields : ∀ f, b.get? f = b'.get? f) : b = b' := by
  obtain ⟨c, name, ⟨initialDelay, rate⟩, runtime⟩ := b
  obtain ⟨c', name', ⟨initialDelay', rate'⟩, runtime'⟩ := b'
  obtain rfl : c = c' := hcaretaker
  obtain rfl : initialDelay = initialDelay' := Option.some.inj (hfields .initialDelay)
  obtain rfl : rate = rate' := Option.some.inj (hfields .rate)
  obtain rfl : name = name' := Option.some.inj (hfields .name)
  obtain rfl : runtime = runtime' := hfields .runtime
  rfl

@[simp] theorem caretaker_set (s : Setter) : (b.set s).caretaker = b.caretaker := by
  cases s <;> rfl

/-- **What one setter leaves in a field.** -/
theorem get?_set (f : Field) (s : Setter) : (b.set s).get? f = (s.write? f).or (b.get? f) := by
  cases s <;> cases f <;> rfl

/-! ## Chains -/

theorem lastWrite?_cons (f : Field) (s : Setter) (ss : List Setter) :
    lastWrite? f (s :: ss) = (lastWrite? f ss).or (s.write? f) := by
  simp [lastWrite?, List.findSome?_append]

theorem lastWrite?_eq_none_iff : lastWrite? f ss = none ↔ ∀ s ∈ ss, s.write? f = none := by
  simp [lastWrite?, List.findSome?_eq_none_iff]

/-- The last write is one that no other follows. -/
theorem lastWrite?_eq_some_iff {v : f.Value} :
    lastWrite? f ss = some v ↔ ∃ before s after, ss = before ++ s :: after ∧
      s.write? f = some v ∧ ∀ t ∈ after, t.write? f = none := by
  unfold lastWrite?
  rw [List.findSome?_eq_some_iff]
  constructor
  · rintro ⟨after, s, before, hss, hs, hafter⟩
    refine ⟨before.reverse, s, after.reverse, ?_, hs, by simpa using hafter⟩
    rw [← ss.reverse_reverse, hss]
    simp
  · rintro ⟨before, s, after, rfl, hs, hafter⟩
    exact ⟨after.reverse, s, before.reverse, by simp, hs, by simpa using hafter⟩

/-- No runtime is written just when none is supplied. -/
theorem lastWrite?_runtime_eq_none_iff :
    lastWrite? .runtime ss = none ↔ ∀ r, Setter.runtime r ∉ ss := by
  rw [lastWrite?_eq_none_iff]
  constructor
  · intro h r hr
    cases h _ hr
  · intro h s hs
    cases s with
    | runtime r => exact absurd hs (h r)
    | initialDelay | rate | settings | name => rfl

theorem caretaker_setAll (ss : List Setter) : (b.setAll ss).caretaker = b.caretaker := by
  induction ss generalizing b with
  | nil => rfl
  | cons s ss ih => exact (ih (b.set s)).trans (b.caretaker_set s)

/-- **What a chain leaves in a field.** -/
theorem get?_setAll (f : Field) (ss : List Setter) :
    (b.setAll ss).get? f = (lastWrite? f ss).or (b.get? f) := by
  -- the builder is what the calls so far have made of it, so it changes along the chain
  induction ss generalizing b with
  | nil => rfl
  | cons s ss ih =>
    calc (b.setAll (s :: ss)).get? f = (lastWrite? f ss).or ((b.set s).get? f) := ih _
      _ = (lastWrite? f (s :: ss)).or (b.get? f) := by
        rw [get?_set, lastWrite?_cons, Option.or_assoc]

/-- What a chain leaves in a field that always holds something. -/
theorem eq_getD_lastWrite? (f : Field) {v v' : f.Value} (hb : b.get? f = some v)
    (hafter : (b.setAll ss).get? f = some v') : v' = (lastWrite? f ss).getD v := by
  rw [get?_setAll, hb, Option.or_some] at hafter
  exact (Option.some.inj hafter).symm

/-- Setters of different fields commute. -/
theorem set_comm {s t : Setter} (h : s.Apart t) : (b.set s).set t = (b.set t).set s := by
  refine ext_get? (by simp) fun f => ?_
  rw [get?_set, get?_set, get?_set, get?_set]
  rcases h f with hs | ht
  · simp [hs]
  · simp [ht]

/-- **Setters of different fields trade places** anywhere in a chain. -/
theorem setAll_swap {s t : Setter} (h : s.Apart t) (before after : List Setter) :
    b.setAll (before ++ t :: s :: after) = b.setAll (before ++ s :: t :: after) := by
  unfold setAll
  simp only [List.foldl_append, List.foldl_cons]
  rw [set_comm _ h]

/-! ## Building -/

variable {current : Option Runtime}

theorem build_eq_zeroRate_iff :
    b.build current = .error .zeroRate ↔ b.settings.rate = .zero := by
  rcases b.build_cases current with ⟨hrate, hb⟩ | ⟨hrate, -, hb⟩ | ⟨hrate, _, -, hb⟩ <;>
    simp [hb, hrate]

theorem build_eq_noRuntime_iff : b.build current = .error .noRuntime ↔
    b.settings.rate ≠ .zero ∧ b.runtime.or current = none := by
  rcases b.build_cases current with ⟨hrate, hb⟩ | ⟨hrate, hruntime, hb⟩ | ⟨hrate, r, hruntime, hb⟩
  · simp [hb, hrate]
  · simp only [hb, hrate, hruntime, ne_eq, not_false_eq_true, and_self]
  · rw [hb, hruntime]
    simp

theorem build_eq_error {e : SetupError} (h : b.build current = .error e) :
    e = .zeroRate ∨ e = .noRuntime := by
  rcases b.build_cases current with ⟨-, hb⟩ | ⟨-, -, hb⟩ | ⟨_, _, -, hb⟩
  · rw [hb] at h
    cases h
    exact .inl rfl
  · rw [hb] at h
    cases h
    exact .inr rfl
  · rw [hb] at h
    cases h

theorem exists_build_iff : (∃ built, b.build current = .ok built) ↔
    b.settings.rate ≠ .zero ∧ b.runtime.or current ≠ none := by
  rcases b.build_cases current with ⟨hrate, hb⟩ | ⟨hrate, hruntime, hb⟩ | ⟨hrate, r, hruntime, hb⟩
  · simp [hb, hrate]
  · simp [hb, hruntime]
  · rw [hb, hruntime]
    simpa using hrate

/-- **What a scheduler is like that was built.** -/
theorem build_eq_ok {s : Scheduler ε ω} {entry : Log.Entry}
    (h : b.build current = .ok (s, entry)) :
    s.caretaker = b.caretaker ∧ s.settings = b.settings ∧ s.name = b.name ∧
      some s.runtime = b.runtime.or current ∧ b.settings.rate ≠ .zero ∧ entry = s.builtEntry := by
  rcases b.build_cases current with ⟨-, hb⟩ | ⟨-, -, hb⟩ | ⟨hrate, r, hruntime, hb⟩
  · rw [hb] at h
    cases h
  · rw [hb] at h
    cases h
  · rw [hb] at h
    cases h
    exact ⟨rfl, rfl, rfl, hruntime.symm, hrate, rfl⟩

/-- What a builder can begin with: a caretaker, kept by others or not, with the default timing, or
an annotated one whose timing is resolved. -/
inductive Start : SchedulerBuilder ε ω → Prop
  | ofCaretaker (c : Caretaker ε ω) (typeName : String) : Start (.ofCaretaker c typeName)
  | annotated {c : Caretaker ε ω} {typeName : String} {a : AnnotatedTiming} {config : Config}
      {b : SchedulerBuilder ε ω} (h : annotated c typeName a config = .ok b) : Start b

/-- The builder of an annotated caretaker is the plain one with the two durations. -/
theorem annotated_eq_ok {c : Caretaker ε ω} {typeName : String} {a : AnnotatedTiming}
    {config : Config} {b : SchedulerBuilder ε ω} (h : annotated c typeName a config = .ok b) :
    ∃ initialDelay rate, config.duration "initial_delay" a.initialDelay = .ok initialDelay ∧
      config.duration "fixed_rate" a.fixedRate = .ok rate ∧
      b = (ofCaretaker c typeName).withSettings ⟨initialDelay, rate⟩ := by
  unfold annotated at h
  cases hdelay : config.duration "initial_delay" a.initialDelay with
  | error e =>
    rw [hdelay] at h
    cases h
  | ok initialDelay =>
    cases hrate : config.duration "fixed_rate" a.fixedRate with
    | error e =>
      rw [hdelay, hrate] at h
      cases h
    | ok rate =>
      rw [hdelay, hrate] at h
      cases h
      exact ⟨initialDelay, rate, rfl, rfl, rfl⟩

/-- No runtime is supplied to begin with. -/
theorem Start.runtime_eq_none {b : SchedulerBuilder ε ω} (hb : b.Start) : b.runtime = none := by
  cases hb with
  | ofCaretaker c typeName => rfl
  | annotated h =>
    obtain ⟨_, _, -, -, rfl⟩ := annotated_eq_ok h
    rfl

end SchedulerBuilder

open SchedulerBuilder

variable {ε ω : Type} {current : Option Runtime}

/-- The schedulers that there are, with the entries that their building logs. -/
inductive Scheduler.Built (current : Option Runtime) : Scheduler ε ω → Log.Entry → Prop
  | ofCaretaker {c : Caretaker ε ω} {typeName : String} {s : Scheduler ε ω} {entry : Log.Entry}
      (h : Scheduler.ofCaretaker c typeName current = .ok (s, entry)) : Built current s entry
  | annotated {c : Caretaker ε ω} {typeName : String} {a : AnnotatedTiming} {config : Config}
      {s : Scheduler ε ω} {entry : Log.Entry}
      (h : Scheduler.annotated c typeName a config current = .ok (s, entry)) :
      Built current s entry
  | chain {b : SchedulerBuilder ε ω} (hb : b.Start) (ss : List Setter) {s : Scheduler ε ω}
      {entry : Log.Entry} (h : (b.setAll ss).build current = .ok (s, entry)) :
      Built current s entry

/-- **Every scheduler is built by some chain.** -/
theorem Scheduler.Built.exists_chain {s : Scheduler ε ω} {entry : Log.Entry}
    (h : s.Built current entry) : ∃ b : SchedulerBuilder ε ω, b.Start ∧
      ∃ ss, (b.setAll ss).build current = .ok (s, entry) := by
  cases h with
  | ofCaretaker h => exact ⟨_, .ofCaretaker _ _, [], h⟩
  | @annotated c typeName a config _ _ h =>
    unfold Scheduler.annotated at h
    cases hb : SchedulerBuilder.annotated c typeName a config with
    | error e =>
      rw [hb] at h
      cases h
    | ok b =>
      rw [hb] at h
      exact ⟨b, .annotated hb, [], h⟩
  | chain hb ss h => exact ⟨_, hb, ss, h⟩

namespace SchedulerBuilder

/-- **Chains.** For every builder as it begins, every chain of setters and every current runtime:

* a scheduler that is built has in each field what was written to it last, or else what the builder
  began with, and it runs on the runtime supplied last, or else on the current one; this timing is
  logged, once;
* building fails for a rate of zero just when the last rate is zero, whatever the runtime, and not
  because of a zero that was overwritten; otherwise for want of a runtime just when none was
  supplied and none is current; it does not fail in any other way, and then logs nothing;
* setters of different fields trade places.

So no scheduler, however it is built, has a rate of zero or begins armed. -/
theorem chain_outcome {b : SchedulerBuilder ε ω} (hb : b.Start) (ss : List Setter)
    (current : Option Runtime) :
    let built := (b.setAll ss).build current
    let rate := (lastWrite? .rate ss).getD b.settings.rate
    (∀ s entry, built = .ok (s, entry) →
      s.caretaker = b.caretaker ∧
      s.settings.initialDelay = (lastWrite? .initialDelay ss).getD b.settings.initialDelay ∧
      s.settings.rate = rate ∧
      s.name = (lastWrite? .name ss).getD b.name ∧
      some s.runtime = (lastWrite? .runtime ss).or current ∧
      Scheduler.logged built = [⟨.info, "Building periodic scheduler",
        [("caretaker", s.name), ("initial_delay", s.settings.initialDelay.render),
          ("rate", s.settings.rate.render)]⟩]) ∧
    ((∃ s, built = .ok s) ↔
      rate ≠ .zero ∧ ((∃ r, .runtime r ∈ ss) ∨ current ≠ none)) ∧
    (built = .error .zeroRate ↔ rate = .zero) ∧
    (∀ before s after d, ss = before ++ s :: after → s.write? .rate = some d → d ≠ .zero →
      (∀ t ∈ after, t.write? .rate = none) → built ≠ .error .zeroRate) ∧
    (built = .error .noRuntime ↔
      rate ≠ .zero ∧ (∀ r, .runtime r ∉ ss) ∧ current = none) ∧
    (∀ e, built = .error e → (e = .zeroRate ∨ e = .noRuntime) ∧ Scheduler.logged built = []) ∧
    (∀ before s t after, ss = before ++ s :: t :: after → s.Apart t →
      b.setAll (before ++ t :: s :: after) = b.setAll ss) ∧
    ∀ (s : Scheduler ε ω) entry, s.Built current entry →
      0 < s.settings.rate.totalNanos ∧
      ∀ w, (Session.idle s w).state.isArmed = false ∧ (Session.idle s w).state.loops = [] := by
  intro built rate
  have hrate : (b.setAll ss).settings.rate = rate := b.eq_getD_lastWrite? .rate rfl rfl
  have hruntime : (b.setAll ss).runtime = lastWrite? .runtime ss := by
    calc (b.setAll ss).runtime = (lastWrite? .runtime ss).or b.runtime := b.get?_setAll .runtime ss
      _ = lastWrite? .runtime ss := by rw [hb.runtime_eq_none, Option.or_none]
  have hless : (b.setAll ss).runtime.or current = none ↔
      (∀ r, Setter.runtime r ∉ ss) ∧ current = none := by
    rw [hruntime, Option.or_eq_none_iff, lastWrite?_runtime_eq_none_iff]
  have hzero : built = .error .zeroRate ↔ rate = .zero := by
    rw [← hrate]
    exact build_eq_zeroRate_iff _
  have hnone : built = .error .noRuntime ↔
      rate ≠ .zero ∧ (∀ r, Setter.runtime r ∉ ss) ∧ current = none := by
    rw [← hrate, ← hless]
    exact build_eq_noRuntime_iff _
  refine ⟨?built, ?ok, hzero, ?overwritten, hnone, ?failed, ?swap, ?all⟩
  case built =>
    intro s entry h
    obtain ⟨hcaretaker, hsettings, hname, hs, -, rfl⟩ := build_eq_ok _ h
    refine ⟨hcaretaker.trans (b.caretaker_setAll ss), ?_, ?_, ?_, ?_, ?_⟩
    · rw [hsettings]
      exact b.eq_getD_lastWrite? .initialDelay rfl rfl
    · rw [hsettings, hrate]
    · rw [hname]
      exact b.eq_getD_lastWrite? .name rfl rfl
    · rw [hs, hruntime]
    · rw [show built = .ok (s, s.builtEntry) from h]
      rfl
  case ok =>
    have hsome : (b.setAll ss).runtime.or current ≠ none ↔
        (∃ r, Setter.runtime r ∈ ss) ∨ current ≠ none := by
      rw [ne_eq, hless, not_and_or, not_forall_not]
    rw [← hrate, ← hsome]
    exact exists_build_iff _
  case overwritten =>
    rintro before s after d rfl hs hd hafter herror
    have hlast : lastWrite? .rate (before ++ s :: after) = some d :=
      lastWrite?_eq_some_iff.2 ⟨before, s, after, rfl, hs, hafter⟩
    have hrate : rate = d := congrArg (Option.getD · b.settings.rate) hlast
    exact hd (hrate ▸ hzero.1 herror)
  case failed =>
    intro e h
    refine ⟨build_eq_error _ h, ?_⟩
    rw [show built = .error e from h]
    rfl
  case swap =>
    rintro before s t after rfl h
    exact b.setAll_swap h before after
  case all =>
    intro s entry h
    obtain ⟨b', -, ss', hbuilt⟩ := h.exists_chain
    obtain ⟨-, hsettings, -, -, hne, -⟩ := build_eq_ok _ hbuilt
    refine ⟨?_, fun w => ⟨rfl, rfl⟩⟩
    rw [hsettings]
    exact Duration.totalNanos_pos hne

/-- The builder of a caretaker that is annotated with a rate of zero. -/
def halted : SchedulerBuilder Unit Unit :=
  (ofCaretaker ⟨fun _ _ w => ⟨[], w, some []⟩⟩ "demo::Halted").withSettings ⟨.ofMillis 250, .zero⟩

theorem halted_start : halted.Start := by
  have h : annotated (⟨fun _ _ w => ⟨[], w, some []⟩⟩ : Caretaker Unit Unit) "demo::Halted"
      ⟨"250ms", "0"⟩ .empty = .ok halted := rfl
  exact .annotated h

/-- Its rate of zero, and another one, are overwritten; a rate of zero that is not; and no
runtime. -/
theorem overwritten_zero_built :
    halted.Start ∧
    (∃ s entry, (halted.setAll [.rate .zero, .name "a", .runtime .gone,
        .settings ⟨.ofMillis 5, .ofMillis 20⟩, .initialDelay .zero, .name "b",
        .runtime .live]).build none = .ok (s, entry) ∧
      s.settings.initialDelay = .zero ∧ s.settings.rate = .ofMillis 20 ∧ s.name = "b" ∧
      some s.runtime = some .live) ∧
    (halted.setAll [.rate (.ofMillis 1), .settings ⟨.zero, .zero⟩]).build none =
      .error .zeroRate ∧
    (halted.setAll [.rate (.ofMillis 1)]).build none = .error .noRuntime := by
  refine ⟨halted_start, ?_, ?_, ?_⟩
  · obtain ⟨hbuilt, hok, -⟩ := chain_outcome halted_start [.rate .zero, .name "a",
      .runtime .gone, .settings ⟨.ofMillis 5, .ofMillis 20⟩, .initialDelay .zero, .name "b",
      .runtime .live] none
    obtain ⟨⟨s, entry⟩, h⟩ := hok.2 ⟨by decide, .inl ⟨.live, by decide⟩⟩
    obtain ⟨-, hdelay, hrate, hname, hruntime, -⟩ := hbuilt s entry h
    exact ⟨s, entry, h, hdelay, hrate, hname, hruntime⟩
  · obtain ⟨-, -, hzero, -⟩ :=
      chain_outcome halted_start [.rate (.ofMillis 1), .settings ⟨.zero, .zero⟩] none
    exact hzero.2 (by decide)
  · obtain ⟨-, -, -, -, hnone, -⟩ := chain_outcome halted_start [.rate (.ofMillis 1)] none
    exact hnone.2 ⟨by decide, by simp, rfl⟩

end SchedulerBuilder

end Vigil
