import Vigil.Config.Settings
import Vigil.Schedule.Annotation
import Vigil.Schedule.Caretaker

/-!
# Periodic schedulers

A scheduler runs one caretaker at a fixed rate until it is stopped.

* `SchedulerBuilder.build`: a scheduler, unless the rate is zero or there is no runtime.
* `Scheduler.start`, `Scheduler.stop`: arm and disarm; a call that finds nothing to do changes
  nothing, logs a warning and answers `false`.
* `Scheduler.State.loops`: every firing loop that was ever spawned; stopping aborts one.
-/

namespace Vigil

/-- The runtime that firing loops are spawned on. What is spawned on one that is gone never
runs. -/
inductive Runtime
  | live
  | gone
  deriving DecidableEq

/-- A scheduler: what it drives, its name in diagnostics, its timing and its runtime. -/
structure Scheduler (ε ω : Type) where
  caretaker : Caretaker ε ω
  name : String
  settings : Settings
  runtime : Runtime
  rate_ne_zero : settings.rate ≠ Duration.zero

/-- Where a firing loop stands between two polls. Instants are in nanoseconds of the clock; `tick`
counts the ticks of the loop and `due` is the scheduled instant of the next one. -/
inductive Phase
  /-- Spawned, and not polled yet. -/
  | fresh
  /-- Waiting for a tick. -/
  | waiting (tick due : Nat)
  /-- Asleep within a firing until the clock shows so many milliseconds. -/
  | asleep (firing wake : Nat) (rest : List Action) (tick due : Nat)
  /-- Within a firing, letting others run. -/
  | yielded (firing : Nat) (rest : List Action) (tick due : Nat)
  /-- Never to run again. -/
  | ended
  deriving DecidableEq

/-- The firing in which a loop is suspended. -/
def Phase.firing? : Phase → Option Nat
  | asleep firing _ _ _ _ => some firing
  | yielded firing _ _ _ => some firing
  | _ => none

/-- A loop that was spawned, and whether it has been told to end. -/
structure FiringLoop where
  phase : Phase
  aborted : Bool
  deriving DecidableEq

namespace Scheduler

/-- A scheduler's history so far: its current loop while it is armed, all loops, the number of
firings begun, and the caretaker's world. -/
structure State (ω : Type) where
  slot : Option Nat
  dropped : Bool
  loops : List FiringLoop
  fired : Nat
  world : ω

/-- How a call ends: its answer, the entry it logs, the loops to be polled and the state after. -/
structure Answer (ω : Type) where
  reply : Bool
  entry : Log.Entry
  woken : List Nat
  state : State ω

variable {ε ω : Type}

/-- A scheduler that has never been armed. -/
def State.initial (w : ω) : State ω := ⟨none, false, [], 0, w⟩

/-- Whether the scheduler is armed. -/
def State.isArmed (st : State ω) : Bool := st.slot.isSome

/-- The state with one loop told to end. -/
def State.abort (st : State ω) (id : Nat) : State ω :=
  { st with loops := st.loops.modify id fun l => { l with aborted := true } }

/-- The field of log entries that names the caretaker. -/
def nameField (s : Scheduler ε ω) : String × String := ("caretaker", s.name)

/-- The fields of log entries that give the timing. -/
def timingFields (s : Settings) : List (String × String) :=
  [("initial_delay", s.initialDelay.render), ("rate", s.rate.render)]

/-- **Arm the schedule** with a loop of its own. -/
def start (s : Scheduler ε ω) (st : State ω) : Answer ω :=
  match st.slot with
  | some _ => ⟨false, ⟨.warn, s.name ++ " already scheduled.", [s.nameField]⟩, [], st⟩
  | none =>
    let id := st.loops.length
    let phase : Phase := match s.runtime with
      | .live => .fresh
      | .gone => .ended
    ⟨true, ⟨.info, "Scheduler armed", s.nameField :: timingFields s.settings⟩, [id],
      { st with slot := some id, loops := st.loops ++ [⟨phase, false⟩] }⟩

/-- **Disarm the schedule.** A firing in progress is interrupted where it next waits. -/
def stop (s : Scheduler ε ω) (st : State ω) : Answer ω :=
  match st.slot with
  | some id =>
    ⟨true, ⟨.info, "Scheduler disarmed", [s.nameField]⟩, [id], { st.abort id with slot := none }⟩
  | none => ⟨false, ⟨.warn, s.name ++ " already stopped.", [s.nameField]⟩, [], st⟩

/-- The scheduler given up: its loop is told to end, without a word. Returns the loops to be
polled. -/
def State.drop (st : State ω) : List Nat × State ω :=
  match st.slot with
  | some id => ([id], { st.abort id with slot := none, dropped := true })
  | none => ([], { st with dropped := true })

/-- A scheduler in one line. -/
def render (s : Scheduler ε ω) (armed : Bool) : String :=
  "PeriodicScheduler \x7b caretaker: " ++ Text.Quoted.display s.name ++
    ", settings: SchedulerSettings \x7b initial_delay: " ++ s.settings.initialDelay.render ++
    ", rate: " ++ s.settings.rate.render ++ " \x7d, armed: " ++ Config.Scalar.word armed ++ " \x7d"

/-- A scheduler on lines of its own. -/
def renderLines (s : Scheduler ε ω) (armed : Bool) : String :=
  "\n".intercalate
    ["PeriodicScheduler \x7b",
      "    caretaker: " ++ Text.Quoted.display s.name ++ ",",
      "    settings: SchedulerSettings \x7b",
      "        initial_delay: " ++ s.settings.initialDelay.render ++ ",",
      "        rate: " ++ s.settings.rate.render ++ ",",
      "    \x7d,",
      "    armed: " ++ Config.Scalar.word armed ++ ",",
      "\x7d"]

end Scheduler

/-- The last part of a type's full name, without its parameters. -/
def shortTypeName (full : String) : String :=
  let plain := full.toList.takeWhile (· != '<')
  String.ofList (plain.reverse.takeWhile (· != ':')).reverse

/-- What is said of a scheduler before it is built. -/
structure SchedulerBuilder (ε ω : Type) where
  caretaker : Caretaker ε ω
  name : String
  settings : Settings
  runtime : Option Runtime

namespace SchedulerBuilder

variable {ε ω : Type}

/-- A caretaker of the named type, with the default timing. -/
def ofCaretaker (c : Caretaker ε ω) (typeName : String) : SchedulerBuilder ε ω :=
  ⟨c, shortTypeName typeName, .default, none⟩

/-- Another name for diagnostics. -/
def withName (b : SchedulerBuilder ε ω) (name : String) : SchedulerBuilder ε ω :=
  { b with name := name }

/-- Another delay before the first firing. -/
def withInitialDelay (b : SchedulerBuilder ε ω) (d : Duration) : SchedulerBuilder ε ω :=
  { b with settings := { b.settings with initialDelay := d } }

/-- Another time between firings. -/
def withRate (b : SchedulerBuilder ε ω) (d : Duration) : SchedulerBuilder ε ω :=
  { b with settings := { b.settings with rate := d } }

/-- Another timing. -/
def withSettings (b : SchedulerBuilder ε ω) (s : Settings) : SchedulerBuilder ε ω :=
  { b with settings := s }

/-- The runtime to spawn on, instead of the current one. -/
def withRuntime (b : SchedulerBuilder ε ω) (r : Runtime) : SchedulerBuilder ε ω :=
  { b with runtime := some r }

/-- A caretaker with the timing of its type's annotation, placeholders resolved. -/
def annotated (c : Caretaker ε ω) (typeName : String) (a : AnnotatedTiming) (config : Config) :
    Except SetupError (SchedulerBuilder ε ω) := do
  let initialDelay ← config.duration "initial_delay" a.initialDelay
  let rate ← config.duration "fixed_rate" a.fixedRate
  pure ((ofCaretaker c typeName).withSettings ⟨initialDelay, rate⟩)

/-- **The scheduler** with the entry that its building logs. The rate is looked at before the
runtime, which is the current one if none was given. -/
def build (b : SchedulerBuilder ε ω) (current : Option Runtime) :
    Except SetupError (Scheduler ε ω × Log.Entry) :=
  if h : b.settings.rate = .zero then .error .zeroRate
  else
    match b.runtime.or current with
    | none => .error .noRuntime
    | some runtime =>
      let s : Scheduler ε ω := ⟨b.caretaker, b.name, b.settings, runtime, h⟩
      .ok (s, ⟨.info, "Building periodic scheduler",
        s.nameField :: Scheduler.timingFields b.settings⟩)

end SchedulerBuilder

/-- The scheduler of a caretaker of the named type, with the default timing and on the current
runtime, and the entry that its building logs. -/
def Scheduler.ofCaretaker {ε ω : Type} (c : Caretaker ε ω) (typeName : String)
    (current : Option Runtime) : Except SetupError (Scheduler ε ω × Log.Entry) :=
  (SchedulerBuilder.ofCaretaker c typeName).build current

/-- **The scheduler of an annotated caretaker** with the entry that its building logs, on the
current runtime. -/
def Scheduler.annotated {ε ω : Type} (c : Caretaker ε ω) (typeName : String) (a : AnnotatedTiming)
    (config : Config) (current : Option Runtime) :
    Except SetupError (Scheduler ε ω × Log.Entry) := do
  let builder ← SchedulerBuilder.annotated c typeName a config
  builder.build current

end Vigil
