import Vigil.Demo.Heartbeat
import Vigil.Proofs.Config.Placeholder
import Vigil.Proofs.Config.Variable
import Vigil.Proofs.Schedule.Immediate
import Vigil.Proofs.Task.Turns

/-!
# The heartbeat demo as a whole

The demo always starts, and what it shows up to the interrupt stands between a fixed prologue and
the entries of the stops.

* `course`: what its three tasks show up to the interrupt, and the world at that time.
* `course_keeps`: what every turn preserves holds of it.
* `run_eq`: **the output of the demo**, put together from it.
-/

namespace Vigil.Heartbeat

open Scheduler

/-! ## Firings -/

/-- The schedulers drive the pulse and the monitor, by these names. -/
structure Schedulers.Named (s : Schedulers) : Prop where
  pulse : s.pulse.caretaker = Heartbeat.pulse
  pulse_name : s.pulse.name = "Pulse"
  heartbeat : s.heartbeat.caretaker = monitor.caretaker
  heartbeat_name : s.heartbeat.name = "ConnectionMonitor"

variable {s : Schedulers}

theorem pulse_immediate : pulse.Immediate := by
  intro firing now w steps hsteps
  exact .inl (Option.some.inj hsteps).symm

/-- A firing of the monitor. -/
theorem monitor_fire (c : Watched Channel) :
    monitor.fire c =
      if c.world.up then
        ⟨true, if c.failures = 0 then [] else [.log (ConnectionMonitor.recoveredEntry c.failures)],
          ⟨0, c.world⟩⟩
      else ⟨true, [.log (ConnectionMonitor.failedEntry (c.failures + 1)), .seen .lost],
        ⟨c.failures + 1, c.world⟩⟩ := by
  obtain ⟨failures, ⟨up⟩⟩ := c
  cases up <;> rfl

theorem shown_append (tr es : List (Event (Sight Line))) :
    shown (tr ++ es) = shown tr ++ shown es := List.filterMap_append

theorem shown_own (seen : List (Event Line)) : shown (seen.map ownEvent) = seen := by
  induction seen with
  | nil => rfl
  | cons e seen ih => cases e <;> exact congrArg (_ :: ·) ih

/-- A firing that returns at once shows its entry and what the caretaker shows. -/
theorem shown_episode {ω : Type} {s : Scheduler Line ω} {firing now : Nat} {w : ω}
    (h : (s.caretaker.run firing now w).steps = some []) (id tick : Nat) :
    shown (s.episode now id tick firing w) =
      .log s.firingEntry :: (s.caretaker.run firing now w).seen := by
  have hopening : shown [.log s.firingEntry, .seen (.began id tick firing now)] =
      [.log s.firingEntry] := rfl
  have hclosing : shown (s.closing firing now (some [])) = [] := rfl
  have hepisode : s.episode now id tick firing w =
      [.log s.firingEntry, .seen (.began id tick firing now)] ++
        (s.caretaker.run firing now w).seen.map ownEvent ++ s.closing firing now (some []) := by
    unfold episode
    rw [h]
    rfl
  rw [hepisode, shown_append, shown_append, hopening, shown_own, hclosing, List.append_nil]
  rfl

/-- The entry for a firing of the monitor. -/
def checkEntry : Log.Entry := ⟨.debug, "Firing caretaker", [("caretaker", "ConnectionMonitor")]⟩

theorem Schedulers.Named.checkEntry_eq (hs : s.Named) : s.heartbeat.firingEntry = checkEntry := by
  simp [firingEntry, nameField, checkEntry, hs.heartbeat_name]

theorem Schedulers.Named.pulseEntry_ne (hs : s.Named) : s.pulse.firingEntry ≠ checkEntry := by
  simp [firingEntry, nameField, checkEntry, hs.pulse_name]

/-- A firing of the pulse shows its entry and the time. -/
theorem Schedulers.Named.shown_pulse (hs : s.Named) (now id tick firing : Nat) (w : Unit) :
    shown (s.pulse.episode now id tick firing w) =
      [.log s.pulse.firingEntry, .seen (.pulse now)] := by
  have hrun : s.pulse.caretaker.run firing now w = ⟨[.seen (.pulse now)], w, some []⟩ := by
    rw [hs.pulse]
    rfl
  rw [shown_episode (by rw [hrun]), hrun]

/-- A firing of the monitor's scheduler is one of the monitor. -/
theorem Schedulers.Named.heartbeat_run (hs : s.Named) (firing now : Nat) (c : Watched Channel) :
    s.heartbeat.caretaker.run firing now c =
      ⟨(monitor.fire c).seen, (monitor.fire c).world, some []⟩ := by
  have hreply : (monitor.fire c).reply = true := by
    rw [monitor_fire]
    split <;> rfl
  rw [hs.heartbeat]
  simp only [ConnectionMonitor.caretaker, hreply, if_true]

/-- It shows its entry and what the monitor shows. -/
theorem Schedulers.Named.shown_heartbeat (hs : s.Named) (now id tick firing : Nat)
    (c : Watched Channel) : shown (s.heartbeat.episode now id tick firing c) =
      .log checkEntry :: (monitor.fire c).seen := by
  have hrun := hs.heartbeat_run firing now c
  rw [shown_episode (by rw [hrun]), hrun, hs.checkEntry_eq]

/-! ## Between the start and the interrupt -/

/-- The world in which the tasks begin. -/
def World.begin (s : Schedulers) : World :=
  ⟨(s.pulse.start (.initial ())).state, (s.heartbeat.start (.initial ⟨0, ⟨true⟩⟩)).state⟩

/-- **What the tasks show up to the interrupt**, and the world at that time. -/
def course (s : Schedulers) (interrupt : Nat) : List (Event Line) × World :=
  let first := Agenda.settle (poll s) turns (Agenda.empty.wake [pulseTask, heartbeatTask, flipTask])
    (World.begin s)
  let later := Agenda.advance (poll s) turns interrupt first.1 first.2.2
  (first.2.1 ++ later.2.1, later.2.2)

/-- **What every turn preserves** holds at the interrupt. -/
theorem course_keeps {K : World → List (Event Line) → Prop} (hK : Agenda.TurnKeeps (poll s) K)
    (h : K (World.begin s) []) (interrupt : Nat) :
    K (course s interrupt).2 (course s interrupt).1 := by
  let first := Agenda.settle (poll s) turns (Agenda.empty.wake [pulseTask, heartbeatTask, flipTask])
    (World.begin s)
  have hfirst : K first.2.2 first.2.1 := Agenda.settle_keeps hK turns _ (World.begin s) [] h
  exact Agenda.advance_keeps hK turns interrupt first.1 first.2.2 first.2.1 hfirst

/-- What is logged and printed before the first turn. -/
def prologue (s : Schedulers) : List (Event Line) :=
  [.log ⟨.info, "Scheduler armed", s.pulse.nameField :: timingFields s.pulse.settings⟩,
    .log ⟨.info, "Scheduler armed", s.heartbeat.nameField :: timingFields s.heartbeat.settings⟩,
    .log ⟨.warn, s.heartbeat.name ++ " already scheduled.", [s.heartbeat.nameField]⟩,
    .seen .prompt]

/-- What is logged after the interrupt. -/
def epilogue (s : Schedulers) : List (Event Line) :=
  [.log ⟨.info, "Scheduler disarmed", [s.heartbeat.nameField]⟩,
    .log ⟨.info, "Scheduler disarmed", [s.pulse.nameField]⟩,
    .log ⟨.warn, s.pulse.name ++ " already stopped.", [s.pulse.nameField]⟩]

/-- Stopped with both schedulers armed, a run ends with the epilogue. -/
theorem runWith_eq {interrupt : Nat} (hpulse : (course s interrupt).2.pulse.slot = some 0)
    (hheartbeat : (course s interrupt).2.heartbeat.slot = some 0) :
    runWith s interrupt = prologue s ++ (course s interrupt).1 ++ epilogue s := by
  have hends : [.log (s.heartbeat.stop (course s interrupt).2.heartbeat).entry,
      .log (s.pulse.stop (course s interrupt).2.pulse).entry,
      .log (s.pulse.stop (s.pulse.stop (course s interrupt).2.pulse).state).entry] =
        epilogue s := by
    simp only [stop, hpulse, hheartbeat]
    rfl
  rw [← hends]
  unfold course
  rw [← List.append_assoc]
  rfl

/-! ## The schedulers of the demo -/

/-- Nothing is configured, so the pulse has its default rate. -/
theorem duration_pulse_rate :
    Config.empty.duration "fixed_rate" pulseTiming.fixedRate = .ok (.ofSecsClamped 1) := by
  have hread : Placeholder.read? pulseTiming.fixedRate = some ⟨"demo.pulse_rate", some "1s"⟩ := by
    rfl
  have hmissing : Config.empty.getText "demo.pulse_rate" = .error (.missing "demo.pulse_rate") :=
    @Config.getText_spell .empty ["demo", "pulse_rate"] (by decide) (by decide)
  have hresolve : Config.empty.resolve pulseTiming.fixedRate = .ok "1s" := by
    rw [Config.resolve_of_read? hread, Config.lookup, hmissing]
  rw [Config.duration_of_resolve "fixed_rate" hresolve]
  rfl

theorem pulseBuilder_eq :
    pulseBuilder = .ok ⟨pulse, "Pulse", ⟨.ofMillis 500, .ofSecsClamped 1⟩, none⟩ := by
  have hdelay : Config.empty.duration "initial_delay" pulseTiming.initialDelay =
      .ok (.ofMillis 500) := by rfl
  have hname : shortTypeName "heartbeat::Pulse" = "Pulse" := by decide
  unfold pulseBuilder SchedulerBuilder.annotated
  simp only [hdelay, duration_pulse_rate, SchedulerBuilder.ofCaretaker, hname]
  rfl

theorem heartbeatBuilder_eq :
    heartbeatBuilder = ⟨monitor.caretaker, "ConnectionMonitor",
      ⟨.ofSecsClamped 1, .ofMillis 500⟩, none⟩ := by
  have hname : shortTypeName "sentinel_runtime::probe::monitor::ConnectionMonitor" =
      "ConnectionMonitor" := by decide
  unfold heartbeatBuilder SchedulerBuilder.ofCaretaker
  rw [hname]
  rfl

/-- The schedulers of the demo. -/
def demo : Schedulers :=
  ⟨⟨pulse, "Pulse", ⟨.ofMillis 500, .ofSecsClamped 1⟩, .live, by decide⟩,
    ⟨monitor.caretaker, "ConnectionMonitor", ⟨.ofSecsClamped 1, .ofMillis 500⟩, .live, by decide⟩⟩

theorem named_demo : demo.Named := ⟨rfl, rfl, rfl, rfl⟩

/-- The entry for the building of a scheduler. -/
def buildEntry {ω : Type} (s : Scheduler Line ω) : Log.Entry :=
  ⟨.info, "Building periodic scheduler", s.nameField :: timingFields s.settings⟩

/-- **The demo always starts.** -/
theorem run_eq (interrupt : Nat) :
    run interrupt = .ok (.log (buildEntry demo.pulse) :: .log (buildEntry demo.heartbeat) ::
      runWith demo interrupt) := by
  unfold run
  rw [pulseBuilder_eq, heartbeatBuilder_eq]
  rfl

end Vigil.Heartbeat
