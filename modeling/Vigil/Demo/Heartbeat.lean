import Vigil.Probe.Caretaker
import Vigil.Schedule.Session

/-!
# The heartbeat demo

A pulse that prints the time, a heartbeat that watches a channel, and the channel, which goes down
and comes up again every three seconds, all on one thread until an interrupt.

* `Heartbeat.run`: what is printed and logged up to the end, for each time of the interrupt.
-/

namespace Vigil.Heartbeat

/-- A printed line. -/
inductive Line
  | prompt
  | pulse (millis : Nat)
  | channel (up : Bool)
  | lost
  deriving DecidableEq

/-- The text of a line. -/
def Line.render : Line → String
  | prompt => "Press Ctrl+C to stop..."
  | pulse millis => "[" ++ Text.Decimal.natural millis ++ " ms] pulse"
  | channel up => "channel is now " ++ if up then "up" else "down"
  | lost => "connection lost, would reconnect here"

/-- A channel that is up or down, for every context alike. -/
structure Channel where
  up : Bool
  deriving DecidableEq

/-- The channel as the owner of the connections. -/
def Channel.source : StatusSource Line Channel where
  isConnected _ c := ⟨some c.up, [], c⟩

/-- The other state. -/
def Channel.flip (c : Channel) : Channel := ⟨!c.up⟩

/-- The check of the channel for a context. -/
def check (context : String) : ActiveChannelCheck Line Channel := ⟨Channel.source, context⟩

/-- The monitor of the channel: at each failed check a line is printed. -/
def monitor : ConnectionMonitor Line Channel where
  check := (check "default").toSanityCheck
  onInvalid c := ⟨true, [.lost], c⟩

/-- The pulse: each firing prints the time. -/
def pulse : Caretaker Line Unit where
  run _ now w := ⟨[.seen (.pulse now)], w, some []⟩

/-- The timing of the pulse, as annotated. -/
def pulseTiming : AnnotatedTiming := ⟨"500ms", "$\x7bdemo.pulse_rate:1s\x7d"⟩

/-- The pulse's scheduler, before it is built. -/
def pulseBuilder : Except SetupError (SchedulerBuilder Line Unit) :=
  SchedulerBuilder.annotated pulse "heartbeat::Pulse" pulseTiming .empty

/-- The heartbeat's scheduler, before it is built. -/
def heartbeatBuilder : SchedulerBuilder Line (Watched Channel) :=
  ((SchedulerBuilder.ofCaretaker monitor.caretaker
      "sentinel_runtime::probe::monitor::ConnectionMonitor").withInitialDelay
    (.ofSecsClamped 1)).withRate (.ofMillis 500)

/-- The two schedulers. -/
structure Schedulers where
  pulse : Scheduler Line Unit
  heartbeat : Scheduler Line (Watched Channel)

/-- The state of all that runs; the channel is part of the heartbeat's world. -/
structure World where
  pulse : Scheduler.State Unit
  heartbeat : Scheduler.State (Watched Channel)

/-- What is seen of a scheduler, less what only it knows. -/
def shown (trace : List (Event (Sight Line))) : List (Event Line) :=
  trace.filterMap fun
    | .log entry => some (.log entry)
    | .seen (.own line) => some (.seen line)
    | .seen _ => none

/-- The task that fires the pulse. -/
def pulseTask : Nat := 0

/-- The task that fires the heartbeat. -/
def heartbeatTask : Nat := 1

/-- The task that flips the channel. -/
def flipTask : Nat := 2

/-- The milliseconds between two flips. -/
def flipSpan : Nat := 3000

/-- A turn of the flipping task: it begins with a wait, and flips the channel after each one. -/
def flip (now : Nat) (w : World) : Polled (Event Line) World :=
  if now = 0 then ⟨[], [], .untilTime flipSpan, w⟩
  else
    let watched := w.heartbeat.world
    let channel := watched.world.flip
    ⟨[.seen (.channel channel.up)], [], .untilTime (now + flipSpan),
      { w with heartbeat := { w.heartbeat with world := { watched with world := channel } } }⟩

/-- A turn of a task. Each scheduler has one firing loop, its first. -/
def poll (s : Schedulers) (now task : Nat) (w : World) : Polled (Event Line) World :=
  if task = pulseTask then
    let p := s.pulse.pollTask now 0 w.pulse
    ⟨shown p.seen, [], p.rest, { w with pulse := p.world }⟩
  else if task = heartbeatTask then
    let p := s.heartbeat.pollTask now 0 w.heartbeat
    ⟨shown p.seen, [], p.rest, { w with heartbeat := p.world }⟩
  else flip now w

/-- Turns that suffice at one instant: one for each task. -/
def turns : Nat := 8

/-- The run of two schedulers up to the interrupt. -/
def runWith (s : Schedulers) (interrupt : Nat) : List (Event Line) :=
  let p := s.pulse.start (.initial ())
  let h := s.heartbeat.start (.initial ⟨0, ⟨true⟩⟩)
  let again := s.heartbeat.start h.state
  let world : World := ⟨p.state, again.state⟩
  let agenda := Agenda.empty.wake [pulseTask, heartbeatTask, flipTask]
  let (agenda, first, world) := Agenda.settle (poll s) turns agenda world
  let (_, seen, world) := Agenda.advance (poll s) turns interrupt agenda world
  let hStop := s.heartbeat.stop world.heartbeat
  let pStop := s.pulse.stop world.pulse
  let pAgain := s.pulse.stop pStop.state
  [.log p.entry, .log h.entry, .log again.entry, .seen .prompt] ++ first ++ seen ++
    [.log hStop.entry, .log pStop.entry, .log pAgain.entry]

/-- **The demo** interrupted so many milliseconds after its start. -/
def run (interrupt : Nat) : Except SetupError (List (Event Line)) := do
  let (pulse, pulseEntry) ← (← pulseBuilder).build (some .live)
  let (heartbeat, heartbeatEntry) ← heartbeatBuilder.build (some .live)
  pure (.log pulseEntry :: .log heartbeatEntry :: runWith ⟨pulse, heartbeat⟩ interrupt)

end Vigil.Heartbeat
