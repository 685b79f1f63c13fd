import Vigil.Schedule.Poll
import Vigil.Task.Agenda

/-!
# A scheduler on its runtime

A scheduler together with the clock and the firing loops that were spawned for it: calls from
outside, each followed by everything that can run then, and the passing of time.
-/

namespace Vigil

/-- What a loop waits for. -/
def Phase.rest : Phase → Rest
  | waiting _ due => .untilTime (Clock.millisUp due)
  | asleep _ wake _ _ _ => .untilTime wake
  | yielded _ _ _ _ => .yielding
  | fresh | ended => .over

/-- A poll of a firing loop as the turn of a task. -/
def Scheduler.pollTask {ε ω : Type} (s : Scheduler ε ω) (now id : Nat) (st : Scheduler.State ω) :
    Polled (Event (Sight ε)) (Scheduler.State ω) :=
  let r := s.poll now id st
  ⟨r.seen, r.woken, r.phase.rest, r.state⟩

/-- A scheduler at work. -/
structure Session (ε ω : Type) where
  scheduler : Scheduler ε ω
  state : Scheduler.State ω
  agenda : Agenda

namespace Session

variable {ε ω : Type}

/-- A scheduler just built. -/
def idle (s : Scheduler ε ω) (w : ω) : Session ε ω := ⟨s, .initial w, .empty⟩

/-- Everything that can run now does. -/
def settle (v : Session ε ω) (fuel : Nat) : Session ε ω × List (Event (Sight ε)) :=
  let (agenda, seen, state) := Agenda.settle v.scheduler.pollTask fuel v.agenda v.state
  ({ v with agenda := agenda, state := state }, seen)

/-- The calls made one after the other, without anything running in between: their answers. -/
def calls (v : Session ε ω) : List Call → Session ε ω × List Bool × List (Event (Sight ε))
  | [] => (v, [], [])
  | c :: rest =>
    let (reply, entries, woken, state) : Bool × List Log.Entry × List Nat × Scheduler.State ω :=
      match c with
      | .start =>
        let a := v.scheduler.start v.state
        (a.reply, [a.entry], a.woken, a.state)
      | .stop =>
        let a := v.scheduler.stop v.state
        (a.reply, [a.entry], a.woken, a.state)
      | .isArmed => (v.state.isArmed, [], [], v.state)
    let (v, replies, seen) :=
      calls { v with state := state, agenda := v.agenda.wake woken } rest
    (v, reply :: replies, entries.map Event.log ++ seen)

/-- Calls from outside, and then everything that can run. -/
def call (v : Session ε ω) (fuel : Nat) (cs : List Call) :
    Session ε ω × List Bool × List (Event (Sight ε)) :=
  let (v, replies, seen) := v.calls cs
  let (v, later) := v.settle fuel
  (v, replies, seen ++ later)

/-- The scheduler given up. -/
def drop (v : Session ε ω) (fuel : Nat) : Session ε ω × List (Event (Sight ε)) :=
  let (woken, state) := v.state.drop
  ({ v with state := state, agenda := v.agenda.wake woken }).settle fuel

/-- So many milliseconds pass. -/
def advance (v : Session ε ω) (fuel millis : Nat) : Session ε ω × List (Event (Sight ε)) :=
  let (agenda, seen, state) :=
    Agenda.advance v.scheduler.pollTask fuel (v.agenda.now + millis) v.agenda v.state
  ({ v with agenda := agenda, state := state }, seen)

end Session

end Vigil
