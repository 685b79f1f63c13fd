/-!
# Tasks on one thread

Tasks take turns: those that can run do so first in, first out, each until it has to wait, and
tasks that let others run come after all of those. When nothing can run any more, the clock may
go on to the next timer; timers of one instant go off in the order in which they were set.

* `Agenda.settle`: everything that can run at the current instant runs.
* `Agenda.advance`: the clock goes on, through all timers on the way.
-/

namespace Vigil

/-- How a task that was polled goes on. -/
inductive Rest
  /-- It waits until the clock shows so many milliseconds. -/
  | untilTime (millis : Nat)
  /-- It lets others run first. -/
  | yielding
  | over
  deriving DecidableEq

/-- What a poll of a task leaves: what was seen, the tasks that can run now, how the task goes on,
and the world. -/
structure Polled (ε ω : Type) where
  seen : List ε
  woken : List Nat
  rest : Rest
  world : ω

/-- A timer of a task. -/
structure Timer where
  millis : Nat
  task : Nat
  deriving DecidableEq

/-- Which tasks can run, which do so after all others, and the timers in the order in which they
were set. -/
structure Agenda where
  now : Nat
  ready : List Nat
  yielded : List Nat
  timers : List Timer
  deriving DecidableEq

namespace Agenda

/-- Nothing to do, at the beginning of time. -/
def empty : Agenda := ⟨0, [], [], []⟩

/-- Tasks that can run now, behind those that already could. -/
def wake (a : Agenda) (tasks : List Nat) : Agenda := { a with ready := a.ready ++ tasks }

/-- The agenda after a task was polled: its old timer is gone. -/
def noteRest (a : Agenda) (task : Nat) (r : Rest) : Agenda :=
  let timers := a.timers.filter (·.task != task)
  match r with
  | .untilTime millis => { a with timers := timers ++ [⟨millis, task⟩] }
  | .yielding => { a with timers := timers, yielded := a.yielded ++ [task] }
  | .over => { a with timers := timers }

variable {ε ω : Type}

/-- Everything that can run at the current instant runs, in at most `fuel` turns. -/
def settle (poll : (now task : Nat) → ω → Polled ε ω) : Nat → Agenda → ω → Agenda × List ε × ω
  | 0, a, w => (a, [], w)
  | fuel + 1, a, w =>
    match a.ready with
    | task :: ready =>
      let p := poll a.now task w
      let a := (({ a with ready := ready }).wake p.woken).noteRest task p.rest
      let (a, seen, w) := settle poll fuel a p.world
      (a, p.seen ++ seen, w)
    | [] =>
      -- Those that let others run take their turns only now.
      match a.yielded with
      | [] => (a, [], w)
      | tasks => settle poll fuel { a with ready := tasks, yielded := [] } w

/-- The time of the next timer to go off after now. -/
def nextTime? (a : Agenda) : Option Nat :=
  ((a.timers.map (·.millis)).filter (a.now < ·)).min?

/-- The clock set on, and the tasks woken whose timers are reached by then. -/
def reach (a : Agenda) (millis : Nat) : Agenda :=
  { a with
    now := millis
    ready := a.ready ++ (a.timers.filter (·.millis ≤ millis)).map (·.task)
    timers := a.timers.filter (millis < ·.millis) }

/-- The clock goes on to `target`, through all timers on the way. -/
def advance (poll : (now task : Nat) → ω → Polled ε ω) (fuel target : Nat) (a : Agenda) (w : ω) :
    Agenda × List ε × ω :=
  match a.nextTime? with
  | some millis =>
    if _h : a.now < millis ∧ millis ≤ target then
      let (b, seen, w) := settle poll fuel (a.reach millis) w
      if _hb : a.now < b.now then
        let (b, later, w) := advance poll fuel target b w
        (b, seen ++ later, w)
      else (b, seen, w)
    else ({ a with now := max a.now target }, [], w)
  | none => ({ a with now := max a.now target }, [], w)
  termination_by target - a.now
  decreasing_by omega

end Agenda

end Vigil
