import Vigil.Schedule.Scheduler

/-!
# Polling a firing loop

A firing loop waits for its first tick, fires, and waits for the next one. The first tick is
scheduled at the instant of the first poll plus the initial delay, every other one a rate after
the scheduled instant of the one before, so that ticks missed during a slow firing follow at once.

* `Scheduler.drive`: a loop runs until it has to wait.
* `Scheduler.poll`: one poll of a loop; a loop told to end goes no further than to its next wait.

Instants are in nanoseconds, the clock shows whole milliseconds, and a tick is due once the clock
shows its instant or more.
-/

namespace Vigil

/-- How a firing ends. -/
inductive Ending
  | returned
  | crashed
  /-- Crashed before its first step. -/
  | crashedAtOnce
  /-- Interrupted at a wait. -/
  | cancelled
  deriving DecidableEq

/-- What is seen of a scheduler at work, with the time in milliseconds. -/
inductive Sight (ε : Type)
  | began (loop tick firing time : Nat)
  | own (observation : ε)
  | answered (c : Call) (answer : Option Bool)
  | finished (firing : Nat) (ending : Ending) (time : Nat)
  deriving DecidableEq

namespace Clock

/-- Nanoseconds in a millisecond of the clock. -/
def milli : Nat := 1000000

/-- The instant at which the clock comes to show so many milliseconds. -/
@[irreducible] def instant (now : Nat) : Nat := now * milli

theorem instant_eq (now : Nat) : instant now = now * 1000000 := by unfold instant milli; rfl

/-- The first instant that cannot be represented. -/
def horizon : Nat := 9223372036854775808 * 1000000000

/-- How late a tick may be, in nanoseconds, without counting as missed. -/
def grace : Nat := 5000000

/-- A span that stands for a wait without end: thirty years. -/
def farSpan : Nat := 86400 * 365 * 30 * 1000000000

theorem farSpan_pos : 0 < farSpan := by decide

/-- The first whole millisecond at or after an instant. -/
def millisUp (instant : Nat) : Nat := (instant + (milli - 1)) / milli

theorem millisUp_le_iff {due now : Nat} : millisUp due ≤ now ↔ due ≤ instant now := by
  rw [instant_eq]; unfold millisUp milli; omega

end Clock

namespace Settings

/-- The scheduled instant of the first tick of a loop first polled at `now`. -/
def firstDue? (s : Settings) (now : Nat) : Option Nat :=
  let due := Clock.instant now + s.initialDelay.totalNanos
  if due < Clock.horizon then some due else none

/-- The scheduled instant of the tick after the one of `due`, which is taken at `now`. Beyond the
horizon a tick that is on time is followed by one far away, and a missed one by none. -/
def nextDue? (s : Settings) (now due : Nat) : Option Nat :=
  let next := due + s.rate.totalNanos
  if next < Clock.horizon then some next
  else if due + Clock.grace < Clock.instant now then none
  else some (Clock.instant now + Clock.farSpan)

theorem lt_of_nextDue? {s : Settings} {now due next : Nat} (hr : s.rate ≠ .zero)
    (hd : due ≤ Clock.instant now) (h : s.nextDue? now due = some next) : due < next := by
  have hpos : 0 < s.rate.totalNanos := Duration.totalNanos_pos hr
  have hfar := Clock.farSpan_pos
  unfold nextDue? at h
  simp only [] at h
  split at h
  · simp only [Option.some.injEq] at h; omega
  · split at h
    · simp at h
    · simp only [Option.some.injEq] at h; omega

end Settings

namespace Scheduler

variable {ε ω : Type}

/-- Where a loop stands while it runs: about to wait for a tick, or in a firing with these steps
left. -/
inductive Focus
  | tick (tick due : Nat)
  | act (firing : Nat) (rest : List Action) (tick due : Nat)

/-- The scheduled instant of the tick that comes next. -/
def Focus.due : Focus → Nat
  | tick _ due => due
  | act _ _ _ due => due

/-- How far the next tick is behind the clock: what shrinks from firing to firing. -/
def Focus.overdue (now : Nat) (f : Focus) : Nat := Clock.instant now + 1 - f.due

/-- How much is left of the firing. -/
def Focus.left : Focus → Nat
  | tick _ _ => 0
  | act _ rest _ _ => rest.length + 1

/-- A step later in the same firing, or back to the tick after it. -/
def Focus.Shrinks (now : Nat) (f g : Focus) : Prop :=
  Prod.Lex (· < ·) (· < ·) (f.overdue now, f.left) (g.overdue now, g.left)

theorem Focus.shrinks_act {now firing firing' tick tick' due : Nat} {rest : List Action}
    {a : Action} : (act firing rest tick due).Shrinks now (act firing' (a :: rest) tick' due) :=
  Prod.Lex.right _ (Nat.lt_succ_self _)

theorem Focus.shrinks_tick {now firing tick tick' due : Nat} {rest : List Action} :
    (Focus.tick tick due).Shrinks now (act firing rest tick' due) :=
  Prod.Lex.right _ (Nat.succ_pos _)

theorem Focus.shrinks_of_lt {now tick due : Nat} {f : Focus} (hdue : due ≤ Clock.instant now)
    (h : due < f.due) : f.Shrinks now (Focus.tick tick due) :=
  Prod.Lex.left _ _ (by unfold overdue; simp only [Focus.due] at h ⊢; omega)

/-- How a run of a loop ends: where it stands then, what was seen, the loops to be polled, and the
scheduler's state. -/
structure Run (ε ω : Type) where
  phase : Phase
  seen : List (Event (Sight ε))
  woken : List Nat
  state : State ω

/-- The run with something seen and loops woken before it. -/
def Run.after (r : Run ε ω) (seen : List (Event (Sight ε))) (woken : List Nat) : Run ε ω :=
  { r with seen := seen ++ r.seen, woken := woken ++ r.woken }

/-- The entry for a firing that begins. -/
def firingEntry (s : Scheduler ε ω) : Log.Entry := ⟨.debug, "Firing caretaker", [s.nameField]⟩

/-- The entry for a firing that crashed. -/
def crashEntry (s : Scheduler ε ω) : Log.Entry :=
  ⟨.error, "Caretaker panicked; next firing stays scheduled", [s.nameField]⟩

/-- What the caretaker lets be seen, as part of what is seen of the scheduler. -/
def ownEvent : Event ε → Event (Sight ε)
  | .log entry => .log entry
  | .seen o => .seen (.own o)

/-- A call that a firing makes on its own scheduler: what is seen, the loops to be polled and the
state after. A scheduler that was given up answers nothing. -/
def answer (s : Scheduler ε ω) (c : Call) (st : State ω) :
    List (Event (Sight ε)) × List Nat × State ω :=
  if st.dropped then ([.seen (.answered c none)], [], st)
  else
    match c with
    | .start =>
      let a := s.start st
      ([.log a.entry, .seen (.answered c (some a.reply))], a.woken, a.state)
    | .stop =>
      let a := s.stop st
      ([.log a.entry, .seen (.answered c (some a.reply))], a.woken, a.state)
    | .isArmed => ([.seen (.answered c (some st.isArmed))], [], st)

/-- What a running loop does next: it stays where it is, or goes on after something was seen and
loops were woken. -/
inductive Move (ε ω : Type)
  | stay (phase : Phase)
  | go (focus : Focus) (seen : List (Event (Sight ε))) (woken : List Nat) (state : State ω)

/-- A tick taken: the next one is scheduled and a firing begins. -/
def beginFiring (s : Scheduler ε ω) (now id tick next : Nat) (st : State ω) : Move ε ω :=
  let firing := st.fired
  let opening := s.caretaker.run firing now st.world
  let st : State ω := { st with fired := firing + 1, world := opening.world }
  let seen := .log s.firingEntry :: .seen (.began id tick firing now) :: opening.seen.map ownEvent
  match opening.steps with
  | some steps => .go (.act firing steps (tick + 1) next) seen [] st
  | none =>
    .go (.tick (tick + 1) next)
      (seen ++ [.seen (.finished firing .crashedAtOnce now), .log s.crashEntry]) [] st

/-- One step of a firing. -/
def act (s : Scheduler ε ω) (now firing : Nat) (a : Action) (rest : List Action) (tick due : Nat)
    (st : State ω) : Move ε ω :=
  match a with
  | .sleep millis =>
    if millis = 0 then .go (.act firing rest tick due) [] [] st
    else .stay (.asleep firing (now + millis) rest tick due)
  | .yield => .stay (.yielded firing rest tick due)
  | .crash =>
    .go (.tick tick due) [.seen (.finished firing .crashed now), .log s.crashEntry] [] st
  | .call c =>
    let (seen, woken, st) := s.answer c st
    .go (.act firing rest tick due) seen woken st

/-- What a running loop does next. -/
def move (s : Scheduler ε ω) (now id : Nat) (focus : Focus) (st : State ω) : Move ε ω :=
  match focus with
  | .tick tick due =>
    if due ≤ Clock.instant now then
      -- The next tick is scheduled before the firing begins, however long that takes.
      match s.settings.nextDue? now due with
      | none => .stay .ended
      | some next => s.beginFiring now id tick next st
    else .stay (.waiting tick due)
  | .act firing [] tick due =>
    .go (.tick tick due) [.seen (.finished firing .returned now)] [] st
  | .act firing (a :: rest) tick due => s.act now firing a rest tick due st

theorem due_of_beginFiring {s : Scheduler ε ω} {now id tick next : Nat} {st st' : State ω}
    {f : Focus} {seen : List (Event (Sight ε))} {woken : List Nat}
    (h : s.beginFiring now id tick next st = .go f seen woken st') : f.due = next := by
  unfold beginFiring at h
  simp only [] at h
  split at h <;> (simp only [Move.go.injEq] at h; rw [← h.1]; rfl)

/-- **A loop that goes on comes closer to its next wait.** -/
theorem shrinks_of_move {s : Scheduler ε ω} {now id : Nat} {focus f : Focus} {st st' : State ω}
    {seen : List (Event (Sight ε))} {woken : List Nat}
    (h : s.move now id focus st = .go f seen woken st') : f.Shrinks now focus := by
  unfold move at h
  split at h
  · rename_i tick due
    split at h
    · rename_i hdue
      split at h
      · simp at h
      · rename_i next hnext
        have hlt := Settings.lt_of_nextDue? s.rate_ne_zero hdue hnext
        exact Focus.shrinks_of_lt hdue (by rw [due_of_beginFiring h]; exact hlt)
    · simp at h
  · simp only [Move.go.injEq] at h
    rw [← h.1]
    exact Focus.shrinks_tick
  · rename_i firing a rest tick due
    unfold act at h
    split at h
    · split at h
      · simp only [Move.go.injEq] at h; rw [← h.1]; exact Focus.shrinks_act
      · simp at h
    · simp at h
    · simp only [Move.go.injEq] at h; rw [← h.1]; exact Focus.shrinks_tick
    · simp only [Move.go.injEq] at h; rw [← h.1]; exact Focus.shrinks_act

/-- **A loop runs** until it has to wait: for a tick that is not due, in a sleep, or to let others
run. A runtime may make a task yield that finds one timer after the other ready, after 128 of them
for instance. That limit is left out: a loop that has not been told to end goes on with the rest
of its overdue ticks in its next poll, at no later time. -/
def drive (s : Scheduler ε ω) (now id : Nat) (focus : Focus) (st : State ω) : Run ε ω :=
  match h : s.move now id focus st with
  | .stay phase => ⟨phase, [], [], st⟩
  | .go f seen woken st' =>
    have := shrinks_of_move h
    (s.drive now id f st').after seen woken
  termination_by (focus.overdue now, focus.left)
  decreasing_by exact this

/-- What is seen when a loop ends where it stands. -/
def cancelled (phase : Phase) (now : Nat) : List (Event (Sight ε)) :=
  match phase.firing? with
  | some firing => [.seen (.finished firing .cancelled now)]
  | none => []

/-- The state with the phase of a loop noted. -/
def State.note (st : State ω) (id : Nat) (phase : Phase) : State ω :=
  { st with loops := st.loops.modify id fun l => { l with phase := phase } }

/-- The loop at `id` told to end does so. -/
def finish (now id : Nat) (phase : Phase) (st : State ω) : Run ε ω :=
  ⟨.ended, cancelled phase now, [], st.note id .ended⟩

/-- A run that came to a wait: there the loop stays, or ends if it has been told to. -/
def settle (now id : Nat) (r : Run ε ω) : Run ε ω :=
  if (r.state.loops[id]?.map (·.aborted)).getD false then
    (finish now id r.phase r.state).after r.seen r.woken
  else { r with state := r.state.note id r.phase }

/-- **One poll** of the loop at `id` when the clock shows `now` milliseconds. -/
def poll (s : Scheduler ε ω) (now id : Nat) (st : State ω) : Run ε ω :=
  match st.loops[id]? with
  | none => ⟨.ended, [], [], st⟩
  | some l =>
    -- A loop told to end is not run any more, not even from its first poll.
    if l.aborted then finish now id l.phase st
    else
      match l.phase with
      | .ended => ⟨.ended, [], [], st⟩
      | .fresh =>
        match s.settings.firstDue? now with
        | none => ⟨.ended, [], [], st.note id .ended⟩
        | some due => settle now id (s.drive now id (.tick 0 due) st)
      | .waiting tick due => settle now id (s.drive now id (.tick tick due) st)
      | .asleep firing wake rest tick due =>
        if wake ≤ now then settle now id (s.drive now id (.act firing rest tick due) st)
        else ⟨l.phase, [], [], st⟩
      | .yielded firing rest tick due =>
        settle now id (s.drive now id (.act firing rest tick due) st)

end Scheduler

end Vigil
