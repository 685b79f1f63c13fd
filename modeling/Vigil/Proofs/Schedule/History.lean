import Vigil.Schedule.Poll

/-!
# Histories of a scheduler

What can happen to a scheduler on one thread, in any order: calls from outside, the scheduler
given up, time that passes, changes of the world, and polls of its firing loops. A runtime chooses
some of these orders; a history is any of them.

* `Scheduler.course`: where a history has led, with the trace it left.
* `successes`: the calls that armed or disarmed the scheduler.
* `begunBy`, `pollsOf`: the firings that one loop began, and the times at which it was polled.
* `Firing.EndedIn`: a firing returned or crashed after it had begun.
-/

namespace Vigil

/-- What stands in two sequences put together stands in one of them. -/
theorem append_eq_append_cons {α : Type} {a b before after : List α} {e : α}
    (h : a ++ b = before ++ e :: after) :
    (∃ early, before = a ++ early ∧ b = early ++ e :: after) ∨
      ∃ last, a = before ++ e :: last ∧ after = last ++ b := by
  rcases List.append_eq_append_iff.1 h with ⟨early, hbefore, hb⟩ | ⟨rest, ha, hrest⟩
  · exact .inl ⟨early, hbefore, hb⟩
  · rcases List.cons_eq_append_iff.1 hrest with ⟨rfl, rfl⟩ | ⟨last, rfl, hafter⟩
    · exact .inl ⟨[], by simpa using ha.symm, rfl⟩
    · exact .inr ⟨last, ha, hafter⟩

/-- What can happen next. -/
inductive Occurrence (ω : Type)
  /-- A call from outside any firing. -/
  | call (c : Call)
  | drop
  /-- So many milliseconds pass. -/
  | elapse (millis : Nat)
  | poll (id : Nat)
  /-- Something else changes the world. -/
  | stir (f : ω → ω)

/-- What a history leaves in its trace. -/
inductive Incident (ε : Type)
  | called (c : Call) (answer : Bool) (log : List Log.Entry)
  | dropped
  /-- A loop that had not been told to end was polled. -/
  | polled (id time : Nat)
  | shown (e : Event (Sight ε))
  deriving DecidableEq

/-- Where a history has led. -/
structure Course (ε ω : Type) where
  now : Nat
  state : Scheduler.State ω
  trace : List (Incident ε)

/-- The beginning of a firing, as a trace shows it. -/
structure Firing where
  loop : Nat
  tick : Nat
  number : Nat
  time : Nat
  deriving DecidableEq

variable {ε ω : Type}

/-! ## Reading a trace -/

/-- The call, if it was to arm or to disarm and was answered with `true`. -/
def granted (c : Call) (answer : Option Bool) : Option Call :=
  if c ≠ .isArmed ∧ answer = some true then some c else none

/-- The firing that begins here. -/
def Incident.firing? : Incident ε → Option Firing
  | .shown (.seen (.began loop tick number time)) => some ⟨loop, tick, number, time⟩
  | _ => none

/-- The time at which the loop is polled here. -/
def Incident.pollOf? (id : Nat) : Incident ε → Option Nat
  | .polled loop time => if loop = id then some time else none
  | _ => none

/-- The call that succeeds here, in arming or in disarming. -/
def Incident.success? : Incident ε → Option Call
  | .called c answer _ => granted c (some answer)
  | .shown (.seen (.answered c answer)) => granted c answer
  | _ => none

/-- The calls that succeeded, in order, those made within firings included. -/
def successes (tr : List (Incident ε)) : List Call := tr.filterMap Incident.success?

/-- The firings begun, in order. -/
def begun (tr : List (Incident ε)) : List Firing := tr.filterMap Incident.firing?

/-- The firings begun by one loop, in order. -/
def begunBy (id : Nat) (tr : List (Incident ε)) : List Firing := (begun tr).filter (·.loop = id)

/-- The times at which a loop was polled, in order. -/
def pollsOf (id : Nat) (tr : List (Incident ε)) : List Nat := tr.filterMap (Incident.pollOf? id)

/-- The incident of a firing that begins. -/
def Firing.incident (b : Firing) : Incident ε :=
  .shown (.seen (.began b.loop b.tick b.number b.time))

/-- **The firing ended on its own**: after it had begun it returned or crashed. -/
def Firing.EndedIn (b : Firing) (tr : List (Incident ε)) : Prop :=
  ∃ before after ending time, tr = before ++ b.incident :: after ∧ ending ≠ .cancelled ∧
    .shown (.seen (.finished b.number ending time)) ∈ after

@[simp] theorem begun_nil : begun ([] : List (Incident ε)) = [] := rfl

@[simp] theorem begun_append (tr es : List (Incident ε)) :
    begun (tr ++ es) = begun tr ++ begun es := by simp [begun]

@[simp] theorem begun_cons (x : Incident ε) (tr : List (Incident ε)) :
    begun (x :: tr) = x.firing?.toList ++ begun tr := by
  cases h : x.firing? <;> simp [begun, h]

@[simp] theorem begunBy_append (id : Nat) (tr es : List (Incident ε)) :
    begunBy id (tr ++ es) = begunBy id tr ++ begunBy id es := by simp [begunBy]

@[simp] theorem pollsOf_nil (id : Nat) : pollsOf id ([] : List (Incident ε)) = [] := rfl

@[simp] theorem pollsOf_append (id : Nat) (tr es : List (Incident ε)) :
    pollsOf id (tr ++ es) = pollsOf id tr ++ pollsOf id es := by simp [pollsOf]

@[simp] theorem pollsOf_mark (id time : Nat) :
    pollsOf id ([.polled id time] : List (Incident ε)) = [time] := by
  simp [pollsOf, Incident.pollOf?]

theorem pollsOf_mark_ne {id i : Nat} (h : id ≠ i) (time : Nat) :
    pollsOf i ([.polled id time] : List (Incident ε)) = [] := by
  simp [pollsOf, Incident.pollOf?, h]

/-- A poll marks nothing in what is shown of it. -/
@[simp] theorem pollsOf_shown (id : Nat) (seen : List (Event (Sight ε))) :
    pollsOf id (seen.map Incident.shown) = [] := by
  simp [pollsOf, Incident.pollOf?]

theorem pollsOf_own (seen : List (Event ε)) (id : Nat) :
    pollsOf id (seen.map (Incident.shown ∘ Scheduler.ownEvent)) = [] := by
  simp [pollsOf, Incident.pollOf?]

@[simp] theorem successes_nil : successes ([] : List (Incident ε)) = [] := rfl

@[simp] theorem successes_append (tr es : List (Incident ε)) :
    successes (tr ++ es) = successes tr ++ successes es := by simp [successes]

@[simp] theorem successes_cons (x : Incident ε) (tr : List (Incident ε)) :
    successes (x :: tr) = x.success?.toList ++ successes tr := by
  cases h : x.success? <;> simp [successes, h]

/-- Nothing begins in what a caretaker lets be seen of its own. -/
@[simp] theorem begun_own (seen : List (Event ε)) :
    begun (seen.map (Incident.shown ∘ Scheduler.ownEvent)) = [] := by
  induction seen with
  | nil => rfl
  | cons e seen ih => cases e <;> exact ih

@[simp] theorem successes_own (seen : List (Event ε)) :
    successes (seen.map (Incident.shown ∘ Scheduler.ownEvent)) = [] := by
  induction seen with
  | nil => rfl
  | cons e seen ih => cases e <;> exact ih

@[simp] theorem begun_log (log : List Log.Entry) :
    begun (log.map (Incident.shown ∘ Event.log) : List (Incident ε)) = [] := by
  induction log with
  | nil => rfl
  | cons e log ih => exact ih

@[simp] theorem successes_log (log : List Log.Entry) :
    successes (log.map (Incident.shown ∘ Event.log) : List (Incident ε)) = [] := by
  induction log with
  | nil => rfl
  | cons e log ih => exact ih

theorem begunBy_eq_nil {id : Nat} {es : List (Incident ε)} (h : begun es = []) :
    begunBy id es = [] := by simp [begunBy, h]

theorem mem_begunBy {id : Nat} {tr : List (Incident ε)} {b : Firing} :
    b ∈ begunBy id tr ↔ b ∈ begun tr ∧ b.loop = id := by simp [begunBy]

theorem Incident.firing?_eq_some {x : Incident ε} {b : Firing} :
    x.firing? = some b ↔ x = b.incident := by
  constructor
  · intro h
    unfold Incident.firing? at h
    split at h
    · cases h; rfl
    · simp at h
  · rintro rfl; rfl

@[simp] theorem Firing.firing?_incident (b : Firing) :
    (b.incident : Incident ε).firing? = some b := rfl

@[simp] theorem pollsOf_incident (id : Nat) (b : Firing) :
    pollsOf id ([b.incident] : List (Incident ε)) = [] := rfl

theorem begunBy_singleton {x : Incident ε} {b : Firing} (h : x.firing? = some b) (id : Nat) :
    begunBy id [x] = if b.loop = id then [b] else [] := by
  by_cases hb : b.loop = id <;> simp [begunBy, h, hb]

theorem incident_mem {tr : List (Incident ε)} {b : Firing} (h : b ∈ begun tr) :
    b.incident ∈ tr := by
  obtain ⟨x, hx, hb⟩ := List.mem_filterMap.1 h
  rwa [← Incident.firing?_eq_some.1 hb]

/-- What has ended stays so as the trace grows. -/
theorem Firing.EndedIn.append {b : Firing} {tr : List (Incident ε)} (h : b.EndedIn tr)
    (es : List (Incident ε)) : b.EndedIn (tr ++ es) := by
  obtain ⟨before, after, ending, time, rfl, hne, hmem⟩ := h
  exact ⟨before, after ++ es, ending, time, by simp, hne, List.mem_append_left _ hmem⟩

/-- A firing that has begun ends where its end is shown. -/
theorem Firing.endedIn_of_finished {b : Firing} {tr es : List (Incident ε)} {ending : Ending}
    {time : Nat} (hb : b ∈ begun tr) (hne : ending ≠ .cancelled)
    (hes : .shown (.seen (.finished b.number ending time)) ∈ es) : b.EndedIn (tr ++ es) := by
  obtain ⟨before, after, htr⟩ := List.append_of_mem (incident_mem hb)
  exact ⟨before, after ++ es, ending, time, by simp [htr], hne, List.mem_append_right _ hes⟩

/-! ## Courses -/

/-- Nothing has happened yet. -/
def Course.begin (w : ω) : Course ε ω := ⟨0, .initial w, []⟩

namespace Scheduler

/-- A call from outside: its answer, what it logs, and the state after. -/
def serve (s : Scheduler ε ω) (st : State ω) : Call → Bool × List Log.Entry × State ω
  | .start => let a := s.start st; (a.reply, [a.entry], a.state)
  | .stop => let a := s.stop st; (a.reply, [a.entry], a.state)
  | .isArmed => (st.isArmed, [], st)

/-- **One thing happens.** Nobody is left to call a scheduler that was given up, and what has
ended is not polled again. -/
def step (s : Scheduler ε ω) (v : Course ε ω) : Occurrence ω → Course ε ω
  | .call c =>
    if v.state.dropped then v
    else
      let (answer, log, st) := s.serve v.state c
      { v with state := st, trace := v.trace ++ [.called c answer log] }
  | .drop =>
    if v.state.dropped then v
    else { v with state := v.state.drop.2, trace := v.trace ++ [.dropped] }
  | .elapse millis => { v with now := v.now + millis }
  | .stir f => { v with state := { v.state with world := f v.state.world } }
  | .poll id =>
    match v.state.loops[id]? with
    | none => v
    | some l =>
      if l.phase = .ended then v
      else
        let r := s.poll v.now id v.state
        let mark := if l.aborted then [] else [.polled id v.now]
        { v with state := r.state, trace := v.trace ++ mark ++ r.seen.map .shown }

/-- **The course of a history** in a world `w`. -/
def course (s : Scheduler ε ω) (w : ω) (os : List (Occurrence ω)) : Course ε ω :=
  os.foldl s.step (.begin w)

theorem course_append (s : Scheduler ε ω) (w : ω) (os os' : List (Occurrence ω)) :
    s.course w (os ++ os') = os'.foldl s.step (s.course w os) := by simp [course]

end Scheduler

end Vigil
