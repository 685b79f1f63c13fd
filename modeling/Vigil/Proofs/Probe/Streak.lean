import Vigil.Probe.Caretaker
import Vigil.Proofs.Schedule.Cadence
import Vigil.Proofs.Schedule.Immediate
import Mathlib.Data.List.Induction

/-!
# Failures in a row

A monitor of a channel that is fired again and again, its source and its callback free to answer
and to crash as they like.

* `streak`: the failed checks since the last successful one.
* `report`: what a row of answers has to leave in the log, with the questions and the calls of the
  callback between the entries.
* `run_noted`: **a monitor that is fired directly leaves just this report**, and its counter shows
  the streak.
* `follows_course`: a scheduler does nothing else than to fire its monitor.
* `firings_reported`: both together, for every run and every history, and that no crash costs a
  later firing.
-/

namespace Vigil

variable {ε ω : Type}

namespace ConnectionMonitor

/-! ## What is to be reported -/

/-- What is noted of a firing besides its log. -/
inductive Contact
  /-- The source was asked; without an answer it crashed. -/
  | asked (context : String) (answer : Option Bool)
  | calledBack
  deriving DecidableEq

/-- **The failed checks since the last successful one**; those that crashed count for nothing. -/
def streak (answers : List (Option Bool)) : Nat :=
  (answers.reverse.takeWhile (· ≠ some true)).count (some false)

/-- What a check with this answer leaves, after so many failed ones in a row. -/
def account (context : String) (failures : Nat) (answer : Option Bool) : List (Event Contact) :=
  .seen (.asked context answer) ::
    match answer with
    | none => []
    | some true => if failures = 0 then [] else [.log (recoveredEntry failures)]
    | some false => [.log (failedEntry (failures + 1)), .seen .calledBack]

/-- **The report of a row of checks.** -/
def report (context : String) (answers : List (Option Bool)) : List (Event Contact) :=
  (answers.mapIdx fun n answer => account context (streak (answers.take n)) answer).flatten

/-- The answers that a report speaks of. -/
def answers (story : List (Event Contact)) : List (Option Bool) :=
  story.filterMap fun
    | .seen (.asked _ answer) => some answer
    | _ => none

example : report "db" [some false, none, some false, some true, some true, some false] =
    [.seen (.asked "db" (some false)), .log (failedEntry 1), .seen .calledBack,
      .seen (.asked "db" none),
      .seen (.asked "db" (some false)), .log (failedEntry 2), .seen .calledBack,
      .seen (.asked "db" (some true)), .log (recoveredEntry 2),
      .seen (.asked "db" (some true)),
      .seen (.asked "db" (some false)), .log (failedEntry 1), .seen .calledBack] := by decide

variable {context : String} {as : List (Option Bool)}

theorem streak_concat (as : List (Option Bool)) (answer : Option Bool) :
    streak (as ++ [answer]) =
      match answer with
      | none => streak as
      | some true => 0
      | some false => streak as + 1 := by
  unfold streak
  rw [List.reverse_concat]
  rcases answer with _ | _ | _ <;> simp

theorem streak_le_length (as : List (Option Bool)) : streak as ≤ as.length := by
  unfold streak
  calc
    _ ≤ (as.reverse.takeWhile (· ≠ some true)).length := List.count_le_length
    _ ≤ as.reverse.length := (List.takeWhile_sublist _).length_le
    _ = as.length := List.length_reverse

theorem report_concat (context : String) (as : List (Option Bool)) (answer : Option Bool) :
    report context (as ++ [answer]) = report context as ++ account context (streak as) answer := by
  have htake : as.mapIdx (fun n a => account context (streak ((as ++ [answer]).take n)) a) =
      as.mapIdx fun n a => account context (streak (as.take n)) a := by
    refine List.mapIdx_eq_mapIdx_iff.2 ?_
    intro n hn
    rw [List.take_append_of_le_length (Nat.le_of_lt hn)]
  unfold report
  rw [List.mapIdx_concat, List.flatten_concat, htake, List.take_left']
  rfl

theorem answers_append (story story' : List (Event Contact)) :
    answers (story ++ story') = answers story ++ answers story' := List.filterMap_append

theorem answers_account (context : String) (failures : Nat) (answer : Option Bool) :
    answers (account context failures answer) = [answer] := by
  unfold account answers
  rcases answer with _ | _ | _
  · rfl
  · rfl
  · by_cases h : failures = 0 <;> simp [h]

theorem answers_report (context : String) (as : List (Option Bool)) :
    answers (report context as) = as := by
  induction as using List.reverseRecOn with
  | nil => rfl
  | append_singleton as answer ih => rw [report_concat, answers_append, ih, answers_account]

/-- The callback is called once for each failed check. -/
theorem calledBack_report (context : String) (as : List (Option Bool)) :
    (report context as).count (.seen .calledBack) = as.count (some false) := by
  induction as using List.reverseRecOn with
  | nil => rfl
  | append_singleton as answer ih =>
    rw [report_concat, List.count_append, List.count_append, ih]
    congr 1
    unfold account
    rcases answer with _ | _ | _
    · rfl
    · rfl
    · by_cases h : streak as = 0 <;> simp [h]

/-! ## Direct firings -/

/-- A monitor after some firings, and all that was seen of them. -/
structure Watch (ε ω : Type) where
  state : Watched ω
  seen : List (Event ε)

/-- **One firing more**, before which the rest of the world has changed. Whether the firing
returned or crashed, the next one can follow. -/
def next (m : ConnectionMonitor ε ω) (v : Watch ε ω) (change : ω → ω) : Watch ε ω :=
  let turn := m.fire { v.state with world := change v.state.world }
  ⟨turn.world, v.seen ++ turn.seen⟩

/-- A new monitor that is fired again and again. -/
def run (m : ConnectionMonitor ε ω) (w : ω) (changes : List (ω → ω)) : Watch ε ω :=
  changes.foldl m.next ⟨⟨0, w⟩, []⟩

theorem run_concat (m : ConnectionMonitor ε ω) (w : ω) (changes : List (ω → ω)) (change : ω → ω) :
    m.run w (changes ++ [change]) = m.next (m.run w changes) change := by simp [run]

/-- The monitor of a channel. -/
def ofChannel (c : ActiveChannelCheck ε ω) (onInvalid : ω → Turn Bool ε ω) :
    ConnectionMonitor ε ω := ⟨c.toSanityCheck, onInvalid⟩

/-- What is seen when contacts are noted: they, and what was seen anyway. -/
inductive Noted (ε : Type)
  | contact (c : Contact)
  | own (o : ε)

/-- The source, each question and its answer noted. -/
def noteAsked (source : StatusSource ε ω) : StatusSource (Noted ε) ω where
  isConnected context w :=
    let turn := source.isConnected context w
    ⟨turn.reply, .contact (.asked context turn.reply) :: turn.seen.map .own, turn.world⟩

/-- The callback, each call of it noted. -/
def noteCalled (onInvalid : ω → Turn Bool ε ω) (w : ω) : Turn Bool (Noted ε) ω :=
  let turn := onInvalid w
  ⟨turn.reply, .contact .calledBack :: turn.seen.map .own, turn.world⟩

/-- The monitor of a channel that notes its contacts. -/
def noted (c : ActiveChannelCheck ε ω) (onInvalid : ω → Turn Bool ε ω) :
    ConnectionMonitor (Noted ε) ω :=
  ofChannel ⟨noteAsked c.source, c.context⟩ (noteCalled onInvalid)

/-- The log and the contacts. -/
def story (seen : List (Event (Noted ε))) : List (Event Contact) :=
  seen.filterMap fun
    | .log entry => some (.log entry)
    | .seen (.contact c) => some (.seen c)
    | .seen (.own _) => none

/-- What is seen without the notes. -/
def plain (seen : List (Event (Noted ε))) : List (Event ε) :=
  seen.filterMap fun
    | .log entry => some (.log entry)
    | .seen (.contact _) => none
    | .seen (.own o) => some (.seen o)

theorem story_append (seen seen' : List (Event (Noted ε))) :
    story (seen ++ seen') = story seen ++ story seen' := List.filterMap_append

theorem plain_append (seen seen' : List (Event (Noted ε))) :
    plain (seen ++ seen') = plain seen ++ plain seen' := List.filterMap_append

@[simp] theorem story_nil : story ([] : List (Event (Noted ε))) = [] := rfl

@[simp] theorem plain_nil : plain ([] : List (Event (Noted ε))) = [] := rfl

@[simp] theorem story_log (entry : Log.Entry) (seen : List (Event (Noted ε))) :
    story (.log entry :: seen) = .log entry :: story seen := rfl

@[simp] theorem story_contact (c : Contact) (seen : List (Event (Noted ε))) :
    story (.seen (.contact c) :: seen) = .seen c :: story seen := rfl

@[simp] theorem plain_log (entry : Log.Entry) (seen : List (Event (Noted ε))) :
    plain (.log entry :: seen) = .log entry :: plain seen := rfl

@[simp] theorem plain_contact (c : Contact) (seen : List (Event (Noted ε))) :
    plain (.seen (.contact c) :: seen) = plain seen := rfl

@[simp] theorem story_own (os : List ε) : story (os.map (Event.seen ∘ Noted.own)) = [] := by
  induction os with
  | nil => rfl
  | cons o os ih => exact ih

@[simp] theorem plain_own (os : List ε) :
    plain (os.map (Event.seen ∘ Noted.own)) = os.map .seen := by
  induction os with
  | nil => rfl
  | cons o os ih => exact congrArg (.seen o :: ·) ih

variable (c : ActiveChannelCheck ε ω) (onInvalid : ω → Turn Bool ε ω)

/-- **One firing with its contacts noted**: it gets one answer, leaves the account of it, and
counts it; and the notes change nothing else. -/
theorem fire_noted (s : Watched ω) : ∃ answer,
    story ((noted c onInvalid).fire s).seen = account c.context s.failures answer ∧
    ((noted c onInvalid).fire s).world.failures =
      (match answer with
        | none => s.failures
        | some true => 0
        | some false => s.failures + 1) ∧
    ((noted c onInvalid).fire s).world = ((ofChannel c onInvalid).fire s).world ∧
    ((noted c onInvalid).fire s).reply = ((ofChannel c onInvalid).fire s).reply ∧
    plain ((noted c onInvalid).fire s).seen = ((ofChannel c onInvalid).fire s).seen := by
  have hplain : (ofChannel c onInvalid).check.ask s.world =
      c.source.isConnected c.context s.world := rfl
  have hnoted : (noted c onInvalid).check.ask s.world =
      ⟨(c.source.isConnected c.context s.world).reply,
        .contact (.asked c.context (c.source.isConnected c.context s.world).reply) ::
          (c.source.isConnected c.context s.world).seen.map .own,
        (c.source.isConnected c.context s.world).world⟩ := rfl
  refine ⟨(c.source.isConnected c.context s.world).reply, ?_⟩
  unfold fire
  rw [hplain, hnoted]
  obtain ⟨answer, seen, w⟩ := c.source.isConnected c.context s.world
  rcases answer with _ | _ | _
  · refine ⟨?_, rfl, rfl, rfl, ?_⟩
    · simp [account]
    · simp
  · refine ⟨?_, rfl, rfl, rfl, ?_⟩
    · simp [account, noted, ofChannel, noteCalled, story_append]
    · simp [noted, ofChannel, noteCalled, plain_append]
  · refine ⟨?_, rfl, rfl, rfl, ?_⟩
    · by_cases h : s.failures = 0 <;> simp [account, story_append, h]
    · by_cases h : s.failures = 0 <;> simp [plain_append, h]

/-- **A monitor that is fired directly** leaves the report of its answers, and counts the streak. -/
theorem run_noted (w : ω) (changes : List (ω → ω)) : ∃ as,
    story ((noted c onInvalid).run w changes).seen = report c.context as ∧
    as.length = changes.length ∧
    ((noted c onInvalid).run w changes).state.failures = streak as ∧
    ((noted c onInvalid).run w changes).state = ((ofChannel c onInvalid).run w changes).state ∧
    plain ((noted c onInvalid).run w changes).seen =
      ((ofChannel c onInvalid).run w changes).seen := by
  induction changes using List.reverseRecOn with
  | nil => exact ⟨[], rfl, rfl, rfl, rfl, rfl⟩
  | append_singleton changes change ih =>
    obtain ⟨as, hstory, hlength, hstreak, hstate, hplain⟩ := ih
    rw [run_concat, run_concat]
    obtain ⟨answer, haccount, hfailures, hworld, -, hseen⟩ := fire_noted c onInvalid
      { ((noted c onInvalid).run w changes).state with
        world := change ((noted c onInvalid).run w changes).state.world }
    refine ⟨as ++ [answer], ?_, by simp [hlength], ?_, ?_, ?_⟩
    · rw [report_concat, ← hstory, ← hstreak, ← haccount, ← story_append]
      rfl
    · rw [streak_concat, ← hstreak]
      exact hfailures
    · refine hworld.trans ?_
      rw [hstate]
      rfl
    · rw [hstate] at hseen
      show plain (_ ++ _) = _ ++ _
      rw [plain_append, hplain, hstate, hseen]

/-! ## Scheduled firings -/

/-- The entries that monitors make. -/
def makes (entry : Log.Entry) : Bool :=
  entry.message == "Connection check recovered" || entry.message == "Connection check failed"

/-- What a trace shows of the monitor that the scheduler drives. -/
def shownBy (tr : List (Incident ε)) : List (Event ε) :=
  tr.filterMap fun
    | .shown (.log entry) => if makes entry then some (.log entry) else none
    | .shown (.seen (.own o)) => some (.seen o)
    | _ => none

theorem shownBy_append (tr es : List (Incident ε)) :
    shownBy (tr ++ es) = shownBy tr ++ shownBy es := List.filterMap_append

/-- What happens besides a monitor: only firings of the monitor change its count. -/
def beside : Occurrence ω → Occurrence (Watched ω)
  | .call c => .call c
  | .drop => .drop
  | .elapse millis => .elapse millis
  | .poll id => .poll id
  | .stir f => .stir fun s => { s with world := f s.world }

variable (m : ConnectionMonitor ε ω)

theorem caretaker_immediate : m.caretaker.Immediate := by
  intro firing now s steps hsteps
  have hrun : (m.caretaker.run firing now s).steps =
      some (if (m.fire s).reply then [] else [.crash]) := rfl
  rw [hrun, Option.mem_some_iff] at hsteps
  subst hsteps
  cases (m.fire s).reply
  · exact .inr rfl
  · exact .inl rfl

/-- All that a monitor logs are entries of its own. -/
theorem makes_of_fire (s : Watched ω) {entry : Log.Entry} (h : .log entry ∈ (m.fire s).seen) :
    makes entry = true := by
  have hrecovered (n : Nat) : makes (recoveredEntry n) = true := rfl
  have hfailed (n : Nat) : makes (failedEntry n) = true := rfl
  unfold fire at h
  rcases hanswer : (m.check.ask s.world).reply with _ | _ | _
  · simp [hanswer] at h
  · obtain rfl : entry = failedEntry (s.failures + 1) := by simpa [hanswer] using h
    exact hfailed _
  · by_cases hzero : s.failures = 0
    · simp [hanswer, hzero] at h
    · obtain rfl : entry = recoveredEntry s.failures := by simpa [hanswer, hzero] using h
      exact hrecovered _

/-- What a firing shows, as the scheduler passes it on. -/
theorem shownBy_own {seen : List (Event ε)} (h : ∀ entry, .log entry ∈ seen → makes entry = true) :
    shownBy (seen.map (Incident.shown ∘ Scheduler.ownEvent)) = seen := by
  induction seen with
  | nil => rfl
  | cons e seen ih =>
    have hseen := ih fun entry he => h entry (List.mem_cons_of_mem _ he)
    cases e with
    | log entry =>
      have hentry := h entry (List.mem_cons_self ..)
      simpa [shownBy, Scheduler.ownEvent, hentry] using hseen
    | seen o => simpa [shownBy, Scheduler.ownEvent] using hseen

/-- **A trace follows a run** of direct firings: as many firings, the same to be seen of them, and
the monitor left in the same state, except for what changed beside it since. -/
def Follows (w : ω) (world : Watched ω) (tr : List (Incident ε)) : Prop :=
  ∃ (changes : List (ω → ω)) (later : ω → ω),
    changes.length = (begun tr).length ∧ shownBy tr = (m.run w changes).seen ∧
    world = { (m.run w changes).state with world := later (m.run w changes).state.world }

variable {m} {s : Scheduler ε (Watched ω)} {w : ω} {world : Watched ω} {tr es : List (Incident ε)}

theorem Follows.quiet (h : Follows m w world tr) (hbegun : begun es = []) (hes : shownBy es = []) :
    Follows m w world (tr ++ es) := by
  obtain ⟨changes, later, hlength, hseen, hworld⟩ := h
  refine ⟨changes, later, ?_, ?_, hworld⟩
  · rw [begun_append, hbegun, List.append_nil, hlength]
  · rw [shownBy_append, hes, List.append_nil, hseen]

theorem Follows.stir (h : Follows m w world tr) (f : ω → ω) :
    Follows m w { world with world := f world.world } tr := by
  obtain ⟨changes, later, hlength, hseen, rfl⟩ := h
  exact ⟨changes, f ∘ later, hlength, hseen, rfl⟩

/-- All that a scheduler shows of its monitor is what a direct firing shows. -/
theorem shownBy_episode (hs : s.caretaker = m.caretaker) (now id tick firing : Nat)
    (world : Watched ω) : shownBy ((s.episode now id tick firing world).map Incident.shown) =
      (m.fire world).seen := by
  have hopening : shownBy ([.shown (.log s.firingEntry),
      .shown (.seen (.began id tick firing now))] : List (Incident ε)) = [] := rfl
  have hclosing (steps : Option (List Action)) :
      shownBy ((s.closing firing now steps).map Incident.shown) = [] := by
    unfold Scheduler.closing
    split <;> rfl
  have hseen : (s.caretaker.run firing now world).seen = (m.fire world).seen := by rw [hs]; rfl
  unfold Scheduler.episode
  rw [hseen, List.map_append, shownBy_append, hclosing, List.append_nil, List.map_cons,
    List.map_cons, List.map_map]
  refine (shownBy_append [_, _] _).trans ?_
  rw [hopening, List.nil_append]
  exact shownBy_own fun _ => makes_of_fire m world

/-- One firing of the scheduler is one firing of the monitor. -/
theorem Follows.fire (hs : s.caretaker = m.caretaker) (now id tick firing : Nat)
    (h : Follows m w world tr) : Follows m w (s.caretaker.run firing now world).world
      (tr ++ (s.episode now id tick firing world).map .shown) := by
  obtain ⟨changes, later, hlength, hseen, rfl⟩ := h
  refine ⟨changes ++ [later], fun w => w, ?_, ?_, ?_⟩
  · simp [Scheduler.begun_episode, hlength]
  · rw [shownBy_append, shownBy_episode hs, hseen, run_concat]
    rfl
  · rw [run_concat, hs]
    rfl

/-- **A scheduler does nothing else than to fire its monitor**, whatever happens beside it. -/
theorem follows_course (hs : s.caretaker = m.caretaker) (w : ω) (os : List (Occurrence ω)) :
    Follows m w (s.course ⟨0, w⟩ (os.map beside)).state.world
      (s.course ⟨0, w⟩ (os.map beside)).trace := by
  induction os using List.reverseRecOn with
  | nil => exact ⟨[], fun w => w, rfl, rfl, rfl⟩
  | append_singleton os o ih =>
    have hrest := Scheduler.atRest_course (hs ▸ caretaker_immediate m) ⟨0, w⟩ (os.map beside)
    rw [List.map_append, Scheduler.course_append]
    generalize s.course ⟨0, w⟩ (os.map beside) = v at ih hrest
    show Follows m w (s.step v (beside o)).state.world (s.step v (beside o)).trace
    have hstep := Scheduler.steps_step s v (beside o)
    generalize s.step v (beside o) = u at hstep
    -- only a poll fires; all else leaves the monitor where it is or changes what is beside it
    cases o with
    | stir f =>
      cases hstep with
      | void => exact ih
      | stirred => exact ih.stir f
    | call c =>
      cases hstep with
      | void => exact ih
      | called => exact (Scheduler.serve_world s v.state c).symm ▸ ih.quiet rfl rfl
    | drop =>
      cases hstep with
      | void => exact ih
      | dropped => exact (Scheduler.drop_world v.state).symm ▸ ih.quiet rfl rfl
    | elapse millis => cases hstep with | void | elapsed => exact ih
    | poll id =>
      cases hstep with
      | void => exact ih
      | @polled _ l seen _ hl _ hpolls =>
        let mark : List (Incident ε) := if l.aborted then [] else [.polled id v.now]
        have hmark : Follows m w v.state.world (v.trace ++ mark) := by
          refine ih.quiet ?_ ?_ <;> (simp only [mark]; split <;> rfl)
        have hfire : s.FiringKeeps v.now id fun world seen =>
            Follows m w world (v.trace ++ mark ++ seen.map .shown) := by
          intro tick firing world seen h
          rw [List.map_append, ← List.append_assoc]
          exact h.fire hs v.now id tick firing
        have himmediate := hpolls.immediate hl (hs ▸ caretaker_immediate m) hfire hrest []
          (by rw [List.map_nil, List.append_nil]; exact hmark)
        exact himmediate.1

/-- **No crash costs a later firing**: whenever the scheduler is armed with this loop and nothing is
left to do for it, as many firings have begun as ticks were reported. -/
theorem begun_iff_due (hs : s.caretaker = m.caretaker) (w : Watched ω)
    (os : List (Occurrence (Watched ω))) {id t₀ t₁ n : Nat} {l : FiringLoop}
    (h₀ : (pollsOf id (s.course w os).trace).head? = some t₀)
    (h₁ : ∀ t ∈ pollsOf id (s.course w os).trace, t ≤ t₁)
    (hrep : s.settings.Representable t₀ t₁) (hslot : (s.course w os).state.slot = some id)
    (hl : (s.course w os).state.loops[id]? = some l) (hidle : ¬ l.phase.Ready (s.course w os).now) :
    s.settings.tickTime t₀ n ≤ (s.course w os).now ↔
      n < (begunBy id (s.course w os).trace).length := by
  have hv := Scheduler.ledger_course s w os
  have habort := ((Scheduler.sound_course s w os).aborted id l hl).2 hslot
  have hout := Scheduler.atRest_course (hs ▸ caretaker_immediate m) w os id l hl
  have hledger := hv.loops.loops id l trivial hl
  exact hledger.due_iff hv.kept h₀ h₁ (hv.polls id) hrep habort hout hidle n

/-- **What so many firings were to leave**, and the count of failures that they were to leave. -/
structure Reported (context : String) (firings failures : Nat) (told : List (Event Contact)) :
    Prop where
  /-- Each check asked once and for this context, and what followed the answer was due to it. -/
  report : told = report context (answers told)
  once : (answers told).length = firings
  streak : failures = streak (answers told)
  calls : told.count (.seen .calledBack) = (answers told).count (some false)
  /-- So the count fits wherever the number of firings does. -/
  le : failures ≤ firings

theorem reported_of_eq {firings failures : Nat} {told : List (Event Contact)}
    (hreport : told = report context as) (honce : as.length = firings)
    (hstreak : failures = streak as) : Reported context firings failures told := by
  subst hreport honce hstreak
  refine ⟨?_, ?_, ?_, ?_, streak_le_length as⟩ <;> rw [answers_report]
  exact calledBack_report context as

/-- **Every firing is accounted for.** Take any channel check, any source and any callback, which
may crash on any call, and let the world change beside them as it likes.
* Fired directly, the monitor asks once in each firing, always for the context that the check is
  bound to; its counter shows the failed checks since the last successful one; it calls back once
  for each failed check, whose warning has the count up to it, and tells of a recovery at just the
  successful checks that failed ones precede, with their number. Crashes of the source count for
  nothing, and those of the callback change nothing.
* In every history of a scheduler that drives it, the monitor shows what as many direct firings
  show, its counter stands where they lead, and there are as many firings as ticks are due
  whenever nothing is left to do, whatever crashed.
* So the report of a scheduled monitor is that of a direct one. -/
theorem firings_reported (c : ActiveChannelCheck ε ω) (onInvalid : ω → Turn Bool ε ω) (w : ω) :
    (∀ changes : List (ω → ω),
      let v := (noted c onInvalid).run w changes
      let v' := (ofChannel c onInvalid).run w changes
      Reported c.context changes.length v.state.failures (story v.seen) ∧
        v'.state = v.state ∧ v'.seen = plain v.seen) ∧
    (∀ (s : Scheduler ε (Watched ω)) (os : List (Occurrence ω)),
      let s' := { s with caretaker := (ofChannel c onInvalid).caretaker }
      let v := s'.course ⟨0, w⟩ (os.map beside)
      (∃ changes : List (ω → ω), changes.length = (begun v.trace).length ∧
        shownBy v.trace = ((ofChannel c onInvalid).run w changes).seen ∧
        v.state.world.failures = ((ofChannel c onInvalid).run w changes).state.failures) ∧
      ∀ id t₀ t₁ l, (pollsOf id v.trace).head? = some t₀ → (∀ t ∈ pollsOf id v.trace, t ≤ t₁) →
        s.settings.Representable t₀ t₁ → v.state.slot = some id → v.state.loops[id]? = some l →
        ¬ l.phase.Ready v.now →
        ∀ n, s.settings.tickTime t₀ n ≤ v.now ↔ n < (begunBy id v.trace).length) ∧
    ∀ (s : Scheduler (Noted ε) (Watched ω)) (os : List (Occurrence ω)),
      let v := { s with caretaker := (noted c onInvalid).caretaker }.course ⟨0, w⟩ (os.map beside)
      Reported c.context (begun v.trace).length v.state.world.failures
        (story (shownBy v.trace)) := by
  refine ⟨?_, ?_, ?_⟩
  · intro changes v v'
    obtain ⟨as, hstory, hlength, hstreak, hstate, hplain⟩ := run_noted c onInvalid w changes
    exact ⟨reported_of_eq hstory hlength hstreak, hstate.symm, hplain.symm⟩
  · intro s os s' v
    refine ⟨?_, fun id t₀ t₁ l h₀ h₁ hrep hslot hl hidle n =>
      begun_iff_due (s := s') rfl ⟨0, w⟩ (os.map beside) h₀ h₁ hrep hslot hl hidle⟩
    obtain ⟨changes, later, hlength, hseen, hworld⟩ :=
      follows_course (s := s') (m := ofChannel c onInvalid) rfl w os
    exact ⟨changes, hlength, hseen, by rw [hworld]⟩
  · intro s os v
    obtain ⟨changes, later, hlength, hseen, hworld⟩ := follows_course
      (s := { s with caretaker := (noted c onInvalid).caretaker }) (m := noted c onInvalid) rfl w os
    obtain ⟨as, hstory, hfirings, hstreak, -, -⟩ := run_noted c onInvalid w changes
    refine reported_of_eq ?_ (hfirings.trans hlength) ?_
    · rw [hseen, hstory]
    · rw [hworld]
      exact hstreak

/-- A source that crashes when it is first asked and finds nothing connected from then on. -/
def startled : ActiveChannelCheck Unit Nat where
  source := ⟨fun _ asked => ⟨if asked = 0 then none else some false, [], asked + 1⟩⟩
  context := "db"

/-- A callback that always crashes. -/
def hopeless (asked : Nat) : Turn Bool Unit Nat := ⟨false, [], asked⟩

/-- A scheduler that fires their monitor every 15 ms. -/
def anxious : Scheduler Unit (Watched Nat) where
  caretaker := (ofChannel startled hopeless).caretaker
  name := "anxious"
  settings := ⟨.zero, .ofMillis 15⟩
  runtime := .live
  rate_ne_zero := by decide

/-- Armed, polled at once and again when two more ticks are due. -/
def morning : List (Occurrence Nat) := [.call .start, .poll 0, .elapse 40, .poll 0]

/-- What becomes of it. -/
def outcome : Course Unit (Watched Nat) := anxious.course ⟨0, 0⟩ (morning.map beside)

unseal Clock.instant in
/-- **All firings crash and none is lost**: the first one in its source, the others in the
callback. -/
theorem crashed_firings_reported :
    (begunBy 0 outcome.trace).map (·.time) = [0, 40, 40] ∧
      outcome.trace.countP
        (fun | .shown (.seen (.finished _ ending _)) => ending == .crashed | _ => false) = 3 ∧
      outcome.state.world.failures = 2 ∧
      ∀ n, anxious.settings.tickTime 0 n ≤ outcome.now ↔ n < 3 := by
  have hpolls : pollsOf 0 outcome.trace = [0, 40] := by cbv
  have hslot : outcome.state.slot = some 0 := by cbv
  have hloop : outcome.state.loops[0]? = some ⟨.waiting 3 45000000, false⟩ := by cbv
  have h₀ : (pollsOf 0 outcome.trace).head? = some 0 := by rw [hpolls]; rfl
  have h₁ : ∀ t ∈ pollsOf 0 outcome.trace, t ≤ 40 := by simp [hpolls]
  have hrep : anxious.settings.Representable 0 40 :=
    Settings.representable_of_lt (by cbv) (by cbv)
  obtain ⟨-, hscheduled, -⟩ := firings_reported startled hopeless 0
  have hdue := (hscheduled anxious morning).2 0 0 40 _ h₀ h₁ hrep hslot hloop (by cbv)
  have hbegun : (begunBy 0 outcome.trace).length = 3 := by cbv
  exact ⟨by cbv, by cbv, by cbv, hbegun ▸ hdue⟩

end ConnectionMonitor

end Vigil
