import Vigil.Proofs.Schedule.Arming
import Vigil.Proofs.Schedule.Ledger
import Vigil.Schedule.Rehearsal

/-!
# Stopping from within a firing

A caretaker may stop its own scheduler in the middle of a firing. This tells the loop to end, which
it does where it next has to wait, and a tick that is already due is nothing to wait for.

* `drive_split`: what is seen in a run of a loop is seen in one of its steps.
* `Winding`: how a loop that was told to end winds up, from the firing in progress on.
* `ended_of_poll`: a poll ends a loop that was told to end, also when that happened during it.
* `overrun_after_self_stop`: **the firing that stopped its scheduler is the last one of its loop
  unless it ends without another wait and the next tick is due by then**; whatever else begins
  does so in the same poll. How many firings that are is left open: a runtime may make a loop
  yield between two overdue ticks, which ends it there.
* `oversleeper_fires_on`: such firings do begin.
-/

namespace Vigil

/-- The firing ends on its own in this part of a trace. -/
def Firing.EndsWithin {ε : Type} (b : Firing) (es : List (Incident ε)) : Prop :=
  ∃ ending time, ending ≠ .cancelled ∧ .shown (.seen (.finished b.number ending time)) ∈ es

theorem Firing.EndsWithin.append {ε : Type} {b : Firing} {es : List (Incident ε)}
    (h : b.EndsWithin es) (later : List (Incident ε)) : b.EndsWithin (es ++ later) := by
  obtain ⟨ending, time, hne, hmem⟩ := h
  exact ⟨ending, time, hne, List.mem_append_left _ hmem⟩

namespace Scheduler

variable {ε ω : Type} {s : Scheduler ε ω} {st st' : State ω} {es : List (Incident ε)}
  {now id due : Nat} {b : Firing} {f g : Focus}

/-- What is seen when a firing has disarmed its own scheduler. -/
def disarmed : Event (Sight ε) := .seen (.answered .stop (some true))

/-! ## The step at which the scheduler is stopped -/

/-- **What is seen in a run is seen in one of its steps**, and the rest of the run is the run from
there on. -/
theorem drive_split (s : Scheduler ε ω) (now id : Nat) (f : Focus) (st : State ω)
    (tr : List (Incident ε)) {I : Focus → State ω → List (Incident ε) → Prop}
    (hI : ∀ {f st tr g seen st'}, Goes s now id f st g seen st' → I f st tr →
      I g st' (tr ++ seen.map .shown)) (h : I f st tr) {e : Event (Sight ε)}
    {before after : List (Event (Sight ε))}
    (hseen : (s.drive now id f st).seen = before ++ e :: after) :
    ∃ g st₁ early first last k st₂, I g st₁ (tr ++ early.map .shown) ∧
      Goes s now id g st₁ k (first ++ e :: last) st₂ ∧ before = early ++ first ∧
      after = last ++ (s.drive now id k st₂).seen ∧
      (s.drive now id f st).state = (s.drive now id k st₂).state := by
  induction f, st using drive.induct s now id generalizing tr before with
  | case1 f st phase hmove =>
    rw [drive_of_stay hmove] at hseen
    simp at hseen
  | case2 f st g seen woken st' hmove _ ih =>
    have hgo := goes_of_move hmove
    rw [drive_of_go hmove] at hseen ⊢
    rcases append_eq_append_cons hseen with ⟨early, rfl, hrest⟩ | ⟨last, rfl, hafter⟩
    · obtain ⟨k, st₁, early', first, last, m, st₂, hI', hgo', rfl, hafter, hstate⟩ :=
        ih _ (hI hgo h) hrest
      exact ⟨k, st₁, seen ++ early', first, last, m, st₂, by simpa using hI', hgo', by simp,
        hafter, hstate⟩
    · exact ⟨f, st, [], before, last, g, st', by simpa using h, hgo, rfl, hafter, rfl⟩

/-- A call of `stop` that disarms the scheduler leaves the slot empty. -/
theorem slot_of_serve_stop (h : (s.serve st .stop).1 = true) :
    (s.serve st .stop).2.2.slot = none := by
  unfold serve stop at h ⊢
  cases hs : st.slot <;> simp_all

/-- Only a call of `stop` disarms a scheduler, and its answer is the last that is seen of it. -/
theorem answer_disarmed {c : Call} {first last : List (Event (Sight ε))}
    (h : (s.answer c st).1 = first ++ disarmed :: last) :
    last = [] ∧ (s.answer c st).2.2.slot = none := by
  obtain ⟨hseen, hst⟩ | ⟨-, hseen, hst⟩ := s.answer_cases st c
  · simp [hseen, disarmed, List.singleton_eq_append_iff] at h
  · rw [hseen] at h
    rw [hst]
    rcases append_eq_append_cons h with ⟨early, -, hanswer⟩ | ⟨logs, hlogs, -⟩
    · obtain ⟨rfl, hanswer⟩ | ⟨_, -, hnil⟩ := List.cons_eq_append_iff.1 hanswer
      · obtain ⟨hc, rfl⟩ := List.cons.inj hanswer
        simp only [disarmed, Event.seen.injEq, Sight.answered.injEq, Option.some.injEq] at hc
        obtain ⟨rfl, hreply⟩ := hc
        exact ⟨rfl, slot_of_serve_stop hreply⟩
      · simp at hnil
    · -- the answer is no entry of the log
      have hmem : disarmed ∈ (s.serve st c).2.1.map (Event.log (ε := Sight ε)) := by simp [hlogs]
      simp [disarmed] at hmem

theorem Goes.of_disarmed {first last : List (Event (Sight ε))}
    (h : Goes s now id f st g (first ++ disarmed :: last) st') :
    (∃ firing rest tick due, g = .act firing rest tick due) ∧ last = [] ∧ st'.slot = none := by
  have hmem : disarmed ∈ first ++ disarmed (ε := ε) :: last := by simp
  generalize hseen : first ++ disarmed (ε := ε) :: last = seen at h hmem
  cases h with
  | began | beganAndCrashed =>
    -- what a caretaker lets be seen is its own
    have hown : ∀ e : Event ε, ownEvent e ≠ disarmed := by
      intro e
      cases e <;> simp [ownEvent, disarmed]
    simp only [List.mem_cons, List.mem_append, List.mem_map] at hmem
    simp_all [disarmed]
  | returned | crashed | napped => simp [disarmed] at hmem
  | called c => exact ⟨⟨_, _, _, _, rfl⟩, answer_disarmed hseen.symm⟩

/-! ## From there to the end of the run -/

/-- Nothing begins in what is seen of a call. -/
theorem begun_answer (s : Scheduler ε ω) (st : State ω) (c : Call) :
    begun ((s.answer c st).1.map Incident.shown) = [] := by
  obtain ⟨hseen, -⟩ | ⟨-, hseen, -⟩ := s.answer_cases st c
  all_goals simp [hseen, Incident.firing?]

/-- **How a loop winds up** while it runs: the firing `b` is in progress, or has ended on its own
with the next tick at `due`, or the loop has gone on to that tick. The trace from the beginning of
`b` on is `es`. -/
inductive Winding (s : Scheduler ε ω) (now id : Nat) (b : Firing) (due : Nat) :
    Focus → List (Incident ε) → Prop
  | firing {rest : List Action} {tick : Nat} {es : List (Incident ε)}
      (hnone : begunBy id es = []) : Winding s now id b due (.act b.number rest tick due) es
  | between {tick : Nat} {es : List (Incident ε)} (hnone : begunBy id es = [])
      (hended : b.EndsWithin es) : Winding s now id b due (.tick tick due) es
  | further {f : Focus} {es : List (Incident ε)} (hdue : due ≤ Clock.instant now)
      (hnext : s.settings.nextDue? now due ≠ none) (hended : b.EndsWithin es)
      (htimes : ∀ c ∈ begunBy id es, c.time = now) : Winding s now id b due f es

/-- A tick is taken, which only a loop does whose firing `b` has ended. -/
theorem Winding.begin {tick next : Nat} {d : Nat} {later : List (Incident ε)}
    (h : Winding s now id b due (.tick tick d) es) (hdue : d ≤ Clock.instant now)
    (hnext : s.settings.nextDue? now d = some next)
    (htimes : ∀ c ∈ begunBy id later, c.time = now) :
    Winding s now id b due g (es ++ later) := by
  cases h with
  | between hnone hended =>
    exact .further hdue (by simp [hnext]) (hended.append _) (by simpa [hnone] using htimes)
  | further hdue hnext hended htimes' =>
    refine .further hdue hnext (hended.append _) ?_
    simpa [or_imp, forall_and] using ⟨htimes', htimes⟩

/-- A firing ends on its own. -/
theorem Winding.finish {firing tick d time : Nat} {rest : List Action} {ending : Ending}
    {later : List (Incident ε)} (h : Winding s now id b due (.act firing rest tick d) es)
    (hne : ending ≠ .cancelled) (hmem : .shown (.seen (.finished firing ending time)) ∈ later)
    (hbegun : begunBy id later = []) :
    Winding s now id b due (.tick tick d) (es ++ later) := by
  cases h with
  | firing hnone =>
    refine .between (by simp [hnone, hbegun]) ?_
    exact ⟨ending, time, hne, List.mem_append_right _ hmem⟩
  | further hdue hnext hended htimes =>
    exact .further hdue hnext (hended.append _) (by simpa [hbegun] using htimes)

/-- A firing goes on. -/
theorem Winding.quiet {firing tick d : Nat} {rest rest' : List Action}
    {later : List (Incident ε)} (h : Winding s now id b due (.act firing rest tick d) es)
    (hbegun : begunBy id later = []) :
    Winding s now id b due (.act firing rest' tick d) (es ++ later) := by
  cases h with
  | firing hnone => exact .firing (by simp [hnone, hbegun])
  | further hdue hnext hended htimes =>
    exact .further hdue hnext (hended.append _) (by simpa [hbegun] using htimes)

theorem Goes.winding {seen : List (Event (Sight ε))} (hgo : Goes s now id f st g seen st')
    (h : Winding s now id b due f es) :
    Winding s now id b due g (es ++ seen.map .shown) := by
  cases hgo with
  | began hdue hnext | beganAndCrashed hdue hnext =>
    exact h.begin hdue hnext (by simp [begunBy, Incident.firing?])
  | returned => exact h.finish (by simp) (List.mem_singleton.2 rfl) rfl
  | crashed => exact h.finish (by simp) (List.mem_cons_self ..) rfl
  | napped => exact h.quiet rfl
  | called c => exact h.quiet (begunBy_eq_nil (begun_answer s st c))

/-- **Another firing begins** only when `b` has ended on its own and the next tick is due. -/
theorem Winding.begun_only (h : Winding s now id b due f es) (hbegun : begunBy id es ≠ []) :
    b.EndsWithin es ∧ due ≤ Clock.instant now ∧ s.settings.nextDue? now due ≠ none := by
  cases h with
  | firing hnone | between hnone => exact absurd hnone hbegun
  | further hdue hnext hended => exact ⟨hended, hdue, hnext⟩

theorem Winding.times (h : Winding s now id b due f es) : ∀ c ∈ begunBy id es, c.time = now := by
  cases h with
  | firing hnone | between hnone => simp [hnone]
  | further _ _ _ htimes => exact htimes

/-! ## The poll in which the scheduler is stopped -/

/-- A loop told to end stays told, whatever a running loop does. -/
theorem Goes.aborted {i : Nat} {seen : List (Event (Sight ε))} (hgo : Goes s now i f st g seen st')
    (h : ∃ l, st.loops[id]? = some l ∧ l.aborted = true) :
    ∃ l, st'.loops[id]? = some l ∧ l.aborted = true := by
  cases hgo with
  | began | beganAndCrashed | returned | crashed | napped => exact h
  | called c =>
    obtain ⟨-, hst⟩ | ⟨-, -, hst⟩ := s.answer_cases st c <;> rw [hst]
    · exact h
    · obtain ⟨l, hl, hab⟩ := h
      exact ⟨l, getElem?_serve hl hab c, hab⟩

/-- A phase noted is the phase there. -/
theorem phase_of_note {phase : Phase} {l : FiringLoop}
    (hl : (st.note id phase).loops[id]? = some l) : l.phase = phase := by
  obtain ⟨l₀, -, rfl⟩ := State.loop_of_note hl
  simp

theorem ended_of_settle {r : Run ε ω} {l : FiringLoop}
    (hl : (settle now id r).state.loops[id]? = some l) (hab : l.aborted = true) :
    l.phase = .ended := by
  unfold settle at hl
  split at hl
  · exact phase_of_note hl
  · rename_i hnot
    obtain ⟨l₀, hl₀, rfl⟩ := State.loop_of_note hl
    simp [hl₀] at hnot
    simp [hnot] at hab

/-- **A poll ends a loop that was told to end**, also when that happened during it. -/
theorem ended_of_poll {l : FiringLoop} (hl : (s.poll now id st).state.loops[id]? = some l)
    (hab : l.aborted = true) : l.phase = .ended := by
  obtain ⟨hidle, -, hstate⟩ | ⟨l₀, hold, hne, -⟩ := poll_cases s now id st
  · exact hidle l (hstate ▸ hl)
  obtain ⟨-, h⟩ | ⟨habort, ⟨-, -, h⟩ | ⟨_, _, _, _, _, -, -, h⟩ | ⟨f, -, h⟩⟩ :=
    s.poll_eq now hold hne
  all_goals rw [h] at hl
  · exact phase_of_note hl
  · exact phase_of_note hl
  · -- a loop that sleeps on has not been told
    obtain rfl := Option.some.inj (hold.symm.trans hl)
    rw [hab] at habort
    cases habort
  · exact ended_of_settle hl hab

/-- The end of a loop is no answer of `stop`. -/
theorem disarmed_not_mem_cancelled (phase : Phase) :
    (disarmed : Event (Sight ε)) ∉ cancelled phase now := by
  unfold cancelled
  split <;> simp [disarmed]

/-- **What follows when a firing disarms its own scheduler**: the trace of the loop is `known` up to
the answer of `stop`, and goes on with `es` in the poll of that moment. -/
structure Overrun (s : Scheduler ε ω) (now id : Nat) (known es : List (Incident ε)) (b : Firing)
    (due : Nat) : Prop where
  /-- The firing in progress is `b`. -/
  last : (begunBy id known).getLast? = some b
  /-- The next tick is scheduled for `due`. -/
  next : ∃ t₀, (pollsOf id known).head? = some t₀ ∧
    s.settings.dueAfter t₀ ((begunBy id known).map (·.time)) = some due
  /-- Another firing begins only when `b` ends on its own and that tick can be taken at once. -/
  begun_only : begunBy id es ≠ [] →
    b.EndsWithin es ∧ due ≤ Clock.instant now ∧ s.settings.nextDue? now due ≠ none
  times : ∀ c ∈ begunBy id es, c.time = now

theorem Driving.overrun {tr : List (Incident ε)} (h : Driving s now id f st tr) (hs : st.Sound)
    {before after : List (Event (Sight ε))}
    (hstop : (s.drive now id f st).seen = before ++ disarmed :: after) :
    (∃ b due, Overrun s now id (tr ++ (before ++ [disarmed]).map .shown)
      (after.map .shown) b due) ∧
    ∃ l, (s.drive now id f st).state.loops[id]? = some l ∧ l.aborted = true := by
  obtain ⟨g, st₁, early, first, last, k, st₂, ⟨hd, hs⟩, hgo, rfl, rfl, hstate⟩ :=
    drive_split s now id f st tr (I := fun f st tr => Driving s now id f st tr ∧ st.Sound)
      (fun hgo hI => ⟨hgo.driving hI.1, hgo.sound hI.2⟩) ⟨h, hs⟩ hstop
  have hd := hgo.driving hd
  have hs := hgo.sound hs
  obtain ⟨⟨firing, rest, tick, due, rfl⟩, rfl, hslot⟩ := hgo.of_disarmed
  -- with an empty slot every loop has been told to end
  have hab : ∃ l, st₂.loops[id]? = some l ∧ l.aborted = true := by
    refine ⟨_, List.getElem?_eq_getElem hd.spawned, ?_⟩
    have hiff := hs.aborted id _ (List.getElem?_eq_getElem hd.spawned)
    simpa [hslot] using hiff
  obtain ⟨hnext, earlier, b, hb, rfl, -⟩ := hd.heads
  obtain ⟨m, -, hwind, hab⟩ := drive_keeps s now id _ st₂ []
    (I := fun f st es =>
      Winding s now id b due f es ∧ ∃ l, st.loops[id]? = some l ∧ l.aborted = true)
    (fun hgo hI => ⟨hgo.winding hI.1, hgo.aborted hI.2⟩) ⟨.firing rfl, hab⟩
  rw [List.nil_append] at hwind
  have hknown : tr ++ early.map Incident.shown ++ (first ++ [disarmed]).map .shown =
      tr ++ (early ++ first ++ [disarmed]).map .shown := by simp
  rw [hknown] at hb hnext
  refine ⟨⟨b, due, ⟨by rw [hb, List.getLast?_concat], hnext.due, ?_, ?_⟩⟩, hstate ▸ hab⟩
  · exact hwind.begun_only
  · exact hwind.times

/-- What is seen where the loop ends does not matter. -/
theorem Overrun.cancelled {known : List (Incident ε)} {after : List (Event (Sight ε))}
    (h : Overrun s now id known (after.map .shown) b due) (phase : Phase) :
    Overrun s now id known ((after ++ cancelled phase now).map .shown) b due := by
  have hbegun : begunBy id ((after ++ Scheduler.cancelled phase now).map Incident.shown) =
      begunBy id (after.map .shown) := by
    rw [List.map_append, begunBy_append, begunBy_eq_nil (begun_cancelled phase now),
      List.append_nil]
  refine ⟨h.last, h.next, ?_, by rw [hbegun]; exact h.times⟩
  rw [hbegun, List.map_append]
  exact fun hsome => (h.begun_only hsome).imp_left fun hended => hended.append _

theorem Polls.overrun {tr : List (Incident ε)} {l : FiringLoop} {seen : List (Event (Sight ε))}
    (hpolls : Polls s now id st l seen st') (h : Ledger s (fun _ => True) now tr st)
    (hs : st.Sound) (hl : st.loops[id]? = some l) {before after : List (Event (Sight ε))}
    (hstop : seen = before ++ disarmed :: after) :
    l.aborted = false ∧
    (∃ b due, Overrun s now id (tr ++ .polled id now :: (before ++ [disarmed]).map .shown)
      (after.map .shown) b due) ∧
    ∃ l', st'.loops[id]? = some l' ∧ l'.aborted = true := by
  have hnote : ∀ {st : State ω} {phase}, (∃ l, st.loops[id]? = some l ∧ l.aborted = true) →
      ∃ l, (st.note id phase).loops[id]? = some l ∧ l.aborted = true := by
    rintro st phase ⟨l, hl, hab⟩
    exact ⟨{ l with phase := phase }, by rw [State.getElem?_note, hl]; simp, hab⟩
  cases hpolls with
  | reaped =>
    have hmem : disarmed ∈ cancelled (ε := ε) l.phase now := by simp [hstop]
    exact absurd hmem (disarmed_not_mem_cancelled _)
  | overflowed | slept => simp at hstop
  | ran habort hf =>
    obtain ⟨hover, hab⟩ := (h.driving hl hf).overrun hs hstop
    exact ⟨habort, by simpa using hover, hnote hab⟩
  | @ranOut f habort hf =>
    rcases append_eq_append_cons hstop with ⟨early, -, hend⟩ | ⟨last, hlast, rfl⟩
    · have hmem : disarmed ∈ cancelled (ε := ε) (s.drive now id f st).phase now := by simp [hend]
      exact absurd hmem (disarmed_not_mem_cancelled _)
    · obtain ⟨⟨b, due, hover⟩, hab⟩ := (h.driving hl hf).overrun hs hlast
      exact ⟨habort, ⟨b, due, by simpa using hover.cancelled _⟩, hnote hab⟩

/-- A poll of what has ended, or was never spawned, shows nothing. -/
theorem loop_of_seen {e : Event (Sight ε)} (h : e ∈ (s.poll now id st).seen) :
    ∃ l, st.loops[id]? = some l ∧ l.phase ≠ .ended := by
  obtain ⟨-, hseen, -⟩ | ⟨l, hl, hphase, -⟩ := poll_cases s now id st
  · simp [hseen] at h
  · exact ⟨l, hl, hphase⟩

/-- **A firing that stops its own scheduler.** In every history, when a firing of a loop calls
`stop` and disarms the scheduler, with `before` and `after` seen around the answer in that poll:
* the loop has ended when the poll is over, and never begins another firing, whatever happens
  later;
* until then another firing begins only if the firing in progress ends on its own, that is
  without coming to a wait, and the next tick is already due and can be followed by another one;
* all such firings begin at the time of the poll. -/
theorem overrun_after_self_stop (s : Scheduler ε ω) (w : ω) (os : List (Occurrence ω)) (id : Nat)
    {before after : List (Event (Sight ε))}
    (hstop : (s.poll (s.course w os).now id (s.course w os).state).seen =
      before ++ disarmed :: after) :
    let v := s.course w os
    let u := s.step v (.poll id)
    let known := v.trace ++ .polled id v.now :: (before ++ [disarmed]).map .shown
    u.trace = known ++ after.map .shown ∧
    (∃ b due, Overrun s v.now id known (after.map .shown) b due) ∧
    u.state.loops[id]? = some ⟨.ended, true⟩ ∧
    ∀ later : List (Occurrence ω),
      begunBy id (later.foldl s.step u).trace = begunBy id u.trace := by
  intro v u known
  have hv : Ledger s (fun _ => True) v.now v.trace v.state := ledger_course s w os
  have hs : v.state.Sound := sound_course s w os
  obtain ⟨l, hl, hne⟩ := loop_of_seen (e := disarmed) (by rw [hstop]; simp)
  obtain ⟨hab, hover, l', hl', hab'⟩ := (polls_poll hl hne).overrun hv hs hl hstop
  have hu : u = { v with
      state := (s.poll v.now id v.state).state
      trace := known ++ after.map .shown } := by
    simp [u, known, step, v, hl, hne, hab, hstop]
  have hended : u.state.loops[id]? = some ⟨.ended, true⟩ := by
    rw [hu]
    rw [← ended_of_poll hl' hab', ← hab']
    exact hl'
  refine ⟨by rw [hu], hover, hended, ?_⟩
  intro later
  have hrest : Rested id .ended u.trace u.state u.trace :=
    ⟨.inr hended, [], by simp, rfl, rfl⟩
  obtain ⟨es, htr, hbegun, -⟩ := (later_keeps (s := s)
    (P := fun u' => Rested id .ended u.trace u'.state u'.trace) Steps.rested hrest later).trace
  rw [htr, begunBy_append, hbegun, List.append_nil]

/-- A scheduler that fires every 10 ms, and whose first firing sleeps for 35 ms before it stops
the scheduler. -/
def oversleeper : Scheduler Unit Unit where
  caretaker := Schedule.Script.caretaker [.steps [.sleep 35, .call .stop]]
  name := "oversleeper"
  settings := ⟨.zero, .ofMillis 10⟩
  runtime := .live
  rate_ne_zero := by decide

/-- Until its first firing wakes. -/
def dawn : List (Occurrence Unit) := [.call .start, .poll 0, .elapse 35]

/-- The poll in which it wakes. -/
def waking : Run Unit Unit :=
  oversleeper.poll (oversleeper.course () dawn).now 0 (oversleeper.course () dawn).state

/-- What is seen then, once the firing has stopped the scheduler. -/
def overslept : List (Event (Sight Unit)) := waking.seen.drop 2

unseal Clock.instant in
theorem waking_seen :
    waking.seen =
      [.log ⟨.info, "Scheduler disarmed", [("caretaker", "oversleeper")]⟩] ++
        disarmed :: overslept := by
  cbv

unseal Clock.instant in
theorem begunBy_overslept : begunBy 0 (overslept.map Incident.shown) ≠ [] := by
  apply List.ne_nil_of_length_eq_add_one
  cbv

/-- **A scheduler that was stopped goes on firing**: the three ticks that the first firing has
overslept are still worked off after it has stopped the scheduler. -/
theorem oversleeper_fires_on :
    ¬ ∀ before after, waking.seen = before ++ disarmed :: after →
      begunBy 0 (after.map Incident.shown) = [] := by
  intro h
  exact begunBy_overslept (h _ overslept waking_seen)

unseal Clock.instant in
/-- They do so because the first firing ends without another wait, and they are the last ones. -/
theorem oversleeper_overrun :
    (∃ b : Firing, b.EndsWithin (overslept.map Incident.shown)) ∧
      ∀ later : List (Occurrence Unit),
        (begunBy 0 (later.foldl oversleeper.step
          (oversleeper.step (oversleeper.course () dawn) (.poll 0))).trace).map (·.time) =
            [0, 35, 35, 35] := by
  obtain ⟨-, ⟨b, due, hover⟩, -, hlast⟩ :=
    overrun_after_self_stop oversleeper () dawn 0 waking_seen
  refine ⟨⟨b, (hover.begun_only begunBy_overslept).1⟩, ?_⟩
  intro later
  rw [hlast later]
  cbv

end Scheduler

end Vigil
