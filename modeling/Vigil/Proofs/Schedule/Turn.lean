import Vigil.Proofs.Schedule.History

/-!
# What one occurrence can do

Everything that can happen to a scheduler, said once: `Goes` lists the steps a running loop can
take, `Stays` where it can come to a wait, `Polls` what a whole poll can amount to, and `Steps` all
that an occurrence can. Invariants of histories are shown from these.

* `drive_keeps`, `Polls.keeps`: what every step of a loop preserves, a whole run of it and a whole
  poll preserve.
* `moves_move`, `polls_poll`, `steps_step`: what a running loop does next is one of the cases of
  `Goes` and `Stays`, a poll one of the cases of `Polls`, and an occurrence one of the cases of
  `Steps`.
-/

namespace Vigil.Scheduler

variable {ε ω : Type} {s : Scheduler ε ω} {st : State ω}

/-! ## What calls and notes leave -/

/-- What an abort leaves of the loops. -/
theorem State.getElem?_abort (st : State ω) (id i : Nat) :
    (st.abort id).loops[i]? =
      (st.loops[i]?).map fun l => if id = i then { l with aborted := true } else l := by
  unfold abort
  rw [List.getElem?_modify]
  rfl

/-- What a note of a phase leaves of the loops. -/
theorem State.getElem?_note (st : State ω) (id : Nat) (phase : Phase) (i : Nat) :
    (st.note id phase).loops[i]? =
      (st.loops[i]?).map fun l => if id = i then { l with phase := phase } else l := by
  unfold note
  rw [List.getElem?_modify]
  rfl

/-- A phase noted that is already noted. -/
theorem State.note_self {st : State ω} {id : Nat} {l : FiringLoop} (hl : st.loops[id]? = some l) :
    st.note id l.phase = st := by
  unfold note
  have hloops : st.loops.modify id (fun l' => { l' with phase := l.phase }) = st.loops := by
    refine List.ext_getElem? fun i => ?_
    rw [List.getElem?_modify]
    by_cases hi : id = i
    · subst hi
      simp [hl]
    · simp [hi]
  rw [hloops]

theorem State.loop_of_abort {st : State ω} {id i : Nat} {l : FiringLoop}
    (hl : (st.abort id).loops[i]? = some l) :
    ∃ l₀, st.loops[i]? = some l₀ ∧ l = if id = i then { l₀ with aborted := true } else l₀ := by
  rw [State.getElem?_abort] at hl
  obtain ⟨l₀, hl₀, rfl⟩ := Option.map_eq_some_iff.1 hl
  exact ⟨l₀, hl₀, rfl⟩

theorem State.loop_of_note {st : State ω} {id i : Nat} {phase : Phase} {l : FiringLoop}
    (hl : (st.note id phase).loops[i]? = some l) :
    ∃ l₀, st.loops[i]? = some l₀ ∧ l = if id = i then { l₀ with phase := phase } else l₀ := by
  rw [State.getElem?_note] at hl
  obtain ⟨l₀, hl₀, rfl⟩ := Option.map_eq_some_iff.1 hl
  exact ⟨l₀, hl₀, rfl⟩

/-- A loop after `start` was there before, or is the one spawned. -/
theorem loop_of_start {i : Nat} {l : FiringLoop} (hl : (s.start st).state.loops[i]? = some l) :
    st.loops[i]? = some l ∨
      i = st.loops.length ∧ l.aborted = false ∧
        (l.phase = .fresh ∧ s.runtime = .live ∨ l.phase = .ended ∧ s.runtime = .gone) := by
  unfold start at hl
  cases hs : st.slot with
  | some id =>
    rw [hs] at hl
    exact .inl hl
  | none =>
    simp only [hs] at hl
    obtain hlt | hle := Nat.lt_or_ge i st.loops.length
    · rw [List.getElem?_append_left hlt] at hl
      exact .inl hl
    · rw [List.getElem?_append_right hle, List.getElem?_singleton] at hl
      split at hl
      · obtain rfl := Option.some.inj hl
        refine .inr ⟨by omega, rfl, ?_⟩
        cases s.runtime with
        | live => exact .inl ⟨rfl, rfl⟩
        | gone => exact .inr ⟨rfl, rfl⟩
      · cases hl

/-- **What a call within a firing comes to**: it finds the scheduler gone, or is served as one from
outside. -/
theorem answer_cases (s : Scheduler ε ω) (st : State ω) (c : Call) :
    ((s.answer c st).1 = [.seen (.answered c none)] ∧ (s.answer c st).2.2 = st) ∨
      st.dropped = false ∧
        (s.answer c st).1 =
          (s.serve st c).2.1.map .log ++ [.seen (.answered c (some (s.serve st c).1))] ∧
        (s.answer c st).2.2 = (s.serve st c).2.2 := by
  unfold answer
  cases st.dropped with
  | true => exact .inl ⟨rfl, rfl⟩
  | false => cases c <;> exact .inr ⟨rfl, rfl, rfl⟩

theorem serve_fired (s : Scheduler ε ω) (st : State ω) (c : Call) :
    (s.serve st c).2.2.fired = st.fired := by
  cases c with
  | isArmed => rfl
  | start | stop => cases hs : st.slot <;> simp [serve, start, stop, hs, State.abort]

theorem serve_dropped (s : Scheduler ε ω) (st : State ω) (c : Call) :
    (s.serve st c).2.2.dropped = st.dropped := by
  cases c with
  | isArmed => rfl
  | start | stop => cases hs : st.slot <;> simp [serve, start, stop, hs, State.abort]

/-- Calls do not touch the caretaker's world. -/
theorem serve_world (s : Scheduler ε ω) (st : State ω) (c : Call) :
    (s.serve st c).2.2.world = st.world := by
  cases c with
  | isArmed => rfl
  | start | stop => cases hs : st.slot <;> simp [serve, start, stop, hs, State.abort]

theorem drop_world (st : State ω) : st.drop.2.world = st.world := by
  unfold State.drop
  cases st.slot <;> rfl

/-- No loop is ever forgotten. -/
theorem length_le_serve (s : Scheduler ε ω) (st : State ω) (c : Call) :
    st.loops.length ≤ (s.serve st c).2.2.loops.length := by
  cases c with
  | isArmed => exact Nat.le_refl _
  | start | stop => cases hs : st.slot <;> simp [serve, start, stop, hs, State.abort]

/-- Nothing begins where a loop ends. -/
theorem begun_cancelled (phase : Phase) (now : Nat) :
    begun ((cancelled phase now).map Incident.shown : List (Incident ε)) = [] := by
  unfold cancelled
  split <;> rfl

/-- The end of a loop is no call. -/
theorem successes_cancelled (phase : Phase) (now : Nat) :
    successes ((cancelled phase now).map Incident.shown : List (Incident ε)) = [] := by
  unfold cancelled
  split <;> rfl

/-! ## Steps of a loop -/

/-- **The steps a loop can take** while it runs, with what is shown and the state after. -/
inductive Goes (s : Scheduler ε ω) (now id : Nat) :
    Focus → State ω → Focus → List (Event (Sight ε)) → State ω → Prop
  | began {tick due next : Nat} {steps : List Action} {st : State ω}
      (hdue : due ≤ Clock.instant now) (hnext : s.settings.nextDue? now due = some next)
      (hopen : (s.caretaker.run st.fired now st.world).steps = some steps) :
      Goes s now id (.tick tick due) st (.act st.fired steps (tick + 1) next)
        (.log s.firingEntry :: .seen (.began id tick st.fired now) ::
          (s.caretaker.run st.fired now st.world).seen.map ownEvent)
        { st with
          fired := st.fired + 1
          world := (s.caretaker.run st.fired now st.world).world }
  | beganAndCrashed {tick due next : Nat} {st : State ω}
      (hdue : due ≤ Clock.instant now) (hnext : s.settings.nextDue? now due = some next)
      (hopen : (s.caretaker.run st.fired now st.world).steps = none) :
      Goes s now id (.tick tick due) st (.tick (tick + 1) next)
        (.log s.firingEntry :: .seen (.began id tick st.fired now) ::
          (s.caretaker.run st.fired now st.world).seen.map ownEvent ++
            [.seen (.finished st.fired .crashedAtOnce now), .log s.crashEntry])
        { st with
          fired := st.fired + 1
          world := (s.caretaker.run st.fired now st.world).world }
  | returned {firing tick due : Nat} {st : State ω} :
      Goes s now id (.act firing [] tick due) st (.tick tick due)
        [.seen (.finished firing .returned now)] st
  | crashed {firing tick due : Nat} {rest : List Action} {st : State ω} :
      Goes s now id (.act firing (.crash :: rest) tick due) st (.tick tick due)
        [.seen (.finished firing .crashed now), .log s.crashEntry] st
  | napped {firing tick due : Nat} {rest : List Action} {st : State ω} :
      Goes s now id (.act firing (.sleep 0 :: rest) tick due) st (.act firing rest tick due) [] st
  | called {firing tick due : Nat} {rest : List Action} {st : State ω} (c : Call) :
      Goes s now id (.act firing (.call c :: rest) tick due) st (.act firing rest tick due)
        (s.answer c st).1 (s.answer c st).2.2

/-- **Where a loop can come to a wait**, or to its end. -/
inductive Stays (s : Scheduler ε ω) (now : Nat) : Focus → Phase → Prop
  | waiting {tick due : Nat} (hdue : Clock.instant now < due) :
      Stays s now (.tick tick due) (.waiting tick due)
  /-- The tick was missed, and the instant after it cannot be represented. -/
  | lost {tick due : Nat} (hdue : due ≤ Clock.instant now)
      (hnext : s.settings.nextDue? now due = none) : Stays s now (.tick tick due) .ended
  | asleep {firing millis tick due : Nat} {rest : List Action} (hpos : millis ≠ 0) :
      Stays s now (.act firing (.sleep millis :: rest) tick due)
        (.asleep firing (now + millis) rest tick due)
  | yielded {firing tick due : Nat} {rest : List Action} :
      Stays s now (.act firing (.yield :: rest) tick due) (.yielded firing rest tick due)

variable {now id : Nat} {f g : Focus} {st' : State ω}

/-- What a running loop does next: it takes one of these steps, or comes to one of these waits. -/
inductive Moves (s : Scheduler ε ω) (now id : Nat) (f : Focus) (st : State ω) : Move ε ω → Prop
  | stay {phase : Phase} (h : Stays s now f phase) : Moves s now id f st (.stay phase)
  | go {g : Focus} {seen : List (Event (Sight ε))} {woken : List Nat} {st' : State ω}
      (h : Goes s now id f st g seen st') : Moves s now id f st (.go g seen woken st')

theorem moves_move (s : Scheduler ε ω) (now id : Nat) (f : Focus) (st : State ω) :
    Moves s now id f st (s.move now id f st) := by
  rcases f with ⟨tick, due⟩ | ⟨firing, _ | ⟨a, rest⟩, tick, due⟩
  · unfold move
    simp only
    split
    · rename_i hdue
      split
      · rename_i hnext
        exact .stay (.lost hdue hnext)
      · rename_i next hnext
        unfold beginFiring
        simp only
        split
        · rename_i steps hopen
          exact .go (.began hdue hnext hopen)
        · rename_i hopen
          exact .go (.beganAndCrashed hdue hnext hopen)
    · rename_i hdue
      exact .stay (.waiting (by omega))
  · exact .go .returned
  · cases a with
    | sleep millis =>
      simp only [move, act]
      split
      · rename_i h0
        subst h0
        exact .go .napped
      · rename_i hpos
        exact .stay (.asleep hpos)
    | yield => exact .stay .yielded
    | crash => exact .go .crashed
    | call c => exact .go (.called c)

theorem goes_of_move {seen : List (Event (Sight ε))} {woken : List Nat}
    (h : s.move now id f st = .go g seen woken st') : Goes s now id f st g seen st' := by
  have hgo : Moves s now id f st (.go g seen woken st') := h ▸ moves_move s now id f st
  cases hgo with
  | go hgo => exact hgo

theorem stays_of_move {phase : Phase} (h : s.move now id f st = .stay phase) :
    Stays s now f phase := by
  have hstay : Moves s now id f st (.stay phase) := h ▸ moves_move s now id f st
  cases hstay with
  | stay hstay => exact hstay

theorem drive_of_stay {phase : Phase} (h : s.move now id f st = .stay phase) :
    s.drive now id f st = ⟨phase, [], [], st⟩ := by
  unfold drive
  split
  · rename_i h'
    rw [h] at h'
    cases h'
    rfl
  · rename_i h'
    rw [h] at h'
    cases h'

theorem drive_of_go {seen : List (Event (Sight ε))} {woken : List Nat}
    (h : s.move now id f st = .go g seen woken st') :
    s.drive now id f st = (s.drive now id g st').after seen woken := by
  conv => lhs; unfold drive
  split
  · rename_i h'
    rw [h] at h'
    cases h'
  · rename_i h'
    rw [h] at h'
    cases h'
    rfl

/-- **A run of a loop preserves what each step preserves**, with the trace as it grows, and ends
at a wait. -/
theorem drive_keeps (s : Scheduler ε ω) (now id : Nat) (f : Focus) (st : State ω)
    (tr : List (Incident ε)) {I : Focus → State ω → List (Incident ε) → Prop}
    (hI : ∀ {f st tr g seen st'}, Goes s now id f st g seen st' → I f st tr →
      I g st' (tr ++ seen.map .shown)) (h : I f st tr) :
    ∃ g, Stays s now g (s.drive now id f st).phase ∧
      I g (s.drive now id f st).state (tr ++ (s.drive now id f st).seen.map .shown) := by
  induction f, st using drive.induct s now id generalizing tr with
  | case1 f st phase hmove =>
    rw [drive_of_stay hmove]
    exact ⟨f, stays_of_move hmove, by simpa using h⟩
  | case2 f st g seen woken st' hmove _ ih =>
    rw [drive_of_go hmove]
    obtain ⟨k, hk, hIk⟩ := ih _ (hI (goes_of_move hmove) h)
    exact ⟨k, hk, by simpa [Run.after, List.append_assoc] using hIk⟩

/-- Where a poll takes a loop up again. -/
inductive Resumes (s : Scheduler ε ω) (now : Nat) : Phase → Focus → Prop
  | first {due : Nat} (hdue : s.settings.firstDue? now = some due) :
      Resumes s now .fresh (.tick 0 due)
  | tick {tick due : Nat} : Resumes s now (.waiting tick due) (.tick tick due)
  | woke {firing wake tick due : Nat} {rest : List Action} (hwake : wake ≤ now) :
      Resumes s now (.asleep firing wake rest tick due) (.act firing rest tick due)
  | turn {firing tick due : Nat} {rest : List Action} :
      Resumes s now (.yielded firing rest tick due) (.act firing rest tick due)

/-- **What a poll can amount to**, of a loop `l` that has not ended: what is shown, and the state
after. -/
inductive Polls (s : Scheduler ε ω) (now id : Nat) (st : State ω) (l : FiringLoop) :
    List (Event (Sight ε)) → State ω → Prop
  /-- It has been told to end. -/
  | reaped (habort : l.aborted = true) :
      Polls s now id st l (cancelled l.phase now) (st.note id .ended)
  /-- The instant of its first tick cannot be represented. -/
  | overflowed (habort : l.aborted = false) (hphase : l.phase = .fresh)
      (hdue : s.settings.firstDue? now = none) : Polls s now id st l [] (st.note id .ended)
  /-- It sleeps on. -/
  | slept {firing wake tick due : Nat} {rest : List Action} (habort : l.aborted = false)
      (hphase : l.phase = .asleep firing wake rest tick due) (hwake : now < wake) :
      Polls s now id st l [] st
  | ran {f : Focus} (habort : l.aborted = false) (hf : Resumes s now l.phase f) :
      Polls s now id st l (s.drive now id f st).seen
        ((s.drive now id f st).state.note id (s.drive now id f st).phase)
  /-- It was told to end while it ran. -/
  | ranOut {f : Focus} (habort : l.aborted = false) (hf : Resumes s now l.phase f)
      (hafter : ((s.drive now id f st).state.loops[id]?.map (·.aborted)).getD false = true) :
      Polls s now id st l
        ((s.drive now id f st).seen ++ cancelled (s.drive now id f st).phase now)
        ((s.drive now id f st).state.note id .ended)

/-- **A poll preserves what each step preserves**, what does not depend on where the loop stands,
and what bears its end. -/
theorem Polls.keeps {l : FiringLoop} {seen : List (Event (Sight ε))}
    (h : Polls s now id st l seen st') (tr : List (Incident ε))
    {I : State ω → List (Incident ε) → Prop}
    (hgoes : ∀ {f st tr g seen st'}, Goes s now id f st g seen st' → I st tr →
      I st' (tr ++ seen.map .shown))
    (hnote : ∀ {st tr phase}, I st tr → I (st.note id phase) tr)
    (hcancel : ∀ {st tr} phase, I st tr → I st (tr ++ (cancelled phase now).map .shown))
    (hI : I st tr) : I st' (tr ++ seen.map .shown) := by
  have hdrive : ∀ f, I (s.drive now id f st).state
      (tr ++ (s.drive now id f st).seen.map .shown) := by
    intro f
    obtain ⟨-, -, hd⟩ := drive_keeps s now id f st tr (I := fun _ => I) hgoes hI
    exact hd
  cases h with
  | reaped => exact hcancel _ (hnote hI)
  | overflowed =>
    rw [List.map_nil, List.append_nil]
    exact hnote hI
  | slept =>
    rw [List.map_nil, List.append_nil]
    exact hI
  | ran => exact hnote (hdrive _)
  | ranOut =>
    rw [List.map_append, ← List.append_assoc]
    exact hcancel _ (hnote (hdrive _))

theorem polls_settle {l : FiringLoop} (habort : l.aborted = false) (hf : Resumes s now l.phase f) :
    Polls s now id st l (settle now id (s.drive now id f st)).seen
      (settle now id (s.drive now id f st)).state := by
  unfold settle
  split
  · rename_i hafter
    exact .ranOut habort hf hafter
  · exact .ran habort hf

/-- How a poll goes of a loop that has not ended: the loop ends, sleeps on, or runs. -/
theorem poll_eq (s : Scheduler ε ω) (now : Nat) {l : FiringLoop} (hl : st.loops[id]? = some l)
    (hne : l.phase ≠ .ended) :
    (l.aborted = true ∧ s.poll now id st = finish now id l.phase st) ∨
      l.aborted = false ∧
        ((l.phase = .fresh ∧ s.settings.firstDue? now = none ∧
            s.poll now id st = ⟨.ended, [], [], st.note id .ended⟩) ∨
          (∃ firing wake rest tick due, l.phase = .asleep firing wake rest tick due ∧ now < wake ∧
            s.poll now id st = ⟨l.phase, [], [], st⟩) ∨
          ∃ f, Resumes s now l.phase f ∧ s.poll now id st = settle now id (s.drive now id f st)) := by
  unfold poll
  rw [hl]
  by_cases habort : l.aborted = true
  · exact .inl ⟨habort, if_pos habort⟩
  simp only [if_neg habort]
  refine .inr ⟨by simpa using habort, ?_⟩
  cases hphase : l.phase with
  | ended => exact absurd hphase hne
  | fresh =>
    -- the comparison with the horizon must not be computed
    generalize hdue : s.settings.firstDue? now = due
    cases due with
    | none => exact .inl ⟨rfl, rfl, rfl⟩
    | some due => exact .inr (.inr ⟨_, .first hdue, rfl⟩)
  | waiting tick due => exact .inr (.inr ⟨_, .tick, rfl⟩)
  | asleep firing wake rest tick due =>
    by_cases hwake : wake ≤ now
    · exact .inr (.inr ⟨_, .woke hwake, if_pos hwake⟩)
    · exact .inr (.inl ⟨_, _, _, _, _, rfl, by omega, if_neg hwake⟩)
  | yielded firing rest tick due => exact .inr (.inr ⟨_, .turn, rfl⟩)

theorem polls_poll {l : FiringLoop} (hl : st.loops[id]? = some l) (hne : l.phase ≠ .ended) :
    Polls s now id st l (s.poll now id st).seen (s.poll now id st).state := by
  obtain ⟨habort, h⟩ | ⟨habort, ⟨hphase, hdue, h⟩ | ⟨_, _, _, _, _, hphase, hwake, h⟩ | ⟨f, hf, h⟩⟩ :=
    s.poll_eq now hl hne
  all_goals rw [h]
  · exact .reaped habort
  · exact .overflowed habort hphase hdue
  · exact .slept habort hphase hwake
  · exact polls_settle habort hf

/-- A poll of what has ended, or was never spawned, does nothing; any other is one of the cases of
`Polls`. -/
theorem poll_cases (s : Scheduler ε ω) (now id : Nat) (st : State ω) :
    ((∀ l, st.loops[id]? = some l → l.phase = .ended) ∧
        (s.poll now id st).seen = [] ∧ (s.poll now id st).state = st) ∨
      ∃ l, st.loops[id]? = some l ∧ l.phase ≠ .ended ∧
        Polls s now id st l (s.poll now id st).seen (s.poll now id st).state := by
  cases hl : st.loops[id]? with
  | none => exact .inl (by simp [poll, hl])
  | some l =>
    by_cases hphase : l.phase = .ended
    · refine .inl ⟨fun l' hl' => Option.some.inj hl' ▸ hphase, ?_⟩
      have hnote : st.note id .ended = st := hphase ▸ State.note_self hl
      cases habort : l.aborted with
      | true => simp [poll, hl, habort, hphase, finish, cancelled, Phase.firing?, hnote]
      | false => simp [poll, hl, habort, hphase]
    · exact .inr ⟨l, rfl, hphase, polls_poll hl hphase⟩

/-- **What one occurrence can amount to.** -/
inductive Steps (s : Scheduler ε ω) (v : Course ε ω) : Occurrence ω → Course ε ω → Prop
  /-- A call that nobody can make, or a poll of what has ended or was never spawned. -/
  | void (o : Occurrence ω) : Steps s v o v
  | called (c : Call) (hd : v.state.dropped = false) :
      Steps s v (.call c)
        { v with
          state := (s.serve v.state c).2.2
          trace := v.trace ++ [.called c (s.serve v.state c).1 (s.serve v.state c).2.1] }
  | dropped (hd : v.state.dropped = false) :
      Steps s v .drop { v with state := v.state.drop.2, trace := v.trace ++ [.dropped] }
  | elapsed (millis : Nat) : Steps s v (.elapse millis) { v with now := v.now + millis }
  | stirred (f : ω → ω) :
      Steps s v (.stir f) { v with state := { v.state with world := f v.state.world } }
  | polled {id : Nat} {l : FiringLoop} {seen : List (Event (Sight ε))} {st : State ω}
      (hl : v.state.loops[id]? = some l) (hne : l.phase ≠ .ended)
      (hpolls : Polls s v.now id v.state l seen st) :
      Steps s v (.poll id)
        { v with
          state := st
          trace := v.trace ++ (if l.aborted then [] else [.polled id v.now]) ++
            seen.map .shown }

theorem steps_step (s : Scheduler ε ω) (v : Course ε ω) (o : Occurrence ω) :
    Steps s v o (s.step v o) := by
  unfold step
  cases o with
  | call c =>
    simp only
    split
    · exact .void _
    · rename_i hd
      exact .called c (by simpa using hd)
  | drop =>
    simp only
    split
    · exact .void _
    · rename_i hd
      exact .dropped (by simpa using hd)
  | elapse millis => exact .elapsed millis
  | stir f => exact .stirred f
  | poll id =>
    simp only
    split
    · exact .void _
    · rename_i l hl
      split
      · exact .void _
      · rename_i hne
        exact .polled hl hne (polls_poll hl hne)

/-- What each occurrence preserves, all that happens later preserves. -/
theorem later_keeps {P : Course ε ω → Prop} (hP : ∀ {v o u}, Steps s v o u → P v → P u)
    {v : Course ε ω} (h : P v) (later : List (Occurrence ω)) : P (later.foldl s.step v) := by
  induction later generalizing v with
  | nil => exact h
  | cons o later ih => exact ih (hP (steps_step s v o) h)

/-- **What holds at the beginning, and is preserved by each occurrence, holds in every course.** -/
theorem course_keeps {P : Course ε ω → Prop} {w : ω} (hbegin : P (.begin w))
    (hP : ∀ {v o u}, Steps s v o u → P v → P u) (os : List (Occurrence ω)) : P (s.course w os) :=
  later_keeps hP hbegin os

end Vigil.Scheduler
