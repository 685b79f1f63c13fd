import Vigil.Proofs.Schedule.Turn

/-!
# Arming and disarming

* `State.Sound`: the slot names the one loop that has not been told to end, if there is one. Every
  step of a history preserves it.
* `alternation`: successful calls take turns, `start` first.
* `Rested`: between two courses a loop did not move.
* `one_loop_while_armed`: **in every history the scheduler drives exactly one loop while it is
  armed and none otherwise**, a call does what its answer says, and a loop that was stopped or
  given up never moves again.
-/

namespace Vigil.Scheduler

variable {ε ω : Type} {s : Scheduler ε ω} {st st' : State ω}

/-! ## The slot and the loops -/

/-- **The slot names the only loop that has not been told to end.** -/
structure State.Sound (st : State ω) : Prop where
  slot : ∀ id, st.slot = some id → id < st.loops.length
  aborted : ∀ id l, st.loops[id]? = some l → (l.aborted = false ↔ st.slot = some id)
  dropped : st.dropped = true → st.slot = none

theorem State.sound_initial (w : ω) : (State.initial w).Sound where
  slot := by simp [initial]
  aborted := by simp [initial]
  dropped := by simp [initial]

theorem State.Sound.start (h : st.Sound) (hd : st.dropped = false) : (s.start st).state.Sound := by
  cases hs : st.slot with
  | some id =>
    unfold Scheduler.start
    rw [hs]
    exact h
  | none =>
    have hslot : (s.start st).state.slot = some st.loops.length := by simp [Scheduler.start, hs]
    refine ⟨?_, ?_, ?_⟩
    · intro id hid
      obtain rfl := Option.some.inj (hslot.symm.trans hid)
      simp [Scheduler.start, hs]
    · intro id l hl
      rw [hslot, Option.some.injEq]
      obtain hl | ⟨rfl, hnew, -⟩ := loop_of_start hl
      · -- an old loop has been told to end, as the slot was empty
        have hold := h.aborted id l hl
        have hlt := (List.getElem?_eq_some_iff.1 hl).1
        rw [hs] at hold
        simp only [hold, reduceCtorEq, false_iff]
        omega
      · simp [hnew]
    · intro hdrop
      simp [Scheduler.start, hs, hd] at hdrop

/-- A loop told to end and taken out of the slot. -/
theorem State.Sound.release {id : Nat} (h : st.Sound) (hs : st.slot = some id) (dropped : Bool) :
    ({ st.abort id with slot := none, dropped := dropped } : State ω).Sound := by
  refine ⟨by simp, ?_, by simp⟩
  intro i l hl
  obtain ⟨l₀, hl₀, rfl⟩ := State.loop_of_abort hl
  have hold := h.aborted i l₀ hl₀
  rw [hs, Option.some.injEq] at hold
  by_cases hi : id = i
  · simp [hi]
  · simp [hi, hold]

theorem State.Sound.stop (h : st.Sound) : (s.stop st).state.Sound := by
  unfold Scheduler.stop
  cases hs : st.slot with
  | some id => exact h.release hs st.dropped
  | none => exact h

theorem State.Sound.drop (h : st.Sound) : st.drop.2.Sound := by
  unfold State.drop
  cases hs : st.slot with
  | some id => exact h.release hs true
  | none => exact ⟨by simp, by simpa [hs] using h.aborted, by simp⟩

theorem State.Sound.note (h : st.Sound) (id : Nat) (phase : Phase) : (st.note id phase).Sound := by
  refine ⟨?_, ?_, h.dropped⟩
  · intro i hi
    simpa [State.note] using h.slot i hi
  · intro i l hl
    obtain ⟨l₀, hl₀, rfl⟩ := State.loop_of_note hl
    have hold : l₀.aborted = false ↔ st.slot = some i := h.aborted i l₀ hl₀
    change _ ↔ st.slot = some i
    by_cases hi : id = i
    · simpa [hi] using hold
    · simpa [hi] using hold

theorem State.Sound.answer (h : st.Sound) (c : Call) : (s.answer c st).2.2.Sound := by
  unfold Scheduler.answer
  split
  · exact h
  · rename_i hd
    rw [Bool.not_eq_true] at hd
    cases c with
    | start => exact h.start hd
    | stop => exact h.stop
    | isArmed => exact h

theorem Goes.sound {now id : Nat} {f g : Focus} {seen : List (Event (Sight ε))}
    (h : Goes s now id f st g seen st') (hst : st.Sound) : st'.Sound := by
  cases h with
  | began | beganAndCrashed => exact ⟨hst.slot, hst.aborted, hst.dropped⟩
  | returned | crashed | napped => exact hst
  | called c => exact hst.answer c

theorem Polls.sound {now id : Nat} {l : FiringLoop} {seen : List (Event (Sight ε))}
    (h : Polls s now id st l seen st') (hst : st.Sound) : st'.Sound :=
  h.keeps [] (I := fun st _ => st.Sound) Goes.sound (fun hst => hst.note _ _)
    (fun _ hst => hst) hst

/-! ## Successful calls take turns -/

/-- The first `n` successful calls: `start` and `stop` in turn. -/
def alternation (n : Nat) : List Call :=
  (List.range n).map fun k => if k % 2 = 0 then .start else .stop

theorem alternation_succ (n : Nat) :
    alternation (n + 1) = alternation n ++ [if n % 2 = 0 then .start else .stop] := by
  simp [alternation, List.range_succ]

/-- So far the successful calls took turns, and the next one is `stop` just when the scheduler is
armed. -/
def TakesTurns (st : State ω) (tr : List (Incident ε)) : Prop :=
  ∃ n, successes tr = alternation n ∧
    (st.dropped = false → (st.isArmed = true ↔ n % 2 = 1))

theorem serve_granted {n : Nat} (hn : st.isArmed = true ↔ n % 2 = 1)
    (c : Call) :
    ∃ m, alternation n ++ (granted c (some (s.serve st c).1)).toList = alternation m ∧
      ((s.serve st c).2.2.isArmed = true ↔ m % 2 = 1) := by
  unfold State.isArmed at hn
  cases c with
  | isArmed => exact ⟨n, by simp [granted], hn⟩
  | start =>
    cases hs : st.slot with
    | some id =>
      refine ⟨n, ?_, ?_⟩
      · simp [serve, start, hs, granted]
      · simpa [serve, start, hs, State.isArmed] using hn
    | none =>
      have hn0 : n % 2 = 0 := by
        simp only [hs, Option.isSome_none, Bool.false_eq_true, false_iff] at hn; omega
      refine ⟨n + 1, ?_, ?_⟩
      · simp [serve, start, hs, granted, alternation_succ, hn0]
      · simp only [serve, start, hs, State.isArmed, Option.isSome_some, true_iff]; omega
  | stop =>
    cases hs : st.slot with
    | some id =>
      have hn1 : n % 2 = 1 := by
        simpa only [hs, Option.isSome_some, true_iff] using hn
      refine ⟨n + 1, ?_, ?_⟩
      · simp [serve, stop, hs, granted, alternation_succ, hn1]
      · simp only [serve, stop, hs, State.isArmed, Option.isSome_none, Bool.false_eq_true,
          false_iff]
        omega
    | none =>
      refine ⟨n, ?_, ?_⟩
      · simp [serve, stop, hs, granted]
      · simpa [serve, stop, hs, State.isArmed] using hn

theorem TakesTurns.quiet {tr es : List (Incident ε)} (h : TakesTurns st tr)
    (hes : successes es = []) : TakesTurns st (tr ++ es) := by
  obtain ⟨n, hn, harm⟩ := h
  exact ⟨n, by rw [successes_append, hes, List.append_nil, hn], harm⟩

theorem TakesTurns.serve {tr : List (Incident ε)} (h : TakesTurns st tr)
    (hd : st.dropped = false) (c : Call) {es : List (Incident ε)}
    (hes : successes es = (granted c (some (s.serve st c).1)).toList) :
    TakesTurns (s.serve st c).2.2 (tr ++ es) := by
  obtain ⟨n, hn, harm⟩ := h
  obtain ⟨m, hm, harm'⟩ := serve_granted (s := s) (harm hd) c
  exact ⟨m, by rw [successes_append, hes, hn, hm], fun _ => harm'⟩

theorem Goes.takesTurns {now id : Nat} {f g : Focus} {seen : List (Event (Sight ε))}
    {tr : List (Incident ε)} (h : Goes s now id f st g seen st') (ht : TakesTurns st tr) :
    TakesTurns st' (tr ++ seen.map .shown) := by
  cases h with
  | began | beganAndCrashed =>
    refine TakesTurns.quiet ?_ (by simp [Incident.success?])
    exact ht
  | returned | crashed | napped => exact ht.quiet rfl
  | called c =>
    obtain ⟨hseen, hst⟩ | ⟨hd, hseen, hst⟩ := s.answer_cases st c <;> rw [hseen, hst]
    · exact ht.quiet (by simp [Incident.success?, granted])
    · exact ht.serve hd c (by simp [Incident.success?])

theorem Polls.takesTurns {now id : Nat} {l : FiringLoop} {seen : List (Event (Sight ε))}
    {tr : List (Incident ε)} (h : Polls s now id st l seen st') (ht : TakesTurns st tr) :
    TakesTurns st' (tr ++ seen.map .shown) :=
  h.keeps tr Goes.takesTurns (fun ht => ht) (fun _ ht => ht.quiet (successes_cancelled _ _)) ht

/-! ## Loops that were told to end -/

/-- **The loop at `id` has not moved** while the trace grew from `tr` on: it was told to end, stands
where it stood at `phase` or has ended there, and was not polled again. -/
structure Rested (id : Nat) (phase : Phase) (tr : List (Incident ε)) (st : State ω)
    (tr' : List (Incident ε)) : Prop where
  loop : st.loops[id]? = some ⟨phase, true⟩ ∨ st.loops[id]? = some ⟨.ended, true⟩
  trace : ∃ es, tr' = tr ++ es ∧ begunBy id es = [] ∧ pollsOf id es = []

/-- A loop told to end is left as it is by calls. -/
theorem getElem?_serve {id : Nat} {l : FiringLoop} (hl : st.loops[id]? = some l)
    (hab : l.aborted = true) (c : Call) : (s.serve st c).2.2.loops[id]? = some l := by
  have hlt := (List.getElem?_eq_some_iff.1 hl).1
  cases c with
  | isArmed => exact hl
  | start =>
    simp only [serve, start]
    split
    · exact hl
    · rw [List.getElem?_append_left hlt]; exact hl
  | stop =>
    simp only [serve, stop]
    split
    · rw [State.getElem?_abort, hl]
      cases l
      simp_all
    · exact hl

theorem getElem?_drop {id : Nat} {l : FiringLoop} (hl : st.loops[id]? = some l)
    (hab : l.aborted = true) : st.drop.2.loops[id]? = some l := by
  unfold State.drop
  split
  · rw [State.getElem?_abort, hl]
    cases l
    simp_all
  · exact hl

theorem Rested.quiet {id : Nat} {phase : Phase} {tr tr' es : List (Incident ε)}
    (h : Rested id phase tr st tr') (hbegun : begunBy id es = []) (hpolls : pollsOf id es = []) :
    Rested id phase tr st (tr' ++ es) := by
  obtain ⟨es', rfl, hb, hp⟩ := h.trace
  exact ⟨h.loop, es' ++ es, by simp, by simp [hb, hbegun], by simp [hp, hpolls]⟩

theorem Rested.serve {id : Nat} {phase : Phase} {tr tr' : List (Incident ε)}
    (h : Rested id phase tr st tr') (c : Call) : Rested id phase tr (s.serve st c).2.2 tr' := by
  refine ⟨?_, h.trace⟩
  rcases h.loop with hl | hl
  · exact .inl (getElem?_serve hl rfl c)
  · exact .inr (getElem?_serve hl rfl c)

theorem Rested.note {id i : Nat} {phase phase' : Phase} {tr tr' : List (Incident ε)}
    (h : Rested id phase tr st tr') (hi : i ≠ id) :
    Rested id phase tr (st.note i phase') tr' := by
  refine ⟨?_, h.trace⟩
  rw [State.getElem?_note]
  simpa [hi] using h.loop

theorem Rested.finish {id : Nat} {phase : Phase} {tr tr' : List (Incident ε)}
    (h : Rested id phase tr st tr') : Rested id phase tr (st.note id .ended) tr' := by
  refine ⟨.inr ?_, h.trace⟩
  rw [State.getElem?_note]
  rcases h.loop with hl | hl <;> simp [hl]

/-- A step of another loop. -/
theorem Goes.rested {now id i : Nat} {f g : Focus} {phase : Phase} {seen : List (Event (Sight ε))}
    {tr tr' : List (Incident ε)} (h : Goes s now i f st g seen st') (hi : i ≠ id)
    (hr : Rested id phase tr st tr') : Rested id phase tr st' (tr' ++ seen.map .shown) := by
  cases h with
  | began | beganAndCrashed =>
    refine Rested.quiet ⟨hr.loop, hr.trace⟩ ?_ (pollsOf_shown _ _)
    simp [begunBy, Incident.firing?, hi]
  | returned | crashed | napped => exact hr.quiet rfl (pollsOf_shown _ _)
  | called c =>
    obtain ⟨hseen, hst⟩ | ⟨-, hseen, hst⟩ := s.answer_cases st c <;> rw [hseen, hst]
    · exact hr.quiet rfl (pollsOf_shown _ _)
    · refine (hr.serve c).quiet ?_ (pollsOf_shown _ _)
      simp [begunBy, Incident.firing?]

/-- A poll of any loop leaves one that was told to end where it stands. -/
theorem Polls.rested {now id i : Nat} {l : FiringLoop} {phase : Phase}
    {seen : List (Event (Sight ε))} {tr tr' : List (Incident ε)}
    (h : Polls s now i st l seen st') (hl : st.loops[i]? = some l)
    (hr : Rested id phase tr st tr') : Rested id phase tr st' (tr' ++ seen.map .shown) := by
  by_cases hi : i = id
  · subst hi
    have hab : l.aborted = true := by
      rcases hr.loop with h | h <;> (rw [hl] at h; cases h; rfl)
    cases h with
    | reaped => exact hr.finish.quiet (begunBy_eq_nil (begun_cancelled _ _)) (pollsOf_shown _ _)
    | overflowed habort | slept habort | ran habort | ranOut habort =>
      rw [hab] at habort; cases habort
  · exact h.keeps tr' (fun hgo hr => hgo.rested hi hr) (fun hr => hr.note hi)
      (fun _ hr => hr.quiet (begunBy_eq_nil (begun_cancelled _ _)) (pollsOf_shown _ _)) hr

theorem Steps.rested {id : Nat} {phase : Phase} {tr : List (Incident ε)} {v u : Course ε ω}
    {o : Occurrence ω} (hstep : Steps s v o u) (h : Rested id phase tr v.state v.trace) :
    Rested id phase tr u.state u.trace := by
  cases hstep with
  | void | elapsed => exact h
  | stirred => exact ⟨h.loop, h.trace⟩
  | called c => exact (h.serve c).quiet rfl rfl
  | dropped =>
    refine Rested.quiet ⟨?_, h.trace⟩ rfl rfl
    rcases h.loop with hl | hl
    · exact .inl (getElem?_drop hl rfl)
    · exact .inr (getElem?_drop hl rfl)
  | @polled i l seen st hl hne hpolls =>
    refine hpolls.rested hl (h.quiet ?_ ?_)
    · split <;> rfl
    · -- only a loop that was not told to end leaves a mark
      split
      · rfl
      · rename_i hab
        have hi : i ≠ id := by
          rintro rfl
          rcases h.loop with h | h <;> (rw [hl] at h; cases h; exact hab rfl)
        simp [pollsOf, Incident.pollOf?, hi]

/-! ## Histories -/

theorem sound_course (s : Scheduler ε ω) (w : ω) (os : List (Occurrence ω)) :
    (s.course w os).state.Sound := by
  refine course_keeps (P := fun v => v.state.Sound) (State.sound_initial w) ?_ os
  intro v o u hstep hv
  cases hstep with
  | void | elapsed => exact hv
  | stirred => exact ⟨hv.slot, hv.aborted, hv.dropped⟩
  | called c hd =>
    cases c with
    | start => exact hv.start hd
    | stop => exact hv.stop
    | isArmed => exact hv
  | dropped => exact hv.drop
  | polled _ _ hpolls => exact hpolls.sound hv

theorem takesTurns_course (s : Scheduler ε ω) (w : ω) (os : List (Occurrence ω)) :
    TakesTurns (s.course w os).state (s.course w os).trace := by
  refine course_keeps (P := fun v => TakesTurns v.state v.trace) ?_ ?_ os
  · exact ⟨0, rfl, by simp [Course.begin, State.initial, State.isArmed]⟩
  intro v o u hstep hv
  cases hstep with
  | void | elapsed | stirred => exact hv
  | called c hd => exact hv.serve hd c (by simp [Incident.success?])
  | dropped =>
    obtain ⟨n, hn, -⟩ := hv
    refine ⟨n, by simp [hn, Incident.success?], ?_⟩
    intro hd
    unfold State.drop at hd
    split at hd <;> simp at hd
  | polled _ _ hpolls =>
    refine hpolls.takesTurns (hv.quiet ?_)
    split <;> rfl

/-- A loop that is told to end from outside rests from there on. -/
theorem rested_of_end {id : Nat} {l : FiringLoop} {v : Course ε ω} (hv : v.state.Sound)
    (hslot : v.state.slot = some id) (hl : v.state.loops[id]? = some l) {o : Occurrence ω}
    (ho : o = .call .stop ∨ o = .drop) :
    Rested id l.phase v.trace (s.step v o).state (s.step v o).trace := by
  have hd : v.state.dropped = false := by
    cases hdrop : v.state.dropped with
    | false => rfl
    | true => simp [hv.dropped hdrop] at hslot
  have habort : (v.state.abort id).loops[id]? = some ⟨l.phase, true⟩ := by
    rw [State.getElem?_abort, hl]; simp
  rcases ho with rfl | rfl
  · refine ⟨.inl ?_, [.called .stop true (s.serve v.state .stop).2.1], ?_, rfl, rfl⟩
    · simpa [step, hd, serve, stop, hslot] using habort
    · simp [step, hd, serve, stop, hslot]
  · refine ⟨.inl ?_, [.dropped], ?_, rfl, rfl⟩
    · simpa [step, hd, State.drop, hslot] using habort
    · simp [step, hd]

/-- A poll of a loop at rest only lets it end. -/
theorem Rested.step_poll {id : Nat} {phase : Phase} {tr : List (Incident ε)} {v : Course ε ω}
    (h : Rested id phase tr v.state v.trace) :
    s.step v (.poll id) = v ∨
      s.step v (.poll id) =
        { v with
          state := v.state.note id .ended
          trace := v.trace ++ (cancelled phase v.now).map .shown } := by
  by_cases hphase : v.state.loops[id]? = some ⟨.ended, true⟩
  · exact .inl (by simp [step, hphase])
  · have hl := h.loop.resolve_right hphase
    have hne : phase ≠ .ended := by rintro rfl; exact hphase hl
    right
    simp [step, hl, hne, poll, Scheduler.finish]

/-- A sequence in which one place counts and no other does. -/
theorem countP_eq_one {α : Type} {p : α → Bool} {xs : List α} {n : Nat} (hn : n < xs.length)
    (h : ∀ i x, xs[i]? = some x → (p x = true ↔ i = n)) : xs.countP p = 1 := by
  induction xs generalizing n with
  | nil => simp at hn
  | cons y ys ih =>
    have hy := h 0 y rfl
    cases n with
    | zero =>
      have hys : ys.countP p = 0 := by
        rw [List.countP_eq_zero]
        intro x hx
        obtain ⟨i, hi⟩ := List.mem_iff_getElem?.1 hx
        rw [h (i + 1) x hi]
        omega
      rw [List.countP_cons_of_pos (hy.2 rfl), hys]
    | succ n =>
      rw [List.countP_cons_of_neg (by simp [hy])]
      refine ih (Nat.lt_of_succ_lt_succ hn) fun i x hi => ?_
      rw [h (i + 1) x hi, Nat.add_right_cancel_iff]

/-- The number of loops that were not told to end. -/
theorem State.Sound.countP_aborted (h : st.Sound) :
    st.loops.countP (!·.aborted) = if st.isArmed then 1 else 0 := by
  unfold isArmed
  cases hs : st.slot with
  | none =>
    simp only [Option.isSome_none, Bool.false_eq_true, if_false, List.countP_eq_zero]
    intro l hl
    obtain ⟨i, hi⟩ := List.mem_iff_getElem?.1 hl
    have hold := h.aborted i l hi
    rw [hs] at hold
    simpa using hold
  | some id =>
    refine countP_eq_one (h.slot id hs) fun i l hi => ?_
    rw [Bool.not_eq_true', h.aborted i l hi, hs, Option.some.injEq]
    exact eq_comm

/-- `start` answers whether the scheduler was disarmed, and logs one entry. -/
theorem step_start {v : Course ε ω} (hd : v.state.dropped = false) :
    (s.start v.state).entry.level = (if v.state.isArmed then .warn else .info) ∧
      (s.step v (.call .start)).trace =
        v.trace ++ [.called .start (!v.state.isArmed) [(s.start v.state).entry]] ∧
      (s.step v (.call .start)).state.isArmed = true ∧
      (v.state.isArmed = true → (s.step v (.call .start)).state = v.state) := by
  unfold State.isArmed
  cases hs : v.state.slot <;> simp [step, hd, serve, start, hs]

/-- `stop` answers whether the scheduler was armed, and logs one entry. -/
theorem step_stop {v : Course ε ω} (hd : v.state.dropped = false) :
    (s.stop v.state).entry.level = (if v.state.isArmed then .info else .warn) ∧
      (s.step v (.call .stop)).trace =
        v.trace ++ [.called .stop v.state.isArmed [(s.stop v.state).entry]] ∧
      (s.step v (.call .stop)).state.isArmed = false ∧
      (v.state.isArmed = false → (s.step v (.call .stop)).state = v.state) := by
  unfold State.isArmed
  cases hs : v.state.slot <;> simp [step, hd, serve, stop, hs]

/-- **One loop while armed.** In every history:
* of the loops ever spawned exactly one has not been told to end while the scheduler is armed, and
  none otherwise;
* `start` succeeds just when the scheduler is disarmed and `stop` just when it is armed, each logs
  one entry, a warning if it fails, and a call that fails changes nothing;
* successful calls take turns, `start` first;
* a loop that is stopped or given up never moves again: it begins no firing, goes on with none,
  and all that a poll of it can do is to let it end where it stands. -/
theorem one_loop_while_armed (s : Scheduler ε ω) (w : ω) (os : List (Occurrence ω)) :
    let v := s.course w os
    v.state.loops.countP (!·.aborted) = (if v.state.isArmed then 1 else 0) ∧
    (v.state.dropped = false →
      (∃ entry : Log.Entry, entry.level = (if v.state.isArmed then .warn else .info) ∧
        (s.step v (.call .start)).trace =
          v.trace ++ [.called .start (!v.state.isArmed) [entry]] ∧
        (s.step v (.call .start)).state.isArmed = true ∧
        (v.state.isArmed = true → (s.step v (.call .start)).state = v.state)) ∧
      (∃ entry : Log.Entry, entry.level = (if v.state.isArmed then .info else .warn) ∧
        (s.step v (.call .stop)).trace = v.trace ++ [.called .stop v.state.isArmed [entry]] ∧
        (s.step v (.call .stop)).state.isArmed = false ∧
        (v.state.isArmed = false → (s.step v (.call .stop)).state = v.state)) ∧
      s.step v (.call .isArmed) =
        { v with trace := v.trace ++ [.called .isArmed v.state.isArmed []] }) ∧
    (∃ n, successes v.trace = alternation n) ∧
    ∀ id, v.state.slot = some id → ∃ l, v.state.loops[id]? = some l ∧ l.aborted = false ∧
      ∀ (o : Occurrence ω) (later : List (Occurrence ω)), (o = .call .stop ∨ o = .drop) →
      let u := later.foldl s.step (s.step v o)
      Rested id l.phase v.trace u.state u.trace ∧
        (s.step u (.poll id) = u ∨
          s.step u (.poll id) =
            { u with
              state := u.state.note id .ended
              trace := u.trace ++ (cancelled l.phase u.now).map .shown }) := by
  intro v
  have hv : v.state.Sound := sound_course s w os
  refine ⟨hv.countP_aborted, ?_, ?_, ?_⟩
  · intro hd
    exact ⟨⟨_, step_start hd⟩, ⟨_, step_stop hd⟩, by simp [step, hd, serve]⟩
  · obtain ⟨n, hn, -⟩ := takesTurns_course s w os
    exact ⟨n, hn⟩
  · intro id hslot
    have hl := List.getElem?_eq_getElem (hv.slot id hslot)
    refine ⟨_, hl, (hv.aborted id _ hl).2 hslot, ?_⟩
    intro o later ho
    have hfirst := rested_of_end (s := s) hv hslot hl ho
    have hrest := later_keeps (s := s) (P := fun u => Rested id _ v.trace u.state u.trace)
      Steps.rested hfirst later
    exact ⟨hrest, hrest.step_poll⟩

end Vigil.Scheduler
