import Vigil.Proofs.Schedule.Turn

/-!
# Firings without a wait

A caretaker that neither waits nor calls its scheduler ends each firing in the poll in which it
began, so a poll is a row of whole firings.

* `Caretaker.Immediate`: such a caretaker.
* `episode`: all that is shown of one of its firings.
* `poll_of_immediate`: **what each whole firing preserves, a poll preserves**, and it leaves no
  loop in a firing.
* `atRest_course`: no history leaves a loop in a firing.
-/

namespace Vigil

variable {ε ω : Type}

/-- Every firing returns or crashes where it begins. -/
def Caretaker.Immediate (c : Caretaker ε ω) : Prop :=
  ∀ firing now w, ∀ steps ∈ (c.run firing now w).steps, steps = [] ∨ steps = [.crash]

namespace Scheduler

variable {s : Scheduler ε ω} {st st' : State ω} {now id : Nat}
  {J : ω → List (Event (Sight ε)) → Prop} {seen es : List (Event (Sight ε))}

/-- What is shown of the end of a firing with these steps, none of which waits. -/
def closing (s : Scheduler ε ω) (firing now : Nat) : Option (List Action) → List (Event (Sight ε))
  | some [] => [.seen (.finished firing .returned now)]
  | some _ => [.seen (.finished firing .crashed now), .log s.crashEntry]
  | none => [.seen (.finished firing .crashedAtOnce now), .log s.crashEntry]

/-- **All that is shown of a firing** that does not wait. -/
def episode (s : Scheduler ε ω) (now id tick firing : Nat) (w : ω) : List (Event (Sight ε)) :=
  .log s.firingEntry :: .seen (.began id tick firing now) ::
    (s.caretaker.run firing now w).seen.map ownEvent ++
      s.closing firing now (s.caretaker.run firing now w).steps

theorem begun_closing (s : Scheduler ε ω) (firing now : Nat) (steps : Option (List Action)) :
    begun ((s.closing firing now steps).map Incident.shown) = [] := by
  unfold closing
  split <;> rfl

/-- One firing begins in it. -/
theorem begun_episode (s : Scheduler ε ω) (now id tick firing : Nat) (w : ω) :
    begun ((s.episode now id tick firing w).map Incident.shown) = [⟨id, tick, firing, now⟩] := by
  simp [episode, begun_closing, Incident.firing?]

/-- No loop is in a firing. -/
def State.AtRest (st : State ω) : Prop :=
  ∀ (i : Nat) (l : FiringLoop), st.loops[i]? = some l → l.phase.firing? = none

/-- What holds of the world and of what was shown, whenever no firing is going on, is preserved by
each whole firing. -/
def FiringKeeps (s : Scheduler ε ω) (now id : Nat) (J : ω → List (Event (Sight ε)) → Prop) : Prop :=
  ∀ tick firing w seen, J w seen →
    J (s.caretaker.run firing now w).world (seen ++ s.episode now id tick firing w)

/-- A running loop, seen from the end of the firing that it may be in: what was shown and what is
still to be shown of that firing. -/
def Whole (s : Scheduler ε ω) (now : Nat) (J : ω → List (Event (Sight ε)) → Prop) (f : Focus)
    (w : ω) (seen : List (Event (Sight ε))) : Prop :=
  match f with
  | .tick _ _ => J w seen
  | .act firing rest _ _ =>
    (rest = [] ∨ rest = [.crash]) ∧ J w (seen ++ s.closing firing now (some rest))

theorem Goes.whole (hc : s.caretaker.Immediate) (hJ : s.FiringKeeps now id J) {f g : Focus}
    (h : Goes s now id f st g es st') (hf : Whole s now J f st.world seen) :
    Whole s now J g st'.world (seen ++ es) ∧ st'.loops = st.loops ∧ st'.slot = st.slot ∧
      st'.dropped = st.dropped := by
  cases h with
  | @began tick due next steps _ hdue hnext hopen =>
    refine ⟨⟨hc _ _ _ steps hopen, ?_⟩, rfl, rfl, rfl⟩
    simpa [episode, hopen] using hJ tick st.fired st.world seen hf
  | @beganAndCrashed tick due next _ hdue hnext hopen =>
    refine ⟨?_, rfl, rfl, rfl⟩
    simpa [Whole, episode, closing, hopen] using hJ tick st.fired st.world seen hf
  | returned | crashed => exact ⟨hf.2, rfl, rfl, rfl⟩
  | napped | called => rcases hf.1 with h | h <;> cases h

/-- Such a loop comes to a wait only between two firings. -/
theorem Stays.whole {f : Focus} {phase : Phase} {w : ω} (h : Stays s now f phase)
    (hf : Whole s now J f w seen) : phase.firing? = none ∧ J w seen := by
  cases h with
  | waiting | lost => exact ⟨rfl, hf⟩
  | asleep | yielded => rcases hf.1 with h | h <;> cases h

/-- A run of a loop from a tick on. -/
theorem drive_of_immediate (hc : s.caretaker.Immediate) (hJ : s.FiringKeeps now id J)
    (tick due : Nat) (st : State ω) (h : J st.world seen) :
    let r := s.drive now id (.tick tick due) st
    J r.state.world (seen ++ r.seen) ∧ r.phase.firing? = none ∧ r.state.loops = st.loops ∧
      r.state.slot = st.slot ∧ r.state.dropped = st.dropped := by
  intro r
  obtain ⟨g, hstay, seen', hseen', hwhole, hframe⟩ := drive_keeps s now id (.tick tick due) st
    (seen.map .shown) (I := fun f st' tr => ∃ seen', tr = seen'.map .shown ∧
      Whole s now J f st'.world seen' ∧ st'.loops = st.loops ∧ st'.slot = st.slot ∧
        st'.dropped = st.dropped)
    (by
      rintro f st₁ _ g es st₂ hgo ⟨seen', rfl, hf, hloops, hslot, hdropped⟩
      obtain ⟨hg, hl, hs, hd⟩ := hgo.whole hc hJ hf
      exact ⟨seen' ++ es, by simp, hg, hl.trans hloops, hs.trans hslot, hd.trans hdropped⟩)
    ⟨seen, rfl, h, rfl, rfl, rfl⟩
  rw [← List.map_append, List.map_inj_right fun _ _ => Incident.shown.inj] at hseen'
  subst hseen'
  obtain ⟨hphase, hJr⟩ := hstay.whole hwhole
  exact ⟨hJr, hphase, hframe⟩

theorem State.AtRest.note (h : st.AtRest) {phase : Phase} (hphase : phase.firing? = none)
    (id : Nat) : (st.note id phase).AtRest := by
  intro i l hl
  obtain ⟨l₀, hl₀, rfl⟩ := State.loop_of_note hl
  by_cases hi : id = i
  · simpa [hi] using hphase
  · simpa [hi] using h i l₀ hl₀

theorem State.AtRest.abort (h : st.AtRest) (id : Nat) : (st.abort id).AtRest := by
  intro i l hl
  obtain ⟨l₀, hl₀, rfl⟩ := State.loop_of_abort hl
  by_cases hi : id = i
  · simpa [hi] using h i l₀ hl₀
  · simpa [hi] using h i l₀ hl₀

theorem State.AtRest.start (h : st.AtRest) : (s.start st).state.AtRest := by
  intro i l hl
  obtain hl | ⟨-, -, ⟨hphase, -⟩ | ⟨hphase, -⟩⟩ := loop_of_start hl
  · exact h i l hl
  · rw [hphase]
    rfl
  · rw [hphase]
    rfl

theorem State.AtRest.serve (h : st.AtRest) (c : Call) : (s.serve st c).2.2.AtRest := by
  cases c with
  | isArmed => exact h
  | start => exact h.start
  | stop =>
    unfold Scheduler.serve Scheduler.stop
    cases hs : st.slot with
    | some id => exact h.abort id
    | none => exact h

theorem State.AtRest.drop (h : st.AtRest) : st.drop.2.AtRest := by
  unfold State.drop
  cases hs : st.slot with
  | some id => exact h.abort id
  | none => exact h

theorem cancelled_of_atRest {phase : Phase} (h : phase.firing? = none) (now : Nat) :
    cancelled phase now = ([] : List (Event (Sight ε))) := by
  unfold cancelled
  rw [h]

theorem Polls.immediate {l : FiringLoop} (hpolls : Polls s now id st l es st')
    (hl : st.loops[id]? = some l) (hc : s.caretaker.Immediate) (hJ : s.FiringKeeps now id J)
    (hrest : st.AtRest) (seen : List (Event (Sight ε))) (h : J st.world seen) :
    J st'.world (seen ++ es) ∧ st'.AtRest ∧ st'.slot = st.slot ∧ st'.dropped = st.dropped := by
  have hphase := hrest id l hl
  -- a loop at rest is taken up at a tick
  have hdrive : ∀ {f}, Resumes s now l.phase f →
      let r := s.drive now id f st
      J r.state.world (seen ++ r.seen) ∧ r.phase.firing? = none ∧ r.state.AtRest ∧
        r.state.slot = st.slot ∧ r.state.dropped = st.dropped := by
    intro f hf
    obtain ⟨tick, due, rfl⟩ : ∃ tick due, f = .tick tick due := by
      generalize l.phase = phase at hphase hf
      cases hf with
      | first | tick => exact ⟨_, _, rfl⟩
      | woke | turn => simp [Phase.firing?] at hphase
    obtain ⟨hJr, hr, hloops, hframe⟩ := drive_of_immediate hc hJ tick due st h
    exact ⟨hJr, hr, by unfold State.AtRest; rw [hloops]; exact hrest, hframe⟩
  cases hpolls with
  | reaped =>
    rw [cancelled_of_atRest hphase, List.append_nil]
    exact ⟨h, hrest.note rfl id, rfl, rfl⟩
  | overflowed =>
    rw [List.append_nil]
    exact ⟨h, hrest.note rfl id, rfl, rfl⟩
  | slept =>
    rw [List.append_nil]
    exact ⟨h, hrest, rfl, rfl⟩
  | ran _ hf =>
    obtain ⟨hJr, hr, hrest', hframe⟩ := hdrive hf
    exact ⟨hJr, hrest'.note hr id, hframe⟩
  | ranOut _ hf _ =>
    obtain ⟨hJr, hr, hrest', hframe⟩ := hdrive hf
    rw [cancelled_of_atRest hr, List.append_nil]
    exact ⟨hJr, hrest'.note rfl id, hframe⟩

/-- **What each whole firing preserves, a poll preserves.** -/
theorem poll_of_immediate (hc : s.caretaker.Immediate) (hJ : s.FiringKeeps now id J)
    (hrest : st.AtRest) (seen : List (Event (Sight ε))) (h : J st.world seen) :
    let r := s.poll now id st
    J r.state.world (seen ++ r.seen) ∧ r.state.AtRest ∧ r.state.slot = st.slot ∧
      r.state.dropped = st.dropped := by
  intro r
  obtain ⟨-, hseen, hstate⟩ | ⟨l, hl, -, hpolls⟩ := poll_cases s now id st
  · have hr : r.seen = [] ∧ r.state = st := ⟨hseen, hstate⟩
    rw [hr.1, hr.2, List.append_nil]
    exact ⟨h, hrest, rfl, rfl⟩
  · exact hpolls.immediate hl hc hJ hrest seen h

/-- **No history leaves a loop in a firing.** -/
theorem atRest_course (hc : s.caretaker.Immediate) (w : ω) (os : List (Occurrence ω)) :
    (s.course w os).state.AtRest := by
  refine course_keeps (P := fun v => v.state.AtRest) (by simp [State.AtRest, Course.begin,
    State.initial]) ?_ os
  intro v o u hstep hv
  cases hstep with
  | void | elapsed | stirred => exact hv
  | called c => exact hv.serve c
  | dropped => exact hv.drop
  | polled hl _ hpolls =>
    exact (hpolls.immediate (J := fun _ _ => True) hl hc (fun _ _ _ _ _ => trivial) hv []
      trivial).2.1

end Scheduler

end Vigil
