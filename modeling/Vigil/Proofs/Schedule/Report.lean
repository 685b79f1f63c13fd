import Vigil.Proofs.Schedule.Turn

/-!
# What is logged of firings

Each firing makes an entry when it begins, and another one if it crashes.

* `Told`: each crash is followed by its entry, and there are as many entries as firings and as
  crashes, unless the caretaker makes such entries itself.
* `told_course`: **the log of every history tells its firings**.
-/

namespace Vigil

variable {ε ω : Type}

/-- Whether the entry is logged here. -/
def Incident.logs (entry : Log.Entry) : Incident ε → Bool
  | .shown (.log e) => e = entry
  | _ => false

@[simp] theorem Incident.logs_log (e entry : Log.Entry) :
    (.shown (.log e) : Incident ε).logs entry = decide (e = entry) := rfl

@[simp] theorem Incident.logs_seen (o : Sight ε) (entry : Log.Entry) :
    (.shown (.seen o) : Incident ε).logs entry = false := rfl

/-- Whether a firing crashes here. -/
def Incident.crashes : Incident ε → Bool
  | .shown (.seen (.finished _ .crashed _)) => true
  | .shown (.seen (.finished _ .crashedAtOnce _)) => true
  | _ => false

namespace Scheduler

variable {s : Scheduler ε ω} {st st' : State ω} {tr es : List (Incident ε)} {id : Nat}

@[simp] theorem firingEntry_ne_crashEntry (s : Scheduler ε ω) : s.firingEntry ≠ s.crashEntry := by
  simp [firingEntry, crashEntry]

/-- The caretaker's own log has none of the entries that the scheduler makes of firings. -/
def Reserved (s : Scheduler ε ω) : Prop :=
  ∀ firing now w, ∀ entry, .log entry ∈ (s.caretaker.run firing now w).seen →
    entry ≠ s.firingEntry ∧ entry ≠ s.crashEntry

/-- **What is logged of firings**: each crash is followed by its entry, and there are as many
entries as firings and as crashes. -/
structure Told (s : Scheduler ε ω) (tr : List (Incident ε)) : Prop where
  crash : ∀ i x, tr[i]? = some x → x.crashes = true →
    tr[i + 1]? = some (.shown (.log s.crashEntry))
  count : s.Reserved → tr.countP (·.logs s.firingEntry) = (begun tr).length ∧
    tr.countP (·.logs s.crashEntry) = tr.countP (·.crashes)

theorem Told.append (h : Told s tr) (h' : Told s es) : Told s (tr ++ es) where
  crash i x hi hx := by
    rw [List.getElem?_append] at hi ⊢
    split at hi
    · have hnext := h.crash i x hi hx
      rw [if_pos (List.getElem?_eq_some_iff.1 hnext).1]
      exact hnext
    · rw [if_neg (by omega), show i + 1 - tr.length = i - tr.length + 1 by omega]
      exact h'.crash _ x hi hx
  count hs := by
    obtain ⟨hf, hc⟩ := h.count hs
    obtain ⟨hf', hc'⟩ := h'.count hs
    rw [List.countP_append, List.countP_append, List.countP_append, begun_append,
      List.length_append, hf, hf', hc, hc']
    exact ⟨rfl, rfl⟩

/-- Incidents at which no firing begins or crashes. -/
theorem told_quiet (hcrash : ∀ x ∈ es, x.crashes = false) (hbegun : begun es = [])
    (hlog : s.Reserved → ∀ x ∈ es, x.logs s.firingEntry = false ∧ x.logs s.crashEntry = false) :
    Told s es where
  crash i x hi hx := by simp [hcrash x (List.mem_of_getElem? hi)] at hx
  count hs := by
    have hf := List.countP_eq_zero.2 fun x hx => by simpa using (hlog hs x hx).1
    have hc := List.countP_eq_zero.2 fun x hx => by simpa using (hlog hs x hx).2
    have hx := List.countP_eq_zero.2 fun x hx => by simpa using hcrash x hx
    rw [hf, hc, hx, hbegun]
    exact ⟨rfl, rfl⟩

theorem told_nil (s : Scheduler ε ω) : Told s ([] : List (Incident ε)) :=
  told_quiet (by simp) rfl (by simp)

theorem told_began (s : Scheduler ε ω) (b : Firing) :
    Told s ([.shown (.log s.firingEntry), b.incident] : List (Incident ε)) where
  crash i x hi hx := by
    have hmem := List.mem_of_getElem? hi
    simp only [List.mem_cons, List.not_mem_nil, or_false] at hmem
    rcases hmem with rfl | rfl <;> cases hx
  count _ := by simp [Firing.incident, Incident.firing?, Incident.crashes]

theorem told_crash (s : Scheduler ε ω) {ending : Ending}
    (hending : ending = .crashed ∨ ending = .crashedAtOnce) (firing now : Nat) :
    Told s ([.shown (.seen (.finished firing ending now)), .shown (.log s.crashEntry)] :
      List (Incident ε)) where
  crash i x hi hx := by
    rcases i with _ | _ | i
    · rfl
    · simp only [List.getElem?_cons_succ, List.getElem?_cons_zero, Option.some.injEq] at hi
      subst hi
      cases hx
    · simp at hi
  count _ := by
    rcases hending with rfl | rfl <;>
      simp [Incident.firing?, Incident.crashes, s.firingEntry_ne_crashEntry.symm]

/-- What the caretaker lets be seen. -/
theorem told_own (s : Scheduler ε ω) (firing now : Nat) (w : ω) :
    Told s ((s.caretaker.run firing now w).seen.map (.shown ∘ ownEvent)) := by
  refine told_quiet ?_ (begun_own _) ?_
  · intro x hx
    obtain ⟨e, -, rfl⟩ := List.mem_map.1 hx
    cases e <;> rfl
  · intro hs x hx
    obtain ⟨e, he, rfl⟩ := List.mem_map.1 hx
    cases e with
    | log entry => simpa [ownEvent] using hs firing now w entry he
    | seen o => exact ⟨rfl, rfl⟩

/-- What is logged of a call is told apart by its level. -/
theorem serve_log (s : Scheduler ε ω) (st : State ω) (c : Call) :
    ∀ e ∈ (s.serve st c).2.1, e ≠ s.firingEntry ∧ e ≠ s.crashEntry := by
  cases c with
  | isArmed => simp [serve]
  | start | stop => cases hs : st.slot <;> simp [serve, start, stop, hs, firingEntry, crashEntry]

theorem told_answer (s : Scheduler ε ω) (c : Call) (st : State ω) :
    Told s ((s.answer c st).1.map Incident.shown : List (Incident ε)) := by
  obtain ⟨hseen, -⟩ | ⟨-, hseen, -⟩ := s.answer_cases st c <;> rw [hseen]
  · exact told_quiet (by simp [Incident.crashes]) rfl (by simp)
  · refine told_quiet ?_ (by simp [Incident.firing?]) fun _ => ?_
    · simp [or_imp, forall_and, Incident.crashes]
    · simpa [or_imp, forall_and] using serve_log s st c

theorem told_cancelled (s : Scheduler ε ω) (phase : Phase) (now : Nat) :
    Told s ((cancelled phase now).map Incident.shown : List (Incident ε)) := by
  unfold cancelled
  split
  · exact told_quiet (by simp [Incident.crashes]) rfl (by simp)
  · exact told_nil s

theorem Goes.told {now : Nat} {f g : Focus} {seen : List (Event (Sight ε))}
    (h : Goes s now id f st g seen st') : Told s (seen.map .shown) := by
  cases h with
  | @began tick =>
    simpa [Firing.incident] using
      (told_began s ⟨id, tick, st.fired, now⟩).append (told_own s st.fired now st.world)
  | @beganAndCrashed tick =>
    simpa [Firing.incident] using ((told_began s ⟨id, tick, st.fired, now⟩).append
      (told_own s st.fired now st.world)).append (told_crash s (.inr rfl) st.fired now)
  | returned => exact told_quiet (by simp [Incident.crashes]) rfl (by simp)
  | crashed => exact told_crash s (.inl rfl) _ now
  | napped => exact told_nil s
  | called c => exact told_answer s c st

theorem Polls.told {now : Nat} {l : FiringLoop} {seen : List (Event (Sight ε))}
    (h : Polls s now id st l seen st') (htr : Told s tr) : Told s (tr ++ seen.map .shown) :=
  h.keeps tr (I := fun _ tr => Told s tr) (fun hgo htr => htr.append hgo.told) (fun htr => htr)
    (fun _ htr => htr.append (told_cancelled s _ now)) htr

theorem told_course (s : Scheduler ε ω) (w : ω) (os : List (Occurrence ω)) :
    Told s (s.course w os).trace := by
  refine course_keeps (P := fun v => Told s v.trace) (told_nil s) ?_ os
  intro v o u hstep hv
  cases hstep with
  | void | elapsed | stirred => exact hv
  | called | dropped =>
    exact hv.append (told_quiet (by simp [Incident.crashes]) rfl (by simp [Incident.logs]))
  | polled _ _ hpolls =>
    refine hpolls.told (hv.append ?_)
    split
    · exact told_nil s
    · exact told_quiet (by simp [Incident.crashes]) rfl (by simp [Incident.logs])

end Scheduler

end Vigil
