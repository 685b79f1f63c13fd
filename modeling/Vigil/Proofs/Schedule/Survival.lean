import Vigil.Proofs.Schedule.Cadence

/-!
# Armed schedulers without a loop

A scheduler counts as armed from `start` on, but its loop computes instants only later and ends
when it meets one that cannot be represented. Nothing takes it out of the slot then.

* `armed_loop_ended_iff`: **the loop of an armed scheduler has ended just when its runtime is gone
  or its arithmetic has failed**; as long as its ticks can be represented it lives.
* `begun_eq_nil_of_delay`: a scheduler whose initial delay reaches the horizon never fires.
-/

namespace Vigil

theorem Settings.dueAfter_eq_none {s : Settings} {t₀ : Nat} (h : s.firstDue? t₀ = none)
    (times : List Nat) : s.dueAfter t₀ times = none := by
  unfold dueAfter
  rw [h]
  induction times with
  | nil => rfl
  | cons t times ih => exact ih

namespace Scheduler

variable {ε ω : Type} {s : Scheduler ε ω} {tr : List (Incident ε)} {id : Nat}

/-- The arithmetic of a loop did not fail as long as it knows the instant of its next tick and,
outside its firings, waits for it. -/
theorem Next.not_overflowed {tick due : Nat} (h : Next s tr id tick due)
    (hwait : ∀ t ∈ (pollsOf id tr).getLast?, Clock.instant t < due) : ¬ Overflowed s tr id := by
  rintro ⟨t₀, h₀, hfail⟩
  obtain ⟨⟨t, ht, hd⟩, -⟩ := h
  have htt : t = t₀ := Option.some.inj (ht.symm.trans h₀)
  subst htt
  rcases hfail with hfirst | ⟨-, due', u, hd', hu, hlate, -⟩
  · rw [Settings.dueAfter_eq_none (Settings.firstDue?_eq_none.2 hfirst)] at hd
    cases hd
  · have hde := Option.some.inj (hd'.symm.trans hd)
    subst hde
    have := hwait u hu
    omega

/-- A loop that has not been told to end has ended just when the trace says so. -/
theorem LoopOk.ended_iff {l : FiringLoop} (h : LoopOk s tr id l) (habort : l.aborted = false) :
    l.phase = .ended ↔ s.runtime = .gone ∨ l.phase.firing? = none ∧ Overflowed s tr id := by
  constructor
  · intro hphase
    rcases h.lost hphase habort with hgone | hover
    · exact .inl hgone.1
    · exact .inr ⟨by rw [hphase]; rfl, hover⟩
  · rintro (hgone | ⟨hout, hover⟩)
    · apply Classical.byContradiction
      intro hne
      have hlive := h.live hne
      rw [hgone] at hlive
      cases hlive
    · have hst := h.stands
      cases hphase : l.phase with
      | ended => rfl
      | asleep | yielded => simp [hphase, Phase.firing?] at hout
      | fresh =>
        rw [hphase] at hst
        obtain ⟨t₀, h₀, -⟩ := hover
        simp [hst.1] at h₀
      | waiting tick due =>
        rw [hphase] at hst
        exact absurd hover (hst.1.not_overflowed hst.2.2)

/-- **When an armed scheduler is dead.** In every history, the loop of an armed scheduler has ended
just when its runtime is gone or its arithmetic has failed: the instant of its first tick cannot be
represented, or it came to a tick that it had missed, with no firing in flight, and the instant
after that one cannot be. On a live runtime, and as long as its ticks up to the first one after now
can be represented, it has not ended: it waits for its first poll or for a tick, or is in a
firing. -/
theorem armed_loop_ended_iff (s : Scheduler ε ω) (w : ω) (os : List (Occurrence ω))
    (hslot : (s.course w os).state.slot = some id) :
    let v := s.course w os
    ∃ l, v.state.loops[id]? = some l ∧ l.aborted = false ∧
      (l.phase = .ended ↔ s.runtime = .gone ∨ l.phase.firing? = none ∧ Overflowed s v.trace id) ∧
      (s.runtime = .live →
        (∀ t₀ ∈ (pollsOf id v.trace).head?, s.settings.Representable t₀ v.now) →
        l.phase ≠ .ended) := by
  intro v
  have hsound : v.state.Sound := sound_course s w os
  have hv : Ledger s (fun _ => True) v.now v.trace v.state := ledger_course s w os
  have hl := List.getElem?_eq_getElem (hsound.slot id hslot)
  have habort := (hsound.aborted id _ hl).2 hslot
  have hiff := (hv.loops.loops id _ trivial hl).ended_iff habort
  refine ⟨_, hl, habort, hiff, ?_⟩
  intro hlive hrep hphase
  rcases hiff.1 hphase with hgone | ⟨-, hover⟩
  · rw [hlive] at hgone
    cases hgone
  · obtain ⟨t₀, h₀, hfail⟩ := hover
    exact hv.kept.not_overflowed h₀ (hv.polls id) (hrep t₀ h₀) ⟨t₀, h₀, hfail⟩

/-- A scheduler with the longest initial delay in whole seconds, on a live runtime. -/
def eternal : Scheduler Unit Unit where
  caretaker := ⟨fun _ _ w => ⟨[], w, some []⟩⟩
  name := "eternal"
  settings := ⟨.ofSecsClamped 18446744073709551615, .ofMillis 1000⟩
  runtime := .live
  rate_ne_zero := by decide

/-- Its course once it was started and its loop polled. -/
def limbo : Course Unit Unit := eternal.course () [.call .start, .poll 0]

unseal Clock.instant in
/-- The loop has ended, the scheduler still counts as armed, and refuses to be started. -/
theorem limbo_armed_and_dead :
    limbo.state.isArmed = true ∧ limbo.state.loops = [⟨.ended, false⟩] ∧
      (eternal.serve limbo.state .start).1 = false := by
  refine ⟨?_, ?_, ?_⟩ <;> cbv

unseal Clock.instant in
/-- The arithmetic failed at the first poll. -/
theorem limbo_overflowed : Overflowed eternal limbo.trace 0 := by
  have hslot : limbo.state.slot = some 0 := by cbv
  have hloop : limbo.state.loops[0]? = some ⟨.ended, false⟩ := by cbv
  obtain ⟨l, hl, -, hiff, -⟩ := armed_loop_ended_iff eternal () _ hslot
  cases hloop.symm.trans hl
  exact ((hiff.1 rfl).resolve_left (by simp [eternal])).2

/-- **An initial delay that reaches the horizon** lets a scheduler be armed, but never fire. -/
theorem begun_eq_nil_of_delay (s : Scheduler ε ω) (w : ω) (os : List (Occurrence ω))
    (hdelay : Clock.horizon ≤ s.settings.initialDelay.totalNanos) :
    begun (s.course w os).trace = [] := by
  rw [List.eq_nil_iff_forall_not_mem]
  intro b hb
  obtain ⟨before, after, htr⟩ := List.append_of_mem (incident_mem hb)
  obtain ⟨t₀, due, -, hd, -⟩ := ((ledger_course s w os).kept.lawful htr).due
  have hnone : s.settings.firstDue? t₀ = none := Settings.firstDue?_eq_none.2 (by omega)
  rw [Settings.dueAfter_eq_none hnone] at hd
  cases hd

end Scheduler

end Vigil
