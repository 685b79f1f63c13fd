import Vigil.Proofs.Schedule.Cadence
import Vigil.Proofs.Schedule.Immediate
import Vigil.Schedule.Session
import Mathlib.Order.Monotone.Basic
import Mathlib.Order.Nat

/-!
# Ticks on time

A loop whose firings never wait, and that is polled at the times which it waits for: each poll but
the first is one firing, and none is a catching up.

* `drive_tick`: one firing, where a tick is due and the one after it is not.
* `pollTime`, `phaseAfter`: when the loop is polled, and where it stands before each poll.
* `pollTask_onTime`: **polled at its time, the loop shows one firing and waits for its next time.**
-/

namespace Vigil

namespace Settings

variable {s : Settings} {t₀ t n : Nat}

/-- The times at which a loop is polled: when it begins, and then when its ticks are reported. -/
def pollTime (s : Settings) (t₀ : Nat) : Nat → Nat
  | 0 => t₀
  | n + 1 => s.tickTime t₀ n

/-- Where a loop stands after so many of these polls. -/
def phaseAfter (s : Settings) (t₀ : Nat) : Nat → Phase
  | 0 => .fresh
  | n + 1 => .waiting n (s.tickInstant t₀ n)

/-- A delay, and a rate of a millisecond or more: no two ticks are reported at one time. -/
structure Spaced (s : Settings) : Prop where
  delay_pos : 0 < s.initialDelay.totalNanos
  milli_le : Clock.milli ≤ s.rate.totalNanos

/-- When a tick is reported, the next one is still to come. -/
theorem Spaced.instant_lt (h : s.Spaced) :
    Clock.instant (s.tickTime t₀ n) < s.tickInstant t₀ (n + 1) := by
  have hrate := h.milli_le
  rw [tickInstant_succ, Clock.instant_eq]
  unfold tickTime Clock.millisUp Clock.milli at *
  omega

theorem Spaced.begin_lt (h : s.Spaced) : Clock.instant t₀ < s.tickInstant t₀ 0 := by
  have hdelay := h.delay_pos
  unfold tickInstant
  omega

theorem Spaced.strictMono_pollTime (h : s.Spaced) (t₀ : Nat) : StrictMono (s.pollTime t₀) := by
  refine strictMono_nat_of_lt_succ fun n => ?_
  cases n with
  | zero => exact Nat.lt_of_not_le fun hle => Nat.not_le.2 h.begin_lt (tickTime_le_iff.1 hle)
  | succ n => exact Nat.lt_of_not_le fun hle => Nat.not_le.2 h.instant_lt (tickTime_le_iff.1 hle)

/-- The tick after the latest poll can be represented. -/
theorem Representable.tickInstant_lt (h : s.Representable t₀ t) (hn : s.pollTime t₀ n ≤ t) :
    s.tickInstant t₀ n < Clock.horizon := by
  refine h n fun m hm => ?_
  cases n with
  | zero => cases hm
  | succ n =>
    have hlatest : s.tickInstant t₀ n ≤ Clock.instant t := tickTime_le_iff.1 hn
    exact Nat.le_trans (tickInstant_mono s t₀ (Nat.le_of_lt_succ hm)) hlatest

end Settings

namespace Scheduler

variable {ε ω : Type} {s : Scheduler ε ω} {st : State ω} {now id tick due next t₀ t n : Nat}

/-- The state after a firing that does not wait. -/
def State.fire (st : State ω) (s : Scheduler ε ω) (now : Nat) : State ω :=
  { st with
    fired := st.fired + 1
    world := (s.caretaker.run st.fired now st.world).world }

/-- **One firing**, where a tick is due and the one after it is not. -/
theorem drive_tick (hc : s.caretaker.Immediate) (hdue : due ≤ Clock.instant now)
    (hnext : s.settings.nextDue? now due = some next) (hlt : Clock.instant now < next) :
    s.drive now id (.tick tick due) st =
      ⟨.waiting (tick + 1) next, s.episode now id tick st.fired st.world, [], st.fire s now⟩ := by
  have hwait (st' : State ω) : s.drive now id (.tick (tick + 1) next) st' =
      ⟨.waiting (tick + 1) next, [], [], st'⟩ := by
    refine drive_of_stay ?_
    simp only [move, if_neg (Nat.not_le.2 hlt)]
  cases hsteps : (s.caretaker.run st.fired now st.world).steps with
  | none =>
    have hmove : s.move now id (.tick tick due) st = .go (.tick (tick + 1) next)
        (s.episode now id tick st.fired st.world) [] (st.fire s now) := by
      simp only [move, if_pos hdue, hnext, beginFiring, hsteps, episode, closing]
      rfl
    rw [drive_of_go hmove, hwait]
    simp [Run.after]
  | some steps =>
    have hmove : s.move now id (.tick tick due) st = .go (.act st.fired steps (tick + 1) next)
        (.log s.firingEntry :: .seen (.began id tick st.fired now) ::
          (s.caretaker.run st.fired now st.world).seen.map ownEvent) [] (st.fire s now) := by
      simp only [move, if_pos hdue, hnext, beginFiring, hsteps]
      rfl
    -- the steps of the firing are none or a crash, so it ends with the next step of the loop
    have hend : s.move now id (.act st.fired steps (tick + 1) next) (st.fire s now) =
        .go (.tick (tick + 1) next) (s.closing st.fired now (some steps)) [] (st.fire s now) := by
      rcases hc _ _ _ steps hsteps with rfl | rfl <;> rfl
    rw [drive_of_go hmove, drive_of_go hend, hwait]
    simp [Run.after, episode, hsteps]

/-- A loop that nobody ended stays where its run came to a wait. -/
theorem settle_of_loop {phase : Phase} {r : Run ε ω}
    (hl : r.state.loops[id]? = some ⟨phase, false⟩) :
    settle now id r = { r with state := r.state.note id r.phase } := by
  unfold settle
  rw [hl]
  rfl

/-- What such a poll shows. -/
def pollShown (s : Scheduler ε ω) (t₀ id : Nat) (st : State ω) : Nat → List (Event (Sight ε))
  | 0 => []
  | n + 1 => s.episode (s.settings.tickTime t₀ n) id n st.fired st.world

/-- The state after such a poll, but for the place of the loop. -/
def State.pollAfter (st : State ω) (s : Scheduler ε ω) (t₀ : Nat) : Nat → State ω
  | 0 => st
  | n + 1 => st.fire s (s.settings.tickTime t₀ n)

theorem poll_onTime (hc : s.caretaker.Immediate) (hs : s.settings.Spaced)
    (hl : st.loops[id]? = some ⟨s.settings.phaseAfter t₀ n, false⟩)
    (hrep : s.settings.tickInstant t₀ n < Clock.horizon) :
    s.poll (s.settings.pollTime t₀ n) id st =
      ⟨s.settings.phaseAfter t₀ (n + 1), s.pollShown t₀ id st n, [],
        (st.pollAfter s t₀ n).note id (s.settings.phaseAfter t₀ (n + 1))⟩ := by
  cases n with
  | zero =>
    have hfresh : st.loops[id]? = some ⟨.fresh, false⟩ := hl
    have hdue := Settings.firstDue?_of_lt hrep
    have hmove : s.move t₀ id (.tick 0 (s.settings.tickInstant t₀ 0)) st =
        .stay (.waiting 0 (s.settings.tickInstant t₀ 0)) := by
      simp only [move, if_neg (Nat.not_le.2 hs.begin_lt)]
    change s.poll t₀ id st = _
    unfold poll
    -- the comparison with the horizon must not be computed
    generalize s.settings.firstDue? t₀ = first at hdue ⊢
    subst hdue
    simp only [hfresh, Bool.false_eq_true, if_false]
    rw [drive_of_stay hmove]
    exact settle_of_loop hl
  | succ n =>
    have hwaiting : st.loops[id]? = some ⟨.waiting n (s.settings.tickInstant t₀ n), false⟩ := hl
    have hnext : s.settings.nextDue? (s.settings.tickTime t₀ n) (s.settings.tickInstant t₀ n) =
        some (s.settings.tickInstant t₀ (n + 1)) := by
      rw [Settings.tickInstant_succ] at hrep ⊢
      exact Settings.nextDue?_of_lt hrep
    have hdue := Settings.tickTime_le_iff.1 (Nat.le_refl (s.settings.tickTime t₀ n))
    change s.poll (s.settings.tickTime t₀ n) id st = _
    unfold poll
    simp only [hwaiting, Bool.false_eq_true, if_false]
    rw [drive_tick hc hdue hnext hs.instant_lt]
    exact settle_of_loop hl

/-- **Polled at its time, a loop shows one firing** and waits for its next time. -/
theorem pollTask_onTime (hc : s.caretaker.Immediate) (hs : s.settings.Spaced)
    (hl : st.loops[id]? = some ⟨s.settings.phaseAfter t₀ n, false⟩)
    (hrep : s.settings.Representable t₀ t) (hn : s.settings.pollTime t₀ n ≤ t) :
    let p := s.pollTask (s.settings.pollTime t₀ n) id st
    p.seen = s.pollShown t₀ id st n ∧
      p.rest = .untilTime (s.settings.pollTime t₀ (n + 1)) ∧
      p.world.loops[id]? = some ⟨s.settings.phaseAfter t₀ (n + 1), false⟩ := by
  unfold pollTask
  rw [poll_onTime hc hs hl (hrep.tickInstant_lt hn)]
  refine ⟨rfl, rfl, ?_⟩
  have hloops : (st.pollAfter s t₀ n).loops = st.loops := by cases n <;> rfl
  rw [State.getElem?_note, hloops, hl]
  simp

end Scheduler

end Vigil
