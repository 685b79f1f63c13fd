import Vigil.Proofs.Schedule.Arming
import Vigil.Proofs.Schedule.Ledger
import Vigil.Proofs.Schedule.Report

/-!
# Firing on schedule

Tick `n` of a loop that was first polled at `t₀` is scheduled for the instant of `t₀` plus the
initial delay and `n` rates, whatever happened before it.

* `Settings.tickInstant`, `Settings.tickTime`: that instant, and when the clock reports it.
* `Kept.on_schedule`: what the loop computes step by step is this schedule.
* `fires_on_schedule`: **in every history the firings of a loop begin in order, none early, none
  before the one before it has ended, and as many as are due**.
-/

namespace Vigil

/-! ## The schedule -/

namespace Settings

/-- The scheduled instant of tick `n` of a loop first polled at `t₀`. -/
def tickInstant (s : Settings) (t₀ n : Nat) : Nat :=
  Clock.instant t₀ + s.initialDelay.totalNanos + n * s.rate.totalNanos

/-- The time of the clock at which tick `n` is reported. -/
def tickTime (s : Settings) (t₀ n : Nat) : Nat := Clock.millisUp (s.tickInstant t₀ n)

/-- **The ticks can be represented** up to the first one after `t`. -/
def Representable (s : Settings) (t₀ t : Nat) : Prop :=
  ∀ n, (∀ m < n, s.tickInstant t₀ m ≤ Clock.instant t) → s.tickInstant t₀ n < Clock.horizon

variable {s : Settings} {t₀ t n : Nat}

theorem tickInstant_succ (s : Settings) (t₀ n : Nat) :
    s.tickInstant t₀ (n + 1) = s.tickInstant t₀ n + s.rate.totalNanos := by
  unfold tickInstant; rw [Nat.succ_mul]; omega

theorem tickInstant_mono (s : Settings) (t₀ : Nat) {m n : Nat} (h : m ≤ n) :
    s.tickInstant t₀ m ≤ s.tickInstant t₀ n := by
  have := Nat.mul_le_mul_right s.rate.totalNanos h
  unfold tickInstant; omega

theorem tickTime_le_iff : s.tickTime t₀ n ≤ t ↔ s.tickInstant t₀ n ≤ Clock.instant t :=
  Clock.millisUp_le_iff

theorem Representable.next (h : s.Representable t₀ t) (hn : s.tickInstant t₀ n ≤ Clock.instant t) :
    s.tickInstant t₀ n + s.rate.totalNanos < Clock.horizon := by
  rw [← tickInstant_succ]
  refine h (n + 1) ?_
  intro m hm
  exact Nat.le_trans (tickInstant_mono s t₀ (by omega)) hn

/-- A timing whose first tick and whose rate stay short of the horizon. -/
theorem representable_of_lt (hfirst : s.tickInstant t₀ 0 < Clock.horizon)
    (hrate : Clock.instant t + s.rate.totalNanos < Clock.horizon) : s.Representable t₀ t := by
  intro n hn
  cases n with
  | zero => exact hfirst
  | succ n =>
    have := hn n (Nat.lt_succ_self n)
    rw [tickInstant_succ]
    omega

theorem firstDue?_of_lt (h : s.tickInstant t₀ 0 < Clock.horizon) :
    s.firstDue? t₀ = some (s.tickInstant t₀ 0) := by
  unfold tickInstant at h ⊢
  rw [Nat.zero_mul, Nat.add_zero] at h ⊢
  unfold firstDue?
  exact if_pos h

theorem nextDue?_of_lt {now due : Nat} (h : due + s.rate.totalNanos < Clock.horizon) :
    s.nextDue? now due = some (due + s.rate.totalNanos) := by
  unfold nextDue?
  exact if_pos h

end Settings

theorem Clock.instant_mono {a b : Nat} (h : a ≤ b) : Clock.instant a ≤ Clock.instant b := by
  rw [Clock.instant_eq, Clock.instant_eq]; omega

/-- Whether a poll would find something to do. -/
def Phase.Ready (now : Nat) : Phase → Prop
  | fresh => True
  | waiting _ due => Clock.millisUp due ≤ now
  | asleep _ wake _ _ _ => wake ≤ now
  | yielded _ _ _ _ => True
  | ended => False

namespace Scheduler

variable {ε ω : Type} {s : Scheduler ε ω} {st st' : State ω} {tr es : List (Incident ε)} {id : Nat}

/-! ## Firings of one loop -/

/-- **What the first firings of a loop have and each lawful beginning keeps**, all its firings
have. -/
theorem Kept.begunBy_keeps {P : List Firing → Prop} (h : Kept s tr) (hnil : P [])
    (hsnoc : ∀ before b after, tr = before ++ b.incident :: after → Lawful s before b →
      b.loop = id → P (begunBy id before) → P (begunBy id before ++ [b])) :
    P (begunBy id tr) := by
  induction h with
  | nil => exact hnil
  | @snoc tr x h hx ih =>
    have hP : P (begunBy id tr) := by
      refine ih ?_
      rintro before b after rfl
      exact hsnoc before b (after ++ [x]) (by simp)
    rw [begunBy_append]
    cases hxb : x.firing? with
    | none =>
      have hx : begunBy id [x] = [] := begunBy_eq_nil (by simp [hxb])
      rwa [hx, List.append_nil]
    | some b =>
      rw [begunBy_singleton hxb]
      split
      · rename_i hid
        exact hsnoc tr b [] (by rw [Incident.firing?_eq_some.1 hxb]) (hx b hxb) hid hP
      · rwa [List.append_nil]

/-- Firings of a loop begin in the order of its ticks. -/
theorem Kept.ticks (h : Kept s tr) (id : Nat) :
    (begunBy id tr).map (·.tick) = List.range (begunBy id tr).length := by
  refine h.begunBy_keeps (P := fun fs => fs.map (·.tick) = List.range fs.length) rfl ?_
  rintro before b after - hb rfl ih
  simp [ih, hb.tick, List.range_succ]

/-- No two firings have one number. -/
theorem Kept.numbers (h : Kept s tr) :
    (begun tr).map (·.number) = List.range (begun tr).length := by
  induction h with
  | nil => rfl
  | @snoc tr x h hx ih =>
    rw [begun_append]
    cases hxb : x.firing? with
    | none => simpa [hxb] using ih
    | some b => simp [hxb, ih, (hx b hxb).number, List.range_succ]

/-- **A loop computes its schedule**: however late its firings began, the tick after them is due
at its own instant, and no firing began before its tick. -/
theorem Kept.on_schedule (h : Kept s tr) {t₀ t₁ : Nat} (h₀ : (pollsOf id tr).head? = some t₀)
    (h₁ : ∀ t ∈ pollsOf id tr, t ≤ t₁) (hrep : s.settings.Representable t₀ t₁) :
    s.settings.dueAfter t₀ ((begunBy id tr).map (·.time)) =
        some (s.settings.tickInstant t₀ (begunBy id tr).length) ∧
      ∀ b ∈ begunBy id tr, s.settings.tickInstant t₀ b.tick ≤ Clock.instant b.time := by
  refine h.begunBy_keeps (P := fun fs =>
    s.settings.dueAfter t₀ (fs.map (·.time)) = some (s.settings.tickInstant t₀ fs.length) ∧
      ∀ b ∈ fs, s.settings.tickInstant t₀ b.tick ≤ Clock.instant b.time) ?_ ?_
  · refine ⟨?_, by simp⟩
    rw [List.map_nil, Settings.dueAfter_nil]
    exact Settings.firstDue?_of_lt (hrep 0 (by simp))
  rintro before b after rfl hb rfl ⟨hdue, hearly⟩
  obtain ⟨t, due, ht, hd, hle⟩ := hb.due
  -- the loop's first poll stands before its first firing
  have htt : t = t₀ := by
    rw [pollsOf_append, List.head?_append, ht] at h₀
    simpa using h₀
  subst htt
  have hde : due = s.settings.tickInstant t (begunBy b.loop before).length :=
    Option.some.inj (hd.symm.trans hdue)
  subst hde
  have hbt : b.time ≤ t₁ := by
    refine h₁ _ ?_
    rw [pollsOf_append]
    exact List.mem_append_left _ (List.mem_of_getLast? hb.polled)
  have hnext := hrep.next (Nat.le_trans hle (Clock.instant_mono hbt))
  refine ⟨?_, ?_⟩
  · rw [List.map_append, List.map_singleton, Settings.dueAfter_append, hdue, Option.bind_some,
      Settings.nextDue?_of_lt hnext, ← Settings.tickInstant_succ, List.length_append,
      List.length_singleton]
  · intro c hc
    rw [List.mem_append, List.mem_singleton] at hc
    rcases hc with hc | rfl
    · exact hearly c hc
    · rwa [hb.tick]

/-- A firing begins in a poll of its loop. -/
theorem Kept.time_mem (h : Kept s tr) {b : Firing} (hb : b ∈ begunBy id tr) :
    b.time ∈ pollsOf id tr := by
  obtain ⟨hmem, rfl⟩ := mem_begunBy.1 hb
  obtain ⟨before, after, htr⟩ := List.append_of_mem (incident_mem hmem)
  rw [htr, pollsOf_append]
  exact List.mem_append_left _ (List.mem_of_getLast? (h.lawful htr).polled)

/-- A loop whose ticks can be represented does not come to a tick that cannot. -/
theorem Kept.not_overflowed (h : Kept s tr) {t₀ t₁ : Nat} (h₀ : (pollsOf id tr).head? = some t₀)
    (h₁ : ∀ t ∈ pollsOf id tr, t ≤ t₁) (hrep : s.settings.Representable t₀ t₁) :
    ¬ Overflowed s tr id := by
  rintro ⟨t, ht, hfail⟩
  have htt : t = t₀ := Option.some.inj (ht.symm.trans h₀)
  subst htt
  rcases hfail with hfirst | ⟨-, due, u, hd, hu, hlate, hnext⟩
  · have := hrep 0 (by simp)
    unfold Settings.tickInstant at this
    omega
  · obtain ⟨hdue, -⟩ := h.on_schedule h₀ h₁ hrep
    have hde := Option.some.inj (hd.symm.trans hdue)
    subst hde
    have hut := Clock.instant_mono (h₁ u (List.mem_of_getLast? hu))
    have := hrep.next (n := (begunBy id tr).length) (by omega)
    omega

/-- **As many firings have begun as ticks are due** when a loop has nothing to do. -/
theorem LoopOk.due_iff {l : FiringLoop} {now t₀ t₁ : Nat} (hl : LoopOk s tr id l) (h : Kept s tr)
    (h₀ : (pollsOf id tr).head? = some t₀) (h₁ : ∀ t ∈ pollsOf id tr, t ≤ t₁)
    (hnow : ∀ t ∈ pollsOf id tr, t ≤ now) (hrep : s.settings.Representable t₀ t₁)
    (habort : l.aborted = false) (hout : l.phase.firing? = none) (hidle : ¬ l.phase.Ready now)
    (n : Nat) : s.settings.tickTime t₀ n ≤ now ↔ n < (begunBy id tr).length := by
  obtain ⟨hdue, hearly⟩ := h.on_schedule h₀ h₁ hrep
  have hst := hl.stands
  rw [Settings.tickTime_le_iff]
  cases hphase : l.phase with
  | fresh =>
    rw [hphase] at hidle
    exact absurd trivial hidle
  | asleep | yielded => simp [hphase, Phase.firing?] at hout
  | ended =>
    rcases hl.lost hphase habort with hgone | hover
    · simp [hgone.2.1] at h₀
    · exact absurd hover (h.not_overflowed h₀ h₁ hrep)
  | waiting tick due =>
    rw [hphase] at hst hidle
    obtain ⟨⟨⟨t, ht, hd⟩, -⟩, -⟩ := hst
    have htt : t = t₀ := Option.some.inj (ht.symm.trans h₀)
    subst htt
    have hde := Option.some.inj (hd.symm.trans hdue)
    subst hde
    have hwait : Clock.instant now < s.settings.tickInstant t (begunBy id tr).length := by
      simpa [Phase.Ready, Clock.millisUp_le_iff] using hidle
    constructor
    · intro hn
      rcases Nat.lt_or_ge n (begunBy id tr).length with hlt | hge
      · exact hlt
      · have := Settings.tickInstant_mono s.settings t hge
        omega
    · intro hn
      -- the firing of tick `n` has begun, and it was not early
      have hmem : n ∈ (begunBy id tr).map (·.tick) := by
        rw [h.ticks]
        exact List.mem_range.2 hn
      obtain ⟨b, hb, rfl⟩ := List.mem_map.1 hmem
      exact Nat.le_trans (hearly b hb) (Clock.instant_mono (hnow _ (h.time_mem hb)))

/-! ## Whole histories -/

/-- **Fixed rate.** In every history, let `t₀` be the time of the first poll of a loop that is not
polled after `t₁`, and let its ticks up to the first one after `t₁` be representable. Then
* its firings begin in the order of the ticks 0, 1, 2 and so on, and no two firings of the
  scheduler have one number;
* each begins no earlier than its tick is reported, after all earlier ones of the loop have
  returned or crashed, and with an entry of its own in the log;
* **lateness does not accumulate**: whenever the scheduler is armed with this loop, no firing is in
  flight and nothing is left to do for it, as many firings have begun as ticks were reported;
* each crash is followed by an entry of its own, and unless the caretaker logs such entries itself
  there are no others. -/
theorem fires_on_schedule (s : Scheduler ε ω) (w : ω) (os : List (Occurrence ω)) {t₀ t₁ : Nat}
    (h₀ : (pollsOf id (s.course w os).trace).head? = some t₀)
    (h₁ : ∀ t ∈ pollsOf id (s.course w os).trace, t ≤ t₁)
    (hrep : s.settings.Representable t₀ t₁) :
    let v := s.course w os
    (begunBy id v.trace).map (·.tick) = List.range (begunBy id v.trace).length ∧
    (begun v.trace).map (·.number) = List.range (begun v.trace).length ∧
    (∀ (before : List (Incident ε)) (b : Firing) (after : List (Incident ε)),
      v.trace = before ++ b.incident :: after → b.loop = id →
      s.settings.tickTime t₀ b.tick ≤ b.time ∧
      (∀ c ∈ begunBy id before, c.EndedIn before) ∧
      before.getLast? = some (.shown (.log s.firingEntry))) ∧
    (∀ l, v.state.slot = some id → v.state.loops[id]? = some l → l.phase.firing? = none →
      ¬ l.phase.Ready v.now →
      ∀ n, s.settings.tickTime t₀ n ≤ v.now ↔ n < (begunBy id v.trace).length) ∧
    (∀ i x, v.trace[i]? = some x → x.crashes = true →
      v.trace[i + 1]? = some (.shown (.log s.crashEntry))) ∧
    (s.Reserved → v.trace.countP (·.logs s.firingEntry) = (begun v.trace).length ∧
      v.trace.countP (·.logs s.crashEntry) = v.trace.countP (·.crashes)) := by
  intro v
  have hv : Ledger s (fun _ => True) v.now v.trace v.state := ledger_course s w os
  have htold : Told s v.trace := told_course s w os
  refine ⟨hv.kept.ticks id, hv.kept.numbers, ?_, ?_, htold.crash, htold.count⟩
  · intro before b after htr hb
    have hlaw := hv.kept.lawful htr
    refine ⟨?_, hb ▸ hlaw.ended, hlaw.logged⟩
    rw [Settings.tickTime_le_iff]
    refine (hv.kept.on_schedule h₀ h₁ hrep).2 b (mem_begunBy.2 ⟨?_, hb⟩)
    rw [htr]
    simp [Firing.incident, Incident.firing?]
  · intro l hslot hl hout hidle
    have habort := ((sound_course s w os).aborted id l hl).2 hslot
    exact (hv.loops.loops id l trivial hl).due_iff hv.kept h₀ h₁ (hv.polls id) hrep habort hout
      hidle

/-- A scheduler whose firings return at once, every 20 ms. -/
def pulse : Scheduler Unit Unit where
  caretaker := ⟨fun _ _ w => ⟨[], w, some []⟩⟩
  name := "pulse"
  settings := ⟨.zero, .ofMillis 20⟩
  runtime := .live
  rate_ne_zero := by decide

/-- Its loop is not polled for a while, and misses two ticks. -/
def backlog : Course Unit Unit := pulse.course () [.call .start, .poll 0, .elapse 45, .poll 0]

unseal Clock.instant in
/-- The firings of the missed ticks follow at once, and then none is missing. -/
theorem backlog_worked_off :
    (begunBy 0 backlog.trace).map (·.time) = [0, 45, 45] ∧
      ∀ n, pulse.settings.tickTime 0 n ≤ backlog.now ↔ n < (begunBy 0 backlog.trace).length := by
  have hpolls : pollsOf 0 backlog.trace = [0, 45] := by cbv
  have hslot : backlog.state.slot = some 0 := by cbv
  have hloop : backlog.state.loops[0]? = some ⟨.waiting 3 60000000, false⟩ := by cbv
  have h₀ : (pollsOf 0 backlog.trace).head? = some 0 := by rw [hpolls]; rfl
  have h₁ : ∀ t ∈ pollsOf 0 backlog.trace, t ≤ 45 := by simp [hpolls]
  have hrep : pulse.settings.Representable 0 45 :=
    Settings.representable_of_lt (by cbv) (by cbv)
  obtain ⟨-, -, -, hdue, -⟩ := fires_on_schedule pulse () _ h₀ h₁ hrep
  exact ⟨by cbv, hdue _ hslot hloop rfl (by cbv)⟩

end Scheduler

end Vigil
