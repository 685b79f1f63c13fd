import Vigil.Proofs.Demo.Heartbeat
import Vigil.Proofs.Probe.Streak
import Vigil.Proofs.Schedule.Punctual
import Vigil.Proofs.Task.Timetable

/-!
# The timetable of the heartbeat demo

The pulse, the monitor and the channel have their own times, some of them the same. None keeps
another from its turn, however long the demo runs.

* `Tally`: how many lines of each kind there are in an output.
* `Counted`: the outputs and the worlds after so many turns of each task.
* `turnsOnTime_demo`: every turn is taken at its time and adds its line.
* `tally_course`: **as many lines as there was time for**, up to any interrupt.
-/

namespace Vigil.Heartbeat

open Scheduler

/-! ## Lines of each kind -/

/-- What the channel lines say. -/
def channels (out : List (Event Line)) : List Bool :=
  out.filterMap fun
    | .seen (.channel up) => some up
    | _ => none

/-- The times that the pulses print. -/
def pulses (out : List (Event Line)) : List Nat :=
  out.filterMap fun
    | .seen (.pulse millis) => some millis
    | _ => none

/-- **An output has these lines**: pulses at these times, so many firings of the monitor, and so
many channel lines. -/
structure Tally (out : List (Event Line)) (pulseTimes : List Nat) (checks flips : Nat) : Prop where
  pulses : pulses out = pulseTimes
  checks : out.count (.log checkEntry) = checks
  flips : (channels out).length = flips

theorem channels_append (out es : List (Event Line)) :
    channels (out ++ es) = channels out ++ channels es := List.filterMap_append

theorem pulses_append (out es : List (Event Line)) :
    pulses (out ++ es) = pulses out ++ pulses es := List.filterMap_append

theorem Tally.append {out es : List (Event Line)} {ps ps' : List Nat} {m m' k k' : Nat}
    (h : Tally out ps m k) (h' : Tally es ps' m' k') :
    Tally (out ++ es) (ps ++ ps') (m + m') (k + k') := by
  refine ⟨?_, ?_, ?_⟩
  · rw [pulses_append, h.pulses, h'.pulses]
  · rw [List.count_append, h.checks, h'.checks]
  · rw [channels_append, List.length_append, h.flips, h'.flips]

theorem tally_nil : Tally [] [] 0 0 := ⟨rfl, rfl, rfl⟩

variable {s : Schedulers}

/-- A firing of the pulse adds one pulse. -/
theorem Schedulers.Named.tally_pulse (hs : s.Named) (now id tick firing : Nat) (w : Unit) :
    Tally (shown (s.pulse.episode now id tick firing w)) [now] 0 0 := by
  rw [hs.shown_pulse]
  refine ⟨rfl, ?_, rfl⟩
  simp [hs.pulseEntry_ne]

/-- A firing of the monitor adds one check, whatever it finds. -/
theorem Schedulers.Named.tally_heartbeat (hs : s.Named) (now id tick firing : Nat)
    (c : Watched Channel) : Tally (shown (s.heartbeat.episode now id tick firing c)) [] 1 0 := by
  rw [hs.shown_heartbeat, monitor_fire]
  split
  · split
    · exact ⟨rfl, rfl, rfl⟩
    · refine ⟨rfl, ?_, rfl⟩
      simp [ConnectionMonitor.recoveredEntry, checkEntry]
  · refine ⟨rfl, ?_, rfl⟩
    simp [ConnectionMonitor.failedEntry, checkEntry]

/-! ## Turns at their times -/

/-- When each task has its turns. -/
def times (task : Nat) : (turn : Nat) → Nat :=
  if task = pulseTask then demo.pulse.settings.pollTime 0
  else if task = heartbeatTask then demo.heartbeat.settings.pollTime 0
  else fun turn => flipSpan * turn

/-- **What so many turns left**: the loops stand where they wait for their next tick, and every turn
but the first one showed its line. -/
structure Counted (turns : Nat → Nat) (w : World) (seen : List (Event Line)) : Prop where
  pulse : w.pulse.loops[0]? =
    some ⟨demo.pulse.settings.phaseAfter 0 (turns pulseTask), false⟩
  heartbeat : w.heartbeat.loops[0]? =
    some ⟨demo.heartbeat.settings.phaseAfter 0 (turns heartbeatTask), false⟩
  tally : Tally seen ((List.range (turns pulseTask - 1)).map (demo.pulse.settings.tickTime 0))
    (turns heartbeatTask - 1) (turns flipTask - 1)

theorem spaced_pulse : demo.pulse.settings.Spaced := ⟨by decide, by decide⟩

theorem spaced_heartbeat : demo.heartbeat.settings.Spaced := ⟨by decide, by decide⟩

/-- The ticks of both schedulers can be represented, up to the first ones after this time. -/
structure InRange (target : Nat) : Prop where
  pulse : demo.pulse.settings.Representable 0 target
  heartbeat : demo.heartbeat.settings.Representable 0 target

variable {turns : Nat → Nat} {w : World} {seen : List (Event Line)} {target : Nat}

/-- A turn of the pulse's loop. -/
theorem Counted.turn_pulse (h : Counted turns w seen) (hr : InRange target)
    (hle : demo.pulse.settings.pollTime 0 (turns pulseTask) ≤ target) :
    let p := poll demo (demo.pulse.settings.pollTime 0 (turns pulseTask)) pulseTask w
    p.rest = .untilTime (demo.pulse.settings.pollTime 0 (turns pulseTask + 1)) ∧
      Counted (Function.update turns pulseTask (turns pulseTask + 1)) p.world (seen ++ p.seen) := by
  intro p
  obtain ⟨hseen, hrest, hloop⟩ :=
    pollTask_onTime pulse_immediate spaced_pulse h.pulse hr.pulse hle
  have hshown : p.seen = shown (demo.pulse.pollShown 0 0 w.pulse (turns pulseTask)) :=
    congrArg shown hseen
  refine ⟨hrest, ?_, ?_, ?_⟩
  · rw [Function.update_self]
    exact hloop
  · rw [Function.update_of_ne (by decide)]
    exact h.heartbeat
  · rw [Function.update_self, Function.update_of_ne (by decide), Function.update_of_ne (by decide),
      hshown]
    have htally := h.tally
    -- the first poll shows nothing, and each later one a firing
    cases hturns : turns pulseTask with
    | zero =>
      rw [hturns] at htally
      show Tally (seen ++ []) _ _ _
      rwa [List.append_nil]
    | succ n =>
      rw [hturns] at htally
      have hmore := htally.append (named_demo.tally_pulse (demo.pulse.settings.tickTime 0 n) 0 n
        w.pulse.fired w.pulse.world)
      rw [Nat.add_sub_cancel, List.range_succ, List.map_append]
      exact hmore

/-- A turn of the monitor's loop. -/
theorem Counted.turn_heartbeat (h : Counted turns w seen) (hr : InRange target)
    (hle : demo.heartbeat.settings.pollTime 0 (turns heartbeatTask) ≤ target) :
    let p := poll demo (demo.heartbeat.settings.pollTime 0 (turns heartbeatTask)) heartbeatTask w
    p.rest = .untilTime (demo.heartbeat.settings.pollTime 0 (turns heartbeatTask + 1)) ∧
      Counted (Function.update turns heartbeatTask (turns heartbeatTask + 1)) p.world
        (seen ++ p.seen) := by
  intro p
  obtain ⟨hseen, hrest, hloop⟩ := pollTask_onTime
    (ConnectionMonitor.caretaker_immediate monitor) spaced_heartbeat h.heartbeat hr.heartbeat hle
  have hshown : p.seen = shown (demo.heartbeat.pollShown 0 0 w.heartbeat (turns heartbeatTask)) :=
    congrArg shown hseen
  refine ⟨hrest, ?_, ?_, ?_⟩
  · rw [Function.update_of_ne (by decide)]
    exact h.pulse
  · rw [Function.update_self]
    exact hloop
  · rw [Function.update_self, Function.update_of_ne (by decide), Function.update_of_ne (by decide),
      hshown]
    have htally := h.tally
    cases hturns : turns heartbeatTask with
    | zero =>
      rw [hturns] at htally
      show Tally (seen ++ []) _ _ _
      rwa [List.append_nil]
    | succ n =>
      rw [hturns] at htally
      have hmore := htally.append (named_demo.tally_heartbeat
        (demo.heartbeat.settings.tickTime 0 n) 0 n w.heartbeat.fired w.heartbeat.world)
      rwa [List.append_nil] at hmore

/-- What the flipping task does in a turn of its own. -/
theorem flip_turn (turn : Nat) (w : World) :
    let p := Heartbeat.flip (flipSpan * turn) w
    p.rest = .untilTime (flipSpan * (turn + 1)) ∧ p.world.pulse = w.pulse ∧
      p.world.heartbeat.loops = w.heartbeat.loops ∧
      Tally p.seen [] 0 (turn - (turn - 1)) := by
  cases turn with
  | zero => exact ⟨rfl, rfl, rfl, rfl, rfl, rfl⟩
  | succ n =>
    have hnow : flipSpan * (n + 1) ≠ 0 := Nat.mul_ne_zero (by decide) (Nat.succ_ne_zero n)
    unfold Heartbeat.flip
    rw [if_neg hnow, Nat.add_sub_cancel, Nat.add_sub_cancel_left]
    exact ⟨rfl, rfl, rfl, rfl, rfl, rfl⟩

/-- A turn of the flipping task. -/
theorem Counted.turn_flip (h : Counted turns w seen) :
    let p := poll demo (flipSpan * turns flipTask) flipTask w
    p.rest = .untilTime (flipSpan * (turns flipTask + 1)) ∧
      Counted (Function.update turns flipTask (turns flipTask + 1)) p.world (seen ++ p.seen) := by
  intro p
  obtain ⟨hrest, hpulse, hheartbeat, htally⟩ := flip_turn (turns flipTask) w
  refine ⟨hrest, ?_, ?_, ?_⟩
  · rw [Function.update_of_ne (by decide)]
    exact hpulse ▸ h.pulse
  · rw [Function.update_of_ne (by decide)]
    exact hheartbeat ▸ h.heartbeat
  · rw [Function.update_self, Function.update_of_ne (by decide), Function.update_of_ne (by decide)]
    have hmore := h.tally.append htally
    rw [List.append_nil] at hmore
    have hcount : turns flipTask - 1 + (turns flipTask - (turns flipTask - 1)) =
        turns flipTask + 1 - 1 := by omega
    rwa [hcount] at hmore

/-- Turns wake no other task. -/
theorem poll_woken (s : Schedulers) (now task : Nat) (w : World) :
    (poll s now task w).woken = [] := by
  unfold poll
  split
  · rfl
  · split
    · rfl
    · unfold Heartbeat.flip
      split <;> rfl

theorem times_pulse : times pulseTask = demo.pulse.settings.pollTime 0 := if_pos rfl

theorem times_heartbeat : times heartbeatTask = demo.heartbeat.settings.pollTime 0 :=
  (if_neg (by decide)).trans (if_pos rfl)

theorem times_flip (turn : Nat) : times flipTask turn = flipSpan * turn := by
  unfold times
  rw [if_neg (by decide), if_neg (by decide)]

/-- **Every turn is taken at its time**, and each but the first of a task adds its line. -/
theorem turnsOnTime_demo (hr : InRange target) :
    Agenda.TurnsOnTime (poll demo) [pulseTask, heartbeatTask, flipTask] times target Counted := by
  intro task htask turns w seen h hle
  refine ⟨poll_woken _ _ _ _, ?_⟩
  obtain rfl | rfl | rfl : task = pulseTask ∨ task = heartbeatTask ∨ task = flipTask := by
    simpa using htask
  · rw [times_pulse] at hle ⊢
    exact h.turn_pulse hr hle
  · rw [times_heartbeat] at hle ⊢
    exact h.turn_heartbeat hr hle
  · rw [times_flip, times_flip]
    exact h.turn_flip

/-! ## Up to the interrupt -/

theorem pulse_delay : demo.pulse.settings.initialDelay.totalNanos = 500000000 := by decide

theorem pulse_rate : demo.pulse.settings.rate.totalNanos = 1000000000 := by decide

theorem heartbeat_delay : demo.heartbeat.settings.initialDelay.totalNanos = 1000000000 := by decide

theorem heartbeat_rate : demo.heartbeat.settings.rate.totalNanos = 500000000 := by decide

theorem tickTime_pulse (n : Nat) : demo.pulse.settings.tickTime 0 n = 500 + 1000 * n := by
  unfold Settings.tickTime Settings.tickInstant Clock.millisUp Clock.milli
  rw [Clock.instant_eq, pulse_delay, pulse_rate]
  omega

theorem tickTime_heartbeat (n : Nat) : demo.heartbeat.settings.tickTime 0 n = 1000 + 500 * n := by
  unfold Settings.tickTime Settings.tickInstant Clock.millisUp Clock.milli
  rw [Clock.instant_eq, heartbeat_delay, heartbeat_rate]
  omega

/-- The clock can represent the ticks up to a second before its horizon. -/
theorem inRange_of_lt (h : Clock.instant (target + 1000) < Clock.horizon) : InRange target := by
  -- both delays are at most a second, and so are both rates
  have hwithin {n : Nat} (hn : n ≤ Clock.instant (target + 1000)) : n < Clock.horizon :=
    Nat.lt_of_le_of_lt hn h
  rw [Clock.instant_eq] at hwithin
  refine ⟨Settings.representable_of_lt (hwithin ?_) (hwithin ?_),
    Settings.representable_of_lt (hwithin ?_) (hwithin ?_)⟩
  · rw [Settings.tickInstant, Clock.instant_eq, pulse_delay]
    omega
  · rw [Clock.instant_eq, pulse_rate]
    omega
  · rw [Settings.tickInstant, Clock.instant_eq, heartbeat_delay]
    omega
  · rw [Clock.instant_eq, heartbeat_rate]
    omega

theorem strictMono_times (task : Nat) : StrictMono (times task) := by
  unfold times
  split
  · exact spaced_pulse.strictMono_pollTime 0
  · split
    · exact spaced_heartbeat.strictMono_pollTime 0
    · exact fun m n h => Nat.mul_lt_mul_of_pos_left h (by decide)

/-- **Up to any interrupt there are as many lines as there was time for**: a pulse each second from
half a second on, which prints its time, a check of the channel each half second from a second on,
and a channel line every three seconds. -/
theorem tally_course {interrupt : Nat} (h : Clock.instant (interrupt + 1000) < Clock.horizon) :
    Tally (course demo interrupt).1
      ((List.range ((interrupt + 500) / 1000)).map fun n => 500 + 1000 * n)
      ((interrupt - 500) / 500) (interrupt / 3000) := by
  have hbegin : ∀ task ∈ [pulseTask, heartbeatTask, flipTask], times task 0 = 0 := by
    simp [times_pulse, times_heartbeat, times_flip, Settings.pollTime]
  have hcounted : Counted (fun _ => 0) (World.begin demo) [] := ⟨rfl, rfl, tally_nil⟩
  obtain ⟨turns, hafter, htaken⟩ := Agenda.run_onTime (turnsOnTime_demo (inRange_of_lt h))
    (by decide) strictMono_times hbegin (show 3 < Heartbeat.turns by decide) (World.begin demo)
    hcounted
  have hpulse (n : Nat) : 500 + 1000 * n ≤ interrupt ↔ n + 1 < turns pulseTask := by
    rw [← tickTime_pulse, ← htaken pulseTask (by decide), times_pulse]
    rfl
  have hheartbeat (n : Nat) : 1000 + 500 * n ≤ interrupt ↔ n + 1 < turns heartbeatTask := by
    rw [← tickTime_heartbeat, ← htaken heartbeatTask (by decide), times_heartbeat]
    rfl
  have hflip (n : Nat) : 3000 * n ≤ interrupt ↔ n < turns flipTask := by
    rw [← htaken flipTask (by decide), times_flip]
    rfl
  -- a count is fixed by the latest turn that was taken and the next one that was not
  have hpulses : turns pulseTask - 1 = (interrupt + 500) / 1000 := by
    obtain ⟨q, hq⟩ : ∃ q, (interrupt + 500) / 1000 = q := ⟨_, rfl⟩
    have hlast := hpulse (q - 1)
    have hnext := hpulse q
    omega
  have hchecks : turns heartbeatTask - 1 = (interrupt - 500) / 500 := by
    obtain ⟨q, hq⟩ : ∃ q, (interrupt - 500) / 500 = q := ⟨_, rfl⟩
    have hlast := hheartbeat (q - 1)
    have hnext := hheartbeat q
    omega
  have hflips : turns flipTask - 1 = interrupt / 3000 := by
    obtain ⟨q, hq⟩ : ∃ q, interrupt / 3000 = q := ⟨_, rfl⟩
    have hlast := hflip q
    have hnext := hflip (q + 1)
    omega
  have htally := hafter.tally
  rw [hpulses, hchecks, hflips, funext tickTime_pulse] at htally
  exact htally

end Vigil.Heartbeat
