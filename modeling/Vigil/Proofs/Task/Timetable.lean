import Vigil.Task.Agenda
import Mathlib.Data.List.Perm.Basic
import Mathlib.Logic.Function.Basic
import Mathlib.Order.Monotone.Basic
import Mathlib.Order.Nat

/-!
# Tasks with a timetable

Tasks that wait after each turn for a time fixed in advance. However their times fall, and also
where some of them are the same, each turn is taken at its time.

* `TurnsOnTime`: what such a task does in its turn.
* `OnTime`: each task has its next turn in sight.
* `settle_onTime`, `advance_onTime`: the turns of one instant, and those on the way to a time.
* `run_onTime`: **no turn is left out, and none comes early or late.**
-/

namespace Vigil.Agenda

variable {ε ω : Type} {poll : (now task : Nat) → ω → Polled ε ω} {tasks : List Nat}
  {times : (task turn : Nat) → Nat} {turns : Nat → Nat} {target fuel : Nat}
  {K : (turns : Nat → Nat) → ω → List ε → Prop} {a : Agenda} {w : ω} {seen : List ε}

/-- **A turn at its time** preserves what holds of the turns taken so far, of the world and of what
was seen; and the task then waits for its next turn. -/
def TurnsOnTime (poll : (now task : Nat) → ω → Polled ε ω) (tasks : List Nat)
    (times : (task turn : Nat) → Nat) (target : Nat)
    (K : (turns : Nat → Nat) → ω → List ε → Prop) : Prop :=
  ∀ task ∈ tasks, ∀ turns w seen, K turns w seen → times task (turns task) ≤ target →
    let p := poll (times task (turns task)) task w
    p.woken = [] ∧ p.rest = .untilTime (times task (turns task + 1)) ∧
      K (Function.update turns task (turns task + 1)) p.world (seen ++ p.seen)

/-- **Each task has its next turn in sight**: it can run and its time has come, or it has a timer
for it; and no earlier turn is still to come. -/
structure OnTime (tasks : List Nat) (times : (task turn : Nat) → Nat) (turns : Nat → Nat)
    (a : Agenda) : Prop where
  perm : (a.ready ++ a.timers.map (·.task)).Perm tasks
  yielded : a.yielded = []
  ready : ∀ task ∈ a.ready, times task (turns task) = a.now
  timers : ∀ t ∈ a.timers, t.millis = times t.task (turns t.task) ∧ a.now < t.millis
  past : ∀ task ∈ tasks, ∀ turn < turns task, times task turn ≤ a.now

/-- After its turn a task waits for the next one. -/
theorem OnTime.turn (h : OnTime tasks times turns a) (hnodup : tasks.Nodup)
    (hmono : ∀ task, StrictMono (times task)) {task : Nat} {ready : List Nat}
    (hready : a.ready = task :: ready) :
    OnTime tasks times (Function.update turns task (turns task + 1))
      ((({ a with ready := ready }).wake []).noteRest task
        (.untilTime (times task (turns task + 1)))) := by
  have hall := h.perm.nodup_iff.2 hnodup
  rw [hready, List.cons_append, List.nodup_cons] at hall
  have hother (i : Nat) (hi : i ∈ ready ++ a.timers.map (·.task)) :
      Function.update turns task (turns task + 1) i = turns i := by
    refine Function.update_of_ne ?_ _ _
    rintro rfl
    exact hall.1 hi
  -- the task had no timer, for it was ready
  have hfilter : a.timers.filter (·.task != task) = a.timers := by
    refine List.filter_eq_self.2 fun t ht => bne_iff_ne.2 ?_
    rintro rfl
    exact hall.1 (List.mem_append_right _ (List.mem_map_of_mem ht))
  have hnow : times task (turns task) = a.now :=
    h.ready task (hready ▸ List.mem_cons_self ..)
  have hlater : a.now < times task (turns task + 1) :=
    hnow ▸ hmono task (Nat.lt_succ_self (turns task))
  unfold noteRest wake
  simp only [hfilter, List.append_nil]
  refine ⟨?_, h.yielded, ?_, ?_, ?_⟩
  · rw [List.map_append, ← List.append_assoc]
    refine List.perm_append_comm.trans ?_
    have hperm := h.perm
    rwa [hready] at hperm
  · intro i hi
    rw [hother i (List.mem_append_left _ hi)]
    exact h.ready i (hready ▸ List.mem_cons_of_mem task hi)
  · intro t ht
    rcases List.mem_append.1 ht with ht | ht
    · rw [hother t.task (List.mem_append_right _ (List.mem_map_of_mem ht))]
      exact h.timers t ht
    · obtain rfl := List.mem_singleton.1 ht
      exact ⟨by rw [Function.update_self], hlater⟩
  · intro i hi turn hturn
    by_cases htask : i = task
    · subst htask
      rw [Function.update_self] at hturn
      exact hnow ▸ (hmono i).monotone (Nat.le_of_lt_succ hturn)
    · rw [Function.update_of_ne htask] at hturn
      exact h.past i hi turn hturn

/-- **All turns of one instant are taken**, given a turn for each task and one more. -/
theorem settle_onTime (hturns : TurnsOnTime poll tasks times target K) (hnodup : tasks.Nodup)
    (hmono : ∀ task, StrictMono (times task)) (fuel : Nat) (a : Agenda) (w : ω) (seen : List ε)
    (turns : Nat → Nat) (hfuel : a.ready.length < fuel) (hle : a.now ≤ target)
    (h : OnTime tasks times turns a) (hK : K turns w seen) :
    let r := settle poll fuel a w
    r.1.ready = [] ∧ r.1.now = a.now ∧
      ∃ turns, OnTime tasks times turns r.1 ∧ K turns r.2.2 (seen ++ r.2.1) := by
  induction fuel generalizing a w seen turns with
  | zero => cases hfuel
  | succ fuel ih =>
    unfold settle
    cases hready : a.ready with
    | nil =>
      simp only [h.yielded, List.append_nil]
      exact ⟨hready, trivial, turns, h, hK⟩
    | cons task ready =>
      have hnow : times task (turns task) = a.now :=
        h.ready task (hready ▸ List.mem_cons_self ..)
      have htask : task ∈ tasks :=
        h.perm.mem_iff.1 (List.mem_append_left _ (hready ▸ List.mem_cons_self ..))
      obtain ⟨hwoken, hrest, hafter⟩ := hturns task htask turns w seen hK (hnow ▸ hle)
      rw [hnow] at hwoken hrest hafter
      have hshort : (ready ++ []).length < fuel := by
        rw [hready, List.length_cons] at hfuel
        rw [List.append_nil]
        omega
      simp only [hwoken, hrest]
      rw [← List.append_assoc]
      exact ih _ _ _ _ hshort hle (h.turn hnodup hmono hready) hafter

/-- The next time is ahead, and no timer goes off before it. -/
theorem OnTime.nextTime (h : OnTime tasks times turns a) {millis : Nat}
    (hnext : a.nextTime? = some millis) : a.now < millis ∧ ∀ t ∈ a.timers, millis ≤ t.millis := by
  unfold nextTime? at hnext
  obtain ⟨hmem, hmin⟩ := List.min?_eq_some_iff.1 hnext
  refine ⟨of_decide_eq_true (List.mem_filter.1 hmem).2, fun t ht => hmin t.millis ?_⟩
  exact List.mem_filter.2 ⟨List.mem_map_of_mem ht, decide_eq_true (h.timers t ht).2⟩

/-- Without a next time there are no timers. -/
theorem OnTime.timers_eq_nil (h : OnTime tasks times turns a) (hnext : a.nextTime? = none) :
    a.timers = [] := by
  unfold nextTime? at hnext
  have hnone := List.filter_eq_nil_iff.1 (List.min?_eq_none_iff.1 hnext)
  refine List.eq_nil_iff_forall_not_mem.2 fun t ht => ?_
  exact hnone t.millis (List.mem_map_of_mem ht) (decide_eq_true (h.timers t ht).2)

/-- The next timers go off. -/
theorem OnTime.reach (h : OnTime tasks times turns a) (hready : a.ready = []) {millis : Nat}
    (hnext : a.nextTime? = some millis) : OnTime tasks times turns (a.reach millis) := by
  obtain ⟨hnow, hleast⟩ := h.nextTime hnext
  have hperm := h.perm
  rw [hready, List.nil_append] at hperm
  unfold Agenda.reach
  rw [hready, List.nil_append]
  refine ⟨?_, h.yielded, ?_, ?_, ?_⟩
  · have hsplit : (fun t : Timer => decide (millis < t.millis)) =
        fun t => !decide (t.millis ≤ millis) := by
      simp only [← Nat.not_le, decide_not]
    rw [← List.map_append, hsplit]
    exact ((List.filter_append_perm _ a.timers).map _).trans hperm
  · intro task htask
    obtain ⟨t, ht, rfl⟩ := List.mem_map.1 htask
    obtain ⟨ht, hle⟩ := List.mem_filter.1 ht
    exact (h.timers t ht).1.symm.trans (Nat.le_antisymm (of_decide_eq_true hle) (hleast t ht))
  · intro t ht
    obtain ⟨ht, hlt⟩ := List.mem_filter.1 ht
    exact ⟨(h.timers t ht).1, of_decide_eq_true hlt⟩
  · intro task htask turn hturn
    exact (h.past task htask turn hturn).trans hnow.le

/-- Where no timer goes off up to a time, no turn is left out. -/
theorem OnTime.taken (h : OnTime tasks times turns a) (hmono : ∀ task, StrictMono (times task))
    (hready : a.ready = []) (hle : a.now ≤ target) (hfar : ∀ t ∈ a.timers, target < t.millis) :
    ∀ task ∈ tasks, ∀ turn, times task turn ≤ target ↔ turn < turns task := by
  intro task htask turn
  have hmem := h.perm.mem_iff.2 htask
  rw [hready, List.nil_append] at hmem
  obtain ⟨t, ht, rfl⟩ := List.mem_map.1 hmem
  have hnext : target < times t.task (turns t.task) := (h.timers t ht).1 ▸ hfar t ht
  constructor
  · intro hturn
    exact (hmono t.task).lt_iff_lt.1 (Nat.lt_of_le_of_lt hturn hnext)
  · intro hturn
    exact (h.past t.task htask turn hturn).trans hle

/-- **All turns on the way are taken.** -/
theorem advance_onTime (hturns : TurnsOnTime poll tasks times target K) (hnodup : tasks.Nodup)
    (hmono : ∀ task, StrictMono (times task)) (hfuel : tasks.length < fuel) (a : Agenda) (w : ω)
    (seen : List ε) (turns : Nat → Nat) (hready : a.ready = []) (hle : a.now ≤ target)
    (h : OnTime tasks times turns a) (hK : K turns w seen) :
    let r := advance poll fuel target a w
    ∃ turns, K turns r.2.2 (seen ++ r.2.1) ∧
      ∀ task ∈ tasks, ∀ turn, times task turn ≤ target ↔ turn < turns task := by
  -- at one instant there is at most one turn for each task
  have hshort {turns : Nat → Nat} {a : Agenda} (h : OnTime tasks times turns a) :
      a.ready.length < fuel := by
    refine Nat.lt_of_le_of_lt ?_ hfuel
    rw [← h.perm.length_eq, List.length_append]
    exact Nat.le_add_right _ _
  induction a, w using advance.induct poll fuel target generalizing seen turns with
  | case1 a w millis hnext hmillis b now w' hsettle hlt c later w'' hadvance ih =>
    have hreach := h.reach hready hnext
    have hnow := settle_onTime hturns hnodup hmono fuel (a.reach millis) w seen turns
      (hshort hreach) hmillis.2 hreach hK
    rw [hsettle] at hnow
    obtain ⟨hidle, hclock, turns', h', hK'⟩ := hnow
    have hlater := ih _ turns' hidle (hclock.trans_le hmillis.2) h' hK'
    rw [hadvance] at hlater
    unfold advance
    simp only [hnext, hmillis, and_self, dif_pos, hsettle, hlt, hadvance]
    rw [← List.append_assoc]
    exact hlater
  | case2 a w millis hnext hmillis b now w' hsettle hge =>
    have hreach := h.reach hready hnext
    have hnow := settle_onTime hturns hnodup hmono fuel (a.reach millis) w seen turns
      (hshort hreach) hmillis.2 hreach hK
    rw [hsettle] at hnow
    exact absurd (hmillis.1.trans_eq hnow.2.1.symm) hge
  | case3 a w millis hnext hfar =>
    obtain ⟨hnow, hleast⟩ := h.nextTime hnext
    have htarget : target < millis := Nat.lt_of_not_le fun hle => hfar ⟨hnow, hle⟩
    unfold advance
    simp only [hnext, hfar, dif_neg, not_false_eq_true, List.append_nil]
    refine ⟨turns, hK, h.taken hmono hready hle fun t ht => ?_⟩
    exact Nat.lt_of_lt_of_le htarget (hleast t ht)
  | case4 a w hnext =>
    have htimers := h.timers_eq_nil hnext
    unfold advance
    simp only [hnext, List.append_nil]
    refine ⟨turns, hK, h.taken hmono hready hle fun t ht => ?_⟩
    rw [htimers] at ht
    cases ht

/-- **From the beginning on, no turn is left out, and none comes early or late**: up to any time
just those turns were taken whose time had come. -/
theorem run_onTime (hturns : TurnsOnTime poll tasks times target K) (hnodup : tasks.Nodup)
    (hmono : ∀ task, StrictMono (times task)) (hbegin : ∀ task ∈ tasks, times task 0 = 0)
    (hfuel : tasks.length < fuel) (w : ω) (hK : K (fun _ => 0) w []) :
    let first := settle poll fuel (empty.wake tasks) w
    let later := advance poll fuel target first.1 first.2.2
    ∃ turns, K turns later.2.2 (first.2.1 ++ later.2.1) ∧
      ∀ task ∈ tasks, ∀ turn, times task turn ≤ target ↔ turn < turns task := by
  intro first later
  have honTime : OnTime tasks times (fun _ => 0) (empty.wake tasks) := by
    refine ⟨?_, rfl, hbegin, ?_, ?_⟩
    · rw [show (empty.wake tasks).timers = [] from rfl, List.map_nil, List.append_nil]
      exact .refl tasks
    · intro t ht
      cases ht
    · intro task _ turn hturn
      cases hturn
  obtain ⟨hready, hnow, turns, hfirst, hKfirst⟩ := settle_onTime hturns hnodup hmono fuel
    (empty.wake tasks) w [] _ hfuel (Nat.zero_le target) honTime hK
  exact advance_onTime hturns hnodup hmono hfuel first.1 first.2.2 first.2.1 turns hready
    (hnow.trans_le (Nat.zero_le target)) hfirst hKfirst

end Vigil.Agenda
