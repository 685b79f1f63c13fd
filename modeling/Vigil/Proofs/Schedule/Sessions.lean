import Vigil.Proofs.Schedule.Turn
import Vigil.Schedule.Session

/-!
# Sessions are histories

A session picks one order in which its loops are polled, and one time for each poll. So all that
holds of every history holds of every session.

* `Incident.events`: what an incident lets be seen.
* `Session.Reached`: the sessions that calls, changes of the world and time lead to.
* `reached_course`: **every session stands where some history leads**, and shows what it shows.
-/

namespace Vigil

variable {ε ω : Type}

/-- What an incident lets be seen. -/
def Incident.events : Incident ε → List (Event (Sight ε))
  | .called _ _ log => log.map .log
  | .shown e => [e]
  | .dropped | .polled _ _ => []

/-- What a trace lets be seen. -/
def events (tr : List (Incident ε)) : List (Event (Sight ε)) := tr.flatMap Incident.events

theorem events_append (tr es : List (Incident ε)) : events (tr ++ es) = events tr ++ events es :=
  List.flatMap_append

theorem events_shown (seen : List (Event (Sight ε))) :
    events (seen.map Incident.shown : List (Incident ε)) = seen := by
  induction seen with
  | nil => rfl
  | cons e seen ih => exact congrArg (e :: ·) ih

namespace Scheduler

variable {s : Scheduler ε ω} {u u' u'' : Course ε ω} {seen seen' : List (Event (Sight ε))}

/-- A history leads from one course to another, and shows this on the way. -/
def Leads (s : Scheduler ε ω) (u u' : Course ε ω) (seen : List (Event (Sight ε))) : Prop :=
  ∃ os : List (Occurrence ω), u' = os.foldl s.step u ∧ events u'.trace = events u.trace ++ seen

theorem Leads.refl (s : Scheduler ε ω) (u : Course ε ω) : Leads s u u [] :=
  ⟨[], rfl, by simp⟩

theorem Leads.trans (h : Leads s u u' seen) (h' : Leads s u' u'' seen') :
    Leads s u u'' (seen ++ seen') := by
  obtain ⟨os, rfl, hseen⟩ := h
  obtain ⟨os', rfl, hseen'⟩ := h'
  exact ⟨os ++ os', by rw [List.foldl_append], by rw [hseen', hseen, List.append_assoc]⟩

theorem leads_step {o : Occurrence ω} (h : events (s.step u o).trace = events u.trace ++ seen) :
    Leads s u (s.step u o) seen := ⟨[o], rfl, h⟩

/-- A poll of a session's task is a poll in a history. -/
theorem step_poll (s : Scheduler ε ω) (u : Course ε ω) (id : Nat) :
    (s.step u (.poll id)).state = (s.poll u.now id u.state).state ∧
      (s.step u (.poll id)).now = u.now ∧
      Leads s u (s.step u (.poll id)) (s.poll u.now id u.state).seen := by
  obtain ⟨hidle, hseen, hstate⟩ | ⟨l, hl, hphase, -⟩ := poll_cases s u.now id u.state
  · have hstep : s.step u (.poll id) = u := by
      cases hl : u.state.loops[id]? with
      | none => simp [step, hl]
      | some l => simp [step, hl, hidle l hl]
    rw [hstep, hseen, hstate]
    exact ⟨rfl, rfl, .refl s u⟩
  · have hstep : s.step u (.poll id) =
        { u with
          state := (s.poll u.now id u.state).state
          trace := u.trace ++ (if l.aborted then [] else [.polled id u.now]) ++
            (s.poll u.now id u.state).seen.map .shown } := by
      simp [step, hl, hphase]
    refine ⟨by rw [hstep], by rw [hstep], leads_step ?_⟩
    rw [hstep, events_append, events_append, events_shown]
    split <;> simp [events, Incident.events]

/-! ## Turns of tasks -/

@[simp] theorem noteRest_now (a : Agenda) (task : Nat) (r : Rest) :
    (a.noteRest task r).now = a.now := by
  cases r <;> rfl

/-- What runs now is a history. -/
theorem leads_settle (s : Scheduler ε ω) (fuel : Nat) (a : Agenda) (u : Course ε ω)
    (hnow : a.now = u.now) :
    ∃ u', Leads s u u' (Agenda.settle s.pollTask fuel a u.state).2.1 ∧
      (Agenda.settle s.pollTask fuel a u.state).1.now = u'.now ∧
      (Agenda.settle s.pollTask fuel a u.state).2.2 = u'.state := by
  induction fuel generalizing a u with
  | zero => exact ⟨u, .refl s u, hnow, rfl⟩
  | succ fuel ih =>
    unfold Agenda.settle
    cases hready : a.ready with
    | cons task ready =>
      obtain ⟨hstate, hnow', hleads⟩ := step_poll s u task
      have hb : ((({ a with ready := ready } : Agenda).wake
          (s.poll u.now task u.state).woken).noteRest task
            (s.poll u.now task u.state).phase.rest).now = (s.step u (.poll task)).now := by
        rw [noteRest_now, hnow']
        exact hnow
      obtain ⟨u', hu', hn, hst⟩ := ih _ _ hb
      rw [hstate, hnow] at hu' hn hst
      simp only [pollTask]
      rw [hnow]
      exact ⟨u', hleads.trans hu', hn, hst⟩
    | nil =>
      simp only
      cases hyielded : a.yielded with
      | nil => exact ⟨u, .refl s u, hnow, rfl⟩
      | cons task tasks => exact ih _ u hnow

/-- The clock goes on. -/
theorem leads_elapse (s : Scheduler ε ω) (u : Course ε ω) (millis : Nat) (h : u.now ≤ millis) :
    Leads s u { u with now := millis } [] := by
  refine ⟨[.elapse (millis - u.now)], ?_, by simp⟩
  simp only [List.foldl_cons, List.foldl_nil, step]
  rw [Nat.add_sub_cancel' h]

/-- All that happens while the clock goes on is a history. -/
theorem leads_advance (s : Scheduler ε ω) (fuel target : Nat) (a : Agenda) (st : State ω)
    (u : Course ε ω) (hnow : a.now = u.now) (hstate : st = u.state) :
    ∃ u', Leads s u u' (Agenda.advance s.pollTask fuel target a st).2.1 ∧
      (Agenda.advance s.pollTask fuel target a st).1.now = u'.now ∧
      (Agenda.advance s.pollTask fuel target a st).2.2 = u'.state := by
  -- the clock set to the next timer, and what runs then
  have hsettled : ∀ (a : Agenda) (u : Course ε ω) (millis : Nat), a.now = u.now → a.now < millis →
      ∃ u', Leads s u u' (Agenda.settle s.pollTask fuel (a.reach millis) u.state).2.1 ∧
        (Agenda.settle s.pollTask fuel (a.reach millis) u.state).1.now = u'.now ∧
        (Agenda.settle s.pollTask fuel (a.reach millis) u.state).2.2 = u'.state := by
    intro a u millis hnow hlt
    have helapse := leads_elapse s u millis (by omega)
    obtain ⟨u', hu', h⟩ := leads_settle s fuel (a.reach millis) { u with now := millis } rfl
    exact ⟨u', helapse.trans hu', h⟩
  induction a, st using Agenda.advance.induct s.pollTask fuel target generalizing u with
  | case1 a st millis hnext hle b seen st' hsettle hlt c later st'' hadvance ih =>
    subst hstate
    obtain ⟨u₁, h₁, hn₁, hst₁⟩ := hsettled a u millis hnow hle.1
    rw [hsettle] at h₁ hn₁ hst₁
    obtain ⟨u₂, h₂, hn₂, hst₂⟩ := ih u₁ hn₁ hst₁
    rw [hadvance] at h₂ hn₂ hst₂
    unfold Agenda.advance
    simp only [hnext, hle, and_self, dif_pos, hsettle, hlt, hadvance]
    exact ⟨u₂, h₁.trans h₂, hn₂, hst₂⟩
  | case2 a st millis hnext hle b seen st' hsettle hge =>
    subst hstate
    obtain ⟨u₁, h₁, hn₁, hst₁⟩ := hsettled a u millis hnow hle.1
    rw [hsettle] at h₁ hn₁ hst₁
    unfold Agenda.advance
    simp only [hnext, hle, and_self, dif_pos, hsettle, hge, dif_neg, not_false_eq_true]
    exact ⟨u₁, h₁, hn₁, hst₁⟩
  | case3 a st millis hnext hfar =>
    subst hstate
    unfold Agenda.advance
    simp only [hnext, hfar, dif_neg, not_false_eq_true]
    exact ⟨_, leads_elapse s u (max a.now target) (by omega), rfl, rfl⟩
  | case4 a st hnext =>
    subst hstate
    unfold Agenda.advance
    simp only [hnext]
    exact ⟨_, leads_elapse s u (max a.now target) (by omega), rfl, rfl⟩

end Scheduler

/-! ## Sessions -/

namespace Session

open Scheduler

variable {s : Scheduler ε ω} {v : Session ε ω} {u : Course ε ω} {seen : List (Event (Sight ε))}

/-- The session is one of `s`, and stands where the course does. -/
structure At (s : Scheduler ε ω) (u : Course ε ω) (v : Session ε ω) : Prop where
  scheduler : v.scheduler = s
  now : v.agenda.now = u.now
  state : v.state = u.state

theorem At.settle (h : At s u v) (fuel : Nat) :
    ∃ u', Leads s u u' (v.settle fuel).2 ∧ At s u' (v.settle fuel).1 := by
  obtain ⟨rfl, hnow, hstate⟩ := h
  obtain ⟨u', hu', hn, hst⟩ := leads_settle v.scheduler fuel v.agenda u hnow
  rw [← hstate] at hu' hn hst
  exact ⟨u', hu', rfl, hn, hst⟩

theorem At.advance (h : At s u v) (fuel millis : Nat) :
    ∃ u', Leads s u u' (v.advance fuel millis).2 ∧ At s u' (v.advance fuel millis).1 := by
  obtain ⟨rfl, hnow, hstate⟩ := h
  obtain ⟨u', hu', hn, hst⟩ := leads_advance v.scheduler fuel (v.agenda.now + millis) v.agenda
    v.state u hnow hstate
  exact ⟨u', hu', rfl, hn, hst⟩

/-- A call, whatever tasks it wakes. -/
theorem At.call (h : At s u v) (hd : v.state.dropped = false) (c : Call) (tasks : List Nat) :
    Leads s u (s.step u (.call c)) ((s.serve v.state c).2.1.map .log) ∧
      At s (s.step u (.call c))
        { v with state := (s.serve v.state c).2.2, agenda := v.agenda.wake tasks } := by
  obtain ⟨hs, hnow, hstate⟩ := h
  rw [hstate] at hd
  have hstep : s.step u (.call c) =
      { u with
        state := (s.serve u.state c).2.2
        trace := u.trace ++ [.called c (s.serve u.state c).1 (s.serve u.state c).2.1] } := by
    simp [step, hd]
  refine ⟨leads_step ?_, hs, ?_, ?_⟩
  · rw [hstep, events_append, hstate]
    simp [events, Incident.events]
  · rw [hstep]; exact hnow
  · rw [hstep, hstate]

theorem At.calls (h : At s u v) (hd : v.state.dropped = false) (cs : List Call) :
    ∃ u', Leads s u u' (v.calls cs).2.2 ∧ At s u' (v.calls cs).1 := by
  induction cs generalizing v u with
  | nil => exact ⟨u, .refl s u, h⟩
  | cons c cs ih =>
    have hs := h.scheduler
    subst hs
    have hd' : (v.scheduler.serve v.state c).2.2.dropped = false :=
      (serve_dropped v.scheduler v.state c).trans hd
    cases c with
    | start =>
      obtain ⟨hlog, hat⟩ := h.call hd .start (v.scheduler.start v.state).woken
      obtain ⟨u', hu', hat'⟩ := ih hat hd'
      exact ⟨u', hlog.trans hu', hat'⟩
    | stop =>
      obtain ⟨hlog, hat⟩ := h.call hd .stop (v.scheduler.stop v.state).woken
      obtain ⟨u', hu', hat'⟩ := ih hat hd'
      exact ⟨u', hlog.trans hu', hat'⟩
    | isArmed =>
      obtain ⟨hlog, hat⟩ := h.call hd .isArmed []
      obtain ⟨u', hu', hat'⟩ := ih hat hd'
      exact ⟨u', hlog.trans hu', hat'⟩

theorem At.giveUp (h : At s u v) (hd : v.state.dropped = false) :
    Leads s u (s.step u .drop) [] ∧
      At s (s.step u .drop)
        { v with state := v.state.drop.2, agenda := v.agenda.wake v.state.drop.1 } := by
  obtain ⟨hs, hnow, hstate⟩ := h
  rw [hstate] at hd
  have hstep : s.step u .drop =
      { u with state := u.state.drop.2, trace := u.trace ++ [.dropped] } := by
    simp [step, hd]
  refine ⟨leads_step ?_, hs, ?_, ?_⟩
  · rw [hstep, events_append]
    rfl
  · rw [hstep]; exact hnow
  · rw [hstep, hstate]

/-- **The sessions that can be reached**, with all that was seen on the way. -/
inductive Reached (s : Scheduler ε ω) (w : ω) : Session ε ω → List (Event (Sight ε)) → Prop
  | idle : Reached s w (idle s w) []
  | call {v : Session ε ω} {seen : List (Event (Sight ε))} (h : Reached s w v seen)
      (hd : v.state.dropped = false) (fuel : Nat) (cs : List Call) :
      Reached s w (v.call fuel cs).1 (seen ++ (v.call fuel cs).2.2)
  | drop {v : Session ε ω} {seen : List (Event (Sight ε))} (h : Reached s w v seen)
      (hd : v.state.dropped = false) (fuel : Nat) :
      Reached s w (v.drop fuel).1 (seen ++ (v.drop fuel).2)
  | advance {v : Session ε ω} {seen : List (Event (Sight ε))} (h : Reached s w v seen)
      (fuel millis : Nat) :
      Reached s w (v.advance fuel millis).1 (seen ++ (v.advance fuel millis).2)
  | stir {v : Session ε ω} {seen : List (Event (Sight ε))} (h : Reached s w v seen) (f : ω → ω) :
      Reached s w { v with state := { v.state with world := f v.state.world } } seen

/-- **Every session stands where some history leads.** -/
theorem reached_course {w : ω} (h : Reached s w v seen) :
    ∃ os, At s (s.course w os) v ∧ events (s.course w os).trace = seen := by
  -- what leads on from a course is a course
  have hon : ∀ {os : List (Occurrence ω)} {u' : Course ε ω} {more : List (Event (Sight ε))},
      Leads s (s.course w os) u' more → ∃ os', u' = s.course w os' ∧
        events (s.course w os').trace = events (s.course w os).trace ++ more := by
    rintro os u' more ⟨os', rfl, hseen⟩
    exact ⟨os ++ os', (course_append s w os os').symm, by rw [course_append]; exact hseen⟩
  induction h with
  | idle => exact ⟨[], ⟨rfl, rfl, rfl⟩, rfl⟩
  | call _ hd fuel cs ih =>
    obtain ⟨os, hat, rfl⟩ := ih
    obtain ⟨u₁, h₁, hat₁⟩ := hat.calls hd cs
    obtain ⟨u₂, h₂, hat₂⟩ := hat₁.settle fuel
    obtain ⟨os', rfl, hseen⟩ := hon (h₁.trans h₂)
    exact ⟨os', hat₂, hseen⟩
  | drop _ hd fuel ih =>
    obtain ⟨os, hat, rfl⟩ := ih
    obtain ⟨hlog, hat₁⟩ := hat.giveUp hd
    obtain ⟨u₂, h₂, hat₂⟩ := hat₁.settle fuel
    obtain ⟨os', rfl, hseen⟩ := hon (hlog.trans h₂)
    exact ⟨os', hat₂, hseen⟩
  | advance _ fuel millis ih =>
    obtain ⟨os, hat, rfl⟩ := ih
    obtain ⟨u', hu', hat'⟩ := hat.advance fuel millis
    obtain ⟨os', rfl, hseen⟩ := hon hu'
    exact ⟨os', hat', hseen⟩
  | stir _ f ih =>
    obtain ⟨os, hat, rfl⟩ := ih
    obtain ⟨os', hos', hseen⟩ := hon (leads_step (o := .stir f) (List.append_nil _).symm)
    refine ⟨os', ?_, by rw [hseen, List.append_nil]⟩
    rw [← hos']
    exact ⟨hat.scheduler, hat.now, by rw [hat.state]; rfl⟩

end Session

end Vigil
