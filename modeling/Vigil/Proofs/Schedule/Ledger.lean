import Vigil.Proofs.Schedule.Turn

/-!
# What a trace says of the firing loops

* `Settings.dueAfter`: the scheduled instant of a loop's next tick, from its first poll and the
  times at which it has begun firings.
* `Kept`: every firing in a trace begins in order, after all earlier ones of its loop have ended,
  and not before its scheduled instant.
* `Stands`: what the trace says of a loop in each of its phases.
* `ledger_course`: **every history keeps its ledger**, so the trace and the loops agree.
-/

namespace Vigil

/-- **The scheduled instant of the next tick** of a loop first polled at `t₀` that has begun
firings at these times; nothing if the arithmetic failed on the way. -/
def Settings.dueAfter (s : Settings) (t₀ : Nat) (times : List Nat) : Option Nat :=
  times.foldl (fun due t => due.bind (s.nextDue? t)) (s.firstDue? t₀)

theorem Settings.dueAfter_nil (s : Settings) (t₀ : Nat) : s.dueAfter t₀ [] = s.firstDue? t₀ := by
  unfold dueAfter
  rw [List.foldl_nil]

theorem Settings.dueAfter_append (s : Settings) (t₀ : Nat) (times : List Nat) (t : Nat) :
    s.dueAfter t₀ (times ++ [t]) = (s.dueAfter t₀ times).bind (s.nextDue? t) := by
  simp [dueAfter]

theorem Settings.firstDue?_eq_none {s : Settings} {t₀ : Nat} :
    s.firstDue? t₀ = none ↔ Clock.horizon ≤ Clock.instant t₀ + s.initialDelay.totalNanos := by
  unfold firstDue?
  simp only
  split
  · rename_i h
    simp only [reduceCtorEq, false_iff]
    omega
  · rename_i h
    simp only [true_iff]
    omega

theorem Settings.nextDue?_eq_none {s : Settings} {now due : Nat} :
    s.nextDue? now due = none ↔
      Clock.horizon ≤ due + s.rate.totalNanos ∧ due + Clock.grace < Clock.instant now := by
  unfold nextDue?
  simp only
  split
  · rename_i h
    simp only [reduceCtorEq, false_iff]
    omega
  · rename_i h
    split
    · rename_i hlate
      simp only [true_iff]
      omega
    · rename_i hlate
      simp only [reduceCtorEq, false_iff]
      omega

namespace Scheduler

variable {ε ω : Type} {s : Scheduler ε ω} {st st' : State ω} {tr es : List (Incident ε)}

/-! ## Beginnings -/

/-- **A firing begins lawfully** after this trace. -/
structure Lawful (s : Scheduler ε ω) (tr : List (Incident ε)) (b : Firing) : Prop where
  /-- It is the next one of its loop. -/
  tick : b.tick = (begunBy b.loop tr).length
  /-- It is the next one of all loops. -/
  number : b.number = (begun tr).length
  ended : ∀ c ∈ begunBy b.loop tr, c.EndedIn tr
  due : ∃ t₀ due, (pollsOf b.loop tr).head? = some t₀ ∧
    s.settings.dueAfter t₀ ((begunBy b.loop tr).map (·.time)) = some due ∧
    due ≤ Clock.instant b.time
  /-- It begins in a poll of its loop. -/
  polled : (pollsOf b.loop tr).getLast? = some b.time
  logged : tr.getLast? = some (.shown (.log s.firingEntry))

/-- Every firing of the trace began lawfully. -/
inductive Kept (s : Scheduler ε ω) : List (Incident ε) → Prop
  | nil : Kept s []
  | snoc {tr : List (Incident ε)} {x : Incident ε} (h : Kept s tr)
      (hx : ∀ b, x.firing? = some b → Lawful s tr b) : Kept s (tr ++ [x])

/-- Incidents at which nothing begins. -/
theorem Kept.quiet (h : Kept s tr) (hes : begun es = []) : Kept s (tr ++ es) := by
  induction es generalizing tr with
  | nil => simpa using h
  | cons x es ih =>
    rw [begun_cons, List.append_eq_nil_iff] at hes
    rw [List.append_cons]
    refine ih (h.snoc ?_) hes.2
    intro b hb
    simp [hb] at hes

/-- What begins in a trace began lawfully after what stands before it. -/
theorem Kept.lawful (h : Kept s tr) {before after : List (Incident ε)} {b : Firing}
    (htr : tr = before ++ b.incident :: after) : Lawful s before b := by
  induction h generalizing after with
  | nil => simp at htr
  | @snoc tr x h hx ih =>
    rcases List.eq_nil_or_concat after with rfl | ⟨after', y, rfl⟩
    · obtain ⟨rfl, hxb⟩ := List.append_inj' htr rfl
      simp only [List.cons.injEq, and_true] at hxb
      exact hx b (Incident.firing?_eq_some.2 hxb)
    · rw [List.concat_eq_append, ← List.cons_append, ← List.append_assoc] at htr
      obtain ⟨rfl, -⟩ := List.append_inj' htr rfl
      exact ih rfl

/-! ## Loops between two polls -/

/-- What the trace says of the tick that a loop takes next. -/
structure Next (s : Scheduler ε ω) (tr : List (Incident ε)) (id tick due : Nat) : Prop where
  due : ∃ t₀, (pollsOf id tr).head? = some t₀ ∧
    s.settings.dueAfter t₀ ((begunBy id tr).map (·.time)) = some due
  count : (begunBy id tr).length = tick

/-- The loop has begun a firing that has not ended yet, and all earlier ones have. -/
def Amid (tr : List (Incident ε)) (id firing : Nat) : Prop :=
  ∃ earlier b, begunBy id tr = earlier ++ [b] ∧ b.number = firing ∧ ∀ c ∈ earlier, c.EndedIn tr

/-- The trace knows nothing of the loop. -/
def Untouched (tr : List (Incident ε)) (id : Nat) : Prop := pollsOf id tr = [] ∧ begunBy id tr = []

/-- **What the trace says of a loop** that stands at this phase. -/
def Stands (s : Scheduler ε ω) (tr : List (Incident ε)) (id : Nat) : Phase → Prop
  | .fresh => Untouched tr id
  | .waiting tick due =>
    Next s tr id tick due ∧ (∀ b ∈ begunBy id tr, b.EndedIn tr) ∧
      ∀ t ∈ (pollsOf id tr).getLast?, Clock.instant t < due
  | .asleep firing _ _ tick due => Next s tr id tick due ∧ Amid tr id firing
  | .yielded firing _ tick due => Next s tr id tick due ∧ Amid tr id firing
  | .ended => True

/-- What the trace says of a loop that runs. -/
def Heads (s : Scheduler ε ω) (tr : List (Incident ε)) (id : Nat) : Focus → Prop
  | .tick tick due => Next s tr id tick due ∧ ∀ b ∈ begunBy id tr, b.EndedIn tr
  | .act firing _ tick due => Next s tr id tick due ∧ Amid tr id firing

/-- **The loop's arithmetic has failed**: the instant of its first tick cannot be represented, or
it came to a tick that it had missed and the instant after that one cannot be. -/
def Overflowed (s : Scheduler ε ω) (tr : List (Incident ε)) (id : Nat) : Prop :=
  ∃ t₀, (pollsOf id tr).head? = some t₀ ∧
    (Clock.horizon ≤ Clock.instant t₀ + s.settings.initialDelay.totalNanos ∨
      (∀ b ∈ begunBy id tr, b.EndedIn tr) ∧
        ∃ due t, s.settings.dueAfter t₀ ((begunBy id tr).map (·.time)) = some due ∧
          (pollsOf id tr).getLast? = some t ∧ due + Clock.grace < Clock.instant t ∧
          Clock.horizon ≤ due + s.settings.rate.totalNanos)

/-- The trace and a loop agree. -/
structure LoopOk (s : Scheduler ε ω) (tr : List (Incident ε)) (id : Nat) (l : FiringLoop) :
    Prop where
  stands : Stands s tr id l.phase
  live : l.phase ≠ .ended → s.runtime = .live
  lost : l.phase = .ended → l.aborted = false →
    s.runtime = .gone ∧ Untouched tr id ∨ Overflowed s tr id

/-- The trace and the loops agree, those at least that `A` picks, and nothing is said of loops that
were never spawned. -/
structure LoopsOk (s : Scheduler ε ω) (A : Nat → Prop) (tr : List (Incident ε)) (st : State ω) :
    Prop where
  loops : ∀ i l, A i → st.loops[i]? = some l → LoopOk s tr i l
  unborn : ∀ i, st.loops.length ≤ i → Untouched tr i

/-! ### Incidents that do not concern a loop -/

section Frame

variable {id : Nat} (hpolls : pollsOf id es = []) (hbegun : begunBy id es = [])

include hpolls hbegun

theorem Untouched.append (h : Untouched tr id) : Untouched (tr ++ es) id := by
  simp [Untouched, h.1, h.2, hpolls, hbegun]

theorem Next.append {tick due : Nat} (h : Next s tr id tick due) :
    Next s (tr ++ es) id tick due := by
  refine ⟨?_, ?_⟩
  · simpa [hpolls, hbegun] using h.due
  · simpa [hbegun] using h.count

omit hpolls in
theorem Amid.append {firing : Nat} (h : Amid tr id firing) : Amid (tr ++ es) id firing := by
  obtain ⟨earlier, b, hb, hn, hended⟩ := h
  exact ⟨earlier, b, by simp [hbegun, hb], hn, fun c hc => (hended c hc).append es⟩

omit hpolls in
theorem ended_append (h : ∀ b ∈ begunBy id tr, b.EndedIn tr) :
    ∀ b ∈ begunBy id (tr ++ es), b.EndedIn (tr ++ es) := by
  intro b hb
  rw [begunBy_append, hbegun, List.append_nil] at hb
  exact (h b hb).append es

theorem Stands.append {phase : Phase} (h : Stands s tr id phase) :
    Stands s (tr ++ es) id phase := by
  cases phase with
  | fresh => exact Untouched.append hpolls hbegun h
  | waiting tick due =>
    obtain ⟨hnext, hended, hlast⟩ := h
    refine ⟨hnext.append hpolls hbegun, ended_append hbegun hended, ?_⟩
    simpa [hpolls] using hlast
  | asleep => exact ⟨h.1.append hpolls hbegun, h.2.append hbegun⟩
  | yielded => exact ⟨h.1.append hpolls hbegun, h.2.append hbegun⟩
  | ended => trivial

theorem Heads.append {f : Focus} (h : Heads s tr id f) : Heads s (tr ++ es) id f := by
  cases f with
  | tick => exact ⟨h.1.append hpolls hbegun, ended_append hbegun h.2⟩
  | act => exact ⟨h.1.append hpolls hbegun, h.2.append hbegun⟩

theorem Overflowed.append (h : Overflowed s tr id) : Overflowed s (tr ++ es) id := by
  obtain ⟨t₀, h₀, hfail⟩ := h
  refine ⟨t₀, by simpa [hpolls] using h₀, ?_⟩
  rcases hfail with hfirst | ⟨hended, due, t, hdue, ht, hlate⟩
  · exact .inl hfirst
  · refine .inr ⟨ended_append hbegun hended, due, t, ?_, ?_, hlate⟩
    · simpa [hbegun] using hdue
    · simpa [hpolls] using ht

theorem LoopOk.append {l : FiringLoop} (h : LoopOk s tr id l) : LoopOk s (tr ++ es) id l :=
  ⟨h.stands.append hpolls hbegun, h.live, fun hphase hab =>
    (h.lost hphase hab).imp (fun hgone => ⟨hgone.1, hgone.2.append hpolls hbegun⟩)
      (Overflowed.append hpolls hbegun)⟩

end Frame

/-! ### Calls -/

theorem LoopOk.abort {id : Nat} {l : FiringLoop} (h : LoopOk s tr id l) :
    LoopOk s tr id { l with aborted := true } :=
  ⟨h.stands, h.live, fun _ hab => by simp at hab⟩

section Loops

variable {A : Nat → Prop}

theorem LoopsOk.quiet (h : LoopsOk s A tr st) (hpolls : ∀ i, pollsOf i es = [])
    (hbegun : begun es = []) : LoopsOk s A (tr ++ es) st where
  loops i l hA hl := (h.loops i l hA hl).append (hpolls i) (begunBy_eq_nil hbegun)
  unborn i hi := (h.unborn i hi).append (hpolls i) (begunBy_eq_nil hbegun)

theorem LoopsOk.release (h : LoopsOk s A tr st) (id : Nat) (slot : Option Nat) (dropped : Bool) :
    LoopsOk s A tr { st.abort id with slot := slot, dropped := dropped } where
  loops i l hA hl := by
    obtain ⟨l₀, hl₀, rfl⟩ := State.loop_of_abort hl
    split
    · exact (h.loops i l₀ hA hl₀).abort
    · exact h.loops i l₀ hA hl₀
  unborn i hi := h.unborn i (by simpa [State.abort] using hi)

theorem LoopsOk.start (h : LoopsOk s A tr st) : LoopsOk s A tr (s.start st).state where
  loops i l hA hl := by
    obtain hl | ⟨rfl, -, hspawned⟩ := loop_of_start hl
    · exact h.loops i l hA hl
    · have hu := h.unborn _ (Nat.le_refl st.loops.length)
      obtain ⟨hphase, hrun⟩ | ⟨hphase, hrun⟩ := hspawned
      · exact ⟨hphase ▸ hu, fun _ => hrun, fun hended => by simp [hphase] at hended⟩
      · exact ⟨hphase ▸ trivial, fun hne => absurd hphase hne, fun _ _ => .inl ⟨hrun, hu⟩⟩
  unborn i hi := h.unborn i (Nat.le_trans (length_le_serve s st .start) hi)

theorem LoopsOk.serve (h : LoopsOk s A tr st) (c : Call) : LoopsOk s A tr (s.serve st c).2.2 := by
  cases c with
  | start => exact h.start
  | stop =>
    simp only [Scheduler.serve, stop]
    split
    · exact h.release _ _ _
    · exact h
  | isArmed => exact h

theorem LoopsOk.drop (h : LoopsOk s A tr st) : LoopsOk s A tr st.drop.2 := by
  unfold State.drop
  split
  · exact h.release _ _ _
  · exact ⟨h.loops, h.unborn⟩

end Loops

/-! ## The ledger -/

/-- **The trace and the loops agree**, those at least that `A` picks. -/
structure Ledger (s : Scheduler ε ω) (A : Nat → Prop) (now : Nat) (tr : List (Incident ε))
    (st : State ω) : Prop where
  kept : Kept s tr
  fired : (begun tr).length = st.fired
  polls : ∀ i, ∀ t ∈ pollsOf i tr, t ≤ now
  loops : LoopsOk s A tr st

section Ledger

variable {A : Nat → Prop} {now : Nat}

theorem Ledger.quiet (h : Ledger s A now tr st) (hpolls : ∀ i, pollsOf i es = [])
    (hbegun : begun es = []) : Ledger s A now (tr ++ es) st where
  kept := h.kept.quiet hbegun
  fired := by simpa [hbegun] using h.fired
  polls := by simpa [hpolls] using h.polls
  loops := h.loops.quiet hpolls hbegun

theorem Ledger.serve (h : Ledger s A now tr st) (c : Call) :
    Ledger s A now tr (s.serve st c).2.2 where
  kept := h.kept
  fired := h.fired.trans (serve_fired s st c).symm
  polls := h.polls
  loops := h.loops.serve c

theorem Ledger.drop (h : Ledger s A now tr st) : Ledger s A now tr st.drop.2 where
  kept := h.kept
  fired := by rw [h.fired]; unfold State.drop; split <;> rfl
  polls := h.polls
  loops := h.loops.drop

theorem Ledger.elapse (h : Ledger s A now tr st) (millis : Nat) :
    Ledger s A (now + millis) tr st :=
  { h with polls := fun i t ht => Nat.le_add_right_of_le (h.polls i t ht) }

end Ledger

/-! ## A running loop -/

/-- **The trace and the loops agree while the loop at `id` runs**, which the state shows only by
its old phase. -/
structure Driving (s : Scheduler ε ω) (now id : Nat) (f : Focus) (st : State ω)
    (tr : List (Incident ε)) : Prop extends Ledger s (· ≠ id) now tr st where
  spawned : id < st.loops.length
  heads : Heads s tr id f
  polled : (pollsOf id tr).getLast? = some now

section Driving

variable {now id : Nat} {f : Focus}

theorem Driving.quiet (h : Driving s now id f st tr) (hpolls : ∀ i, pollsOf i es = [])
    (hbegun : begun es = []) : Driving s now id f st (tr ++ es) where
  toLedger := h.toLedger.quiet hpolls hbegun
  spawned := h.spawned
  heads := h.heads.append (hpolls id) (begunBy_eq_nil hbegun)
  polled := by simpa [hpolls] using h.polled

/-- What a loop does at a tick that is due is lawful. -/
theorem Driving.lawful {tick due : Nat} (h : Driving s now id (.tick tick due) st tr)
    (hdue : due ≤ Clock.instant now) (hlog : tr.getLast? = some (.shown (.log s.firingEntry))) :
    Lawful s tr ⟨id, tick, st.fired, now⟩ := by
  obtain ⟨⟨⟨t₀, h₀, hd⟩, hcount⟩, hended⟩ := h.heads
  exact ⟨hcount.symm, h.fired.symm, hended, ⟨t₀, due, h₀, hd, hdue⟩, h.polled, hlog⟩

theorem Next.began {tick due next : Nat} (h : Next s tr id tick due)
    (hnext : s.settings.nextDue? now due = some next) (number : Nat) :
    Next s (tr ++ [Firing.incident ⟨id, tick, number, now⟩]) id (tick + 1) next := by
  obtain ⟨⟨t₀, h₀, hd⟩, hcount⟩ := h
  have hby := begunBy_singleton (ε := ε) (Firing.firing?_incident ⟨id, tick, number, now⟩) id
  rw [if_pos rfl] at hby
  refine ⟨⟨t₀, by simpa using h₀, ?_⟩, ?_⟩
  · rw [begunBy_append, hby, List.map_append, List.map_singleton, Settings.dueAfter_append, hd,
      Option.bind_some, hnext]
  · rw [begunBy_append, hby, List.length_append, hcount]
    rfl

/-- The other loops do not care for a firing of this one. -/
theorem LoopsOk.began {b : Firing} (h : LoopsOk s (· ≠ b.loop) tr st)
    (hlt : b.loop < st.loops.length) : LoopsOk s (· ≠ b.loop) (tr ++ [b.incident]) st where
  loops i l hi hl := by
    refine (h.loops i l hi hl).append (pollsOf_incident i b) ?_
    rw [begunBy_singleton b.firing?_incident, if_neg (Ne.symm hi)]
  unborn i hi := by
    refine (h.unborn i hi).append (pollsOf_incident i b) ?_
    rw [begunBy_singleton b.firing?_incident, if_neg (by omega)]

theorem Driving.began {tick due next : Nat} (h : Driving s now id (.tick tick due) st tr)
    (hdue : due ≤ Clock.instant now) (hnext : s.settings.nextDue? now due = some next)
    (hlog : tr.getLast? = some (.shown (.log s.firingEntry))) (w : ω) (steps : List Action) :
    Driving s now id (.act st.fired steps (tick + 1) next)
      { st with fired := st.fired + 1, world := w }
      (tr ++ [Firing.incident ⟨id, tick, st.fired, now⟩]) := by
  obtain ⟨hcount, hended⟩ := h.heads
  have hothers := LoopsOk.began (b := ⟨id, tick, st.fired, now⟩) h.loops h.spawned
  refine ⟨⟨?_, ?_, ?_, ⟨hothers.loops, hothers.unborn⟩⟩, h.spawned, ⟨?_, ?_⟩, ?_⟩
  · refine h.kept.snoc ?_
    intro b hb
    rw [← Option.some.inj hb]
    exact h.lawful hdue hlog
  · simp [h.fired]
  · simpa using h.polls
  · exact hcount.began hnext st.fired
  · refine ⟨begunBy id tr, ⟨id, tick, st.fired, now⟩, ?_, rfl, fun c hc => (hended c hc).append _⟩
    rw [begunBy_append, begunBy_singleton (Firing.firing?_incident _), if_pos rfl]
  · simpa using h.polled

/-- **A tick is taken**: this is logged, and the firing of the tick begins. -/
theorem Driving.begin {tick due next : Nat} (h : Driving s now id (.tick tick due) st tr)
    (hdue : due ≤ Clock.instant now) (hnext : s.settings.nextDue? now due = some next)
    (w : ω) (steps : List Action) :
    Driving s now id (.act st.fired steps (tick + 1) next)
      { st with fired := st.fired + 1, world := w }
      (tr ++ [.shown (.log s.firingEntry), Firing.incident ⟨id, tick, st.fired, now⟩]) := by
  have hlog : Driving s now id (.tick tick due) st (tr ++ [.shown (.log s.firingEntry)]) :=
    h.quiet (fun _ => rfl) rfl
  rw [List.append_cons]
  exact hlog.began hdue hnext (by simp) w steps

/-- A firing ends on its own, and something may be logged. -/
theorem Driving.finish {firing tick due : Nat} {rest : List Action}
    (h : Driving s now id (.act firing rest tick due) st tr) (ending : Ending)
    (hne : ending ≠ .cancelled) (log : List Log.Entry) :
    Driving s now id (.tick tick due) st
      (tr ++ .shown (.seen (.finished firing ending now)) :: log.map (.shown ∘ .log)) := by
  have hbegun : begun (.shown (.seen (.finished firing ending now)) ::
      log.map (.shown ∘ .log) : List (Incident ε)) = [] := by simp [Incident.firing?]
  have hpolls : ∀ i, pollsOf i (.shown (.seen (.finished firing ending now)) ::
      log.map (.shown ∘ .log) : List (Incident ε)) = [] := by
    intro i
    simp [pollsOf, Incident.pollOf?]
  have hq := h.quiet hpolls hbegun
  obtain ⟨hnext, earlier, b, hb, hn, hended⟩ := h.heads
  refine { hq with heads := ⟨hq.heads.1, ?_⟩ }
  intro c hc
  rw [begunBy_append, begunBy_eq_nil hbegun, List.append_nil, hb, List.mem_append,
    List.mem_singleton] at hc
  rcases hc with hc | rfl
  · exact (hended c hc).append _
  · have hc : c ∈ begunBy id tr := by simp [hb]
    have hfinished : .shown (.seen (.finished c.number ending now)) ∈
        (.shown (.seen (.finished firing ending now)) :: log.map (.shown ∘ .log) :
          List (Incident ε)) := by simp [hn]
    exact Firing.endedIn_of_finished (mem_begunBy.1 hc).1 hne hfinished

theorem Driving.serve (h : Driving s now id f st tr) (c : Call) :
    Driving s now id f (s.serve st c).2.2 tr where
  toLedger := h.toLedger.serve c
  spawned := Nat.lt_of_lt_of_le h.spawned (length_le_serve s st c)
  heads := h.heads
  polled := h.polled

/-- **Each step of a running loop keeps the ledger.** -/
theorem Goes.driving {g : Focus} {seen : List (Event (Sight ε))}
    (hgo : Goes s now id f st g seen st') (h : Driving s now id f st tr) :
    Driving s now id g st' (tr ++ seen.map .shown) := by
  cases hgo with
  | @began _ _ _ steps _ hdue hnext =>
    have hb := (h.begin hdue hnext (s.caretaker.run st.fired now st.world).world steps).quiet
      (pollsOf_own (s.caretaker.run st.fired now st.world).seen) (begun_own _)
    simpa [Firing.incident] using hb
  | beganAndCrashed hdue hnext =>
    have hb := (h.begin hdue hnext (s.caretaker.run st.fired now st.world).world []).quiet
      (pollsOf_own (s.caretaker.run st.fired now st.world).seen) (begun_own _)
    simpa [Firing.incident] using hb.finish .crashedAtOnce (by simp) [s.crashEntry]
  | returned => exact h.finish .returned (by simp) []
  | crashed => exact h.finish .crashed (by simp) [s.crashEntry]
  | napped =>
    rw [List.map_nil, List.append_nil]
    exact { h with heads := h.heads }
  | @called firing tick due rest st c =>
    have h' : Driving s now id (.act firing rest tick due) st tr := { h with heads := h.heads }
    obtain ⟨hseen, hst⟩ | ⟨-, hseen, hst⟩ := s.answer_cases st c <;> rw [hseen, hst]
    · exact h'.quiet (fun _ => rfl) rfl
    · exact (h'.serve c).quiet (fun _ => pollsOf_shown _ _) (by simp [Incident.firing?])

/-- Where a running loop comes to a wait, the trace says so. -/
theorem Stays.stands {phase : Phase} (h : Stays s now f phase) (hf : Heads s tr id f)
    (hlast : (pollsOf id tr).getLast? = some now) :
    Stands s tr id phase ∧ (phase = .ended → Overflowed s tr id) := by
  cases h with
  | waiting hdue =>
    obtain ⟨hnext, hended⟩ := hf
    refine ⟨⟨hnext, hended, ?_⟩, fun hphase => by simp at hphase⟩
    intro t ht
    simp only [hlast, Option.mem_def, Option.some.injEq] at ht
    exact ht ▸ hdue
  | @lost tick due hdue hnone =>
    obtain ⟨⟨⟨t₀, h₀, hd⟩, -⟩, hended⟩ := hf
    obtain ⟨hover, hlate⟩ := Settings.nextDue?_eq_none.1 hnone
    exact ⟨trivial, fun _ => ⟨t₀, h₀, .inr ⟨hended, due, now, hd, hlast, hlate, hover⟩⟩⟩
  | asleep => exact ⟨hf, fun hphase => by simp at hphase⟩
  | yielded => exact ⟨hf, fun hphase => by simp at hphase⟩

/-! ## Whole histories -/

/-- One loop's phase is noted, of which the trace says as much. -/
theorem LoopsOk.note (h : LoopsOk s (· ≠ id) tr st) {phase : Phase}
    (hid : ∀ l, st.loops[id]? = some l → LoopOk s tr id { l with phase := phase }) :
    LoopsOk s (fun _ => True) tr (st.note id phase) where
  loops i l _ hl := by
    obtain ⟨l₀, hl₀, rfl⟩ := State.loop_of_note hl
    by_cases hi : id = i
    · subst hi
      simpa using hid l₀ hl₀
    · simpa [hi] using h.loops i l₀ (Ne.symm hi) hl₀
  unborn i hi := h.unborn i (by simpa [State.note] using hi)

theorem Next.mark {tick due : Nat} (h : Next s tr id tick due) :
    Next s (tr ++ [.polled id now]) id tick due := by
  obtain ⟨⟨t₀, h₀, hd⟩, hcount⟩ := h
  refine ⟨⟨t₀, ?_, ?_⟩, ?_⟩
  · rw [pollsOf_append, List.head?_append, h₀]
    rfl
  · simpa [begunBy, Incident.firing?] using hd
  · simpa [begunBy, Incident.firing?] using hcount

/-- A loop is taken up where the trace says it stands. -/
theorem Resumes.heads {phase : Phase} (h : Resumes s now phase f) (hst : Stands s tr id phase) :
    Heads s (tr ++ [.polled id now]) id f := by
  cases h with
  | first hdue =>
    obtain ⟨hpolls, hbegun⟩ := hst
    have hby : begunBy id (tr ++ [.polled id now]) = [] := by
      rw [begunBy_append, hbegun]
      rfl
    refine ⟨⟨⟨now, ?_, ?_⟩, by simp [hby]⟩, by simp [hby]⟩
    · rw [pollsOf_append, hpolls, pollsOf_mark]
      rfl
    · rw [hby, List.map_nil, Settings.dueAfter_nil, hdue]
  | tick => exact ⟨hst.1.mark, ended_append rfl hst.2.1⟩
  | woke => exact ⟨hst.1.mark, hst.2.append rfl⟩
  | turn => exact ⟨hst.1.mark, hst.2.append rfl⟩

/-- The other loops do not care for a poll of this one. -/
theorem LoopsOk.mark (h : LoopsOk s (fun _ => True) tr st) (hlt : id < st.loops.length) :
    LoopsOk s (· ≠ id) (tr ++ [.polled id now]) st where
  loops i l hi hl :=
    (h.loops i l trivial hl).append (pollsOf_mark_ne (Ne.symm hi) _) rfl
  unborn i hi := by
    have hne : id ≠ i := by omega
    exact (h.unborn i hi).append (pollsOf_mark_ne hne _) rfl

theorem Ledger.mark (h : Ledger s (fun _ => True) now tr st) (hlt : id < st.loops.length) :
    Ledger s (· ≠ id) now (tr ++ [.polled id now]) st where
  kept := h.kept.quiet rfl
  fired := by simpa [Incident.firing?] using h.fired
  polls i := by
    by_cases hi : id = i
    · subst hi
      simpa [or_imp, forall_and] using h.polls id
    · simpa [pollsOf_mark_ne hi] using h.polls i
  loops := h.loops.mark hlt

theorem Ledger.driving {l : FiringLoop} (h : Ledger s (fun _ => True) now tr st)
    (hl : st.loops[id]? = some l) (hf : Resumes s now l.phase f) :
    Driving s now id f st (tr ++ [.polled id now]) where
  toLedger := h.mark (List.getElem?_eq_some_iff.1 hl).1
  spawned := (List.getElem?_eq_some_iff.1 hl).1
  heads := hf.heads (h.loops.loops id l trivial hl).stands
  polled := by simp

/-- The phase of the one loop left out is noted. -/
theorem Ledger.note (h : Ledger s (· ≠ id) now tr st) {phase : Phase}
    (hid : ∀ l, st.loops[id]? = some l → LoopOk s tr id { l with phase := phase }) :
    Ledger s (fun _ => True) now tr (st.note id phase) where
  kept := h.kept
  fired := h.fired
  polls := h.polls
  loops := h.loops.note hid

theorem LoopsOk.weaken (h : LoopsOk s (fun _ => True) tr st) : LoopsOk s (· ≠ id) tr st :=
  ⟨fun i l _ hl => h.loops i l trivial hl, h.unborn⟩

theorem LoopOk.ofEnded {l : FiringLoop} (hphase : l.phase = .ended)
    (hlost : l.aborted = false → s.runtime = .gone ∧ Untouched tr id ∨ Overflowed s tr id) :
    LoopOk s tr id l :=
  ⟨hphase ▸ trivial, fun hne => absurd hphase hne, fun _ => hlost⟩

theorem Ledger.weaken (h : Ledger s (fun _ => True) now tr st) : Ledger s (· ≠ id) now tr st :=
  ⟨h.kept, h.fired, h.polls, h.loops.weaken⟩

/-- A poll that leaves the loop asleep. -/
theorem Ledger.slept {l : FiringLoop} (h : Ledger s (fun _ => True) now tr st)
    (hl : st.loops[id]? = some l) {firing wake tick due : Nat} {rest : List Action}
    (hphase : l.phase = .asleep firing wake rest tick due) :
    Ledger s (fun _ => True) now (tr ++ [.polled id now]) st := by
  have hlt := (List.getElem?_eq_some_iff.1 hl).1
  refine { h.mark hlt with loops := ⟨?_, (h.loops.mark hlt).unborn⟩ }
  intro i l' _ hl'
  by_cases hi : i = id
  · subst hi
    obtain rfl := Option.some.inj (hl.symm.trans hl')
    obtain ⟨hstands, hlive, -⟩ := h.loops.loops i l trivial hl
    rw [hphase] at hstands
    refine ⟨?_, hlive, fun hended => by simp [hphase] at hended⟩
    rw [hphase]
    exact ⟨hstands.1.mark, hstands.2.append rfl⟩
  · exact (h.loops.mark hlt).loops i l' hi hl'

/-- **Each poll keeps the ledger.** -/
theorem Polls.ledger {l : FiringLoop} {seen : List (Event (Sight ε))}
    (hpolls : Polls s now id st l seen st') (h : Ledger s (fun _ => True) now tr st)
    (hl : st.loops[id]? = some l) (hne : l.phase ≠ .ended) :
    Ledger s (fun _ => True) now
      (tr ++ (if l.aborted then [] else [.polled id now]) ++ seen.map .shown) st' := by
  have hlt := (List.getElem?_eq_some_iff.1 hl).1
  have hlive := (h.loops.loops id l trivial hl).live hne
  cases hpolls with
  | reaped habort =>
    simp only [habort, if_true, List.append_nil]
    refine (h.weaken.note ?_).quiet (fun _ => pollsOf_shown _ _) (begun_cancelled _ _)
    intro l' hl'
    rw [hl] at hl'
    cases hl'
    exact .ofEnded rfl fun hab => by simp [habort] at hab
  | overflowed habort hphase hdue =>
    simp only [habort, Bool.false_eq_true, if_false, List.map_nil, List.append_nil]
    refine (h.mark hlt).note ?_
    intro l' _
    refine .ofEnded rfl fun _ => .inr ⟨now, ?_, .inl (Settings.firstDue?_eq_none.1 hdue)⟩
    have hu : Untouched tr id := by
      simpa [hphase, Stands] using (h.loops.loops id l trivial hl).stands
    rw [pollsOf_append, hu.1, pollsOf_mark]
    rfl
  | slept habort hphase =>
    simp only [habort, Bool.false_eq_true, if_false, List.map_nil, List.append_nil]
    exact h.slept hl hphase
  | ran habort hf =>
    simp only [habort, Bool.false_eq_true, if_false]
    obtain ⟨g, hstay, hd⟩ := drive_keeps s now id _ st _ Goes.driving (h.driving hl hf)
    obtain ⟨hstands, hover⟩ := hstay.stands hd.heads hd.polled
    refine hd.toLedger.note ?_
    intro l' _
    exact ⟨hstands, fun _ => hlive, fun hphase _ => .inr (hover hphase)⟩
  | ranOut habort hf hafter =>
    simp only [habort, Bool.false_eq_true, if_false]
    obtain ⟨g, hstay, hd⟩ := drive_keeps s now id _ st _ Goes.driving (h.driving hl hf)
    rw [List.map_append, ← List.append_assoc]
    refine (hd.toLedger.note ?_).quiet (fun _ => pollsOf_shown _ _) (begun_cancelled _ _)
    intro l' hl'
    refine .ofEnded rfl fun hab => ?_
    simp only [hl', Option.map_some, Option.getD_some] at hafter
    simp [hafter] at hab

/-- **Every history keeps its ledger.** -/
theorem ledger_course (s : Scheduler ε ω) (w : ω) (os : List (Occurrence ω)) :
    Ledger s (fun _ => True) (s.course w os).now (s.course w os).trace (s.course w os).state := by
  refine course_keeps (P := fun v => Ledger s (fun _ => True) v.now v.trace v.state) ?_ ?_ os
  · exact ⟨.nil, rfl, by simp [Course.begin],
      ⟨by simp [Course.begin, State.initial], fun _ _ => ⟨rfl, rfl⟩⟩⟩
  intro v o u hstep hv
  cases hstep with
  | void => exact hv
  | elapsed millis => exact hv.elapse millis
  | stirred => exact ⟨hv.kept, hv.fired, hv.polls, ⟨hv.loops.loops, hv.loops.unborn⟩⟩
  | called c => exact (hv.serve c).quiet (fun _ => rfl) rfl
  | dropped => exact hv.drop.quiet (fun _ => rfl) rfl
  | polled hl hne hpolls => exact hpolls.ledger hv hl hne

end Driving

end Scheduler

end Vigil
