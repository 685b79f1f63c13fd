import Vigil.Dispatch.Invoker

/-!
# How events are delivered

* `Invoker.rollFrom`: the calls of all handlers, each in the world that the calls before it left.
* `Invoker.invoked`: those that a dispatch makes, up to the first that ends it.
* `deliver_eq`: a dispatch is these calls: its result, what is seen of it and the world after it
  are read off them.
* `handle_delivers`: **who is called, with what result and what log**, for every invoker and after
  any calls before, and that the segment has no part in it.
-/

namespace Vigil

/-- One call of a handler, with what it gave back. -/
structure Invocation (E ε ω : Type) where
  position : Nat
  group : String
  event : E
  turn : Turn Reply ε ω

variable {E R ε ω : Type}

theorem Event.entries_append (seen seen' : List (Event ε)) :
    Event.entries (seen ++ seen') = Event.entries seen ++ Event.entries seen' := by
  simp [Event.entries]

theorem Event.entries_log (entry : Log.Entry) (seen : List (Event ε)) :
    Event.entries (.log entry :: seen) = entry :: Event.entries seen := rfl

theorem Event.observations_append (seen seen' : List (Event ε)) :
    Event.observations (seen ++ seen') = Event.observations seen ++ Event.observations seen' := by
  simp [Event.observations]

theorem Event.observations_seen (os : List ε) : Event.observations (os.map .seen) = os := by
  induction os with
  | nil => rfl
  | cons o os ih => exact congrArg (o :: ·) ih

/-- Whether a reply ends a dispatch. -/
def ErrorPolicy.endsAt : ErrorPolicy → Reply → Bool
  | _, .done => false
  | .propagate, .failed _ => true
  | .logAndContinue, .failed _ => false
  | _, .crashed => true

/-- The entry for a failure. -/
def ErrorPolicy.entry (policy : ErrorPolicy) (segment : Segment) (f : HandlerFailure) : Log.Entry :=
  match policy with
  | .propagate => Invoker.abortEntry segment f
  | .logAndContinue => Invoker.continueEntry segment f

namespace Invocation

/-- The failure to report of a call that failed. -/
def failure? (i : Invocation E ε ω) : Option HandlerFailure :=
  i.turn.reply.error?.map fun e => ⟨i.group, i.position, e⟩

/-- What is seen of a call, with the entry for its failure. -/
def shown (policy : ErrorPolicy) (segment : Segment) (i : Invocation E ε ω) : List (Event ε) :=
  i.turn.seen.map .seen ++ i.failure?.toList.map fun f => .log (policy.entry segment f)

/-- How a dispatch ends that ends with this call. -/
def result (policy : ErrorPolicy) (i : Invocation E ε ω) : Dispatched :=
  match policy, i.turn.reply with
  | _, .done => .done
  | .propagate, .failed e => .failed ⟨i.group, i.position, e⟩
  | .logAndContinue, .failed _ => .done
  | _, .crashed => .crashed

end Invocation

namespace Invoker

/-- The world once these handlers have taken the event, each once and in order. -/
def worldAfter (event : E) (rs : List (Registered E R ε ω)) (w : ω) : ω :=
  rs.foldl (fun w r => (r.handler.handle event w).world) w

/-- The calls of these handlers, in order. -/
def rollFrom (event : E) (position : Nat) (rs : List (Registered E R ε ω)) (w : ω) :
    List (Invocation E ε ω) :=
  rs.mapIdx fun n r =>
    ⟨position + n, r.group, event, r.handler.handle event (worldAfter event (rs.take n) w)⟩

/-- The calls up to the first one that ends the dispatch. -/
def upToEnd (policy : ErrorPolicy) : List (Invocation E ε ω) → List (Invocation E ε ω)
  | [] => []
  | i :: is => if policy.endsAt i.turn.reply then [i] else i :: upToEnd policy is

/-- **The calls that a dispatch of the event makes** in a world `w`. -/
def invoked (v : Invoker E R ε ω) (event : E) (w : ω) : List (Invocation E ε ω) :=
  upToEnd v.policy (rollFrom event 0 v.handlers w)

theorem rollFrom_cons (event : E) (position : Nat) (r : Registered E R ε ω)
    (rs : List (Registered E R ε ω)) (w : ω) :
    rollFrom event position (r :: rs) w =
      ⟨position, r.group, event, r.handler.handle event w⟩ ::
        rollFrom event (position + 1) rs (r.handler.handle event w).world := by
  simp [rollFrom, worldAfter, List.mapIdx_cons, Nat.add_comm, Nat.add_left_comm]

/-- A call that does not end the dispatch leaves its result to the calls behind it. -/
theorem result_of_not_endsAt {policy : ErrorPolicy} {i : Invocation E ε ω}
    (h : policy.endsAt i.turn.reply = false) (is : List (Invocation E ε ω)) :
    ((i :: is).getLast?.map (·.result policy)).getD .done =
      (is.getLast?.map (·.result policy)).getD .done := by
  have hdone : i.result policy = .done := by
    unfold Invocation.result
    cases policy <;> cases hr : i.turn.reply <;> first | rfl | simp [hr, ErrorPolicy.endsAt] at h
  rw [List.getLast?_cons]
  cases is.getLast? <;> simp [hdone]

/-- **A dispatch is its calls.** -/
theorem deliver_eq (policy : ErrorPolicy) (segment : Segment) (event : E) (position : Nat)
    (rs : List (Registered E R ε ω)) (w : ω) :
    deliver policy segment event position rs w =
      let is := upToEnd policy (rollFrom event position rs w)
      ⟨(is.getLast?.map (·.result policy)).getD .done, is.flatMap (·.shown policy segment),
        worldAfter event (rs.take is.length) w⟩ := by
  induction rs generalizing position w with
  | nil => rfl
  | cons r rs ih =>
    rw [rollFrom_cons]
    unfold deliver upToEnd
    simp only
    cases hr : (r.handler.handle event w).reply with
    | crashed =>
      simp [ErrorPolicy.endsAt, Invocation.result, Invocation.shown, Invocation.failure?, hr,
        Reply.error?, worldAfter]
    | done =>
      have hgo : policy.endsAt .done = false := by cases policy <;> rfl
      simp only [hgo, Bool.false_eq_true, if_false]
      rw [ih, result_of_not_endsAt (by simp only [hr, hgo])]
      simp [Invocation.shown, Invocation.failure?, hr, Reply.error?, worldAfter]
    | failed e =>
      cases policy with
      | propagate =>
        simp [ErrorPolicy.endsAt, ErrorPolicy.entry, Invocation.result, Invocation.shown,
          Invocation.failure?, hr, Reply.error?, worldAfter]
      | logAndContinue =>
        have hgo : ErrorPolicy.logAndContinue.endsAt (.failed e) = false := rfl
        simp only [hgo, Bool.false_eq_true, if_false]
        rw [ih, result_of_not_endsAt (by simp only [hr, hgo])]
        simp [ErrorPolicy.entry, Invocation.shown, Invocation.failure?, hr, Reply.error?,
          worldAfter]

/-! ## Which calls are made -/

theorem length_rollFrom (event : E) (position : Nat) (rs : List (Registered E R ε ω)) (w : ω) :
    (rollFrom event position rs w).length = rs.length := by simp [rollFrom]

/-- The calls made are those before the first that ends the dispatch, and that one, or all. -/
theorem upToEnd_cases (policy : ErrorPolicy) {is : List (Invocation E ε ω)} (h : is ≠ []) :
    ∃ before i after, is = before ++ i :: after ∧ upToEnd policy is = before ++ [i] ∧
      (∀ j ∈ before, policy.endsAt j.turn.reply = false) ∧
      (policy.endsAt i.turn.reply = true ∨ after = []) := by
  induction is with
  | nil => exact absurd rfl h
  | cons i is ih =>
    unfold upToEnd
    split
    · rename_i hend
      exact ⟨[], i, is, rfl, rfl, by simp, .inl hend⟩
    · rename_i hgo
      rw [Bool.not_eq_true] at hgo
      by_cases his : is = []
      · subst his
        exact ⟨[], i, [], rfl, rfl, by simp, .inr rfl⟩
      · obtain ⟨before, j, after, rfl, hmade, hbefore, hj⟩ := ih his
        refine ⟨i :: before, j, after, rfl, by rw [hmade]; rfl, ?_, hj⟩
        simpa [hgo] using hbefore

variable (v : Invoker E R ε ω) (event : E) (w : ω)

/-- **The calls of a dispatch**: one for each of the positions up to `k`, with the event as it is
and in the world that the calls before left; `k` is the first position that ends the dispatch, or
the last one. -/
theorem invoked_cases : ∃ k i, (v.invoked event w).length = k + 1 ∧
    (v.invoked event w)[k]? = some i ∧
    (∀ j ∈ (v.invoked event w).take k, v.policy.endsAt j.turn.reply = false) ∧
    (v.policy.endsAt i.turn.reply = true ∨ v.handlers.length = k + 1) ∧
    (v.invoked event w).getLast? = some i := by
  have hne : rollFrom event 0 v.handlers w ≠ [] := by
    rw [← List.length_pos_iff, length_rollFrom, List.length_pos_iff]
    exact v.handlers_ne_nil
  obtain ⟨before, i, after, hall, hmade, hbefore, hi⟩ := upToEnd_cases v.policy hne
  refine ⟨before.length, i, ?_⟩
  unfold invoked
  rw [hmade]
  refine ⟨by simp, by simp, by simpa using hbefore, hi.imp_right ?_, by simp⟩
  rintro rfl
  rw [← length_rollFrom event 0 v.handlers w, hall]
  simp

theorem upToEnd_prefix (policy : ErrorPolicy) (is : List (Invocation E ε ω)) :
    upToEnd policy is <+: is := by
  induction is with
  | nil => exact List.prefix_rfl
  | cons i is ih =>
    unfold upToEnd
    split
    · exact ⟨is, rfl⟩
    · exact List.cons_prefix_cons.2 ⟨rfl, ih⟩

theorem getElem?_invoked {n : Nat} {i : Invocation E ε ω} (h : (v.invoked event w)[n]? = some i) :
    ∃ r, v.handlers[n]? = some r ∧
      i = ⟨n, r.group, event,
        r.handler.handle event (worldAfter event (v.handlers.take n) w)⟩ := by
  unfold invoked at h
  obtain ⟨after, hafter⟩ := upToEnd_prefix v.policy (rollFrom event 0 v.handlers w)
  have hroll : (rollFrom event 0 v.handlers w)[n]? = some i := by
    rw [← hafter, List.getElem?_append_left (List.getElem?_eq_some_iff.1 h).1]
    exact h
  unfold rollFrom at hroll
  rw [List.getElem?_mapIdx] at hroll
  obtain ⟨r, hr, rfl⟩ := Option.map_eq_some_iff.1 hroll
  exact ⟨r, hr, by rw [Nat.zero_add]⟩

/-- The positions are called in order, each once. -/
theorem positions_invoked :
    (v.invoked event w).map (·.position) = List.range (v.invoked event w).length := by
  refine List.ext_getElem (by simp) ?_
  intro n hn _
  rw [List.length_map] at hn
  obtain ⟨r, -, hi⟩ := getElem?_invoked v event w (List.getElem?_eq_getElem hn)
  simp [hi]

/-! ## What is logged -/

theorem position_of_failure? {i : Invocation E ε ω} {f : HandlerFailure} (h : i.failure? = some f) :
    f.position = i.position := by
  obtain ⟨e, -, rfl⟩ := Option.map_eq_some_iff.1 h
  rfl

/-- Failures are met in the order of their positions. -/
theorem failures_sorted :
    ((v.invoked event w).filterMap (·.failure?)).Pairwise (·.position < ·.position) := by
  have hsorted : (v.invoked event w).Pairwise (·.position < ·.position) := by
    rw [← List.pairwise_map (f := fun i : Invocation E ε ω => i.position), positions_invoked]
    exact List.pairwise_lt_range
  refine hsorted.filterMap _ ?_
  intro i j hij f hf g hg
  rwa [position_of_failure? hf, position_of_failure? hg]

/-- Each failure has its entry, and nothing else of a dispatch's calls is logged. -/
theorem entries_shown (policy : ErrorPolicy) (segment : Segment) (is : List (Invocation E ε ω)) :
    Event.entries (is.flatMap (·.shown policy segment)) =
      (is.filterMap (·.failure?)).map (policy.entry segment) := by
  induction is with
  | nil => rfl
  | cons i is ih =>
    have hi : Event.entries (i.shown policy segment) =
        i.failure?.toList.map (policy.entry segment) := by
      cases hf : i.failure? <;> simp [Invocation.shown, Event.entries, hf]
    rw [List.flatMap_cons, Event.entries_append, hi, ih]
    cases hf : i.failure? <;> simp [hf]

theorem observations_shown (policy : ErrorPolicy) (segment : Segment)
    (is : List (Invocation E ε ω)) :
    Event.observations (is.flatMap (·.shown policy segment)) = is.flatMap (·.turn.seen) := by
  induction is with
  | nil => rfl
  | cons i is ih =>
    have hi : Event.observations (i.shown policy segment) = i.turn.seen := by
      unfold Invocation.shown
      rw [Event.observations_append, Event.observations_seen]
      cases i.failure? <;> simp [Event.observations]
    rw [List.flatMap_cons, Event.observations_append, hi, ih, List.flatMap_cons]

/-! ## Dispatches -/

theorem handle_reply (segment : Segment) : (v.handle event segment w).reply =
    ((v.invoked event w).getLast?.map (·.result v.policy)).getD .done := by
  unfold handle invoked
  rw [deliver_eq]

theorem handle_world (segment : Segment) : (v.handle event segment w).world =
    worldAfter event (v.handlers.take (v.invoked event w).length) w := by
  unfold handle invoked
  rw [deliver_eq]

theorem handle_seen (segment : Segment) : (v.handle event segment w).seen =
    .log ⟨.trace, "Dispatching event", [("segment", segment.render), v.countField]⟩ ::
      (v.invoked event w).flatMap (·.shown v.policy segment) := by
  unfold handle invoked
  rw [deliver_eq]

/-- The segment is seen in the log alone. -/
theorem observations_handle (segment : Segment) :
    Event.observations (v.handle event segment w).seen =
      (v.invoked event w).flatMap (·.turn.seen) := by
  rw [handle_seen]
  exact observations_shown v.policy segment _

/-- The world after these dispatches, one after the other. -/
def after (v : Invoker E R ε ω) (dispatches : List (E × Segment)) (w : ω) : ω :=
  dispatches.foldl (fun w d => (v.handle d.1 d.2 w).world) w

/-- The segments have no part in where dispatches lead. -/
theorem after_congr {ds ds' : List (E × Segment)} (h : ds'.map (·.1) = ds.map (·.1)) :
    v.after ds' w = v.after ds w := by
  induction ds generalizing ds' w with
  | nil =>
    rw [List.map_nil, List.map_eq_nil_iff] at h
    rw [h]
  | cons d ds ih =>
    cases ds' with
    | nil => simp at h
    | cons d' ds' =>
      simp only [List.map_cons, List.cons.injEq] at h
      have hd : (v.handle d'.1 d'.2 w).world = (v.handle d.1 d.2 w).world := by
        rw [handle_world, handle_world, h.1]
      unfold after at ih ⊢
      rw [List.foldl_cons, List.foldl_cons, hd]
      exact ih _ h.2

/-- Under `propagate` the first failure ends the dispatch. -/
theorem handle_propagate (segment : Segment) (hp : v.policy = .propagate) :
    ∃ k i, (v.invoked event w).length = k + 1 ∧ (v.invoked event w)[k]? = some i ∧
      (∀ j ∈ (v.invoked event w).take k, j.turn.reply = .done) ∧
      match i.turn.reply with
      | .done => v.handlers.length = k + 1 ∧ (v.handle event segment w).reply = .done
      | .failed e => (v.handle event segment w).reply = .failed ⟨i.group, k, e⟩
      | .crashed => (v.handle event segment w).reply = .crashed := by
  obtain ⟨k, i, hlen, hi, hbefore, hend, hlast⟩ := v.invoked_cases event w
  rw [hp] at hbefore hend
  obtain ⟨r, -, hir⟩ := v.getElem?_invoked event w hi
  have hk : i.position = k := by rw [hir]
  refine ⟨k, i, hlen, hi, ?_, ?_⟩
  · intro j hj
    have := hbefore j hj
    cases hr : j.turn.reply with
    | done => rfl
    | failed | crashed => simp [hr, ErrorPolicy.endsAt] at this
  · have hreply : (v.handle event segment w).reply = i.result .propagate := by
      rw [handle_reply, hlast, hp]; rfl
    rw [hreply]
    unfold Invocation.result
    cases hr : i.turn.reply with
    | done => exact ⟨hend.resolve_left (by simp [hr, ErrorPolicy.endsAt]), rfl⟩
    | failed e => rw [hk]
    | crashed => rfl

/-- Under `logAndContinue` no failure ends the dispatch. -/
theorem handle_logAndContinue (segment : Segment) (hp : v.policy = .logAndContinue) :
    ∃ k i, (v.invoked event w).length = k + 1 ∧ (v.invoked event w)[k]? = some i ∧
      (∀ j ∈ (v.invoked event w).take k, j.turn.reply ≠ .crashed) ∧
      match i.turn.reply with
      | .crashed => (v.handle event segment w).reply = .crashed
      | _ => v.handlers.length = k + 1 ∧ (v.handle event segment w).reply = .done := by
  obtain ⟨k, i, hlen, hi, hbefore, hend, hlast⟩ := v.invoked_cases event w
  rw [hp] at hbefore hend
  refine ⟨k, i, hlen, hi, ?_, ?_⟩
  · intro j hj hr
    have := hbefore j hj
    simp [hr, ErrorPolicy.endsAt] at this
  · have hreply : (v.handle event segment w).reply = i.result .logAndContinue := by
      rw [handle_reply, hlast, hp]; rfl
    rw [hreply]
    unfold Invocation.result
    cases hr : i.turn.reply with
    | crashed => rfl
    | done | failed => exact ⟨hend.resolve_left (by simp [hr, ErrorPolicy.endsAt]), rfl⟩

/-- Under `logAndContinue` the errors logged are those of the calls that failed. -/
theorem errors_logAndContinue (segment : Segment) (hp : v.policy = .logAndContinue) :
    (Event.entries (v.handle event segment w).seen).filter (·.level = .error) =
      ((v.invoked event w).filterMap (·.failure?)).map (continueEntry segment) := by
  have hall : ∀ fs : List HandlerFailure,
      (fs.map (ErrorPolicy.logAndContinue.entry segment)).filter (·.level = .error) =
        fs.map (continueEntry segment) := by
    intro fs
    rw [List.filter_eq_self.2 (by simp [ErrorPolicy.entry, continueEntry])]
    rfl
  rw [handle_seen, hp, Event.entries_log, entries_shown, List.filter_cons_of_neg (by simp), hall]

/-- **Delivery.** For every invoker, after any dispatches before, a dispatch
* calls handlers in the order of their positions from 0 on, each once, with the event as it is and
  in the world that the calls before left; the world after it is the one that these calls leave and
  no others, and what is seen of it is what they let be seen;
* under `propagate` ends at the first position that fails, with this position, its group and its
  error, or else after the last position, and then it succeeds;
* under `logAndContinue` calls every position and succeeds, and logs one error for each position
  that failed, in ascending order, with its group and its error;
* makes the same calls with the same outcomes and the same result whatever the segments are.

A handler that crashes ends the dispatch, which crashes as well. -/
theorem handle_delivers (earlier : List (E × Segment)) (segment : Segment) :
    let w' := v.after earlier w
    let t := v.handle event segment w'
    let is := v.invoked event w'
    (∀ (n : Nat) (i : Invocation E ε ω), is[n]? = some i → ∃ r, v.handlers[n]? = some r ∧
      i = ⟨n, r.group, event,
        r.handler.handle event (worldAfter event (v.handlers.take n) w')⟩) ∧
    t.world = worldAfter event (v.handlers.take is.length) w' ∧
    t.seen = .log ⟨.trace, "Dispatching event", [("segment", segment.render), v.countField]⟩ ::
      is.flatMap (·.shown v.policy segment) ∧
    (v.policy = .propagate → ∃ k i, is.length = k + 1 ∧ is[k]? = some i ∧
      (∀ j ∈ is.take k, j.turn.reply = .done) ∧
      match i.turn.reply with
      | .done => v.handlers.length = k + 1 ∧ t.reply = .done
      | .failed e => t.reply = .failed ⟨i.group, k, e⟩
      | .crashed => t.reply = .crashed) ∧
    (v.policy = .logAndContinue →
      (∃ k i, is.length = k + 1 ∧ is[k]? = some i ∧ (∀ j ∈ is.take k, j.turn.reply ≠ .crashed) ∧
        match i.turn.reply with
        | .crashed => t.reply = .crashed
        | _ => v.handlers.length = k + 1 ∧ t.reply = .done) ∧
      (Event.entries t.seen).filter (·.level = .error) =
        (is.filterMap (·.failure?)).map (continueEntry segment) ∧
      (is.filterMap (·.failure?)).Pairwise (·.position < ·.position)) ∧
    ∀ earlier' segment', earlier'.map (·.1) = earlier.map (·.1) →
      let t' := v.handle event segment' (v.after earlier' w)
      v.after earlier' w = w' ∧ t'.reply = t.reply ∧ t'.world = t.world ∧
        Event.observations t'.seen = Event.observations t.seen := by
  intro w' t is
  refine ⟨fun n i => v.getElem?_invoked event w', ?_, ?_, v.handle_propagate event w' segment,
    fun hp => ⟨v.handle_logAndContinue event w' segment hp,
      v.errors_logAndContinue event w' segment hp, v.failures_sorted event w'⟩, ?_⟩
  · exact v.handle_world event w' segment
  · exact v.handle_seen event w' segment
  · intro earlier' segment' hevents t'
    have hw : v.after earlier' w = w' := v.after_congr w hevents
    have ht' : t' = v.handle event segment' w' := by rw [← hw]
    rw [ht']
    refine ⟨hw, ?_, ?_, ?_⟩
    · rw [handle_reply, handle_reply]
    · rw [handle_world, handle_world]
    · rw [observations_handle, observations_handle]

end Invoker

end Vigil
