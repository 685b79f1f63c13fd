import Vigil.Proofs.Dispatch.Delivery

/-!
# How resets are announced

A reset goes the way of an event that no failure stops: to every handler in turn, with its context
in the place of the event.

* `Invoker.broadcast`: the invoker to which reset contexts are events.
* `Invoker.notified`: the calls that a reset makes, as calls of that invoker.
* `announce_eq`: an announcement is these calls.
* `reset_reaches_all`: **who is told, with what result and what log**, for every invoker and after
  any dispatches and resets before; the policy and what handlers say of their support for resets
  have no part in it.
-/

namespace Vigil

variable {E R ε ω : Type}

/-- A call on an invoker through which its handlers may change. -/
inductive Operation (E R : Type)
  | dispatch (event : E) (segment : Segment)
  | reset (payload : Option R)

theorem Reply.error?_eq_some {reply : Reply} {e : HandlerError} :
    reply.error? = some e ↔ reply = .failed e := by
  cases reply <;> simp [Reply.error?]

/-- A handler to which reset contexts are events. -/
def Registered.told (r : Registered E R ε ω) : Registered (Option R) R ε ω where
  group := r.group
  handler := ⟨r.handler.prepareReset, r.handler.prepareReset, r.handler.supportsReset⟩

namespace Invoker

/-- The world after an operation. -/
def perform (v : Invoker E R ε ω) (w : ω) : Operation E R → ω
  | .dispatch event segment => (v.handle event segment w).world
  | .reset payload => (v.performReset payload w).world

/-- The world after these operations, one after the other. -/
def course (v : Invoker E R ε ω) (ops : List (Operation E R)) (w : ω) : ω := ops.foldl v.perform w

theorem course_concat (v : Invoker E R ε ω) (ops : List (Operation E R)) (op : Operation E R)
    (w : ω) : v.course (ops ++ [op]) w = v.perform (v.course ops w) op := List.foldl_append

/-- The invoker to which reset contexts are events that no failure stops. -/
def broadcast (v : Invoker E R ε ω) : Invoker (Option R) R ε ω where
  handlers := v.handlers.map Registered.told
  policy := .logAndContinue
  handlers_ne_nil := by simpa using v.handlers_ne_nil

/-- **The calls that a reset makes** in a world `w`. -/
def notified (v : Invoker E R ε ω) (payload : Option R) (w : ω) :
    List (Invocation (Option R) ε ω) := v.broadcast.invoked payload w

/-- The world once these handlers have been told of a reset, each once and in order. -/
def toldWorld (payload : Option R) (rs : List (Registered E R ε ω)) (w : ω) : ω :=
  rs.foldl (fun w r => (r.handler.prepareReset payload w).world) w

theorem worldAfter_told (payload : Option R) (rs : List (Registered E R ε ω)) (w : ω) :
    worldAfter payload (rs.map Registered.told) w = toldWorld payload rs w := by
  unfold worldAfter toldWorld
  rw [List.foldl_map]
  rfl

theorem rollFrom_told_cons (payload : Option R) (position : Nat) (r : Registered E R ε ω)
    (rs : List (Registered E R ε ω)) (w : ω) :
    rollFrom payload position ((r :: rs).map Registered.told) w =
      ⟨position, r.group, payload, r.handler.prepareReset payload w⟩ ::
        rollFrom payload (position + 1) (rs.map Registered.told)
          (r.handler.prepareReset payload w).world :=
  rollFrom_cons payload position r.told _ w

/-- What an announcement comes to: the failures of its calls, or nothing if one crashed. -/
def tally (is : List (Invocation (Option R) ε ω)) : Option (List HandlerFailure) :=
  if ∃ i ∈ is, i.turn.reply = .crashed then none else some (is.filterMap (·.failure?))

theorem tally_cons {i : Invocation (Option R) ε ω} (h : i.turn.reply ≠ .crashed)
    (is : List (Invocation (Option R) ε ω)) :
    tally (i :: is) = (tally is).map (i.failure?.toList ++ ·) := by
  unfold tally
  by_cases hcrash : ∃ j ∈ is, j.turn.reply = .crashed
  · simp [hcrash]
  · cases hf : i.failure? <;> simp [h, hcrash, hf]

/-- **An announcement is its calls.** -/
theorem announce_eq (payload : Option R) (position : Nat) (rs : List (Registered E R ε ω)) (w : ω) :
    announce payload position rs w =
      let is := upToEnd .logAndContinue (rollFrom payload position (rs.map Registered.told) w)
      ⟨tally is, is.flatMap (·.turn.seen), toldWorld payload (rs.take is.length) w⟩ := by
  induction rs generalizing position w with
  | nil => rfl
  | cons r rs ih =>
    rw [rollFrom_told_cons]
    unfold announce upToEnd
    simp only
    cases hr : (r.handler.prepareReset payload w).reply with
    -- a crash takes the failures before it along, so the tally is nothing, not empty
    | crashed => simp [ErrorPolicy.endsAt, tally, hr, toldWorld]
    | done =>
      have hgo : ErrorPolicy.logAndContinue.endsAt .done = false := rfl
      simp only [hgo, Bool.false_eq_true, if_false]
      rw [ih, tally_cons (by simp [hr])]
      simp [Invocation.failure?, hr, Reply.error?, toldWorld]
    | failed e =>
      have hgo : ErrorPolicy.logAndContinue.endsAt (.failed e) = false := rfl
      simp only [hgo, Bool.false_eq_true, if_false]
      rw [ih, tally_cons (by simp [hr])]
      simp [Invocation.failure?, hr, Reply.error?, toldWorld]

/-! ## Which calls are made -/

variable (v : Invoker E R ε ω) (payload : Option R) (w : ω)

theorem getElem?_notified {n : Nat} {i : Invocation (Option R) ε ω}
    (h : (v.notified payload w)[n]? = some i) :
    ∃ r, v.handlers[n]? = some r ∧ i = ⟨n, r.group, payload,
      r.handler.prepareReset payload (toldWorld payload (v.handlers.take n) w)⟩ := by
  obtain ⟨t, ht, hi⟩ := v.broadcast.getElem?_invoked payload w h
  have hmap : (v.handlers.map Registered.told)[n]? = some t := ht
  rw [List.getElem?_map] at hmap
  obtain ⟨r, hr, rfl⟩ := Option.map_eq_some_iff.1 hmap
  refine ⟨r, hr, ?_⟩
  rw [hi, ← worldAfter_told, List.map_take]
  rfl

/-- Only a crash ends an announcement. -/
theorem endsAt_logAndContinue {reply : Reply} :
    ErrorPolicy.logAndContinue.endsAt reply = true ↔ reply = .crashed := by
  cases reply <;> simp [ErrorPolicy.endsAt]

/-- Without a crash every handler is told. -/
theorem length_notified (h : ∀ i ∈ v.notified payload w, i.turn.reply ≠ .crashed) :
    (v.notified payload w).length = v.handlerCount := by
  obtain ⟨k, i, hlen, hi, -, hend, -⟩ := v.broadcast.invoked_cases payload w
  have hgo := h i (List.mem_of_getElem? hi)
  have hall : v.broadcast.handlers.length = k + 1 :=
    hend.resolve_left fun hcrash => hgo (endsAt_logAndContinue.1 hcrash)
  calc (v.notified payload w).length = v.broadcast.handlers.length := hlen.trans hall.symm
    _ = v.handlerCount := List.length_map _

/-- A handler that crashes is the last to be told. -/
theorem length_notified_of_crash {k : Nat} {i : Invocation (Option R) ε ω}
    (hi : (v.notified payload w)[k]? = some i) (hcrash : i.turn.reply = .crashed) :
    (v.notified payload w).length = k + 1 := by
  obtain ⟨last, j, hlen, -, hbefore, -⟩ := v.broadcast.invoked_cases payload w
  have hk : k < last + 1 := hlen ▸ (List.getElem?_eq_some_iff.1 hi).1
  have hlast : ¬ k < last := by
    intro hlt
    have hmem : i ∈ (v.broadcast.invoked payload w).take last :=
      List.mem_of_getElem? ((List.getElem?_take_of_lt hlt).trans hi)
    have hgo := hbefore i hmem
    have hend := endsAt_logAndContinue.2 hcrash
    exact Bool.false_ne_true (hgo.symm.trans hend)
  have hkeq : k = last := by omega
  rw [hkeq]
  exact hlen

/-! ## What is reported -/

/-- The failures of an announcement without a crash are those of the positions that failed. -/
theorem mem_failures_notified (h : ∀ i ∈ v.notified payload w, i.turn.reply ≠ .crashed)
    (f : HandlerFailure) :
    f ∈ (v.notified payload w).filterMap (·.failure?) ↔
      ∃ r, v.handlers[f.position]? = some r ∧ f.group = r.group ∧
        (r.handler.prepareReset payload
          (toldWorld payload (v.handlers.take f.position) w)).reply = .failed f.source := by
  rw [List.mem_filterMap]
  constructor
  · rintro ⟨i, hi, hf⟩
    obtain ⟨n, hn⟩ := List.mem_iff_getElem?.1 hi
    obtain ⟨r, hr, rfl⟩ := v.getElem?_notified payload w hn
    obtain ⟨e, he, rfl⟩ := Option.map_eq_some_iff.1 hf
    exact ⟨r, hr, rfl, Reply.error?_eq_some.1 he⟩
  · rintro ⟨r, hr, hgroup, hfail⟩
    have hn : f.position < (v.notified payload w).length := by
      rw [v.length_notified payload w h]
      exact (List.getElem?_eq_some_iff.1 hr).1
    have hi := List.getElem?_eq_getElem hn
    obtain ⟨r', hr', heq⟩ := v.getElem?_notified payload w hi
    cases hr.symm.trans hr'
    refine ⟨_, List.getElem_mem hn, ?_⟩
    rw [heq]
    simp only [Invocation.failure?, hfail, Reply.error?, Option.map_some, ← hgroup]

/-- The failures of a reset are in the order of their positions. -/
theorem failures_notified_sorted :
    ((v.notified payload w).filterMap (·.failure?)).Pairwise (·.position < ·.position) :=
  v.broadcast.failures_sorted payload w

/-! ## Resets -/

/-- The entry with which a reset begins. -/
def startEntry : Log.Entry :=
  ⟨.debug, "Performing reset",
    [v.countField, ("with_payload", if payload.isSome then "true" else "false")]⟩

/-- What is seen of a reset before its failures are reported. -/
def announced : List (Event ε) :=
  .log (v.startEntry payload) :: ((v.notified payload w).flatMap (·.turn.seen)).map .seen

/-- How a reset ends that comes to these failures, or to a crash. -/
def outcome : Option (List HandlerFailure) → Reset
  | none => .crashed
  | some [] => .done
  | some failures => .failed ⟨v.handlerCount, failures⟩

theorem outcome_eq_done_iff {failures : List HandlerFailure} :
    v.outcome (some failures) = .done ↔ failures = [] := by
  cases failures <;> simp [outcome]

theorem outcome_of_ne_nil {failures : List HandlerFailure} (h : failures ≠ []) :
    v.outcome (some failures) = .failed ⟨v.handlerCount, failures⟩ := by
  cases failures with
  | nil => exact absurd rfl h
  | cons f fs => rfl

/-- **A reset is its calls**, and then the report of their failures. -/
theorem performReset_eq : v.performReset payload w =
    ⟨v.outcome (tally (v.notified payload w)),
      v.announced payload w ++
        ((tally (v.notified payload w)).getD []).map fun f => .log (resetEntry f),
      toldWorld payload (v.handlers.take (v.notified payload w).length) w⟩ := by
  unfold performReset
  rw [announce_eq]
  have hnotified : upToEnd .logAndContinue (rollFrom payload 0 (v.handlers.map Registered.told) w) =
      v.notified payload w := rfl
  simp only [hnotified]
  cases tally (v.notified payload w) with
  | none => simp [announced, startEntry, outcome]
  | some failures => cases failures <;> simp [announced, startEntry, outcome]

/-- A reset in which a handler crashes. -/
theorem performReset_of_crash (h : ∃ i ∈ v.notified payload w, i.turn.reply = .crashed) :
    (v.performReset payload w).reply = .crashed ∧
      (v.performReset payload w).seen = v.announced payload w := by
  have htally : tally (v.notified payload w) = none := if_pos h
  rw [performReset_eq, htally]
  exact ⟨rfl, List.append_nil _⟩

/-- A reset in which no handler crashes. -/
theorem performReset_of_calm (h : ∀ i ∈ v.notified payload w, i.turn.reply ≠ .crashed) :
    (v.performReset payload w).reply =
        v.outcome (some ((v.notified payload w).filterMap (·.failure?))) ∧
      (v.performReset payload w).seen = v.announced payload w ++
        ((v.notified payload w).filterMap (·.failure?)).map fun f => .log (resetEntry f) := by
  have htally : tally (v.notified payload w) =
      some ((v.notified payload w).filterMap (·.failure?)) :=
    if_neg fun ⟨i, hi, hcrash⟩ => h i hi hcrash
  rw [performReset_eq, htally]
  exact ⟨rfl, rfl⟩

/-- Of calls without a crash, none failed just when all are done. -/
theorem failures_eq_nil_iff {is : List (Invocation (Option R) ε ω)}
    (h : ∀ i ∈ is, i.turn.reply ≠ .crashed) :
    is.filterMap (·.failure?) = [] ↔ ∀ i ∈ is, i.turn.reply = .done := by
  rw [List.filterMap_eq_nil_iff]
  refine forall_congr' fun i => forall_congr' fun hi => ?_
  have hcalm := h i hi
  cases hr : i.turn.reply with
  | crashed => exact absurd hr hcalm
  | done | failed => simp [Invocation.failure?, hr, Reply.error?]

/-- A reset is about how handlers prepare for it, and about nothing else of them. -/
theorem announce_congr {rs rs' : List (Registered E R ε ω)} (position : Nat)
    (h : rs'.map (fun r => (r.group, r.handler.prepareReset)) =
      rs.map fun r => (r.group, r.handler.prepareReset)) :
    announce payload position rs' w = announce payload position rs w := by
  induction rs generalizing rs' position w with
  | nil =>
    rw [List.map_nil, List.map_eq_nil_iff] at h
    rw [h]
  | cons r rs ih =>
    cases rs' with
    | nil => simp at h
    | cons r' rs' =>
      simp only [List.map_cons, List.cons.injEq, Prod.mk.injEq] at h
      obtain ⟨⟨hgroup, hprepare⟩, hrest⟩ := h
      unfold announce
      simp only [hgroup, hprepare, ih _ _ hrest]

theorem performReset_congr {v' : Invoker E R ε ω}
    (h : v'.handlers.map (fun r => (r.group, r.handler.prepareReset)) =
      v.handlers.map fun r => (r.group, r.handler.prepareReset)) :
    v'.performReset payload w = v.performReset payload w := by
  have hcount : v'.handlerCount = v.handlerCount := by
    unfold handlerCount
    simpa only [List.length_map] using congrArg List.length h
  unfold performReset countField
  rw [announce_congr payload w 0 h, hcount]

/-- **Broadcast.** For every invoker, after any dispatches and resets before, a reset
* tells handlers in the order of their positions from 0 on, each once, with the context as it is
  (or without one) and in the world that the calls before left; the world after it is the one that
  these calls leave;
* depends on how the handlers prepare for it and on nothing else: not on the policy, and not on
  whether they support resets;
* unless a handler crashes, tells all of them whatever fails, and succeeds just when none failed;
  otherwise its error counts all handlers as attempted and holds the failures of just the positions
  that failed, in ascending order, each with its group and its own error;
* warns of each failure, in the same order, after everything that the handlers let be seen.

A handler that crashes is the last to be told; the reset crashes as well, and reports nothing. -/
theorem reset_reaches_all (earlier : List (Operation E R)) :
    let w' := v.course earlier w
    let t := v.performReset payload w'
    let is := v.notified payload w'
    let failures := is.filterMap (·.failure?)
    (∀ (n : Nat) (i : Invocation (Option R) ε ω), is[n]? = some i → ∃ r, v.handlers[n]? = some r ∧
      i = ⟨n, r.group, payload,
        r.handler.prepareReset payload (toldWorld payload (v.handlers.take n) w')⟩) ∧
    t.world = toldWorld payload (v.handlers.take is.length) w' ∧
    (∀ v' : Invoker E R ε ω,
      v'.handlers.map (fun r => (r.group, r.handler.prepareReset)) =
        v.handlers.map (fun r => (r.group, r.handler.prepareReset)) →
      v'.performReset payload w' = t) ∧
    ((∀ i ∈ is, i.turn.reply ≠ .crashed) →
      is.length = v.handlerCount ∧
      (t.reply = .done ↔ ∀ i ∈ is, i.turn.reply = .done) ∧
      ((∃ i ∈ is, i.turn.reply ≠ .done) →
        t.reply = .failed ⟨v.handlerCount, failures⟩ ∧
        1 ≤ failures.length ∧ failures.length ≤ v.handlerCount) ∧
      (∀ f, f ∈ failures ↔ ∃ r, v.handlers[f.position]? = some r ∧ f.group = r.group ∧
        (r.handler.prepareReset payload
          (toldWorld payload (v.handlers.take f.position) w')).reply = .failed f.source) ∧
      failures.Pairwise (·.position < ·.position) ∧
      t.seen = v.announced payload w' ++ failures.map fun f => .log (resetEntry f)) ∧
    ∀ k i, is[k]? = some i → i.turn.reply = .crashed →
      is.length = k + 1 ∧ t.reply = .crashed ∧ t.seen = v.announced payload w' := by
  intro w' t is failures
  refine ⟨fun n i => v.getElem?_notified payload w', ?_, fun v' => v.performReset_congr payload w',
    ?_, ?_⟩
  · exact congrArg Turn.world (v.performReset_eq payload w')
  · intro hcalm
    have hlength : is.length = v.handlerCount := v.length_notified payload w' hcalm
    have hnil : failures = [] ↔ ∀ i ∈ is, i.turn.reply = .done := failures_eq_nil_iff hcalm
    obtain ⟨hreply, hseen⟩ := v.performReset_of_calm payload w' hcalm
    refine ⟨hlength, ?_, ?_, v.mem_failures_notified payload w' hcalm,
      v.failures_notified_sorted payload w', hseen⟩
    · rw [← hnil]
      show (v.performReset payload w').reply = .done ↔ failures = []
      rw [hreply]
      exact v.outcome_eq_done_iff
    · rintro ⟨i, hi, hfail⟩
      have hne : failures ≠ [] := fun h => hfail (hnil.1 h i hi)
      refine ⟨hreply.trans (v.outcome_of_ne_nil hne), List.length_pos_iff.2 hne, ?_⟩
      rw [← hlength]
      exact List.length_filterMap_le _ _
  · intro k i hi hcrash
    have hsome := v.performReset_of_crash payload w' ⟨i, List.mem_of_getElem? hi, hcrash⟩
    exact ⟨v.length_notified_of_crash payload w' hi hcrash, hsome⟩

end Invoker

end Vigil
