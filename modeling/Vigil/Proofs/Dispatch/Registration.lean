import Vigil.Dispatch.Invoker
import Mathlib.Data.List.Induction
import Mathlib.Data.List.Nodup

/-!
# How handlers are registered

The builder of an invoker is told handlers and policies in any order. Which handlers the invoker has
is up to the registrations alone, and its policy up to the last one that is set.

* `InvokerBuilder.applyAll_eq`: **what calls come to.**
* `applyAll_parts`, `applyAll_singles`: the handlers of a group may as well be registered in parts.
* `Invoker.firstOccurrences_concat`: one name more, and from it what the groups of an invoker are.
* `Invoker.anySupports_iff`: when some handler supports resets.
* `registration_outcome`: the invoker that is built, or that there is none, and that registering in
  parts makes no difference.
-/

namespace Vigil

variable {E R ε ω : Type}

/-- A call on the builder of an invoker. -/
inductive Registration (E R ε ω : Type)
  | eventHandlers (group : String) (hs : List (Handler E R ε ω))
  | eventHandler (group : String) (h : Handler E R ε ω)
  | errorPolicy (policy : ErrorPolicy)

namespace Registration

/-- The handlers that a call contributes, in order and with their group. -/
def contributed : Registration E R ε ω → List (Registered E R ε ω)
  | eventHandlers group hs => hs.map (⟨group, ·⟩)
  | eventHandler group h => [⟨group, h⟩]
  | errorPolicy _ => []

/-- The policy that a call sets, if it does. -/
def policy? : Registration E R ε ω → Option ErrorPolicy
  | errorPolicy policy => some policy
  | _ => none

/-- The handlers that calls contribute, in order. -/
def allContributed (cs : List (Registration E R ε ω)) : List (Registered E R ε ω) :=
  cs.flatMap contributed

/-- The policy that calls set last. -/
def lastPolicy? (cs : List (Registration E R ε ω)) : Option ErrorPolicy :=
  cs.reverse.findSome? policy?

theorem allContributed_cons (c : Registration E R ε ω) (cs : List (Registration E R ε ω)) :
    allContributed (c :: cs) = c.contributed ++ allContributed cs := List.flatMap_cons

theorem allContributed_append (cs cs' : List (Registration E R ε ω)) :
    allContributed (cs ++ cs') = allContributed cs ++ allContributed cs' := List.flatMap_append

theorem lastPolicy?_cons (c : Registration E R ε ω) (cs : List (Registration E R ε ω)) :
    lastPolicy? (c :: cs) = (lastPolicy? cs).or c.policy? := by
  simp [lastPolicy?, List.findSome?_append]

theorem lastPolicy?_eq_none {cs : List (Registration E R ε ω)} (h : ∀ c ∈ cs, c.policy? = none) :
    lastPolicy? cs = none := by
  simpa [lastPolicy?, List.findSome?_eq_none_iff] using h

/-- A call contributes to a group if it names it and is not without handlers. -/
theorem exists_contributed_iff {c : Registration E R ε ω} {group : String} :
    (∃ r ∈ c.contributed, r.group = group) ↔
      (∃ hs, c = eventHandlers group hs ∧ hs ≠ []) ∨ ∃ h, c = eventHandler group h := by
  cases c with
  | eventHandlers g hs =>
    cases hs with
    | nil => simp [contributed]
    | cons h hs => simp [contributed]
  | eventHandler g h => simp [contributed]
  | errorPolicy policy => simp [contributed]

end Registration

open Registration

namespace InvokerBuilder

variable (b : InvokerBuilder E R ε ω)

/-- The builder after a call. -/
def apply : Registration E R ε ω → InvokerBuilder E R ε ω
  | .eventHandlers group hs => b.eventHandlers group hs
  | .eventHandler group h => b.eventHandler group h
  | .errorPolicy policy => b.errorPolicy policy

/-- The builder after these calls. -/
def applyAll (cs : List (Registration E R ε ω)) : InvokerBuilder E R ε ω := cs.foldl apply b

theorem applyAll_append (cs cs' : List (Registration E R ε ω)) :
    b.applyAll (cs ++ cs') = (b.applyAll cs).applyAll cs' := List.foldl_append

/-- **What one call comes to.** -/
theorem apply_eq (c : Registration E R ε ω) :
    b.apply c = ⟨b.handlers ++ c.contributed, c.policy?.getD b.policy⟩ := by
  cases c with
  | eventHandlers group hs | eventHandler group h => rfl
  | errorPolicy policy => simp [apply, errorPolicy, contributed, policy?]

/-- **What calls come to.** -/
theorem applyAll_eq (cs : List (Registration E R ε ω)) :
    b.applyAll cs = ⟨b.handlers ++ allContributed cs, (lastPolicy? cs).getD b.policy⟩ := by
  induction cs generalizing b with
  | nil => simp [applyAll, allContributed, lastPolicy?]
  | cons c cs ih =>
    calc b.applyAll (c :: cs) = (b.apply c).applyAll cs := rfl
      _ = ⟨b.handlers ++ c.contributed ++ allContributed cs,
          (lastPolicy? cs).getD (c.policy?.getD b.policy)⟩ := by rw [ih, apply_eq]
      _ = ⟨b.handlers ++ allContributed (c :: cs), (lastPolicy? (c :: cs)).getD b.policy⟩ := by
        rw [allContributed_cons, lastPolicy?_cons, Option.getD_or, List.append_assoc]

/-- The handlers of a group registered in parts. -/
theorem applyAll_parts (group : String) (parts : List (List (Handler E R ε ω))) :
    b.applyAll (parts.map (.eventHandlers group)) = b.eventHandlers group parts.flatten := by
  have hpolicy : lastPolicy? (parts.map (Registration.eventHandlers group)) = none :=
    lastPolicy?_eq_none (by simp [policy?])
  have hall : allContributed (parts.map (Registration.eventHandlers group)) =
      parts.flatten.map (⟨group, ·⟩) := by
    rw [allContributed, List.flatMap_def, List.map_map, List.map_flatten]
    rfl
  rw [applyAll_eq, hpolicy, hall]
  rfl

/-- The handlers of a group registered one by one. -/
theorem applyAll_singles (group : String) (hs : List (Handler E R ε ω)) :
    b.applyAll (hs.map (.eventHandler group)) = b.eventHandlers group hs := by
  have hpolicy : lastPolicy? (hs.map (Registration.eventHandler group)) = none :=
    lastPolicy?_eq_none (by simp [policy?])
  have hall : allContributed (hs.map (Registration.eventHandler group)) = hs.map (⟨group, ·⟩) := by
    rw [allContributed, List.flatMap_map, List.map_eq_flatMap]
    rfl
  rw [applyAll_eq, hpolicy, hall]
  rfl

/-- Calls between other calls may be replaced by one that comes to the same. -/
theorem applyAll_replace {cs : List (Registration E R ε ω)} {c : Registration E R ε ω}
    (h : ∀ b : InvokerBuilder E R ε ω, b.applyAll cs = b.apply c)
    (before after : List (Registration E R ε ω)) :
    b.applyAll (before ++ cs ++ after) = b.applyAll (before ++ c :: after) := by
  rw [applyAll_append, applyAll_append, h, applyAll_append]
  rfl

/-! ## Building -/

theorem build_eq_none_iff : b.build = none ↔ b.handlers = [] := by
  unfold build
  split
  · rename_i h
    simp [h]
  · rename_i h
    simp [h]

theorem build_eq_some {v : Invoker E R ε ω} {entry : Log.Entry} (h : b.build = some (v, entry)) :
    v.handlers = b.handlers ∧ v.policy = b.policy ∧
      entry = ⟨.info, "Building event handler invoker",
        [v.countField, ("error_policy", v.policy.render)]⟩ := by
  unfold build at h
  split at h
  · cases h
  · cases h
    exact ⟨rfl, rfl, rfl⟩

end InvokerBuilder

namespace Invoker

/-! ## Groups -/

theorem firstOccurrences_concat (names : List String) (name : String) :
    firstOccurrences (names ++ [name]) =
      if name ∈ firstOccurrences names then firstOccurrences names
      else firstOccurrences names ++ [name] := List.foldl_concat ..

theorem mem_firstOccurrences {names : List String} {name : String} :
    name ∈ firstOccurrences names ↔ name ∈ names := by
  induction names using List.reverseRecOn with
  | nil => rfl
  | append_singleton names last ih =>
    rw [firstOccurrences_concat]
    split
    · rename_i hlast
      rw [List.mem_append, List.mem_singleton, ih]
      constructor
      · exact .inl
      · rintro (hname | rfl)
        · exact hname
        · exact ih.1 hlast
    · rw [List.mem_append, List.mem_append, ih]

/-- Names are in the order of the places where they come first. -/
theorem firstOccurrences_sorted (names : List String) :
    (firstOccurrences names).Pairwise (names.idxOf · < names.idxOf ·) := by
  induction names using List.reverseRecOn with
  | nil => exact List.Pairwise.nil
  | append_singleton names last ih =>
    -- a name that is there already keeps its place when one more comes behind
    have hkept {name : String} (h : name ∈ firstOccurrences names) :
        (names ++ [last]).idxOf name = names.idxOf name :=
      List.idxOf_append_of_mem (mem_firstOccurrences.1 h)
    have hsorted : (firstOccurrences names).Pairwise
        ((names ++ [last]).idxOf · < (names ++ [last]).idxOf ·) := by
      refine ih.imp_of_mem ?_
      intro name name' hname hname' hlt
      rwa [hkept hname, hkept hname']
    rw [firstOccurrences_concat]
    split
    · exact hsorted
    · rename_i hnew
      have hlast : names.length ≤ (names ++ [last]).idxOf last := by
        rw [List.idxOf_append_of_notMem (mt mem_firstOccurrences.2 hnew)]
        exact Nat.le_add_right ..
      refine List.pairwise_append.2 ⟨hsorted, List.pairwise_singleton .., ?_⟩
      intro name hname name' hname'
      rw [List.mem_singleton.1 hname', hkept hname]
      exact Nat.lt_of_lt_of_le (List.idxOf_lt_length_iff.2 (mem_firstOccurrences.1 hname)) hlast

/-- The groups are those of the handlers. -/
theorem mem_groups_iff {v : Invoker E R ε ω} {group : String} :
    group ∈ v.groups ↔ ∃ r ∈ v.handlers, r.group = group :=
  mem_firstOccurrences.trans List.mem_map

/-- They are in the order of their first handlers. -/
theorem groups_sorted (v : Invoker E R ε ω) :
    v.groups.Pairwise ((v.handlers.map (·.group)).idxOf · < (v.handlers.map (·.group)).idxOf ·) :=
  firstOccurrences_sorted _

/-- No group is there twice. -/
theorem nodup_groups (v : Invoker E R ε ω) : v.groups.Nodup := by
  refine v.groups_sorted.imp ?_
  rintro group _ hlt rfl
  exact Nat.lt_irrefl _ hlt

/-! ## Support for resets -/

/-- The world once these handlers have been asked whether they support resets, each once and in
order. -/
def askedWorld (rs : List (Registered E R ε ω)) (w : ω) : ω :=
  rs.foldl (fun w r => (r.handler.supportsReset w).world) w

/-- **Some handler supports resets** just when one does in the world that asking those before it
leaves. -/
theorem anySupports_iff (rs : List (Registered E R ε ω)) (w : ω) :
    (anySupports rs w).reply = true ↔ ∃ (n : Nat) (r : Registered E R ε ω), rs[n]? = some r ∧
      (r.handler.supportsReset (askedWorld (rs.take n) w)).reply = true := by
  induction rs generalizing w with
  | nil => simp [anySupports]
  | cons r rs ih =>
    have hreply : (anySupports (r :: rs) w).reply = true ↔
        (r.handler.supportsReset w).reply = true ∨
          (anySupports rs (r.handler.supportsReset w).world).reply = true := by
      rw [anySupports]
      cases hr : (r.handler.supportsReset w).reply <;> simp [hr]
    rw [hreply, ih]
    -- behind a handler that says yes none is asked, but then the answer is yes as well
    constructor
    · rintro (hnow | ⟨n, r', hr', hlater⟩)
      · exact ⟨0, r, rfl, hnow⟩
      · exact ⟨n + 1, r', hr', hlater⟩
    · rintro ⟨n, r', hr', hyes⟩
      cases n with
      | zero =>
        cases hr'
        exact .inl hyes
      | succ n => exact .inr ⟨n, r', hr', hyes⟩

/-- Asking handlers that only answer leaves the world as it is. -/
theorem askedWorld_eq {rs : List (Registered E R ε ω)} {w : ω}
    (h : ∀ r ∈ rs, (r.handler.supportsReset w).world = w) : askedWorld rs w = w := by
  induction rs with
  | nil => rfl
  | cons r rs ih =>
    obtain ⟨hr, hrs⟩ := List.forall_mem_cons.1 h
    unfold askedWorld at ih ⊢
    rw [List.foldl_cons, hr]
    exact ih hrs

/-- Of handlers that only answer, some supports resets. -/
theorem anySupports_iff_of_eq {rs : List (Registered E R ε ω)} {w : ω}
    (h : ∀ r ∈ rs, (r.handler.supportsReset w).world = w) :
    (anySupports rs w).reply = true ↔ ∃ r ∈ rs, (r.handler.supportsReset w).reply = true := by
  have hasked (n : Nat) : askedWorld (rs.take n) w = w :=
    askedWorld_eq fun r hr => h r (List.mem_of_mem_take hr)
  rw [anySupports_iff]
  simp only [hasked]
  constructor
  · rintro ⟨n, r, hr, hyes⟩
    exact ⟨r, List.mem_of_getElem? hr, hyes⟩
  · rintro ⟨r, hr, hyes⟩
    obtain ⟨n, hn⟩ := List.mem_iff_getElem?.1 hr
    exact ⟨n, r, hn, hyes⟩

end Invoker

namespace InvokerBuilder

/-- **Registrations.** For all calls on a new builder:

* there is no invoker just when no call contributes a handler;
* otherwise its handlers are those contributed, in the order of the calls and each with the group it
  was registered for, and its policy is the one set last, wherever it was set, or `propagate`;
* it supports resets just when some handler does, and has each group that some call contributes to
  once, in the order of their first handlers;
* the handlers of a group may be registered in parts or one by one, which gives the same. -/
theorem registration_outcome (cs : List (Registration E R ε ω)) :
    let built := (empty.applyAll cs).build
    (built = none ↔ ∀ c ∈ cs, c.contributed = []) ∧
    (∀ v entry, built = some (v, entry) →
      v.handlers = allContributed cs ∧
      (∀ before c after, cs = before ++ c :: after → ∀ (n : Nat) r, c.contributed[n]? = some r →
        v.handlers[(allContributed before).length + n]? = some r) ∧
      v.policy = (lastPolicy? cs).getD .propagate ∧
      v.handlerCount = (allContributed cs).length ∧
      v.eventHandlers = (allContributed cs).map (·.handler) ∧
      entry = ⟨.info, "Building event handler invoker",
        [v.countField, ("error_policy", v.policy.render)]⟩ ∧
      (∀ w, (v.supportsReset w).reply = true ↔
        ∃ (n : Nat) (r : Registered E R ε ω), v.handlers[n]? = some r ∧
          (r.handler.supportsReset (Invoker.askedWorld (v.handlers.take n) w)).reply = true) ∧
      (∀ w, (∀ r ∈ v.handlers, (r.handler.supportsReset w).world = w) →
        ((v.supportsReset w).reply = true ↔
          ∃ r ∈ v.handlers, (r.handler.supportsReset w).reply = true)) ∧
      v.groups.Nodup ∧
      (∀ group, group ∈ v.groups ↔ ∃ c ∈ cs,
        (∃ hs, c = .eventHandlers group hs ∧ hs ≠ []) ∨ ∃ h, c = .eventHandler group h) ∧
      v.groups.Pairwise
        ((v.handlers.map (·.group)).idxOf · < (v.handlers.map (·.group)).idxOf ·)) ∧
    (∀ before group (parts : List (List (Handler E R ε ω))) after,
      cs = before ++ .eventHandlers group parts.flatten :: after →
      (empty.applyAll (before ++ parts.map (.eventHandlers group) ++ after)).build = built) ∧
    ∀ before group (hs : List (Handler E R ε ω)) after,
      cs = before ++ .eventHandlers group hs :: after →
      (empty.applyAll (before ++ hs.map (.eventHandler group) ++ after)).build = built := by
  intro built
  have hall : (empty : InvokerBuilder E R ε ω).applyAll cs =
      ⟨allContributed cs, (lastPolicy? cs).getD .propagate⟩ := applyAll_eq empty cs
  refine ⟨?none, ?some, ?parts, ?singles⟩
  case none =>
    rw [build_eq_none_iff, hall]
    exact List.flatMap_eq_nil_iff
  case some =>
    intro v entry h
    obtain ⟨hhandlers, hpolicy, hentry⟩ := build_eq_some _ h
    rw [hall] at hhandlers hpolicy
    refine ⟨hhandlers, ?position, hpolicy, congrArg List.length hhandlers,
      congrArg (List.map _) hhandlers, hentry, fun w => Invoker.anySupports_iff _ w,
      fun w => Invoker.anySupports_iff_of_eq, v.nodup_groups, ?group, v.groups_sorted⟩
    case position =>
      rintro before c after rfl n r hr
      have hn : n < c.contributed.length := (List.getElem?_eq_some_iff.1 hr).1
      rw [hhandlers, allContributed_append, allContributed_cons,
        List.getElem?_append_right (Nat.le_add_right ..), Nat.add_sub_cancel_left,
        List.getElem?_append_left hn]
      exact hr
    case group =>
      intro group
      rw [Invoker.mem_groups_iff, hhandlers]
      simp only [← exists_contributed_iff]
      constructor
      · rintro ⟨r, hr, hgroup⟩
        obtain ⟨c, hc, hrc⟩ := List.mem_flatMap.1 hr
        exact ⟨c, hc, r, hrc, hgroup⟩
      · rintro ⟨c, hc, r, hrc, hgroup⟩
        exact ⟨r, List.mem_flatMap.2 ⟨c, hc, hrc⟩, hgroup⟩
  case parts =>
    rintro before group parts after rfl
    exact congrArg build (applyAll_replace empty (applyAll_parts · group parts) before after)
  case singles =>
    rintro before group hs after rfl
    exact congrArg build (applyAll_replace empty (applyAll_singles · group hs) before after)

/-- A handler that takes everything, and supports resets or does not. -/
def compliant (supports : Bool) : Handler Unit Unit Unit Unit where
  handle _ w := ⟨.done, [], w⟩
  prepareReset _ w := ⟨.done, [], w⟩
  supportsReset w := ⟨supports, [], w⟩

/-- Two policies, a group without handlers, and another one registered in two places. -/
def scattered : List (Registration Unit Unit Unit Unit) :=
  [.errorPolicy .logAndContinue, .eventHandlers "audit" [],
    .eventHandlers "totals" [compliant false, compliant false], .errorPolicy .propagate,
    .eventHandler "mail" (compliant false), .eventHandlers "totals" [compliant true]]

/-- Four handlers in two groups, and none of the first two calls. -/
theorem scattered_groups_built :
    (∃ v entry, (empty.applyAll scattered).build = some (v, entry) ∧ v.policy = .propagate ∧
      v.handlerCount = 4 ∧ v.groups = ["totals", "mail"] ∧ "audit" ∉ v.groups ∧
      (v.supportsReset ()).reply = true) ∧
    (empty.applyAll (scattered.take 2)).build = none := by
  obtain ⟨hnone, hsome, -⟩ := registration_outcome scattered
  obtain ⟨hempty, -⟩ := registration_outcome (scattered.take 2)
  refine ⟨?_, hempty.2 (by simp [scattered, contributed])⟩
  have hne : (empty.applyAll scattered).build ≠ none := by
    rw [ne_eq, hnone]
    simp [scattered, contributed]
  obtain ⟨⟨v, entry⟩, h⟩ := Option.ne_none_iff_exists'.1 hne
  obtain ⟨hhandlers, -, hpolicy, hcount, -, -, -, hsupports, -, hgroups, -⟩ := hsome v entry h
  refine ⟨v, entry, h, hpolicy, hcount, ?_, ?_, ?_⟩
  · rw [Invoker.groups, hhandlers]
    decide
  · rw [hgroups]
    simp [scattered]
  · refine (hsupports () fun _ _ => rfl).2 ⟨⟨"totals", compliant true⟩, ?_, rfl⟩
    rw [hhandlers]
    simp [allContributed, scattered, contributed]

end InvokerBuilder

end Vigil
