import Vigil.Dispatch.Failure
import Vigil.Dispatch.Segment

/-!
# The event handler invoker

An invoker delivers events to a fixed sequence of handlers, one after the other in the order of
registration.

* `Invoker.handle`: every handler in turn; under the policy `propagate` the first failure ends
  the sequence, under `logAndContinue` failures are only logged.
* `Invoker.performReset`: every handler in turn whatever fails, then all failures together.
* `InvokerBuilder.build`: the invoker of what was registered, unless that is nothing.
-/

namespace Vigil

/-- What a dispatch does when a handler fails. -/
inductive ErrorPolicy
  | propagate
  | logAndContinue
  deriving DecidableEq

/-- The text of a policy. -/
def ErrorPolicy.render : ErrorPolicy → String
  | propagate => "Propagate"
  | logAndContinue => "LogAndContinue"

/-- A handler with the processing group it was registered under. -/
structure Registered (E R ε ω : Type) where
  group : String
  handler : Handler E R ε ω

/-- Handlers in dispatch order, at least one. -/
structure Invoker (E R ε ω : Type) where
  handlers : List (Registered E R ε ω)
  policy : ErrorPolicy
  handlers_ne_nil : handlers ≠ []

/-- How a dispatch ends. -/
inductive Dispatched
  | done
  | failed (f : HandlerFailure)
  | crashed
  deriving DecidableEq

/-- How a reset ends. -/
inductive Reset
  | done
  | failed (e : ResetError)
  | crashed
  deriving DecidableEq

namespace Invoker

variable {E R ε ω : Type}

/-- The number of handlers. -/
def handlerCount (v : Invoker E R ε ω) : Nat := v.handlers.length

/-- The field of log entries that counts the handlers. -/
def countField (v : Invoker E R ε ω) : String × String :=
  ("handlers", Text.Decimal.natural v.handlerCount)

/-- The entry for a failure that ends a dispatch. -/
def abortEntry (segment : Segment) (f : HandlerFailure) : Log.Entry :=
  ⟨.debug, "Aborting dispatch after handler failure",
    [("segment", segment.render), ("error", f.message)]⟩

/-- The entry for a failure that a dispatch goes on after. -/
def continueEntry (segment : Segment) (f : HandlerFailure) : Log.Entry :=
  ⟨.error, "Event handler failed; continuing with next handler",
    [("segment", segment.render), ("error", f.message)]⟩

/-- The entry for a failure to prepare for a reset. -/
def resetEntry (f : HandlerFailure) : Log.Entry :=
  ⟨.warn, "Handler failed to prepare for reset", [("error", f.message)]⟩

/-- An event delivered to the handlers from `position` on. -/
def deliver (policy : ErrorPolicy) (segment : Segment) (event : E) :
    Nat → List (Registered E R ε ω) → ω → Turn Dispatched (Event ε) ω
  | _, [], w => ⟨.done, [], w⟩
  | position, r :: rest, w =>
    let turn := r.handler.handle event w
    let seen := turn.seen.map Event.seen
    match turn.reply with
    | .crashed => ⟨.crashed, seen, turn.world⟩
    | .done =>
      let after := deliver policy segment event (position + 1) rest turn.world
      ⟨after.reply, seen ++ after.seen, after.world⟩
    | .failed e =>
      let failure : HandlerFailure := ⟨r.group, position, e⟩
      match policy with
      | .propagate =>
        ⟨.failed failure, seen ++ [.log (abortEntry segment failure)], turn.world⟩
      | .logAndContinue =>
        let after := deliver policy segment event (position + 1) rest turn.world
        ⟨after.reply, seen ++ .log (continueEntry segment failure) :: after.seen, after.world⟩

/-- **One event** delivered to the handlers. The segment changes nothing but the log. -/
def handle (v : Invoker E R ε ω) (event : E) (segment : Segment) (w : ω) :
    Turn Dispatched (Event ε) ω :=
  let turn := deliver v.policy segment event 0 v.handlers w
  { turn with
    seen := .log ⟨.trace, "Dispatching event", [("segment", segment.render), v.countField]⟩ ::
      turn.seen }

/-- A reset announced to the handlers from `position` on: their failures, or nothing if one of
them crashed. -/
def announce (payload : Option R) :
    Nat → List (Registered E R ε ω) → ω → Turn (Option (List HandlerFailure)) ε ω
  | _, [], w => ⟨some [], [], w⟩
  | position, r :: rest, w =>
    let turn := r.handler.prepareReset payload w
    match turn.reply with
    | .crashed => ⟨none, turn.seen, turn.world⟩
    | .done =>
      let after := announce payload (position + 1) rest turn.world
      ⟨after.reply, turn.seen ++ after.seen, after.world⟩
    | .failed e =>
      let after := announce payload (position + 1) rest turn.world
      ⟨after.reply.map (⟨r.group, position, e⟩ :: ·), turn.seen ++ after.seen, after.world⟩

/-- **One reset** announced to every handler, and the failures reported together. -/
def performReset (v : Invoker E R ε ω) (payload : Option R) (w : ω) :
    Turn Reset (Event ε) ω :=
  let entry : Log.Entry :=
    ⟨.debug, "Performing reset",
      [v.countField, ("with_payload", if payload.isSome then "true" else "false")]⟩
  let turn := announce payload 0 v.handlers w
  let seen := Event.log entry :: turn.seen.map Event.seen
  match turn.reply with
  | none => ⟨.crashed, seen, turn.world⟩
  | some [] => ⟨.done, seen, turn.world⟩
  | some failures =>
    ⟨.failed ⟨v.handlerCount, failures⟩, seen ++ failures.map fun f => .log (resetEntry f),
      turn.world⟩

/-- Whether one of the handlers supports resets; none is asked after the first that does. -/
def anySupports : List (Registered E R ε ω) → ω → Turn Bool ε ω
  | [], w => ⟨false, [], w⟩
  | r :: rest, w =>
    let turn := r.handler.supportsReset w
    if turn.reply then turn
    else
      let after := anySupports rest turn.world
      ⟨after.reply, turn.seen ++ after.seen, after.world⟩

/-- Whether any handler can take part in a reset. -/
def supportsReset (v : Invoker E R ε ω) (w : ω) : Turn Bool ε ω := anySupports v.handlers w

/-- The handlers in dispatch order. -/
def eventHandlers (v : Invoker E R ε ω) : List (Handler E R ε ω) := v.handlers.map (·.handler)

/-- The groups with each name once, where it comes first. -/
def firstOccurrences (names : List String) : List String :=
  names.foldl (fun seen name => if name ∈ seen then seen else seen ++ [name]) []

/-- The processing groups in the order of their first handler. -/
def groups (v : Invoker E R ε ω) : List String := firstOccurrences (v.handlers.map (·.group))

end Invoker

/-- What has been registered so far. -/
structure InvokerBuilder (E R ε ω : Type) where
  handlers : List (Registered E R ε ω) := []
  policy : ErrorPolicy := .propagate

/-- What is said of an attempt to build an invoker without handlers. -/
def noEventHandlersMessage : String := "At least one event handler must be registered"

namespace InvokerBuilder

variable {E R ε ω : Type}

/-- Nothing registered yet. -/
def empty : InvokerBuilder E R ε ω := {}

/-- Handlers registered for a group, in delivery order. -/
def eventHandlers (b : InvokerBuilder E R ε ω) (group : String) (hs : List (Handler E R ε ω)) :
    InvokerBuilder E R ε ω :=
  { b with handlers := b.handlers ++ hs.map (⟨group, ·⟩) }

/-- One handler registered for a group. -/
def eventHandler (b : InvokerBuilder E R ε ω) (group : String) (h : Handler E R ε ω) :
    InvokerBuilder E R ε ω :=
  { b with handlers := b.handlers ++ [⟨group, h⟩] }

/-- The policy for failures set. -/
def errorPolicy (b : InvokerBuilder E R ε ω) (policy : ErrorPolicy) : InvokerBuilder E R ε ω :=
  { b with policy := policy }

/-- The invoker of what was registered with the entry that its building logs; nothing if no
handler was registered. -/
def build (b : InvokerBuilder E R ε ω) : Option (Invoker E R ε ω × Log.Entry) :=
  if h : b.handlers = [] then none
  else
    let v : Invoker E R ε ω := ⟨b.handlers, b.policy, h⟩
    some (v, ⟨.info, "Building event handler invoker",
      [v.countField, ("error_policy", b.policy.render)]⟩)

end InvokerBuilder

end Vigil
