import Vigil.Dispatch.Invoker
import Vigil.Text.Quoted

/-!
# Accounts

Deposits and withdrawals as events for two handlers: running totals per account that can be
rebuilt from scratch, and an audit trail that wants a reason for every reset.

* `Accounts.balances`: keeps the totals; an amount that leaves the 64-bit range crashes it and
  locks the totals for good.
* `Accounts.audit`: prints what it sees.
* `Accounts.replay`: a history, a reset without a reason, one with a reason, and the history again.
-/

namespace Vigil.Accounts

/-- What happens to an account. -/
inductive Transaction
  | deposited (account : String) (amount : Int)
  | withdrawn (account : String) (amount : Int)
  deriving DecidableEq

namespace Transaction

/-- The account of a transaction. -/
def account : Transaction → String
  | deposited a _ => a
  | withdrawn a _ => a

/-- What a transaction adds to the total of its account. -/
def change : Transaction → Int
  | deposited _ n => n
  | withdrawn _ n => -n

/-- The text of a transaction. -/
def render (t : Transaction) : String :=
  let shape (name account : String) (amount : Int) : String :=
    name ++ " \x7b account: " ++ Text.Quoted.display account ++ ", amount: " ++
      Text.Decimal.integer amount ++ " \x7d"
  match t with
  | deposited a n => shape "Deposited" a n
  | withdrawn a n => shape "Withdrawn" a n

end Transaction

/-- The totals by account. Once an update has crashed they are locked. -/
structure Totals where
  entries : List (String × Int)
  locked : Bool
  deriving DecidableEq

namespace Totals

/-- No account yet. -/
def empty : Totals := ⟨[], false⟩

/-- The total of an account; one not seen yet has nothing. -/
def of (t : Totals) (account : String) : Int := (t.entries.lookup account).getD 0

/-- The entries with an account's total set, a new account at the end. -/
def setEntry (account : String) (total : Int) : List (String × Int) → List (String × Int)
  | [] => [(account, total)]
  | (a, n) :: rest =>
    if a = account then (a, total) :: rest else (a, n) :: setEntry account total rest

/-- The total of an account set. -/
def set (t : Totals) (account : String) (total : Int) : Totals :=
  { t with entries := setEntry account total t.entries }

/-- The entries in the order of their accounts. -/
def sorted (t : Totals) : List (String × Int) := t.entries.mergeSort fun a b => a.1 ≤ b.1

/-- The text of the totals. -/
def render (t : Totals) : String :=
  "\x7b" ++ ", ".intercalate (t.sorted.map fun e =>
    Text.Quoted.display e.1 ++ ": " ++ Text.Decimal.integer e.2) ++ "\x7d"

end Totals

/-- A total that a signed 64-bit word holds. -/
def inRange (n : Int) : Bool := -9223372036854775808 ≤ n && n < 9223372036854775808

/-- The error of a handler whose totals are locked. -/
def lockedError : HandlerError := ⟨"poisoned lock: another task failed inside", []⟩

/-- The text of a reset context. -/
def renderReason : Option String → String
  | none => "None"
  | some reason => "Some(" ++ Text.Quoted.display reason ++ ")"

/-- The handlers of accounts: what they let be seen are printed lines, their world the totals. -/
abbrev AccountHandler := Handler Transaction String String Totals

/-- The running totals. -/
def balances : AccountHandler where
  handle event t :=
    if t.locked then ⟨.failed lockedError, [], t⟩
    else
      let total := t.of event.account + event.change
      if inRange total then ⟨.done, [], t.set event.account total⟩
      else ⟨.crashed, [], { t.set event.account (t.of event.account) with locked := true }⟩
  prepareReset reason t :=
    let line := "balances: reset requested (" ++ renderReason reason ++ ")"
    if t.locked then ⟨.failed lockedError, [line], t⟩ else ⟨.done, [line], { t with entries := [] }⟩
  supportsReset := Handler.supportsByDefault

/-- The audit trail. -/
def audit : AccountHandler where
  handle event t := ⟨.done, ["audit: " ++ event.render], t⟩
  prepareReset reason t :=
    match reason with
    | some reason => ⟨.done, ["audit: replay because " ++ reason], t⟩
    | none => ⟨.failed ⟨"audit log needs a reason to replay", []⟩, [], t⟩
  supportsReset := Handler.supportsByDefault

/-- The group of the totals. -/
def projections : String := "projections"

/-- The group of the audit trail. -/
def auditing : String := "audit"

/-- The invoker of the demo: the totals, then the audit trail. -/
def builder : InvokerBuilder Transaction String String Totals :=
  ((InvokerBuilder.empty.eventHandler projections balances).eventHandler auditing audit).errorPolicy
    .propagate

/-- The transactions that the demo replays. -/
def history : List Transaction :=
  [.deposited "alice" 100, .withdrawn "alice" 30, .deposited "bob" 5]

/-- A history delivered; the first failure ends it. -/
def deliverAll (v : Invoker Transaction String String Totals) :
    List Transaction → Totals → Turn Bool (Event String) Totals
  | [], t => ⟨true, [], t⟩
  | event :: rest, t =>
    let turn := v.handle event .root t
    match turn.reply with
    | .done =>
      let after := deliverAll v rest turn.world
      ⟨after.reply, turn.seen ++ after.seen, after.world⟩
    | _ => ⟨false, turn.seen, turn.world⟩

/-- The replay with an invoker, and whether it came to its end. -/
def replayWith (v : Invoker Transaction String String Totals) : Bool × List (Event String) :=
  let first := deliverAll v history .empty
  if !first.reply then (false, first.seen)
  else
    let shown := Event.seen ("balances: " ++ first.world.render)
    let refused := v.performReset none first.world
    let report := match refused.reply with
      | .failed e => [Event.seen ("reset reported: " ++ e.message)]
      | _ => []
    let accepted := v.performReset (some "schema change") refused.world
    let events := first.seen ++ shown :: refused.seen ++ report ++ accepted.seen
    match accepted.reply with
    | .done =>
      let again := deliverAll v history accepted.world
      let events := events ++ again.seen
      if again.reply then
        (true, events ++ [.seen ("balances after replay: " ++ again.world.render)])
      else (false, events)
    | _ => (false, events)

/-- **The demo**: its printed lines and log entries in order, and whether it came to its end. -/
def replay : Bool × List (Event String) :=
  match builder.build with
  | none => (false, [])
  | some (v, entry) =>
    let (ended, events) := replayWith v
    (ended, .log entry :: events)

end Vigil.Accounts
