import Vigil.Config.Value
import Vigil.Demo.Accounts
import Vigil.Proofs.Dispatch.Broadcast
import Mathlib.Algebra.BigOperators.Group.List.Basic
import Mathlib.Algebra.Ring.Int.Defs
import Mathlib.Data.List.Induction

/-!
# Totals and their transactions

The totals of the demo are a fold of the transactions since the last reset, as long as none of them
leaves the 64-bit range.

* `net`: what transactions add up to on an account.
* `Fits`: no running total of a run leaves the range.
* `Books`: totals that hold just the accounts of some transactions, each with its net amount.
* `course_eq_post`: **a run leads to the totals of the transactions since its last reset**, entered
  one by one.
* `totals_follow_transactions`: what every call of a run answers, what the totals are after it, and
  that a replay, in whatever order, gives them again.
-/

namespace Vigil.Accounts

/-- What transactions put into an account. -/
def deposits (account : String) (ts : List Transaction) : Int :=
  (ts.map fun
    | .deposited a n => if a = account then n else 0
    | .withdrawn _ _ => 0).sum

/-- What transactions take out of an account. -/
def withdrawals (account : String) (ts : List Transaction) : Int :=
  (ts.map fun
    | .deposited _ _ => 0
    | .withdrawn a n => if a = account then n else 0).sum

/-- What transactions add up to on an account. -/
def net (account : String) (ts : List Transaction) : Int :=
  deposits account ts - withdrawals account ts

variable {account : String} {ts ts' : List Transaction} {t t' : Totals}

theorem net_append (account : String) (ts ts' : List Transaction) :
    net account (ts ++ ts') = net account ts + net account ts' := by
  simp only [net, deposits, withdrawals, List.map_append, List.sum_append]
  omega

theorem net_singleton (account : String) (x : Transaction) :
    net account [x] = if x.account = account then x.change else 0 := by
  cases x with
  | deposited a n | withdrawn a n =>
    by_cases ha : a = account <;>
      simp [net, deposits, withdrawals, Transaction.account, Transaction.change, ha]

theorem net_concat (account : String) (ts : List Transaction) (x : Transaction) :
    net account (ts ++ [x]) = net account ts + if x.account = account then x.change else 0 := by
  rw [net_append, net_singleton]

theorem net_perm (h : ts.Perm ts') (account : String) : net account ts = net account ts' := by
  unfold net deposits withdrawals
  rw [(h.map _).sum_eq, (h.map _).sum_eq]

theorem net_of_not_mem (h : account ∉ ts.map (·.account)) : net account ts = 0 := by
  induction ts using List.reverseRecOn with
  | nil => rfl
  | append_singleton ts x ih =>
    simp only [List.map_append, List.map_cons, List.map_nil, List.mem_append, List.mem_singleton,
      not_or] at h
    rw [net_concat, ih h.1, if_neg (Ne.symm h.2)]
    rfl

/-! ## Books -/

theorem setEntry_eq_upsert (account : String) (n : Int) (es : List (String × Int)) :
    Totals.setEntry account n es = Config.upsert account (fun _ => n) es := by
  induction es with
  | nil => rfl
  | cons e es ih =>
    unfold Totals.setEntry Config.upsert
    rw [ih]

/-- An entry is in a list of entries with distinct keys just when it is found there. -/
theorem mem_iff_lookup {es : List (String × Int)} (h : (es.map (·.1)).Nodup) {n : Int} :
    (account, n) ∈ es ↔ es.lookup account = some n := by
  induction es with
  | nil => simp
  | cons e es ih =>
    obtain ⟨a, m⟩ := e
    rw [List.map_cons, List.nodup_cons] at h
    rw [List.mem_cons, List.lookup_cons, ih h.2]
    by_cases ha : account = a
    · subst ha
      have hnone : es.lookup account ≠ some n := fun hn =>
        h.1 (List.mem_map.2 ⟨_, (ih h.2).2 hn, rfl⟩)
      simp [hnone, eq_comm]
    · simp [ha, beq_eq_false_iff_ne.2 ha]

/-- Totals that hold just the accounts of these transactions, each with its net amount. -/
structure Books (ts : List Transaction) (t : Totals) : Prop where
  unlocked : t.locked = false
  nodup : (t.entries.map (·.1)).Nodup
  lookup : ∀ account, t.entries.lookup account =
    if account ∈ ts.map (·.account) then some (net account ts) else none

theorem Books.empty : Books [] .empty := ⟨rfl, .nil, fun _ => rfl⟩

theorem Books.of_eq (h : Books ts t) (account : String) : t.of account = net account ts := by
  unfold Totals.of
  rw [h.lookup]
  split
  · rfl
  · rename_i hnot
    exact (net_of_not_mem hnot).symm

/-- **One transaction entered.** -/
theorem Books.enter (h : Books ts t) (x : Transaction) :
    Books (ts ++ [x]) (t.set x.account (t.of x.account + x.change)) where
  unlocked := h.unlocked
  nodup := by
    show ((Totals.setEntry _ _ t.entries).map (·.1)).Nodup
    rw [setEntry_eq_upsert]
    exact Config.nodup_keys_upsert h.nodup _ _
  lookup := by
    intro account
    show (Totals.setEntry _ _ t.entries).lookup account = _
    rw [setEntry_eq_upsert, net_concat]
    by_cases ha : account = x.account
    · subst ha
      rw [Config.lookup_upsert_self, h.of_eq]
      simp
    · rw [Config.lookup_upsert_of_ne ha, h.lookup]
      simp [ha, Ne.symm ha]

/-- Books of the same transactions, in whatever order, hold the same entries. -/
theorem Books.perm (h : Books ts t) (h' : Books ts' t') (hperm : ts.Perm ts') :
    t.entries.Perm t'.entries := by
  have hnodup : ∀ {t : Totals}, (t.entries.map (·.1)).Nodup → t.entries.Nodup := fun hn =>
    (List.pairwise_map.1 hn).imp fun hne heq => hne (congrArg _ heq)
  rw [List.perm_ext_iff_of_nodup (hnodup h.nodup) (hnodup h'.nodup)]
  rintro ⟨account, n⟩
  rw [mem_iff_lookup h.nodup, mem_iff_lookup h'.nodup, h.lookup, h'.lookup, net_perm hperm]
  simp only [(hperm.map _).mem_iff]

/-- The order of entries with distinct keys is not seen once they are sorted. -/
theorem sorted_of_perm (h : (t.entries.map (·.1)).Nodup) (hperm : t.entries.Perm t'.entries) :
    t.sorted = t'.sorted := by
  have hpairwise (es : List (String × Int)) :
      (es.mergeSort fun a b => a.1 ≤ b.1).Pairwise fun a b => decide (a.1 ≤ b.1) = true := by
    refine List.pairwise_mergeSort ?_ ?_ es
    · intro a b c hab hbc
      exact decide_eq_true (String.le_trans (of_decide_eq_true hab) (of_decide_eq_true hbc))
    · intro a b
      rcases String.le_total a.1 b.1 with hab | hba
      · simp [hab]
      · simp [hba]
  have hsort (es : List (String × Int)) : (es.mergeSort fun a b => a.1 ≤ b.1).Perm es :=
    List.mergeSort_perm _ _
  refine List.Perm.eq_of_pairwise ?_ (hpairwise t.entries) (hpairwise t'.entries)
    (((hsort _).trans hperm).trans (hsort _).symm)
  rintro ⟨a, n⟩ ⟨b, m⟩ ha hb hab hba
  obtain rfl : a = b := String.le_antisymm (of_decide_eq_true hab) (of_decide_eq_true hba)
  have hn := (mem_iff_lookup h).1 ((hsort _).mem_iff.1 ha)
  have hm := (mem_iff_lookup h).1 (hperm.mem_iff.2 ((hsort _).mem_iff.1 hb))
  rw [Option.some.inj (hn.symm.trans hm)]

theorem render_of_perm (h : (t.entries.map (·.1)).Nodup) (hperm : t.entries.Perm t'.entries) :
    t.render = t'.render := by
  unfold Totals.render
  rw [sorted_of_perm h hperm]

/-- The totals of transactions entered one by one. -/
def post (ts : List Transaction) : Totals :=
  ts.foldl (fun t x => t.set x.account (t.of x.account + x.change)) .empty

theorem post_concat (ts : List Transaction) (x : Transaction) :
    post (ts ++ [x]) = (post ts).set x.account ((post ts).of x.account + x.change) :=
  List.foldl_append

theorem books_post (ts : List Transaction) : Books ts (post ts) := by
  induction ts using List.reverseRecOn with
  | nil => exact Books.empty
  | append_singleton ts x ih =>
    rw [post_concat]
    exact ih.enter x

/-! ## Runs -/

/-- The transactions since the last reset. -/
def sinceReset (ops : List (Operation Transaction String)) : List Transaction :=
  ops.foldl (fun ts op =>
    match op with
    | .dispatch x _ => ts ++ [x]
    | .reset _ => []) []

/-- No running total of these transactions leaves the range of a signed 64-bit word. -/
def Bounded (ts : List Transaction) : Prop :=
  ∀ part, part <+: ts → ∀ account, inRange (net account part) = true

/-- No running total of a run leaves the range, whatever resets there are in it. -/
def Fits (ops : List (Operation Transaction String)) : Prop :=
  ∀ before, before <+: ops → ∀ account, inRange (net account (sinceReset before)) = true

/-- An account that is not mentioned has nothing, which is in range. -/
theorem inRange_net_iff (ts : List Transaction) :
    (∀ account, inRange (net account ts) = true) ↔
      ∀ account ∈ ts.map (·.account), inRange (net account ts) = true := by
  refine ⟨fun h account _ => h account, fun h account => ?_⟩
  by_cases hmem : account ∈ ts.map (·.account)
  · exact h account hmem
  · rw [net_of_not_mem hmem]
    rfl

/-- Whether all parts of a list have totals in range, by their lengths and accounts. -/
theorem forall_prefix_iff {α : Type} (transactions : List α → List Transaction) (xs : List α) :
    (∀ part, part <+: xs → ∀ account, inRange (net account (transactions part)) = true) ↔
      ∀ n ≤ xs.length, ∀ account ∈ (transactions (xs.take n)).map (·.account),
        inRange (net account (transactions (xs.take n))) = true := by
  refine ⟨fun h n _ account _ => h _ (List.take_prefix n xs) account, fun h part hpart => ?_⟩
  rw [List.prefix_iff_eq_take.1 hpart]
  exact (inRange_net_iff _).2 (h _ hpart.length_le)

instance (ts : List Transaction) : Decidable (Bounded ts) :=
  decidable_of_iff _ (forall_prefix_iff id ts).symm

instance (ops : List (Operation Transaction String)) : Decidable (Fits ops) :=
  decidable_of_iff _ (forall_prefix_iff sinceReset ops).symm

/-- The invoker of the demo. -/
def invoker : Invoker Transaction String String Totals where
  handlers := [⟨projections, balances⟩, ⟨auditing, audit⟩]
  policy := .propagate
  handlers_ne_nil := by simp

theorem build_builder : (builder.build).map (·.1) = some invoker := rfl

/-- What the audit trail says of a reset without a reason. -/
def auditFailure : HandlerFailure := ⟨auditing, 1, ⟨"audit log needs a reason to replay", []⟩⟩

theorem handle_of_inRange (h : t.locked = false) {x : Transaction}
    (hfit : inRange (t.of x.account + x.change) = true) (segment : Segment) :
    (invoker.handle x segment t).reply = .done ∧
      (invoker.handle x segment t).world = t.set x.account (t.of x.account + x.change) := by
  simp [Invoker.handle, Invoker.deliver, invoker, balances, audit, h, hfit]

theorem performReset_of_unlocked (h : t.locked = false) (reason : Option String) :
    (invoker.performReset reason t).reply =
        (if reason.isSome then .done else .failed ⟨2, [auditFailure]⟩) ∧
      (invoker.performReset reason t).world = .empty := by
  cases reason <;>
    simp [Invoker.performReset, Invoker.announce, Invoker.handlerCount, invoker, balances, audit,
      auditFailure, Totals.empty, h]

variable {ops earlier : List (Operation Transaction String)}

theorem sinceReset_dispatch (ops : List (Operation Transaction String)) (x : Transaction)
    (segment : Segment) : sinceReset (ops ++ [.dispatch x segment]) = sinceReset ops ++ [x] :=
  List.foldl_append

theorem sinceReset_reset (ops : List (Operation Transaction String)) (reason : Option String) :
    sinceReset (ops ++ [.reset reason]) = [] := List.foldl_append

theorem Fits.of_prefix (h : Fits ops) {before : List (Operation Transaction String)}
    (hbefore : before <+: ops) : Fits before := fun part hpart => h part (hpart.trans hbefore)

/-- A transaction of a run that fits keeps its total in range. -/
theorem Fits.inRange {x : Transaction} {segment : Segment}
    (h : Fits (ops ++ [.dispatch x segment])) :
    inRange ((post (sinceReset ops)).of x.account + x.change) = true := by
  have hnet := h _ List.prefix_rfl x.account
  rw [sinceReset_dispatch, net_concat, if_pos rfl] at hnet
  rwa [(books_post _).of_eq]

/-- **Where a run leads.** -/
theorem course_eq_post (h : Fits ops) : invoker.course ops .empty = post (sinceReset ops) := by
  induction ops using List.reverseRecOn with
  | nil => rfl
  | append_singleton ops op ih =>
    rw [Invoker.course_concat, ih (h.of_prefix (List.prefix_append _ _))]
    have hunlocked := (books_post (sinceReset ops)).unlocked
    cases op with
    | dispatch x segment =>
      rw [sinceReset_dispatch, post_concat]
      exact (handle_of_inRange hunlocked h.inRange segment).2
    | reset reason =>
      rw [sinceReset_reset]
      exact (performReset_of_unlocked hunlocked reason).2

/-! ## Replays -/

/-- Transactions delivered once more, each in some segment. -/
def redelivered (again : List (Transaction × Segment)) : List (Operation Transaction String) :=
  again.map fun e => .dispatch e.1 e.2

/-- A running total since the last reset was there at some point of the run. -/
theorem exists_prefix_sinceReset (ops : List (Operation Transaction String))
    {part : List Transaction} (h : part <+: sinceReset ops) :
    ∃ before, before <+: ops ∧ sinceReset before = part := by
  induction ops using List.reverseRecOn with
  | nil => exact ⟨[], List.prefix_rfl, (List.prefix_nil.1 h).symm⟩
  | append_singleton ops op ih =>
    cases op with
    | reset reason =>
      -- what was there before the reset is gone: only the whole run will do
      rw [sinceReset_reset] at h
      exact ⟨_, List.prefix_rfl, by rw [sinceReset_reset, List.prefix_nil.1 h]⟩
    | dispatch x segment =>
      rw [sinceReset_dispatch, List.prefix_concat_iff] at h
      rcases h with rfl | h
      · exact ⟨_, List.prefix_rfl, sinceReset_dispatch ops x segment⟩
      · obtain ⟨before, hbefore, hpart⟩ := ih h
        exact ⟨before, hbefore.trans (List.prefix_append _ _), hpart⟩

theorem Fits.bounded (h : Fits ops) : Bounded (sinceReset ops) := by
  intro part hpart account
  obtain ⟨before, hbefore, rfl⟩ := exists_prefix_sinceReset ops hpart
  exact h before hbefore account

theorem redelivered_concat (again : List (Transaction × Segment)) (e : Transaction × Segment) :
    redelivered (again ++ [e]) = redelivered again ++ [.dispatch e.1 e.2] := List.map_append

theorem sinceReset_redelivered (earlier : List (Operation Transaction String))
    (reason : Option String) (again : List (Transaction × Segment)) :
    sinceReset (earlier ++ .reset reason :: redelivered again) = again.map (·.1) := by
  induction again using List.reverseRecOn with
  | nil => exact sinceReset_reset earlier reason
  | append_singleton again e ih =>
    rw [redelivered_concat, ← List.cons_append, ← List.append_assoc, sinceReset_dispatch, ih,
      List.map_append]
    rfl

/-- A replay after a reset fits if it keeps its own running totals in range. -/
theorem Fits.replay (h : Fits earlier) (reason : Option String)
    (again : List (Transaction × Segment)) (hagain : Bounded (again.map (·.1))) :
    Fits (earlier ++ .reset reason :: redelivered again) := by
  induction again using List.reverseRecOn with
  | nil =>
    intro before hbefore account
    rcases List.prefix_concat_iff.1 hbefore with rfl | hbefore
    · rw [sinceReset_reset]
      rfl
    · exact h before hbefore account
  | append_singleton again e ih =>
    intro before hbefore account
    have hwhole := sinceReset_redelivered earlier reason (again ++ [e])
    rw [redelivered_concat, ← List.cons_append, ← List.append_assoc] at hbefore hwhole
    rcases List.prefix_concat_iff.1 hbefore with rfl | hbefore
    · rw [hwhole]
      exact hagain _ List.prefix_rfl account
    · refine ih (fun part hpart => hagain part (hpart.trans ?_)) before hbefore account
      rw [List.map_append]
      exact List.prefix_append _ _

/-- **Totals follow transactions.** In every run of the demo's invoker whose running totals stay in
range,
* the totals are at each point those of the transactions since the last reset: just the accounts
  that these mention, each with what was deposited less what was withdrawn;
* each transaction is handled without failure;
* each reset clears the totals; with a reason it succeeds, and without one it fails at the audit
  trail alone, the second of two handlers;
* delivered once more after any reset, the transactions since the last one lead to the same totals,
  and in any other order that keeps the running totals in range to the same entries and text. -/
theorem totals_follow_transactions (hfit : Fits ops) :
    builder.build.map (·.1) = some invoker ∧
    (∀ before, before <+: ops → Books (sinceReset before) (invoker.course before .empty)) ∧
    (∀ before x segment, before ++ [.dispatch x segment] <+: ops →
      (invoker.handle x segment (invoker.course before .empty)).reply = .done) ∧
    (∀ before reason, before ++ [.reset reason] <+: ops →
      let r := invoker.performReset reason (invoker.course before .empty)
      r.reply = (if reason.isSome then .done else .failed ⟨2, [auditFailure]⟩) ∧
        r.world = .empty) ∧
    (∀ earlier reason again, Fits earlier → again.map (·.1) = sinceReset ops →
      invoker.course (earlier ++ .reset reason :: redelivered again) .empty =
        invoker.course ops .empty) ∧
    ∀ earlier reason again, Fits earlier → (again.map (·.1)).Perm (sinceReset ops) →
      Bounded (again.map (·.1)) →
      let t' := invoker.course (earlier ++ .reset reason :: redelivered again) .empty
      t'.entries.Perm (invoker.course ops .empty).entries ∧
        t'.render = (invoker.course ops .empty).render := by
  have hcourse {before} (h : before <+: ops) : invoker.course before .empty =
      post (sinceReset before) := course_eq_post (hfit.of_prefix h)
  refine ⟨build_builder, ?_, ?_, ?_, ?_, ?_⟩
  · intro before h
    rw [hcourse h]
    exact books_post _
  · intro before x segment h
    rw [hcourse ((List.prefix_append _ _).trans h)]
    exact (handle_of_inRange (books_post _).unlocked (hfit.of_prefix h).inRange segment).1
  · intro before reason h
    rw [hcourse ((List.prefix_append _ _).trans h)]
    exact performReset_of_unlocked (books_post _).unlocked reason
  · intro earlier reason again hearlier hsame
    have hbounded : Bounded (again.map (·.1)) := hsame ▸ hfit.bounded
    rw [course_eq_post (hearlier.replay reason again hbounded), sinceReset_redelivered, hsame,
      hcourse List.prefix_rfl]
  · intro earlier reason again hearlier hperm hbounded
    rw [course_eq_post (hearlier.replay reason again hbounded), sinceReset_redelivered,
      hcourse List.prefix_rfl]
    have hentries := (books_post _).perm (books_post _) hperm
    exact ⟨hentries, render_of_perm (books_post _).nodup hentries⟩

/-- A run to both ends of the range, with a reset that the audit trail refuses on the way. -/
def strained : List (Operation Transaction String) :=
  redelivered [(.deposited "alice" 9223372036854775807, .root), (.withdrawn "alice" 1, .root)] ++
    .reset none :: redelivered
      [(.deposited "bob" 5, .root), (.withdrawn "carol" 9223372036854775807, .root),
        (.withdrawn "carol" 1, .root), (.withdrawn "bob" 5, .root)]

/-- Its last transactions in another order. -/
def reordered : List (Transaction × Segment) :=
  [(.withdrawn "carol" 1, .root), (.withdrawn "bob" 5, ⟨3, 7⟩), (.deposited "bob" 5, .root),
    (.withdrawn "carol" 9223372036854775807, .root)]

theorem strained_replayed :
    Fits strained ∧
    Books [.deposited "bob" 5, .withdrawn "carol" 9223372036854775807, .withdrawn "carol" 1,
      .withdrawn "bob" 5] (invoker.course strained .empty) ∧
    (invoker.performReset none
      (invoker.course (strained.take 2) .empty)).reply = .failed ⟨2, [auditFailure]⟩ ∧
    (invoker.course (strained ++ .reset none :: redelivered reordered) .empty).render =
      (invoker.course strained .empty).render := by
  have hfit : Fits strained := by decide
  obtain ⟨-, hbooks, -, hreset, -, hreplay⟩ := totals_follow_transactions hfit
  refine ⟨hfit, hbooks strained List.prefix_rfl, ?_, ?_⟩
  · exact (hreset (strained.take 2) none ⟨strained.drop 3, rfl⟩).1
  · exact (hreplay strained none reordered hfit (by decide) (by decide)).2

end Vigil.Accounts
