import Vigil.Proofs.Demo.Timetable
import Vigil.Proofs.Dispatch.Delivery

/-!
# What the heartbeat demo tells of outages

Two schedulers and a channel that goes down and comes up beside them. The monitor knows of the
channel only what it finds when it fires, and whoever reads the output only what is printed.

* `Down`, `lostSince`: what a reader makes of the output; `lostSince_check` says what the count is.
* `Told`: the outputs that agree with the channel and with the monitor's count.
* `turnKeeps_poll`: **every turn of every task keeps this agreement**, whatever the time and
  whichever task had its turn before.
* `orderly_run`: what a reader finds, whenever the demo is interrupted, and that the output is as
  long as the time was.
-/

namespace Vigil.Heartbeat

open ConnectionMonitor

/-! ## Reading the output -/

/-- **The latest channel line** says that the channel is down. -/
def Down (out : List (Event Line)) : Prop := (channels out).getLast? = some false

instance (out : List (Event Line)) : Decidable (Down out) :=
  inferInstanceAs (Decidable (_ = _))

/-- The lost connections that are told of up to the next firing of the monitor. -/
def lostUntilCheck (after : List (Event Line)) : Nat :=
  (after.takeWhile (· ≠ .log checkEntry)).count (.seen .lost)

/-- The lost connections that are told of since the monitor last fired with the channel up, in an
output with its latest event first. -/
def lostBack : List (Event Line) → Nat
  | [] => 0
  | e :: earlier =>
    if e = .log checkEntry ∧ ¬ Down earlier.reverse then 0
    else lostBack earlier + if e = .seen .lost then 1 else 0

/-- **The lost connections** that are told of since the monitor last fired with the channel up. -/
def lostSince (out : List (Event Line)) : Nat := lostBack out.reverse

/-- The warnings whose message ends in this way. -/
def warnings (ending : String) (out : List (Event Line)) : Nat :=
  (Event.entries out).countP fun entry =>
    entry.level = .warn ∧ ending.toList <:+ entry.message.toList

/-- What has to come before an event, if it is to be true. -/
def Justified (before : List (Event Line)) : Event Line → Prop
  | .seen .lost =>
    Down before ∧ ∃ earlier k, before = earlier ++ [.log checkEntry, .log (failedEntry k)]
  | .log entry => entry.message = "Connection check recovered" →
    ∃ earlier, before = earlier ++ [.log checkEntry] ∧ ¬ Down earlier ∧
      entry = recoveredEntry (lostSince earlier)
  | _ => True

/-- **What a reader finds** in the output of a whole run. -/
structure Orderly (out : List (Event Line)) : Prop where
  /-- The channel lines say down and up in turns, down first. -/
  alternate : ∀ (i : Nat) (up : Bool), (channels out)[i]? = some up → (up = true ↔ i % 2 = 1)
  /-- A lost connection is told of by a firing of the monitor and while the channel is down, a
  recovery by one with the channel up and with the number of lost connections since the last
  such. -/
  justified : ∀ before e after, out = before ++ e :: after → Justified before e
  /-- A firing of the monitor tells of one lost connection while the channel is down, and of none
  while it is up. -/
  checked : ∀ before after, out = before ++ .log checkEntry :: after →
    lostUntilCheck after = if Down before then 1 else 0
  scheduled : warnings " already scheduled." out = 1
  stopped : warnings " already stopped." out = 1
  disarmed : (Event.entries out).countP (·.message = "Scheduler disarmed") = 2
  /-- Nothing is printed after a scheduler was stopped. -/
  closed : ∀ before entry after, out = before ++ .log entry :: after →
    entry.message = "Scheduler disarmed" → Event.observations after = []

theorem down_append {out es : List (Event Line)} (hes : channels es = []) :
    Down (out ++ es) ↔ Down out := by
  rw [Down, channels_append, hes, List.append_nil, Down]

theorem lostSince_concat (out : List (Event Line)) (e : Event Line) :
    lostSince (out ++ [e]) =
      if e = .log checkEntry ∧ ¬ Down out then 0
      else lostSince out + if e = .seen .lost then 1 else 0 := by
  simp [lostSince, lostBack]

/-- The count begins anew where the monitor fired with the channel up, and only there. -/
theorem lostSince_check {before after : List (Event Line)} (hup : ¬ Down before)
    (hafter : ∀ between later, after = between ++ .log checkEntry :: later →
      Down (before ++ .log checkEntry :: between)) :
    lostSince (before ++ .log checkEntry :: after) = after.count (.seen .lost) := by
  induction after using List.reverseRecOn with
  | nil => simp [lostSince_concat, hup]
  | append_singleton after e ih =>
    have hcount := ih fun between later hsplit =>
      hafter between (later ++ [e]) (by rw [hsplit, List.append_assoc, List.cons_append])
    have hdown : ¬ (e = .log checkEntry ∧ ¬ Down (before ++ .log checkEntry :: after)) := by
      rintro ⟨rfl, hnot⟩
      exact hnot (hafter after [] rfl)
    rw [← List.cons_append, ← List.append_assoc, lostSince_concat, if_neg hdown, hcount,
      List.count_append, List.count_singleton]
    simp

theorem lostUntilCheck_append (xs : List (Event Line)) {es : List (Event Line)}
    (h : lostUntilCheck es = 0) : lostUntilCheck (xs ++ es) = lostUntilCheck xs := by
  induction xs with
  | nil => exact h
  | cons x xs ih =>
    unfold lostUntilCheck at ih ⊢
    by_cases hx : x = .log checkEntry
    · simp [hx]
    · rw [List.cons_append, List.takeWhile_cons_of_pos (by simpa),
        List.takeWhile_cons_of_pos (by simpa), List.count_cons, List.count_cons, ih]

/-! ## Outputs that agree with the channel -/

/-- An event that says nothing of the channel. -/
def Aside : Event Line → Prop
  | .seen (.channel _) | .seen .lost => False
  | .seen _ => True
  | .log entry => entry ≠ checkEntry ∧ entry.message ≠ "Connection check recovered"

/-- **The outputs** at whose end the channel is up or down, after so many failed checks in a row. -/
inductive Told : Bool → Nat → List (Event Line) → Prop
  | begun : Told true 0 []
  | aside {up : Bool} {n : Nat} {out : List (Event Line)} {e : Event Line} :
      Told up n out → Aside e → Told up n (out ++ [e])
  | flipped {up : Bool} {n : Nat} {out : List (Event Line)} :
      Told up n out → Told (!up) n (out ++ [.seen (.channel !up)])
  | passed {out : List (Event Line)} : Told true 0 out → Told true 0 (out ++ [.log checkEntry])
  | recovered {n : Nat} {out : List (Event Line)} : Told true (n + 1) out →
      Told true 0 (out ++ [.log checkEntry, .log (recoveredEntry (n + 1))])
  | failed {n : Nat} {out : List (Event Line)} : Told false n out →
      Told false (n + 1) (out ++ [.log checkEntry, .log (failedEntry (n + 1)), .seen .lost])

variable {out : List (Event Line)} {up : Bool} {n : Nat}

theorem Aside.channels {e : Event Line} (h : Aside e) : channels [e] = [] := by
  rcases e with entry | _ | _ | _ | _
  · rfl
  · rfl
  · rfl
  · exact h.elim
  · rfl

theorem Aside.ne_check {e : Event Line} (h : Aside e) : e ≠ .log checkEntry := by
  rintro rfl
  exact h.1 rfl

theorem Aside.ne_lost {e : Event Line} (h : Aside e) : e ≠ .seen .lost := by
  rintro rfl
  exact h

theorem Aside.justified {e : Event Line} (h : Aside e) (before : List (Event Line)) :
    Justified before e := by
  rcases e with entry | _ | _ | _ | _
  · exact fun hentry => absurd hentry h.2
  · trivial
  · trivial
  · trivial
  · exact h.elim

theorem justified_check (before : List (Event Line)) : Justified before (.log checkEntry) :=
  fun h => absurd h (by decide)

theorem justified_failed (before : List (Event Line)) (k : Nat) :
    Justified before (.log (failedEntry k)) :=
  fun h => absurd h (show "Connection check failed" ≠ "Connection check recovered" by decide)

/-- The channel lines take turns. -/
theorem Told.alternate (h : Told up n out) :
    (∀ (i : Nat) (b : Bool), (channels out)[i]? = some b → (b = true ↔ i % 2 = 1)) ∧
      (up = true ↔ (channels out).length % 2 = 0) := by
  induction h with
  | begun => simp [channels]
  | aside _ he ih =>
    rw [channels_append, he.channels, List.append_nil]
    exact ih
  | passed _ ih | recovered _ ih | failed _ ih =>
    rw [channels_append]
    simpa only [channels, List.filterMap_cons, List.filterMap_nil, List.append_nil] using ih
  | @flipped up n out _ ih =>
    obtain ⟨hlines, hup⟩ := ih
    have hchannels : channels (out ++ [.seen (.channel !up)]) = channels out ++ [!up] :=
      channels_append out _
    have hparity : (!up) = true ↔ (channels out).length % 2 = 1 := by
      cases up
      · simp only [Bool.false_eq_true, false_iff] at hup
        simp only [Bool.not_false, true_iff]
        omega
      · simp only [true_iff] at hup
        simp only [Bool.not_true, Bool.false_eq_true, false_iff]
        omega
    rw [hchannels]
    constructor
    · intro i b hb
      rw [List.getElem?_append] at hb
      split at hb
      · exact hlines i b hb
      · have hi : i = (channels out).length := by
          have := (List.getElem?_eq_some_iff.1 hb).1
          rw [List.length_singleton] at this
          omega
        subst hi
        obtain rfl : (!up) = b := by simpa using hb
        exact hparity
    · rw [hparity, List.length_append, List.length_singleton]
      omega

/-- The latest channel line tells the channel. -/
theorem Told.down_iff (h : Told up n out) : Down out ↔ up = false := by
  induction h with
  | begun => simp [Down, channels]
  | aside _ he ih => exact (down_append he.channels).trans ih
  | passed _ ih | recovered _ ih | failed _ ih => exact (down_append rfl).trans ih
  | @flipped up n out _ ih =>
    have hlast : (channels (out ++ [.seen (.channel !up)])).getLast? = some (!up) := by
      rw [channels_append]
      exact List.getLast?_concat
    rw [Down, hlast, Option.some_inj]

/-- A reader counts what the monitor counts. -/
theorem Told.lostSince (h : Told up n out) : lostSince out = n := by
  induction h with
  | begun => rfl
  | aside _ he ih => simp [lostSince_concat, he.ne_check, he.ne_lost, ih]
  | flipped _ ih => simp [lostSince_concat, ih]
  | passed h ih => simp [lostSince_concat, h.down_iff]
  | recovered h ih =>
    rw [List.append_cons, lostSince_concat, lostSince_concat]
    simp [h.down_iff, recoveredEntry, checkEntry]
  | failed h ih =>
    rw [List.append_cons, List.append_cons, lostSince_concat, lostSince_concat, lostSince_concat]
    simp [h.down_iff, failedEntry, checkEntry, ih]

/-- Every event has before it what it needs. -/
def AllJustified (out : List (Event Line)) : Prop :=
  ∀ before e after, out = before ++ e :: after → Justified before e

theorem AllJustified.concat (h : AllJustified out) {e : Event Line} (he : Justified out e) :
    AllJustified (out ++ [e]) := by
  intro before x after hsplit
  rcases append_eq_append_cons hsplit with ⟨between, rfl, hes⟩ | ⟨between, hout, -⟩
  · obtain ⟨rfl, hes⟩ | ⟨-, hnil⟩ := List.append_eq_singleton_iff.1 hes.symm
    · obtain ⟨rfl, rfl⟩ := List.cons.inj hes
      rw [List.append_nil]
      exact he
    · cases hnil
  · exact h before x between hout

theorem Told.justified (h : Told up n out) : AllJustified out := by
  induction h with
  | begun =>
    intro before e after hsplit
    simp at hsplit
  | aside _ he ih => exact ih.concat (he.justified _)
  | flipped _ ih => exact ih.concat trivial
  | passed _ ih => exact ih.concat (justified_check _)
  | @recovered n out h ih =>
    rw [List.append_cons]
    refine (ih.concat (justified_check out)).concat ?_
    exact fun _ => ⟨out, rfl, by simp [h.down_iff], by rw [h.lostSince]⟩
  | @failed n out h ih =>
    rw [List.append_cons, List.append_cons]
    refine ((ih.concat (justified_check out)).concat (justified_failed _ _)).concat ?_
    refine ⟨?_, out, n + 1, by rw [List.append_assoc]; rfl⟩
    rw [List.append_assoc, down_append rfl, h.down_iff]

/-- Every firing of the monitor has what it has to tell after it. -/
def AllChecked (out : List (Event Line)) : Prop :=
  ∀ before after, out = before ++ .log checkEntry :: after →
    lostUntilCheck after = if Down before then 1 else 0

theorem AllChecked.append (h : AllChecked out) {es : List (Event Line)}
    (hes : .log checkEntry ∉ es) (hlost : lostUntilCheck es = 0) : AllChecked (out ++ es) := by
  intro before after hsplit
  rcases append_eq_append_cons hsplit with ⟨between, -, rfl⟩ | ⟨between, hout, rfl⟩
  · simp at hes
  · rw [lostUntilCheck_append between hlost]
    exact h before between hout

theorem AllChecked.check (h : AllChecked out) {es : List (Event Line)}
    (hes : .log checkEntry ∉ es) (hlost : lostUntilCheck es = if Down out then 1 else 0) :
    AllChecked (out ++ .log checkEntry :: es) := by
  intro before after hsplit
  rcases append_eq_append_cons hsplit with ⟨between, rfl, hblock⟩ | ⟨between, hout, rfl⟩
  · cases between with
    | nil =>
      obtain rfl : es = after := by simpa using hblock
      rwa [List.append_nil]
    | cons e between =>
      obtain ⟨-, rfl⟩ := List.cons.inj hblock
      simp at hes
  · rw [lostUntilCheck_append between (by simp [lostUntilCheck])]
    exact h before between hout

theorem Told.checked (h : Told up n out) : AllChecked out := by
  induction h with
  | begun =>
    intro before after hsplit
    simp at hsplit
  | aside _ he ih =>
    refine ih.append (by simpa using he.ne_check.symm) ?_
    simp [lostUntilCheck, he.ne_check, he.ne_lost]
  | flipped _ ih => exact ih.append (by simp) (by simp [lostUntilCheck])
  | passed h ih => exact ih.check (by simp) (by simp [lostUntilCheck, h.down_iff])
  | recovered h ih =>
    refine ih.check (by simp [recoveredEntry, checkEntry]) ?_
    simp [lostUntilCheck, recoveredEntry, checkEntry, h.down_iff]
  | failed h ih =>
    refine ih.check (by simp [failedEntry, checkEntry]) ?_
    simp [lostUntilCheck, failedEntry, checkEntry, h.down_iff]

/-! ## What runs -/

open Scheduler

/-- The messages of what firings log. -/
def routine : List String :=
  ["Firing caretaker", "Connection check recovered", "Connection check failed"]

/-- What was told since an opening agrees with the monitor and its channel. -/
structure Tale (opening : List (Event Line)) (c : Watched Channel) (body : List (Event Line)) :
    Prop where
  told : Told c.world.up c.failures (opening ++ body)
  routine : ∀ entry, .log entry ∈ body → entry.message ∈ routine

/-- **What was told agrees with the state** of all that runs, and no firing is going on. -/
structure Kept (opening : List (Event Line)) (w : World) (body : List (Event Line)) : Prop where
  tale : Tale opening w.heartbeat.world body
  pulse_rest : w.pulse.AtRest
  heartbeat_rest : w.heartbeat.AtRest
  pulse_armed : w.pulse.slot = some 0
  heartbeat_armed : w.heartbeat.slot = some 0

variable {s : Schedulers} {opening body : List (Event Line)} {c : Watched Channel} {w : World}

theorem Tale.append (h : Tale opening c body) {c' : Watched Channel} {es : List (Event Line)}
    (htold : Told c'.world.up c'.failures ((opening ++ body) ++ es))
    (hes : ∀ entry, .log entry ∈ es → entry.message ∈ Heartbeat.routine) :
    Tale opening c' (body ++ es) := by
  refine ⟨by rwa [← List.append_assoc], fun entry hmem => ?_⟩
  rcases List.mem_append.1 hmem with hmem | hmem
  · exact h.routine entry hmem
  · exact hes entry hmem

/-- A firing of the pulse. -/
theorem Tale.pulse (h : Tale opening c body) (hs : s.Named) (now : Nat) :
    Tale opening c (body ++ [.log s.pulse.firingEntry, .seen (.pulse now)]) := by
  have hentry : Aside (.log s.pulse.firingEntry) :=
    ⟨hs.pulseEntry_ne, show "Firing caretaker" ≠ "Connection check recovered" by decide⟩
  refine h.append ?_ ?_
  · rw [List.append_cons]
    exact (h.told.aside hentry).aside trivial
  · simp [firingEntry, Heartbeat.routine]

/-- A firing of the monitor, with the channel up or down. -/
theorem Tale.check (h : Tale opening c body) :
    Tale opening (monitor.fire c).world (body ++ .log checkEntry :: (monitor.fire c).seen) := by
  have htold := h.told
  rw [monitor_fire]
  obtain ⟨failures, ⟨up⟩⟩ := c
  cases up with
  | true =>
    cases failures with
    | zero => exact h.append (.passed htold) (by simp [checkEntry, Heartbeat.routine])
    | succ n =>
      exact h.append (.recovered htold) (by simp [checkEntry, recoveredEntry, Heartbeat.routine])
  | false => exact h.append (.failed htold) (by simp [checkEntry, failedEntry, Heartbeat.routine])

theorem Tale.flip (h : Tale opening c body) :
    Tale opening { c with world := c.world.flip }
      (body ++ [.seen (.channel c.world.flip.up)]) :=
  h.append (.flipped h.told) (by simp)

/-- **Every turn keeps the agreement**, whatever the time and whichever task had its turn before. -/
theorem turnKeeps_poll (hs : s.Named) (opening : List (Event Line)) :
    Agenda.TurnKeeps (poll s) (Kept opening) := by
  intro now task w body h
  unfold poll
  split
  -- the pulse prints, and knows nothing of the channel
  · have hfiring : s.pulse.FiringKeeps now 0 fun _ seen =>
        Tale opening w.heartbeat.world (body ++ shown seen) := by
      intro tick firing u seen h
      rw [shown_append, hs.shown_pulse, ← List.append_assoc]
      exact h.pulse hs now
    obtain ⟨htale, hrest, hslot, -⟩ := poll_of_immediate (hs.pulse ▸ pulse_immediate) hfiring
      h.pulse_rest [] (by simpa [shown] using h.tale)
    exact ⟨htale, hrest, h.heartbeat_rest, hslot.trans h.pulse_armed, h.heartbeat_armed⟩
  · split
    -- the monitor finds the channel as the latest line told it
    · have hfiring : s.heartbeat.FiringKeeps now 0 fun c seen =>
          Tale opening c (body ++ shown seen) := by
        intro tick firing c seen h
        rw [shown_append, hs.shown_heartbeat, hs.heartbeat_run, ← List.append_assoc]
        exact h.check
      obtain ⟨htale, hrest, hslot, -⟩ := poll_of_immediate
        (hs.heartbeat ▸ caretaker_immediate monitor) hfiring h.heartbeat_rest []
        (by simpa [shown] using h.tale)
      exact ⟨htale, h.pulse_rest, hrest, h.pulse_armed, hslot.trans h.heartbeat_armed⟩
    -- the channel changes together with its line, or not at all
    · unfold Heartbeat.flip
      split
      · rw [List.append_nil]
        exact h
      · exact ⟨h.tale.flip, h.pulse_rest, h.heartbeat_rest, h.pulse_armed, h.heartbeat_armed⟩

/-! ## Whole runs -/

/-- The agreement holds at the interrupt. -/
theorem kept_course (hs : s.Named) {opening : List (Event Line)} (hopening : Told true 0 opening)
    (interrupt : Nat) : Kept opening (course s interrupt).2 (course s interrupt).1 := by
  have hrest {ω : Type} (w : ω) : (State.initial w).AtRest := by simp [State.AtRest, State.initial]
  have hbegin : Kept opening (World.begin s) [] :=
    ⟨⟨by rwa [List.append_nil], by simp⟩, (hrest ()).start, (hrest _).start, rfl, rfl⟩
  exact course_keeps (turnKeeps_poll hs opening) hbegin interrupt

/-! ## What a reader finds -/

instance : DecidablePred Aside
  | .seen (.channel _) | .seen .lost => isFalse id
  | .seen .prompt | .seen (.pulse _) => isTrue trivial
  | .log entry =>
    inferInstanceAs (Decidable (entry ≠ checkEntry ∧ entry.message ≠ "Connection check recovered"))

theorem Told.asides (h : Told up n out) {es : List (Event Line)} (hes : ∀ e ∈ es, Aside e) :
    Told up n (out ++ es) := by
  induction es using List.reverseRecOn with
  | nil => rwa [List.append_nil]
  | append_singleton es e ih =>
    rw [← List.append_assoc]
    exact (ih fun e' he' => hes e' (List.mem_append_left _ he')).aside
      (hes e (List.mem_append_right _ (List.mem_singleton_self e)))

theorem mem_entries {entry : Log.Entry} : entry ∈ Event.entries out ↔ .log entry ∈ out := by
  unfold Event.entries
  rw [List.mem_filterMap]
  constructor
  · rintro ⟨e, he, hentry⟩
    cases e with
    | log entry' =>
      obtain rfl : entry' = entry := by simpa using hentry
      exact he
    | seen o => cases hentry
  · intro h
    exact ⟨_, h, rfl⟩

/-- Firings log none but their own entries. -/
theorem Tale.countP_eq_zero (h : Tale opening c body) {P : Log.Entry → Bool}
    (hP : ∀ entry, entry.message ∈ Heartbeat.routine → ¬ P entry) :
    (Event.entries body).countP P = 0 :=
  List.countP_eq_zero.2 fun entry hmem => hP entry (h.routine entry (mem_entries.1 hmem))

/-- All that is logged and printed before the first turn. -/
def preface : List (Event Line) :=
  [.log (buildEntry demo.pulse), .log (buildEntry demo.heartbeat)] ++ prologue demo

/-- An output that agrees with the monitor and its channel is in order, from the beginning to the
stops. -/
theorem Tale.orderly (h : Tale preface c body) : Orderly (preface ++ body ++ epilogue demo) := by
  have htold : Told c.world.up c.failures (preface ++ body ++ epilogue demo) :=
    h.told.asides (by decide)
  have hroutine : "Scheduler disarmed" ∉ Heartbeat.routine := by decide
  have hcount (P : Log.Entry → Bool) (hP : ∀ entry, entry.message ∈ Heartbeat.routine → ¬ P entry) :
      (Event.entries (preface ++ body ++ epilogue demo)).countP P =
        (Event.entries preface).countP P + (Event.entries (epilogue demo)).countP P := by
    rw [Event.entries_append, Event.entries_append, List.countP_append, List.countP_append,
      h.countP_eq_zero hP, Nat.add_zero]
  have hwarnings (ending : String)
      (hending : ∀ message ∈ Heartbeat.routine, ¬ ending.toList <:+ message.toList) :
      warnings ending (preface ++ body ++ epilogue demo) =
        warnings ending preface + warnings ending (epilogue demo) :=
    hcount _ fun entry hmessage hP => hending _ hmessage (of_decide_eq_true hP).2
  refine ⟨htold.alternate.1, htold.justified, htold.checked, ?_, ?_, ?_, ?_⟩
  · exact (hwarnings _ (by decide)).trans (by decide)
  · exact (hwarnings _ (by decide)).trans (by decide)
  · refine (hcount _ fun entry hmessage hP => ?_).trans (by decide)
    exact hroutine (of_decide_eq_true hP ▸ hmessage)
  · intro before entry after hsplit hentry
    rcases append_eq_append_cons hsplit with ⟨between, -, hends⟩ | ⟨between, hout, -⟩
    · have hquiet : Event.observations (epilogue demo) = [] := rfl
      rw [hends, Event.observations_append] at hquiet
      exact (List.append_eq_nil_iff.1 hquiet).2
    · -- neither the preface nor a firing logs such an entry
      have hmem : .log entry ∈ preface ++ body := by
        rw [hout]
        simp
      have hbegin : ∀ entry ∈ Event.entries preface, entry.message ≠ "Scheduler disarmed" := by
        decide
      rcases List.mem_append.1 hmem with hmem | hmem
      · exact absurd hentry (hbegin entry (mem_entries.2 hmem))
      · exact absurd (hentry ▸ h.routine entry hmem) hroutine

/-- **Whenever the demo is interrupted**, its output is in order. And it is as long as the time was,
up to a second before the horizon of the clock: a pulse each second from half a second on, a firing
of the monitor each half second from a second on, and a channel line every three seconds. -/
theorem orderly_run (interrupt : Nat) : ∃ out, run interrupt = .ok out ∧ Orderly out ∧
    (Clock.instant (interrupt + 1000) < Clock.horizon →
      Tally out ((List.range ((interrupt + 500) / 1000)).map fun n => 500 + 1000 * n)
        ((interrupt - 500) / 500) (interrupt / 3000)) := by
  have hpreface : Told true 0 preface := Told.begun.asides (by decide)
  have hkept := kept_course named_demo hpreface interrupt
  have hrun : run interrupt = .ok (preface ++ (course demo interrupt).1 ++ epilogue demo) := by
    rw [run_eq, runWith_eq hkept.pulse_armed hkept.heartbeat_armed]
    rfl
  refine ⟨_, hrun, hkept.tale.orderly, fun hrange => ?_⟩
  have hbefore : Tally preface [] 0 0 := ⟨rfl, by decide, rfl⟩
  have hafter : Tally (epilogue demo) [] 0 0 := ⟨rfl, by decide, rfl⟩
  have hall := (hbefore.append (tally_course hrange)).append hafter
  rwa [List.nil_append, List.append_nil, Nat.zero_add, Nat.zero_add] at hall

end Vigil.Heartbeat
