import Vigil.Attribute.Timing
import Mathlib.Data.List.Perm.Basic
import Mathlib.Data.List.Nodup

/-!
# What arguments give

The arguments of an attribute are looked at one after the other. The first that offends ends it;
where none does, each parameter has the text of its last argument.

* `Argument.Offends`: what is wrong with an argument by itself.
* `Argument.text?`: the text that an argument gives a parameter.
* `add_of_offends`, `add_of_sound`: one argument more.
* `timing_of_offends`, `timing_of_sound`: **both outcomes** for all arguments.
* `first_offence_or_last_value`: both, and that neither another order nor further arguments change
  them.
-/

namespace Vigil.Attribute

/-! ## Single arguments -/

/-- The path that is a single name. -/
def Path.plain (name : String) : Path := ⟨false, [name]⟩

theorem Path.name?_eq_some_iff {path : Path} {name : String} :
    path.name? = some name ↔ path = .plain name := by
  unfold Path.name? Path.plain
  split
  · simp
  · rename_i hnot
    simp only [reduceCtorEq, false_iff]
    exact hnot name

/-- The names of the parameters. -/
def parameters : List String := ["initial_delay", "fixed_rate"]

namespace Argument

/-- What is wrong with an argument: it has no value, or its path is not just the name of a
parameter, or its value is neither a whole number nor a text. -/
inductive Offends : Argument → ArgumentError → Prop
  | name (path : Path) : Offends (.name path) .noValue
  | group (path : Path) : Offends (.group path) .noValue
  | unknown (path : Path) (value : Value) (h : ∀ p ∈ parameters, path ≠ .plain p) :
      Offends (.assign path value) .unknownName
  | value (p : String) (h : p ∈ parameters) : Offends (.assign (.plain p) .other) (.badValue p)

/-- Nothing is wrong with an argument. -/
def Sound (a : Argument) : Prop := ∀ e, ¬ a.Offends e

/-- The path in front of an argument. -/
def path : Argument → Path
  | .name path => path
  | .group path => path
  | .assign path _ => path

/-- The text that an argument gives a parameter. -/
def text? (parameter : String) : Argument → Option String
  | .assign path value => if path = .plain parameter then value.timing? else none
  | _ => none

variable {a : Argument} {e : ArgumentError} {p : String}

theorem Sound.exists_text (h : a.Sound) :
    ∃ p ∈ parameters, ∃ value s, a = .assign (.plain p) value ∧ value.timing? = some s := by
  cases a with
  | name path => exact absurd (.name path) (h _)
  | group path => exact absurd (.group path) (h _)
  | assign path value =>
    by_cases hpath : ∀ p ∈ parameters, path ≠ .plain p
    · exact absurd (.unknown path value hpath) (h _)
    · push Not at hpath
      obtain ⟨p, hp, rfl⟩ := hpath
      cases value with
      | integer negative n => exact ⟨p, hp, _, _, rfl, rfl⟩
      | text s => exact ⟨p, hp, _, s, rfl, rfl⟩
      | other => exact absurd (.value p hp) (h _)

/-- A sound argument gives a parameter a text just when it has its name. -/
theorem Sound.text?_eq_none_iff (h : a.Sound) : a.text? p = none ↔ a.path ≠ .plain p := by
  obtain ⟨q, -, value, s, rfl, hs⟩ := h.exists_text
  simp only [text?, path, hs]
  split <;> simp_all

end Argument

open Argument

variable {a : Argument} {e : ArgumentError} {g : Given}

/-- **An argument that offends** ends with its error, whatever came before it. -/
theorem Given.add_of_offends (h : a.Offends e) : g.add a = .error e := by
  cases h with
  | name path | group path => rfl
  | unknown path value h =>
    have hdelay : path.name? ≠ some "initial_delay" := fun hname =>
      h _ (by simp [parameters]) (Path.name?_eq_some_iff.1 hname)
    have hrate : path.name? ≠ some "fixed_rate" := fun hname =>
      h _ (by simp [parameters]) (Path.name?_eq_some_iff.1 hname)
    unfold Given.add
    split <;> simp_all
  | value p h =>
    rcases List.mem_pair.1 h with rfl | rfl <;> rfl

/-- **A sound argument** replaces the text of the parameter that it names. -/
theorem Given.add_of_sound (h : a.Sound) :
    g.add a = .ok ⟨(a.text? "initial_delay").or g.initialDelay,
      (a.text? "fixed_rate").or g.fixedRate⟩ := by
  obtain ⟨p, hp, value, s, rfl, hs⟩ := h.exists_text
  rcases List.mem_pair.1 hp with rfl | rfl <;>
    simp [Given.add, Path.plain, Path.name?, text?, Value.timing, hs, Except.map]

/-! ## All arguments -/

/-- The text that the last argument for a parameter gives it. -/
def lastText? (parameter : String) (arguments : List Argument) : Option String :=
  (arguments.filterMap (Argument.text? parameter)).getLast?

variable {arguments before after more : List Argument}

theorem lastText?_cons (p : String) (a : Argument) (arguments : List Argument) :
    lastText? p (a :: arguments) = (lastText? p arguments).or (a.text? p) := by
  unfold lastText?
  cases htext : a.text? p with
  | none => simp [htext]
  | some s => simp [htext, List.getLast?_cons, Option.or_some]

theorem lastText?_eq_none_iff (h : ∀ a ∈ arguments, a.Sound) {p : String} :
    lastText? p arguments = none ↔ ∀ a ∈ arguments, a.path ≠ .plain p := by
  unfold lastText?
  rw [List.getLast?_eq_none_iff, List.filterMap_eq_nil_iff]
  exact forall₂_congr fun a ha => (h a ha).text?_eq_none_iff

theorem foldlM_add (h : ∀ a ∈ arguments, a.Sound) (g : Given) :
    arguments.foldlM Given.add g = .ok ⟨(lastText? "initial_delay" arguments).or g.initialDelay,
      (lastText? "fixed_rate" arguments).or g.fixedRate⟩ := by
  induction arguments generalizing g with
  | nil => rfl
  | cons a arguments ih =>
    obtain ⟨ha, harguments⟩ := List.forall_mem_cons.1 h
    rw [List.foldlM_cons, Given.add_of_sound ha]
    simp only [bind, Except.bind, ih harguments, lastText?_cons, Option.or_assoc]

/-- **The first argument that offends** decides the error. -/
theorem timing_of_offends (hbefore : ∀ b ∈ before, b.Sound) (h : a.Offends e)
    (after : List Argument) : timing (before ++ a :: after) = .error e := by
  unfold timing
  rw [List.foldlM_append, foldlM_add hbefore]
  simp only [bind, Except.bind, List.foldlM_cons, Given.add_of_offends h]

/-- **Sound arguments** give each parameter its last text; there has to be a rate. -/
theorem timing_of_sound (h : ∀ a ∈ arguments, a.Sound) :
    timing arguments =
      match lastText? "fixed_rate" arguments with
      | some rate => .ok ⟨(lastText? "initial_delay" arguments).getD "10s", rate⟩
      | none => .error .noRate := by
  unfold timing
  rw [foldlM_add h]
  simp only [Option.or_none]
  rfl

/-- Where some argument offends, one is the first that does. -/
theorem exists_first_offence (h : ∃ a ∈ arguments, ∃ e, a.Offends e) :
    ∃ before a after e, arguments = before ++ a :: after ∧ (∀ b ∈ before, b.Sound) ∧
      a.Offends e := by
  induction arguments with
  | nil => simp at h
  | cons a arguments ih =>
    by_cases ha : a.Sound
    · obtain ⟨b, hb, e, he⟩ := h
      rcases List.mem_cons.1 hb with rfl | hb
      · exact absurd he (ha e)
      · obtain ⟨before, c, after, e, rfl, hbefore, hc⟩ := ih ⟨b, hb, e, he⟩
        exact ⟨a :: before, c, after, e, rfl, List.forall_mem_cons.2 ⟨ha, hbefore⟩, hc⟩
    · obtain ⟨e, he⟩ := not_forall_not.1 ha
      exact ⟨[], a, arguments, e, rfl, by simp, he⟩

/-- No two of several sound arguments with distinct paths give the same parameter a text. -/
theorem length_filterMap_text?_le (hnodup : (arguments.map Argument.path).Nodup)
    (h : ∀ a ∈ arguments, a.Sound) (p : String) :
    (arguments.filterMap (Argument.text? p)).length ≤ 1 := by
  induction arguments with
  | nil => simp
  | cons a arguments ih =>
    obtain ⟨ha, harguments⟩ := List.forall_mem_cons.1 h
    obtain ⟨hfresh, hrest⟩ := List.nodup_cons.1 hnodup
    cases htext : a.text? p with
    | none => simpa [htext] using ih hrest harguments
    | some s =>
      -- the path of `a` is that of the parameter, so no later argument has it
      have hpath : a.path = .plain p := by
        by_contra hne
        simp [ha.text?_eq_none_iff.2 hne] at htext
      have hnil : arguments.filterMap (Argument.text? p) = [] := by
        refine List.filterMap_eq_nil_iff.2 fun b hb => (harguments b hb).text?_eq_none_iff.2 ?_
        rintro hb'
        exact hfresh (List.mem_map.2 ⟨b, hb, hb'.trans hpath.symm⟩)
      simp [htext, hnil]

/-- The order of sound arguments with distinct paths does not matter. -/
theorem lastText?_perm (hnodup : (arguments.map Argument.path).Nodup)
    (h : ∀ a ∈ arguments, a.Sound) (hperm : arguments.Perm more) (p : String) :
    lastText? p more = lastText? p arguments := by
  have htexts := hperm.filterMap (Argument.text? p)
  have hlength := length_filterMap_text?_le hnodup h p
  unfold lastText?
  match htext : arguments.filterMap (Argument.text? p), hlength with
  | [], _ => rw [htext] at htexts; rw [htexts.symm.eq_nil]
  | [s], _ => rw [htext] at htexts; rw [htexts.symm.eq_singleton]

/-- **The first argument that offends decides the error**; without any, the last argument of each
parameter decides its text, and what is missing is the rate or nothing. Sound arguments with
distinct names may come in any order, and behind an offence nothing counts. -/
theorem first_offence_or_last_value :
    (∀ before a after e, (∀ b ∈ before, b.Sound) → a.Offends e →
      timing (before ++ a :: after) = .error e) ∧
    (∀ arguments, (∀ a ∈ arguments, a.Sound) →
      (timing arguments = .error .noRate ↔
        ∀ a ∈ arguments, a.path ≠ .plain "fixed_rate") ∧
      ∀ rate, lastText? "fixed_rate" arguments = some rate →
        timing arguments = .ok ⟨(lastText? "initial_delay" arguments).getD "10s", rate⟩) ∧
    (∀ arguments arguments', (∀ a ∈ arguments, a.Sound) →
      (arguments.map Argument.path).Nodup → arguments.Perm arguments' →
      timing arguments' = timing arguments) ∧
    ∀ arguments more, (∃ a ∈ arguments, ∃ e, a.Offends e) →
      timing (arguments ++ more) = timing arguments := by
  refine ⟨fun before a after e hbefore h => timing_of_offends hbefore h after, ?_, ?_, ?_⟩
  · intro arguments h
    rw [timing_of_sound h, ← lastText?_eq_none_iff h]
    cases lastText? "fixed_rate" arguments <;> simp
  · intro arguments arguments' h hnodup hperm
    have h' : ∀ a ∈ arguments', a.Sound := fun a ha => h a (hperm.mem_iff.2 ha)
    rw [timing_of_sound h, timing_of_sound h', lastText?_perm hnodup h hperm,
      lastText?_perm hnodup h hperm]
  · intro arguments more h
    obtain ⟨before, a, after, e, rfl, hbefore, ha⟩ := exists_first_offence h
    rw [timing_of_offends hbefore ha, List.append_assoc, List.cons_append,
      timing_of_offends hbefore ha]

/-- A rate given twice, in two orders with the delay, and a name without a value between values. -/
theorem repeated_rate_and_bare_name :
    timing [.assign (.plain "fixed_rate") (.integer false 1), .name (.plain "fixed_rate"),
      .assign (.plain "r#fixed_rate") .other, .group (.plain "x")] = .error .noValue ∧
    timing [.assign (.plain "fixed_rate") (.integer false 1),
      .assign (.plain "initial_delay") (.text "2s"), .assign (.plain "fixed_rate") (.text "3s")] =
        .ok ⟨"2s", "3s"⟩ ∧
    timing [.assign (.plain "fixed_rate") (.text "3s"),
      .assign (.plain "initial_delay") (.text "2s")] =
        timing [.assign (.plain "initial_delay") (.text "2s"),
          .assign (.plain "fixed_rate") (.text "3s")] := by
  obtain ⟨hfirst, hsound, hperm, hmore⟩ := first_offence_or_last_value
  have sound (p : String) (hp : p ∈ parameters) (v : Value) (hv : v ≠ .other) :
      (Argument.assign (.plain p) v).Sound := by
    rintro e ⟨⟩
    · rename_i h
      exact h p hp rfl
    · exact hv rfl
  have hrate := sound "fixed_rate" (by decide)
  have hdelay := sound "initial_delay" (by decide)
  refine ⟨?_, ?_, ?_⟩
  · -- nothing behind the name counts
    have hbare : (Argument.name (.plain "fixed_rate")).Offends .noValue := .name _
    have hignored := hmore
      [.assign (.plain "fixed_rate") (.integer false 1), .name (.plain "fixed_rate")]
      [.assign (.plain "r#fixed_rate") .other, .group (.plain "x")] ⟨_, by simp, _, hbare⟩
    exact hignored.trans (hfirst [_] _ [] _ (by simpa using hrate _ (by decide)) hbare)
  · exact (hsound _ (by simp [hrate, hdelay])).2 "3s" (by decide)
  · exact hperm _ _ (by simp [hrate, hdelay]) (by decide) (List.Perm.swap ..)

end Vigil.Attribute
