import Vigil.Proofs.Source.Header

/-!
# The source grammar is checked

The checks of the source grammar, rule by rule. They are computed by the kernel, so whatever changes
in a rule is checked again and no proof has to follow it.

* `sourceTable_sound`: the table of the source grammar tells truly of its rules.
* `again`: **what is read by the source grammar is read again**, as it was read and as it was
  written, wherever what it needs stays behind it.
-/

namespace Vigil.Source

open Grammar

/-! ## All rules -/

def bools : List Bool := [false, true]

def settings : List Setting :=
  bools.map .plain ++ .bound :: bools.flatMap (fun plus => bools.map (.type plus)) ++
    bools.map .trait ++ .argument :: bools.map .expression ++ bools.map .pattern

/-- The rules for paths. -/
def pathRules : List Rule :=
  settings.flatMap fun place => bools.flatMap fun qualified => bools.flatMap fun simple =>
    .segment place qualified simple :: bools.map (.pathRest place qualified simple)

/-- The rules for operators. -/
def operatorRules : List Rule :=
  bools.flatMap fun fields => [Reach.all, .logic, .compare].flatMap fun reach =>
    [Compared.no, .range, .yes].map (.operators fields reach)

/-- The rules with two ways to go on. -/
def pairedRules : List Rule :=
  bools.flatMap fun b => [.type b, .pattern b, .expression b, .unary b, .operand b, .implHead b] ++
    bools.flatMap fun c => [.bound b c, .objectBounds b c]

/-- The rules with one way to go on. -/
def singleRules : List Rule :=
  [.attribute, .arguments, .trailers, .conditional, .selection, .statements, .item, .implItem,
    .traitItem, .foreignItem, .useTree]

/-- All rules. -/
def allRules : List Rule :=
  singleRules ++ pairedRules ++ operatorRules ++ pathRules

theorem mem_bools (b : Bool) : b ∈ bools := by
  cases b <;> decide

theorem mem_settings (place : Setting) : place ∈ settings := by
  cases place with
  | bound | argument => decide
  | plain b | trait b | expression b | pattern b => cases b <;> decide
  | type plus binder => cases plus <;> cases binder <;> decide

theorem mem_pathRules (place : Setting) (qualified simple bare : Bool) :
    .segment place qualified simple ∈ pathRules ∧
      .pathRest place qualified simple bare ∈ pathRules := by
  have hmem {r : Rule} (h : r ∈ .segment place qualified simple ::
      bools.map (.pathRest place qualified simple)) : r ∈ pathRules :=
    List.mem_flatMap.2 ⟨_, mem_settings place, List.mem_flatMap.2 ⟨_, mem_bools qualified,
      List.mem_flatMap.2 ⟨_, mem_bools simple, h⟩⟩⟩
  exact ⟨hmem List.mem_cons_self,
    hmem (List.mem_cons_of_mem _ (List.mem_map_of_mem (mem_bools bare)))⟩

theorem mem_operatorRules (fields : Bool) (reach : Reach) (compared : Compared) :
    .operators fields reach compared ∈ operatorRules := by
  refine List.mem_flatMap.2 ⟨_, mem_bools fields, List.mem_flatMap.2 ⟨reach, ?_,
    List.mem_map_of_mem ?_⟩⟩
  · cases reach <;> decide
  · cases compared <;> decide

theorem mem_allRules (r : Rule) : r ∈ allRules := by
  simp only [allRules, List.mem_append]
  cases r with
  | segment place qualified simple => exact .inr (mem_pathRules place qualified simple false).1
  | pathRest place qualified simple bare => exact .inr (mem_pathRules place qualified simple bare).2
  | operators fields reach compared => exact .inl (.inr (mem_operatorRules fields reach compared))
  | type b | pattern b | expression b | unary b | operand b | implHead b =>
    exact .inl (.inl (.inr (by cases b <;> simp [pairedRules, bools])))
  | bound b c | objectBounds b c =>
    exact .inl (.inl (.inr (by cases b <;> cases c <;> simp [pairedRules, bools])))
  | _ => exact .inl (.inl (.inl (by simp [singleRules])))

/-! ## The checks -/

/-- What is known of the front of a rule. -/
def Rule.frontChecked (r : Rule) : Bool :=
  (!sourceTable.nullableOf (rules r) || sourceTable.nullable r) &&
    match sourceTable.heads r, sourceTable.headsOf (rules r) with
    | none, _ => true
    | some m, some n => Mask.within n m
    | some _, none => false

/-- What a rule carries along. -/
def Rule.crossingChecked (r : Rule) : Bool :=
  (sourceTable.crossings r).all fun c =>
    sourceTable.keeps rules 200 true (sourceTable.covers c.2) (rules r) c.1

/-- Whether a grammar is read again in front of what stays. -/
def Grammar.checked (g : Form) (written : Bool) (needs : List (Need Family)) : Bool :=
  sourceTable.steady rules 200 200 written (sourceTable.covers needs) g

/-- Whether what a rule writes is read by the same steps as what it reads. What stands behind the
word `impl` is not, where parameters are left out. -/
def Rule.direct : Rule → Bool
  | .implHead _ => false
  | _ => true

/-- What may be read instead behind the word `impl`: types, or parameters and types. -/
def headerChecked : Bool :=
  implTarget.strict.checked true (Rule.needs (.implHead false)) &&
    Grammar.checked (.cond (.two (.mark '<') (.mark '>')) .refuse
      (.seq (.cond .parameters parameterList .empty) implTarget.strict)) true
        (Rule.needs (.implHead false))

/-- Whether all is well with a rule. -/
def Rule.passes (r : Rule) : Bool :=
  r.frontChecked && r.crossingChecked && (rules r).checked r.direct r.needs

/-- The rules with one way to go on pass, and what may be read instead of a header. -/
theorem singleRules_pass : singleRules.all Rule.passes = true ∧ headerChecked = true := by
  constructor <;> decide +kernel

/-- All other rules pass. They are evaluated list by list, as each takes much room. -/
theorem otherRules_pass : pairedRules.all Rule.passes = true ∧
    operatorRules.all Rule.passes = true ∧ pathRules.all Rule.passes = true := by
  refine ⟨?_, ?_, ?_⟩ <;> decide +kernel

/-- All is well with every rule. -/
theorem passes (r : Rule) : r.passes = true := by
  obtain ⟨hpaired, hoperator, hpath⟩ := otherRules_pass
  have hr := mem_allRules r
  simp only [allRules, List.mem_append] at hr
  obtain ((hr | hr) | hr) | hr := hr
  · exact List.all_eq_true.1 singleRules_pass.1 r hr
  · exact List.all_eq_true.1 hpaired r hr
  · exact List.all_eq_true.1 hoperator r hr
  · exact List.all_eq_true.1 hpath r hr

theorem checked_of_rule (r : Rule) : r.frontChecked = true ∧ r.crossingChecked = true ∧
    (rules r).checked r.direct r.needs = true := by
  have h := passes r
  rwa [Rule.passes, Bool.and_eq_true, Bool.and_eq_true, and_assoc] at h

theorem checked_of_header : implTarget.strict.checked true (Rule.needs (.implHead false)) = true ∧
    Grammar.checked (.cond (.two (.mark '<') (.mark '>')) .refuse
      (.seq (.cond .parameters parameterList .empty) implTarget.strict)) true
        (Rule.needs (.implHead false)) = true := by
  have h := singleRules_pass.2
  rwa [headerChecked, Bool.and_eq_true] at h

/-! ## The table is sound -/

theorem sourceTable_fronts : sourceTable.Fronts rules := by
  have checked (r : Rule) := Bool.and_eq_true_iff.1 (checked_of_rule r).1
  constructor
  · intro r hnullable
    have := (checked r).1
    rwa [hnullable] at this
  · intro r m hm
    have := (checked r).2
    rw [hm] at this
    cases hn : sourceTable.headsOf (rules r) with
    | none =>
      rw [hn] at this
      exact nomatch this
    | some n =>
      rw [hn] at this
      exact ⟨n, rfl, this⟩

theorem sourceTable_crosses : sourceTable.Crosses rules := fun r c hc =>
  ⟨200, List.all_eq_true.1 (checked_of_rule r).2.1 c hc⟩

/-- What stands behind `impl` in a header that is written is read again, also where the parameters
were left out. -/
theorem header_repeats {m : Nat} (hagain : sourceTable.Again rules m) :
    sourceTable.Repeats rules m true (sourceTable.covers (Rule.needs (.implHead false)))
      (rules (.implHead false)) := by
  intro ts written rest text rest' hread htext hstays
  obtain ⟨-, rfl⟩ | htext := htext
  · obtain ⟨m, rfl⟩ := depth_of_read hread
    obtain ⟨hl, h⟩ | ⟨hl, h⟩ := read_cond.1 hread
    · -- What stands behind the brackets may begin like parameters now.
      obtain ⟨m, rfl⟩ := depth_of_read h
      obtain ⟨-, h, -⟩ | ⟨hno, -⟩ := read_replace.1 h
      · have htarget := read_mono h (Nat.le_succ_of_le m.le_succ)
        exact head_of_target (hagain checked_of_header.1 htarget (.inl ⟨rfl, rfl⟩) hstays)
      · exact nomatch hl.symm.trans hno
    · have hbehind := read_cond (g := .refuse).2 (.inr ⟨hl, h⟩)
      obtain ⟨k, hk⟩ := hagain checked_of_header.2 hbehind (.inl ⟨rfl, rfl⟩) hstays
      obtain ⟨k, rfl⟩ := depth_of_read hk
      obtain ⟨-, hrefuse⟩ | ⟨hno, hk⟩ := read_cond.1 hk
      · exact absurd ⟨k, hrefuse⟩ not_reads_refuse
      · exact ⟨k + 1, read_cond.2 (.inr ⟨hno, hk⟩)⟩
  · exact hagain (checked_of_rule (.implHead false)).2.2 hread (.inr htext) hstays

/-- **The table of the source grammar tells truly of its rules.** -/
theorem sourceTable_sound : sourceTable.Sound rules where
  fronts := sourceTable_fronts
  crosses := sourceTable_crosses
  stricts {r r'} h := by
    simp only [sourceTable] at h
    split at h
    · rfl
    · exact nomatch h
  steady r := by
    refine ⟨r.direct, 200, 200, (checked_of_rule r).2.2, fun hdirect hfaithful => ?_⟩
    cases r with
    | implHead loosely =>
      cases loosely with
      | true => exact nomatch hfaithful
      | false => exact fun _ => header_repeats
    | _ => exact nomatch hdirect

/-- **What is read by the source grammar is read again**, as it was read and as it was written,
wherever what it needs stays behind it. -/
theorem again {m fuel n : Nat} {w : Bool} {kept : Need Family → Bool} {g : Form}
    {ts written rest text rest' : List Token}
    (hsteady : sourceTable.steady rules fuel n w kept g = true)
    (hread : run rules m g ts = .read written rest) (htext : Copied w ts written rest text)
    (hstays : sourceTable.Stays kept rest rest') : Reads rules g (text ++ rest') written rest' :=
  (Table.again_of_sound sourceTable_sound m).1 hsteady hread htext hstays

end Vigil.Source
