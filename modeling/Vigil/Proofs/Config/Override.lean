import Vigil.Config.Load
import Vigil.Proofs.Config.Variable
import Mathlib.Data.List.Pairwise
import Mathlib.Data.List.Perm.Basic

/-!
# Variables over a file

Texts set at keys of which none leads on from another: each stands at its key whatever was in the
way, and no other key can tell.

* `put`, `putAll`: a tree with the texts of variables set in it.
* `get?_putAll_mem`, `get?_putAll_of_apart`: what stands at these keys, and at those apart from
  them.
* `Value.view`, `view_putAll_perm`: **what paths see of a tree does not depend on the order** in
  which the texts were set.
* `load_overridden`: all of this for the variables of the environment over any file.
-/

namespace Vigil.Config

open KeyPath

/-! ## A text set at a key -/

/-- Neither of two keys leads on from the other. -/
def Apart (k l : List String) : Prop := ¬ k <+: l ∧ ¬ l <+: k

instance (k l : List String) : Decidable (Apart k l) := inferInstanceAs (Decidable (_ ∧ _))

/-- The text of a variable as a value. -/
def variableText (s : String) : Value := .scalar (some Environment.origin) (.text s)

/-- The tree with the text of a variable set at a key. -/
def put (v : Value) (e : List String × String) : Value := (pathOf e.1).set (variableText e.2) v

variable {k l p : List String} {s : String} {v w : Value}

theorem put_cons (v : Value) (x : String) (k : List String) (s : String) :
    put v (x :: k, s) =
      .table v.tableOrigin (upsert x (fun old => put (old.getD .absent) (k, s)) v.entries) := rfl

theorem get?_cons (x : String) (p : KeyPath) (v : Value) :
    get? (.name x :: p) v = (v.entries.lookup x).bind (get? p) := by
  unfold get?
  rw [List.foldlM_cons]
  cases v <;> rfl

theorem get?_absent {p : KeyPath} (hp : p ≠ []) : get? p .absent = none := by
  cases p with
  | nil => exact absurd rfl hp
  | cons x p => cases x <;> rfl

/-- **The text stands at its key**, whatever was there or on the way. -/
theorem get?_put_self (v : Value) (k : List String) (s : String) :
    get? (pathOf k) (put v (k, s)) = some (variableText s) := by
  induction k generalizing v with
  | nil => rfl
  | cons x k ih =>
    rw [put_cons]
    show get? (.name x :: pathOf k) _ = _
    rw [get?_cons, Value.entries, lookup_upsert_self]
    exact ih _

/-- **A key apart from it leads where it led before.** -/
theorem get?_put_of_apart (h : Apart p k) (v : Value) (s : String) :
    get? (pathOf p) (put v (k, s)) = get? (pathOf p) v := by
  induction k generalizing p v with
  | nil => exact absurd List.nil_prefix h.2
  | cons x k ih =>
    cases p with
    | nil => exact absurd List.nil_prefix h.1
    | cons y p =>
      rw [put_cons]
      show get? (.name y :: pathOf p) _ = get? (.name y :: pathOf p) _
      rw [get?_cons, get?_cons, Value.entries]
      -- the keys part at the first name in which they differ
      by_cases hxy : y = x
      · subst hxy
        have hpk : Apart p k := by simpa [Apart, List.cons_prefix_cons] using h
        have hp : pathOf p ≠ [] := by
          rintro hnil
          obtain rfl : p = [] := List.map_eq_nil_iff.1 hnil
          exact hpk.1 List.nil_prefix
        rw [lookup_upsert_self, Option.bind_some, ih hpk]
        -- a table that was made on the way holds nothing else
        cases v.entries.lookup y with
        | none => exact get?_absent hp
        | some w => rfl
      · rw [lookup_upsert_of_ne hxy]

/-- The tree with the texts of variables set in it, one after the other. -/
def putAll (v : Value) (es : List (List String × String)) : Value := es.foldl put v

variable {es : List (List String × String)}

theorem get?_putAll_of_apart (h : ∀ e ∈ es, Apart p e.1) (v : Value) :
    get? (pathOf p) (putAll v es) = get? (pathOf p) v := by
  induction es generalizing v with
  | nil => rfl
  | cons e es ih =>
    have hrest := ih (fun e' he' => h e' (List.mem_cons_of_mem e he')) (put v e)
    exact hrest.trans (get?_put_of_apart (h e (List.mem_cons_self ..)) v e.2)

theorem get?_putAll_mem (h : es.Pairwise fun e e' => Apart e.1 e'.1) (v : Value)
    {e : List String × String} (he : e ∈ es) :
    get? (pathOf e.1) (putAll v es) = some (variableText e.2) := by
  induction es generalizing v with
  | nil => cases he
  | cons e₀ es ih =>
    obtain ⟨hfirst, hrest⟩ := List.pairwise_cons.1 h
    rcases List.mem_cons.1 he with rfl | he
    · exact (get?_putAll_of_apart hfirst (put v e)).trans (get?_put_self v e.1 e.2)
    · exact ih hrest (put v e₀) he

/-! ## Trees as paths see them -/

/-- A value without its parts. -/
inductive Outline
  | scalar (origin : Option String) (s : Scalar)
  | array (origin : Option String) (length : Nat)
  | table (origin : Option String)

/-- What a path sees of a value. -/
def Value.outline : Value → Outline
  | scalar o s => .scalar o s
  | array o vs => .array o vs.length
  | table o _ => .table o

/-- What each path sees of a tree. -/
def Value.view (v : Value) (p : KeyPath) : Option Outline := (get? p v).map Value.outline

/-- The source of a table that is seen. -/
def Outline.tableOrigin : Option Outline → Option String
  | some (.table o) => o
  | _ => none

/-- What paths see after something without parts was set at a key, from what they saw before. -/
def overlaid (o : Outline) : (k : List String) → (view : KeyPath → Option Outline) →
    KeyPath → Option Outline
  | [], _, [] => some o
  | [], _, _ :: _ => none
  | _ :: _, view, [] => some (.table (Outline.tableOrigin (view [])))
  | _ :: _, _, .position _ :: _ => none
  | x :: k, view, .name y :: p =>
    if y = x then overlaid o k (fun q => view (.name y :: q)) p else view (.name y :: p)

theorem view_cons (x : String) (p : KeyPath) (v : Value) :
    v.view (.name x :: p) = (v.entries.lookup x).bind (Value.view · p) := by
  unfold Value.view
  rw [get?_cons]
  cases v.entries.lookup x <;> rfl

theorem tableOrigin_view (v : Value) : Outline.tableOrigin (v.view []) = v.tableOrigin := by
  cases v <;> rfl

/-- What is set below a value that stands for nothing is set below nothing. -/
theorem overlaid_absent (o : Outline) (k : List String) (p : KeyPath) :
    overlaid o k (Value.view .absent) p = overlaid o k (fun _ => none) p := by
  cases k with
  | nil => cases p <;> rfl
  | cons x k =>
    rcases p with _ | ⟨_ | _, p⟩
    · rfl
    · rfl
    · rfl

/-- What paths see of a tree with a text set in it depends on what they saw of the tree. -/
theorem view_put (v : Value) (k : List String) (s : String) (p : KeyPath) :
    (put v (k, s)).view p = overlaid (variableText s).outline k v.view p := by
  induction k generalizing v p with
  | nil =>
    cases p with
    | nil => rfl
    | cons x p => cases x <;> rfl
  | cons x k ih =>
    rw [put_cons]
    rcases p with _ | ⟨y | i, p⟩
    · rw [overlaid, tableOrigin_view]
      rfl
    · rw [view_cons, Value.entries, overlaid]
      by_cases hyx : y = x
      · subst hyx
        rw [lookup_upsert_self, if_pos rfl, Option.bind_some, ih]
        have hview : (fun q => v.view (.name y :: q)) =
            fun q => (v.entries.lookup y).bind (Value.view · q) := funext fun q => view_cons y q v
        rw [hview]
        cases v.entries.lookup y with
        | none => exact overlaid_absent _ k p
        | some w => rfl
      · rw [lookup_upsert_of_ne hyx, if_neg hyx, view_cons]
    · rfl

/-- **Keys apart from each other can be set in either order.** -/
theorem overlaid_comm {o o' : Outline} (h : Apart k l) (view : KeyPath → Option Outline) :
    overlaid o k (overlaid o' l view) = overlaid o' l (overlaid o k view) := by
  induction k generalizing l view with
  | nil => exact absurd List.nil_prefix h.1
  | cons x k ih =>
    cases l with
    | nil => exact absurd List.nil_prefix h.2
    | cons y l =>
      funext p
      rcases p with _ | ⟨z | i, p⟩
      · rfl
      -- a path meets both texts only as far as the two keys go together
      · by_cases hx : z = x
        · subst hx
          by_cases hy : z = y
          · subst hy
            have hkl : Apart k l := by simpa [Apart, List.cons_prefix_cons] using h
            have hinner := congrFun (ih hkl fun q => view (.name z :: q)) p
            simpa only [overlaid, if_true] using hinner
          · simp only [overlaid, if_true, hy, if_false]
        · simp only [overlaid, hx, if_false]
      · rfl

theorem view_putAll (v : Value) (es : List (List String × String)) :
    (putAll v es).view =
      es.foldl (fun view e => overlaid (variableText e.2).outline e.1 view) v.view := by
  induction es generalizing v with
  | nil => rfl
  | cons e es ih =>
    refine (ih (put v e)).trans ?_
    have hview : (put v e).view = overlaid (variableText e.2).outline e.1 v.view :=
      funext fun p => view_put v e.1 e.2 p
    rw [List.foldl_cons, hview]

theorem Apart.symm (h : Apart k l) : Apart l k := ⟨h.2, h.1⟩

/-- **In whichever order variables are set**, paths see the same. -/
theorem view_putAll_perm {es' : List (List String × String)} (hperm : es.Perm es')
    (h : es.Pairwise fun e e' => Apart e.1 e'.1) (v : Value) :
    (putAll v es).view = (putAll v es').view := by
  rw [view_putAll, view_putAll]
  refine hperm.foldl_eq' ?_ v.view
  intro e he e' he' view
  by_cases hsame : e = e'
  · rw [hsame]
  · have hsymm : Std.Symm fun e e' : List String × String => Apart e.1 e'.1 :=
      ⟨fun _ _ => Apart.symm⟩
    exact overlaid_comm (h.forall he he' hsame).symm view

/-! ## Variables of the environment -/

/-- Those variables that set anything are the ones for these keys, with these values. -/
def Sets (named : List (String × String)) (overrides : List (List String × String)) : Prop :=
  ∃ order : List (List String × String), order.Perm overrides ∧
    (named.filter fun v => (Environment.key? v.1).isSome) =
      order.map fun e => (Environment.nameOf (spell e.1), e.2)

theorem entries_eq_filter (named : List (String × String)) :
    Environment.entries named =
      Environment.entries (named.filter fun v => (Environment.key? v.1).isSome) := by
  induction named with
  | nil => rfl
  | cons v named ih =>
    unfold Environment.entries at ih ⊢
    cases hkey : Environment.key? v.1 with
    | none => simp [Environment.entry?, hkey, ih]
    | some key => simp [Environment.entry?, hkey, ih]

theorem assign_spell {c : Config} (hk : Environment.Nameable k) (s : String) :
    c.assign (spell k) (variableText s) = ⟨put c.root (k, s)⟩ := by
  unfold Config.assign sourcePath
  rw [read?_spell hk.ne_nil hk.isName]
  rfl

/-- The entries of such variables are set one after the other. -/
theorem overlay_entries {c : Config} (hkeys : ∀ e ∈ es, Environment.Nameable e.1) :
    c.overlay (Environment.entries (es.map fun e => (Environment.nameOf (spell e.1), e.2))) =
      ⟨putAll c.root es⟩ := by
  induction es generalizing c with
  | nil => rfl
  | cons e es ih =>
    have he := hkeys e (List.mem_cons_self ..)
    have hentry : Environment.entry? (Environment.nameOf (spell e.1), e.2) =
        some (spell e.1, variableText e.2) := by
      rw [Environment.entry?, Environment.key?_nameOf he]
      rfl
    have htail := ih (c := c.assign (spell e.1) (variableText e.2))
      fun e' he' => hkeys e' (List.mem_cons_of_mem e he')
    rw [assign_spell he] at htail
    rw [Environment.entries, List.map_cons, List.filterMap_cons, hentry]
    refine Eq.trans ?_ htail
    show (c.assign (spell e.1) (variableText e.2)).overlay _ = _
    rw [assign_spell he]
    rfl

/-- What is loaded is the file with the texts set in it, in some order. -/
theorem load_of_sets {format : Format} {files : Files} {path : String} {c₀ : Config}
    (hfile : load format files path [] = .ok c₀) {named : List (String × String)}
    {overrides : List (List String × String)}
    (hkeys : ∀ e ∈ overrides, Environment.Nameable e.1) (hnamed : Sets named overrides) :
    ∃ order : List (List String × String), order.Perm overrides ∧
      load format files path named = .ok ⟨putAll c₀.root order⟩ := by
  obtain ⟨order, hperm, hfilter⟩ := hnamed
  refine ⟨order, hperm, ?_⟩
  unfold load at hfile ⊢
  cases hentries : fileEntries format files path with
  | error e => rw [hentries] at hfile; cases hfile
  | ok entries =>
    rw [hentries] at hfile
    obtain rfl : empty.overlay entries = c₀ := Except.ok.inj hfile
    rw [entries_eq_filter, hfilter]
    exact congrArg Except.ok (overlay_entries fun e he => hkeys e (hperm.mem_iff.1 he))

/-! ## What is asked -/

/-- Two configurations in which every path sees the same. -/
def Alike (c c' : Config) : Prop := c.root.view = c'.root.view

theorem asText_of_outline (h : v.outline = w.outline) (key : String) :
    (v.asText key).mapError ConfigError.message? =
      (w.asText key).mapError ConfigError.message? := by
  cases v with
  | scalar o s =>
    cases w with
    | scalar =>
      obtain ⟨rfl, rfl⟩ := Outline.scalar.inj h
      rfl
    | array | table => cases h
  | array o vs =>
    cases w with
    | array =>
      obtain ⟨rfl, -⟩ := Outline.array.inj h
      rfl
    | scalar | table => cases h
  | table o es =>
    cases w with
    | table =>
      obtain rfl := Outline.table.inj h
      rfl
    | scalar | array => cases h

/-- Alike configurations give the same texts, and errors with the same text. -/
theorem Alike.getText {c c' : Config} (h : Alike c c') (key : String) :
    (c.getText key).mapError ConfigError.message? =
      (c'.getText key).mapError ConfigError.message? := by
  unfold Config.getText Config.get
  cases hpath : KeyPath.read? key with
  | none => rfl
  | some path =>
    have hview : (get? path c.root).map Value.outline = (get? path c'.root).map Value.outline :=
      congrFun h path
    cases hv : get? path c.root with
    | none =>
      obtain hw : get? path c'.root = none := by simpa [hv] using hview.symm
      simp only [hv, hw]
    | some v =>
      rw [hv] at hview
      obtain ⟨w, hw, houtline⟩ := Option.map_eq_some_iff.1 hview.symm
      simp only [hv, hw]
      exact (asText_of_outline houtline key).symm

/-- What becomes of a configuration by texts set at these keys. -/
structure Overridden (overrides : List (List String × String)) (c₀ c : Config) : Prop where
  /-- Each text stands at its key. -/
  set : ∀ e ∈ overrides, c.getText (spell e.1) = .ok e.2
  /-- Every other key gives the text or the error that it gave before. -/
  others : ∀ p, p ≠ [] → (∀ x ∈ p, IsName x) → (∀ e ∈ overrides, Apart p e.1) →
    c.getText (spell p) = c₀.getText (spell p)

/-- **Variables override just their keys**, whatever a file holds there or on the way, and in
whichever order the environment gives them. -/
theorem load_overridden {format : Format} {files : Files} {path : String} {c₀ : Config}
    (hfile : load format files path [] = .ok c₀) {overrides : List (List String × String)}
    (hkeys : ∀ e ∈ overrides, Environment.Nameable e.1)
    (hapart : overrides.Pairwise fun e e' => Apart e.1 e'.1) {named : List (String × String)}
    (hnamed : Sets named overrides) :
    ∃ c, load format files path named = .ok c ∧ Overridden overrides c₀ c ∧
      ∀ named', Sets named' overrides →
        ∃ c', load format files path named' = .ok c' ∧ Alike c c' := by
  obtain ⟨order, hperm, hload⟩ := load_of_sets hfile hkeys hnamed
  have horder : order.Pairwise fun e e' => Apart e.1 e'.1 := hapart.perm hperm.symm Apart.symm
  refine ⟨_, hload, ⟨?_, ?_⟩, ?_⟩
  · intro e he
    rw [getText_spell (hkeys e he).ne_nil (hkeys e he).isName,
      get?_putAll_mem horder _ (hperm.mem_iff.2 he)]
    rfl
  · intro p hne hp h
    rw [getText_spell hne hp, getText_spell hne hp,
      get?_putAll_of_apart fun e he => h e (hperm.mem_iff.1 he)]
  · intro named' hnamed'
    obtain ⟨order', hperm', hload'⟩ := load_of_sets hfile hkeys hnamed'
    exact ⟨_, hload', view_putAll_perm (hperm.trans hperm'.symm) horder _⟩

/-- A number gives way to a table, an empty text is one, and a variable without the mark is
none. -/
theorem number_overridden : ∃ c₀,
    load .toml (.ofList [("a.toml", "p = 1")]) "a.toml" [] = .ok c₀ ∧
      ∃ c, load .toml (.ofList [("a.toml", "p = 1")]) "a.toml"
          [("HOME", "/"), ("APP_S", "é"), ("APP_P__R_", "")] = .ok c ∧
        Overridden [(["p", "r_"], ""), (["s"], "é")] c₀ c := by
  have hfind : (Files.ofList [("a.toml", "p = 1")]).find? "a.toml" Format.toml.endings =
      some (["a.toml"], "p = 1") := by rfl
  have hentries : Toml.Document.entries? (some "a.toml") "p = 1" =
      some [("p", .scalar (some "a.toml") (.int 1))] := by rfl
  have hread : fileEntries .toml (.ofList [("a.toml", "p = 1")]) "a.toml" =
      .ok [("p", .scalar (some "a.toml") (.int 1))] := by
    have hmark : withoutMark "p = 1" = "p = 1" := by rfl
    have hrender : Path.render ["a.toml"] = "a.toml" := by rfl
    unfold fileEntries
    simp only [hfind, hmark, hrender, Format.entries?, hentries]
  have hfile : load .toml (.ofList [("a.toml", "p = 1")]) "a.toml" [] =
      .ok (empty.overlay [("p", .scalar (some "a.toml") (.int 1))]) := by
    rw [load, hread]
    rfl
  have hkeys : ∀ e ∈ [(["p", "r_"], ""), (["s"], "é")], Environment.Nameable e.1 :=
    List.forall_mem_cons.2 ⟨⟨by decide, by decide, by decide, by decide⟩,
      List.forall_mem_singleton.2 ⟨by decide, by decide, by decide, by decide⟩⟩
  have hnamed : Sets [("HOME", "/"), ("APP_S", "é"), ("APP_P__R_", "")]
      [(["p", "r_"], ""), (["s"], "é")] :=
    ⟨[(["s"], "é"), (["p", "r_"], "")], by decide, by rfl⟩
  obtain ⟨c, hload, hc, -⟩ := load_overridden hfile hkeys (by decide) hnamed
  exact ⟨_, hfile, c, hload, hc⟩

end Vigil.Config
