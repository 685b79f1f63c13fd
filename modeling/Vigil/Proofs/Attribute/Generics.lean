import Vigil.Proofs.Attribute.Companion

/-!
# Parameters of a block and its companion

The block behind an attribute may declare parameters between angle brackets, for its type to
mention. The companion is for the very same type, and declares nothing.

* `Declares`: the names that a block declares, as its parameters are read one after the other.
* `name_of_parameter`, `declares_of_block`: every parameter has a name, and every block declares its
  names and no others.
* `companion_binds_iff`: **the companion binds the parameters it mentions just when it mentions
  none**.
* `generic_unbound`: a block whose companion mentions one.
-/

namespace Vigil.Source

open Grammar

/-! ## The names that a block declares -/

/-- The name of the parameter that comes next. -/
def parameterName? : List Token → Option String
  | .mark '#' _ :: .group .bracket _ :: ts => parameterName? ts
  | .word "const" :: .word name :: _ => some name
  | .word name :: _ => some name
  | .lifetime name :: _ => some name
  | _ => none

/-- **The names of the parameters** up to the closing bracket. -/
inductive Names : List Token → List String → Prop
  | close {i : Bool} {rest : List Token} : Names (.mark '>' i :: rest) []
  | last {n : Nat} {ts item rest : List Token} {i : Bool} {name : String}
      (hopen : (Look.mark '>').holds ts = false) (hname : parameterName? ts = some name)
      (hread : run rules n parameter ts = .read item (.mark '>' i :: rest)) : Names ts [name]
  | next {n : Nat} {ts item mid : List Token} {i : Bool} {name : String} {names : List String}
      (hopen : (Look.mark '>').holds ts = false) (hname : parameterName? ts = some name)
      (hread : run rules n parameter ts = .read item (.mark ',' i :: mid))
      (h : Names mid names) : Names ts (name :: names)

/-- **The names that a block declares**: those of the parameters behind the word `impl`. -/
inductive Declares (ts : List Token) : List String → Prop
  | none {n : Nat} {start rest : List Token} (hstart : run rules n blockStart ts = .read start rest)
      (h : Look.parameters.holds rest = false) : Declares ts []
  | some {n : Nat} {start rest : List Token} {i : Bool} {names : List String}
      (hstart : run rules n blockStart ts = .read start (.mark '<' i :: rest))
      (h : Look.parameters.holds (.mark '<' i :: rest) = true) (hnames : Names rest names) :
      Declares ts names

variable {n m : Nat} {g : Form} {ts written rest written' rest' : List Token}
  {names names' : List String}

/-- A reading that takes a token first: the token, and the reading behind it. -/
theorem token_of_seq {k : Class} (h : run rules n (.seq (.take k) g) ts = .read written rest) :
    ∃ t us m more, ts = t :: us ∧ k.holds t = true ∧ run rules m g us = .read more rest := by
  obtain ⟨n, rfl⟩ := depth_of_read h
  obtain ⟨_, _, more, hfirst, hmore, -⟩ := read_seq.1 h
  obtain ⟨t, rfl, ht, -⟩ := token_of_take hfirst
  exact ⟨t, _, n, more, rfl, ht, hmore⟩

/-- A reading with a question is one of its branches. -/
theorem branch_of_cond {l : Look} {g' : Form}
    (h : run rules n (.cond l g g') ts = .read written rest) :
    (l.holds ts = true ∧ run rules n g ts = .read written rest) ∨
      (l.holds ts = false ∧ run rules n g' ts = .read written rest) := by
  obtain ⟨n, rfl⟩ := depth_of_read h
  exact (read_cond.1 h).imp (.imp_right fun h => read_mono h (Nat.le_succ n))
    (.imp_right fun h => read_mono h (Nat.le_succ n))

theorem Names.unique (h : Names ts names) (h' : Names ts names') : names = names' := by
  have hclosed {i : Bool} {us : List Token} :
      (Look.mark '>').holds (.mark '>' i :: us) ≠ false := by
    simp [Look.mark, Look.one, Look.holds, Class.holds]
  induction h generalizing names' with
  | close =>
    cases h' with
    | close => rfl
    | last hopen | next hopen => exact absurd hopen hclosed
  | last hopen hname hread =>
    cases h' with
    | close => exact absurd hopen hclosed
    | last _ hname' => rw [Option.some.inj (hname.symm.trans hname')]
    | next _ _ hread' => simpa using (read_unique hread hread').2
  | next hopen hname hread h ih =>
    cases h' with
    | close => exact absurd hopen hclosed
    | last _ _ hread' => simpa using (read_unique hread hread').2
    | next _ hname' hread' h' =>
      obtain ⟨-, hmid⟩ := List.cons.inj (read_unique hread hread').2
      rw [Option.some.inj (hname.symm.trans hname'), ih (hmid ▸ h')]

theorem Declares.unique (h : Declares ts names) (h' : Declares ts names') : names = names' := by
  cases h with
  | none hstart hnone =>
    cases h' with
    | none => rfl
    | some hstart' hsome =>
      rw [← (read_unique hstart hstart').2, hnone] at hsome
      cases hsome
  | some hstart hsome hnames =>
    cases h' with
    | none hstart' hnone =>
      rw [← (read_unique hstart hstart').2, hsome] at hnone
      cases hnone
    | some hstart' _ hnames' =>
      obtain ⟨-, hrest⟩ := List.cons.inj (read_unique hstart hstart').2
      exact hnames.unique (hrest ▸ hnames')

/-- The attributes in front of a parameter do not bear its name. -/
theorem name_of_attributes (h : run rules n outerAttributes ts = .read written rest) :
    parameterName? ts = parameterName? rest := by
  induction n generalizing ts written with
  | zero => simp [run] at h
  | succ n ih =>
    obtain ⟨-, -, rfl⟩ | ⟨-, first, mid, second, hread, hmore, -⟩ := read_many.1 h
    · rfl
    · obtain ⟨n, rfl⟩ := depth_of_read hread
      obtain ⟨_, _, _, hmark, hgroup, -⟩ := read_seq.1 hread
      obtain ⟨_, rfl, hhash, -⟩ := token_of_take hmark
      obtain ⟨_, rfl⟩ := Class.mark_holds.1 hhash
      obtain ⟨_, rfl⟩ := depth_of_read hgroup
      obtain ⟨_, _, rfl, -, -⟩ := read_inside.1 hgroup
      have hmid := ih hmore
      exact hmid

/-- **Every parameter has a name.** -/
theorem name_of_parameter (h : run rules n parameter ts = .read written rest) :
    ∃ name, parameterName? ts = some name := by
  obtain ⟨n, rfl⟩ := depth_of_read h
  obtain ⟨_, mid, _, hattributes, h, -⟩ := read_seq.1 h
  rw [name_of_attributes hattributes]
  obtain ⟨-, h⟩ | ⟨-, h⟩ := branch_of_cond h
  · obtain ⟨t, _, _, _, rfl, ht, -⟩ := token_of_seq h
    cases t with
    | lifetime name => exact ⟨name, rfl⟩
    | _ => cases ht
  obtain ⟨-, h⟩ | ⟨-, h⟩ := branch_of_cond h
  · obtain ⟨t, _, _, _, rfl, ht, -⟩ := token_of_seq h
    cases t with
    | word name =>
      have hconst : name ≠ "const" := by
        rintro rfl
        exact Bool.false_ne_true ht
      exact ⟨name, by simp [parameterName?, hconst]⟩
    | _ => cases ht
  obtain ⟨-, h⟩ | ⟨-, h⟩ := branch_of_cond h
  · obtain ⟨_, _, _, _, rfl, ht, hmore⟩ := token_of_seq h
    obtain rfl := Class.word_holds.1 ht
    obtain ⟨t, _, _, _, rfl, ht, -⟩ := token_of_seq hmore
    cases t with
    | word name => exact ⟨name, rfl⟩
    | _ => cases ht
  · obtain ⟨_, rfl, ht, -⟩ := token_of_take h
    obtain rfl := Class.word_holds.1 ht
    exact ⟨"_", by simp [parameterName?]⟩

/-- Parameters that were read have names. -/
theorem names_of_angles {before : Angles}
    (h : run rules n (.angles parameter before) ts = .read written rest) :
    ∃ names, Names ts names := by
  induction n generalizing ts before written with
  | zero => simp [run] at h
  | succ n ih =>
    obtain ⟨i, rfl, -⟩ | ⟨hopen, ⟨item, i, hread, -⟩ | ⟨item, i, mid, hread, hmore⟩⟩ :=
      read_angles.1 h
    · exact ⟨[], .close⟩
    · obtain ⟨name, hname⟩ := name_of_parameter hread
      exact ⟨_, .last hopen hname hread⟩
    · obtain ⟨name, hname⟩ := name_of_parameter hread
      obtain ⟨names, hnames⟩ := ih hmore
      exact ⟨_, .next hopen hname hread hnames⟩

theorem names_of_parameters (h : Reads rules parameterList ts written rest) :
    ∃ i us names, ts = .mark '<' i :: us ∧ Names us names := by
  obtain ⟨_, us, _, hopen, ⟨n, hangles⟩, -⟩ := reads_seq.1 h
  obtain ⟨i, rfl, -⟩ := reads_mark.1 hopen
  obtain ⟨names, hnames⟩ := names_of_angles hangles
  exact ⟨i, us, names, rfl, hnames⟩

/-- **Every block declares its names**, if only none, and no others. -/
theorem declares_of_block {block : ImplBlock} (h : ImplBlock.ofTokens? ts = some block) :
    ∃ names, ∀ own, Declares ts own ↔ own = names := by
  suffices hsome : ∃ names, Declares ts names by
    obtain ⟨names, hnames⟩ := hsome
    exact ⟨names, fun own => ⟨fun hown => hown.unique hnames, fun hown => hown ▸ hnames⟩⟩
  obtain ⟨_, _, _, _, _, _, hstart, -⟩ := ImplBlock.ofTokens?_eq_some.1 h
  obtain ⟨_, mid, _, ⟨n, hfront⟩, hparameters, -⟩ := reads_blockFront.1 hstart
  cases hlook : Look.parameters.holds mid with
  | true =>
    have hbrackets : (Look.two (.mark '<') (.mark '>')).holds mid = false :=
      Verdict.of_isNo (v := Look.parameters.settles _) (by decide) (Look.fits_settles hlook)
    obtain ⟨_, _, _, hopt, -, -⟩ := reads_seq.1 ((reads_cond_of_not hbrackets).1 hparameters)
    obtain ⟨i, us, names, rfl, hnames⟩ := names_of_parameters ((reads_cond_of_holds hlook).1 hopt)
    exact ⟨names, .some hfront hlook hnames⟩
  | false => exact ⟨[], .none hfront hlook⟩

end Vigil.Source

namespace Vigil.Attribute

open Source Grammar

/-! ## The companion declares nothing -/

/-- Right behind the word `impl` of a companion comes the trait, so it has no parameters. -/
theorem declares_metadata {subject : List Token} {t : AnnotatedTiming} {own : List String} :
    Declares (metadata subject t).tokens own ↔ own = [] := by
  have hnone : Declares (metadata subject t).tokens [] := by
    rw [metadata_tokens, List.append_assoc]
    generalize subject ++ [.group .brace (metadata subject t).body] = rest
    have hstart : run rules 10 blockStart (.word "impl" :: (metadataTrait ++ rest)) =
        .read [.word "impl"] (metadataTrait ++ rest) := rfl
    exact .none hstart rfl
  exact ⟨fun hown => hown.unique hnone, fun hown => hown ▸ hnone⟩

/-- **A block binds these names** where it mentions them: it declares each of them that is a word
of the type it is for. -/
def Binds (b : ImplBlock) (names : List String) : Prop :=
  ∀ own, Declares b.tokens own → ∀ p ∈ names, p ∈ Token.words b.subject → p ∈ own

theorem binds_metadata_iff {subject : List Token} {t : AnnotatedTiming} {names : List String} :
    Binds (metadata subject t) names ↔ ∀ p ∈ names, p ∉ Token.words subject := by
  constructor
  · intro h p hp hmention
    exact List.not_mem_nil (h [] (declares_metadata.2 rfl) p hp hmention)
  · intro h own _ p hp hmention
    exact absurd hmention (h p hp)

/-- **Parameters of an annotated block.** For every accepted attribute the item declares certain
names, the block behind it is for the same type and declares none, whatever the item declares, and
so it binds the parameters that it mentions just when the type mentions none. -/
theorem companion_binds_iff {arguments item : String} {block : ImplBlock} {t : AnnotatedTiming}
    (h : expand arguments item = .expanded block t) :
    ∃ ts names, tokens? item = some ts ∧ ImplBlock.ofTokens? ts = some block ∧
      (∀ own, Declares ts own ↔ own = names) ∧
      let companion := metadata block.subject t
      (expand arguments item).tokens? = some (block.tokens ++ companion.tokens) ∧
      companion.subject = block.subject ∧
      (∀ own, Declares companion.tokens own ↔ own = []) ∧
      (Binds companion names ↔ ∀ p ∈ names, p ∉ Token.words block.subject) := by
  obtain ⟨-, hblock⟩ := expand_eq_expanded_iff.1 h
  obtain ⟨ts, hts, hblock⟩ := Option.bind_eq_some_iff.1 hblock
  obtain ⟨names, hnames⟩ := declares_of_block hblock
  refine ⟨ts, names, hts, hblock, hnames, ?_, rfl, fun _ => declares_metadata,
    binds_metadata_iff⟩
  rw [h, Expansion.tokens?]

/-! ## Blocks with parameters -/

theorem timing_of_number :
    (Argument.ofText? "fixed_rate = 5").map timing = some (.ok ⟨"10s", "5"⟩) := by
  rw [arguments_of_number]
  rfl

/-- A block with a parameter that only its trait mentions. -/
def borrowing : List Token :=
  [.word "impl", .mark '<' true, .lifetime "'a", .mark '>' false, .word "A", .mark '<' true,
    .lifetime "'a", .mark '>' false, .word "for", .word "Foo", .group .brace []]

/-- A block with a parameter that its type mentions. -/
def generic : List Token :=
  [.word "impl", .mark '<' false, .word "T", .mark '>' false, .word "Foo", .mark '<' false,
    .word "T", .mark '>' false, .group .brace []]

theorem declares_borrowing : Declares borrowing ["'a"] := by
  have hstart : run rules 10 blockStart borrowing = .read [.word "impl"] (borrowing.drop 1) := rfl
  exact .some hstart rfl (.last (n := 10) rfl rfl rfl)

theorem declares_generic : Declares generic ["T"] := by
  have hstart : run rules 10 blockStart generic = .read [.word "impl"] (generic.drop 1) := rfl
  exact .some hstart rfl (.last (n := 10) rfl rfl rfl)

/-- A parameter that the type does not mention is no matter for the companion. -/
theorem borrowing_bound :
    ∃ block t, expand "fixed_rate = 5" "impl<'a> A<'a> for Foo \x7b\x7d" = .expanded block t ∧
      Binds (metadata block.subject t) ["'a"] := by
  have hitem : tokens? "impl<'a> A<'a> for Foo \x7b\x7d" = some borrowing := by rfl
  have hblock : (tokens? "impl<'a> A<'a> for Foo \x7b\x7d").bind ImplBlock.ofTokens? =
      some ⟨borrowing.take 9, [.word "Foo"], [], []⟩ := by
    rw [hitem]
    rfl
  have hexpand := expand_eq_expanded_iff.2 ⟨timing_of_number, hblock⟩
  obtain ⟨ts, names, hts, -, hnames, -, -, -, hbinds⟩ := companion_binds_iff hexpand
  obtain rfl := Option.some.inj (hitem.symm.trans hts)
  obtain rfl := (hnames _).1 declares_borrowing
  exact ⟨_, _, hexpand, hbinds.2 (by decide)⟩

/-- **The parameter of an accepted block is unbound behind it.** -/
theorem generic_unbound :
    ∃ block t, expand "fixed_rate = 5" "impl<T> Foo<T> \x7b\x7d" = .expanded block t ∧
      tokens? "impl<T> Foo<T> \x7b\x7d" = some generic ∧ Declares generic ["T"] ∧
      ¬ Binds (metadata block.subject t) ["T"] := by
  have hitem : tokens? "impl<T> Foo<T> \x7b\x7d" = some generic := by rfl
  have hblock : (tokens? "impl<T> Foo<T> \x7b\x7d").bind ImplBlock.ofTokens? =
      some ⟨generic.take 4, (generic.drop 4).take 4, [], []⟩ := by
    rw [hitem]
    rfl
  refine ⟨_, _, expand_eq_expanded_iff.2 ⟨timing_of_number, hblock⟩, hitem, declares_generic, ?_⟩
  intro hbinds
  exact binds_metadata_iff.1 hbinds "T" (by decide) (by decide)

end Vigil.Attribute
