import Vigil.Proofs.Attribute.Respelling
import Vigil.Proofs.Attribute.Timing
import Vigil.Proofs.Config.Part
import Vigil.Proofs.Source.Layout
import Vigil.Proofs.Source.Reading

/-!
# Arguments as they are laid out

The text between the parentheses of an attribute: names of parameters with literals behind equals
signs, commas between them, and blanks and comments anywhere. It is read as the arguments that it
spells, so one literal can be exchanged for another without any effect but that of its value.

* `Written`: the spelling of a value.
* `Assigns`: the text of a list of arguments.
* `ofText?_of_assigns`: **such a text is read as these arguments**.
* `Place`: where the literal stands that decides one part of the timing.
* `Place.expand`: **what a literal at such a place does** to the outcome.
-/

namespace Vigil.Attribute

open Source Grammar
open Literal (Ends Spells)

/-! ## Values and arguments in a text -/

/-- The spelling of a value: of a whole number in any base and with any suffix, or of a text. -/
inductive Written : List Char → Value → Prop
  | integer {l : List Char} {n : Nat} {suffix : List Char} (h : Spells l (.integer n suffix)) :
    Written l (.integer false n)
  | text {l : List Char} {s : String} (h : Spells l (.text s)) : Written l (.text s)

/-- The text of an argument for a parameter, up to the end of its value. -/
inductive Assignment : List Char → Argument → Prop
  | assign {g₁ g₂ g₃ l : List Char} {v : Value} (p : Part) (hg₁ : Gap g₁) (hg₂ : Gap g₂)
    (hg₃ : Gap g₃) (hl : Written l v) :
    Assignment (g₁ ++ (p.parameter.toList ++ (g₂ ++ '=' :: (g₃ ++ l))))
      (.assign (.plain p.parameter) v)

/-- **The text of arguments**, with commas between them and possibly behind the last one. -/
inductive Assigns : List Char → List Argument → Prop
  | none {g : List Char} (hg : Gap g) : Assigns g []
  | last {cs g : List Char} {a : Argument} (h : Assignment cs a) (hg : Gap g) :
    Assigns (cs ++ g) [a]
  | more {cs g rest : List Char} {a : Argument} {args : List Argument} (h : Assignment cs a)
    (hg : Gap g) (hrest : Assigns rest args) : Assigns (cs ++ (g ++ ',' :: rest)) (a :: args)

/-- Arguments that others follow, each with a comma behind it. -/
inductive Leads : List Char → List Argument → Prop
  | nil : Leads [] []
  | more {cs g rest : List Char} {a : Argument} {args : List Argument} (h : Assignment cs a)
    (hg : Gap g) (hrest : Leads rest args) : Leads (cs ++ (g ++ ',' :: rest)) (a :: args)

/-- What follows a value: nothing, or a comma and arguments. -/
inductive Trails : List Char → List Argument → Prop
  | last {g : List Char} (hg : Gap g) : Trails g []
  | more {g rest : List Char} {args : List Argument} (hg : Gap g) (hrest : Assigns rest args) :
    Trails (g ++ ',' :: rest) args

/-- **A place for the literal of one part of the timing**: in front of it stand the name of that
part and an equals sign, possibly behind other arguments. No later argument is for the same part,
and some argument gives a rate. -/
inductive Place (p : Part) : List Char → List Char → Prop
  | behind {front g₁ g₂ g₃ back : List Char} {before after : List Argument}
    (hfront : Leads front before) (hg₁ : Gap g₁) (hg₂ : Gap g₂) (hg₃ : Gap g₃)
    (hback : Trails back after) (hlast : ∀ a ∈ after, a.path ≠ .plain p.parameter)
    (hrate : p = .rate ∨ ∃ a ∈ before ++ after, a.path = .plain Part.rate.parameter) :
    Place p (front ++ (g₁ ++ (p.parameter.toList ++ (g₂ ++ '=' :: g₃)))) back

variable {cs rest g front back l : List Char} {a : Argument} {args before after : List Argument}
  {ts : List Token} {v : Value} {p : Part}

theorem Written.exists_spells (h : Written l v) :
    ∃ w, Spells l w ∧ v = .ofLiteral false ⟨String.ofList l, w⟩ ∧ v ≠ .other := by
  cases h with
  | integer h => exact ⟨_, h, rfl, by simp⟩
  | text h => exact ⟨_, h, rfl, by simp⟩

theorem Assignment.sound (h : Assignment cs a) : a.Sound := by
  obtain ⟨p, -, -, -, hl⟩ := h
  obtain ⟨-, -, -, hv⟩ := hl.exists_spells
  rintro e ⟨⟩
  · rename_i hunknown
    exact hunknown p.parameter (by cases p <;> decide) rfl
  · exact hv rfl

theorem Assigns.sound (h : Assigns cs args) : ∀ a ∈ args, a.Sound := by
  induction h with
  | none hg => simp
  | last h hg => simpa using h.sound
  | more h hg hrest ih => exact List.forall_mem_cons.2 ⟨h.sound, ih⟩

/-! ## From the text to tokens -/

/-- The name of a parameter in front of the other tokens. -/
theorem lexes_parameter (p : Part) (h : Lexes rest ts) (hg : Gap g)
    (hrest : ∀ d ∈ rest.head?, Text.isIdentifierRest d = false) :
    Lexes (g ++ (p.parameter.toList ++ rest)) (.word p.parameter :: ts) := by
  cases p with
  | delay =>
    exact h.word hg "nitial_delay".toList hrest (show Text.isIdentifierStart 'i' = true from rfl)
      rfl rfl (by decide)
  | rate =>
    exact h.word hg "ixed_rate".toList hrest (show Text.isIdentifierStart 'f' = true from rfl)
      rfl rfl (by decide)

/-- An argument is a name, an equals sign and a literal. -/
theorem Assignment.lexes (h : Assignment cs a) (hts : Lexes rest ts) (hrest : Ends rest) :
    ∃ p joint l, a = .assign (.plain (Part.parameter p)) (.ofLiteral false l) ∧
      Lexes (cs ++ rest) (.word p.parameter :: .mark '=' joint :: .literal l :: ts) := by
  obtain ⟨p, hg₁, hg₂, hg₃, hl⟩ := h
  rename_i g₁ g₂ g₃ l v
  obtain ⟨w, hspells, rfl, -⟩ := hl.exists_spells
  obtain ⟨joint, hmark⟩ := (hts.literal hg₃ hspells hrest).mark hg₂ (c := '=') (by decide)
  have hends : ∀ d ∈ (g₂ ++ '=' :: (g₃ ++ (l ++ rest))).head?, Text.isIdentifierRest d = false := by
    intro d hd
    cases g₂ with
    | nil =>
      obtain rfl : '=' = d := by simpa using hd
      rfl
    | cons e g₂ => exact (hg₂.ends d hd).apart.1
  refine ⟨p, joint, _, rfl, ?_⟩
  have hname := lexes_parameter p hmark hg₁ hends
  simpa only [List.append_assoc, List.cons_append] using hname

/-- What follows an argument: nothing, or a comma and the other arguments. -/
inductive Follow : List Token → Prop
  | nothing : Follow []
  | comma (joint : Bool) (more : List Token) : Follow (.mark ',' joint :: more)

/-- **A name, an equals sign and a literal are read as an argument.** -/
theorem readArgument?_assignment (p : Part) (joint : Bool) (l : Literal) (hts : Follow ts) :
    readArgument? (.word p.parameter :: .mark '=' joint :: .literal l :: ts) =
      some (.assign (.plain p.parameter) (.ofLiteral false l), ts) := by
  have hpath : readPath? (.word p.parameter :: .mark '=' joint :: .literal l :: ts) =
      some (.plain p.parameter, .mark '=' joint :: .literal l :: ts) := by
    have hshallow : run rules 30 modulePath
        (.word p.parameter :: .mark '=' joint :: .literal l :: ts) =
          .read [.word p.parameter] (.mark '=' joint :: .literal l :: ts) := by
      cases p <;> cases joint <;> rfl
    have hread : modulePath.read (.word p.parameter :: .mark '=' joint :: .literal l :: ts) = _ :=
      read_mono hshallow (by omega)
    unfold readPath?
    split
    · next heq => cases p <;> simp [Part.parameter] at heq
    · rw [hread]
      rfl
  have hvalue : readValue? (.literal l :: ts) = some (.ofLiteral false l, ts) := by
    have hshallow : run rules 60 (expression true) (.literal l :: ts) = .read [.literal l] ts := by
      cases hts with
      | nothing => rfl
      | comma joint more => cases joint <;> rfl
    have hread : (expression true).read (.literal l :: ts) = .read [.literal l] ts :=
      read_mono hshallow (by omega)
    unfold readValue?
    simp only [hread]
  simp only [readArgument?, hpath, hvalue, Option.map_some]

/-- **A text of arguments is read as these arguments.** -/
theorem ofText?_of_assigns (h : Assigns cs args) :
    Argument.ofText? (String.ofList cs) = some args := by
  -- each argument has tokens of its own, so their number bounds that of the arguments
  have htokens : ∃ ts, Lexes cs ts ∧
      ∀ limit, ts.length ≤ limit → readArguments? limit ts = some args := by
    induction h with
    | none hg => exact ⟨[], .gap hg, fun limit _ => by cases limit <;> rfl⟩
    | last h hg =>
      obtain ⟨p, joint, l, rfl, hlexes⟩ := h.lexes (.gap hg) hg.ends
      refine ⟨_, hlexes, fun limit hlimit => ?_⟩
      obtain ⟨limit, rfl⟩ : ∃ k, limit = k + 1 := ⟨limit - 1, by simp at hlimit; omega⟩
      simp only [readArguments?, readArgument?_assignment p joint l .nothing]
    | more h hg hrest ih =>
      obtain ⟨ts, hts, hread⟩ := ih
      obtain ⟨comma, hcomma⟩ := hts.mark hg (c := ',') (by decide)
      obtain ⟨p, joint, l, rfl, hlexes⟩ := h.lexes hcomma
        (hg.ends_append (by simp [Ends, Literal.Separates]))
      refine ⟨_, hlexes, fun limit hlimit => ?_⟩
      obtain ⟨limit, rfl⟩ : ∃ k, limit = k + 1 := ⟨limit - 1, by simp at hlimit; omega⟩
      have hmore : readArguments? limit ts = some _ := hread limit (by simp at hlimit; omega)
      simp only [readArguments?, readArgument?_assignment p joint l (.comma comma ts), hmore,
        Option.map_some]
  obtain ⟨ts, hlexes, hread⟩ := htokens
  rw [Argument.ofText?, tokens?_of_lexes hlexes]
  exact hread _ (Nat.le_refl _)

/-! ## Where a literal stands -/

/-- An argument with those in front of it and behind it. -/
theorem Leads.assigns (hfront : Leads front before) (h : Assignment cs a)
    (hback : Trails back after) : Assigns (front ++ (cs ++ back)) (before ++ a :: after) := by
  induction hfront with
  | nil =>
    rw [List.nil_append, List.nil_append]
    cases hback with
    | last hg => exact .last h hg
    | more hg hrest => exact .more h hg hrest
  | more hb hg hrest ih => simpa only [List.append_assoc, List.cons_append] using ih.more hb hg

/-- Whichever literal stands at a place, the arguments around it are the same. -/
theorem Place.assigns (h : Place p front back) :
    ∃ before after,
      (∀ {l v}, Written l v →
        Assigns (front ++ (l ++ back)) (before ++ .assign (.plain p.parameter) v :: after)) ∧
      (∀ a ∈ after, a.path ≠ .plain p.parameter) ∧
      (p = .rate ∨ ∃ a ∈ before ++ after, a.path = .plain Part.rate.parameter) := by
  obtain ⟨hfront, hg₁, hg₂, hg₃, hback, hlast, hrate⟩ := h
  refine ⟨_, _, fun {l v} hl => ?_, hlast, hrate⟩
  have hall := hfront.assigns (.assign p hg₁ hg₂ hg₃ hl) hback
  simpa only [List.append_assoc, List.cons_append] using hall

theorem lastText?_append (q : String) (before after : List Argument) :
    lastText? q (before ++ after) = (lastText? q after).or (lastText? q before) := by
  simp [lastText?, List.filterMap_append, List.getLast?_append]

/-- An argument for one parameter is no text for another. -/
theorem lastText?_of_ne {q : String} (hq : q ≠ p.parameter) (v : Value)
    (before after : List Argument) :
    lastText? q (before ++ .assign (.plain p.parameter) v :: after) =
      lastText? q (before ++ after) := by
  have hnone : (Argument.assign (.plain p.parameter) v).text? q = none := by
    simp [Argument.text?, Path.plain, Ne.symm hq]
  rw [lastText?_append, lastText?_cons, hnone, Option.or_none, lastText?_append]

/-- The last argument for a parameter gives its text. -/
theorem lastText?_of_last {s : String} (hsound : ∀ a ∈ after, a.Sound)
    (hlast : ∀ a ∈ after, a.path ≠ .plain p.parameter) (hs : v.timing? = some s)
    (before : List Argument) :
    lastText? p.parameter (before ++ .assign (.plain p.parameter) v :: after) = some s := by
  have hafter : lastText? p.parameter after = none := (lastText?_eq_none_iff hsound).2 hlast
  rw [lastText?_append, lastText?_cons, hafter]
  simp [Argument.text?, hs]

/-- **What a literal at such a place does**: the attribute is accepted, this part of the timing is
the text of the literal, and the other part does not depend on it. -/
theorem Place.expand (h : Place p front back) :
    ∃ other, ∀ {l v s item block}, Written l v → v.timing? = some s →
      (tokens? item).bind ImplBlock.ofTokens? = some block →
      expand (String.ofList (front ++ (l ++ back))) item =
        .expanded block (p.annotation s other) := by
  obtain ⟨before, after, hreads, hlast, hrate⟩ := h.assigns
  have hown {l v s} (hl : Written l v) (hs : v.timing? = some s) :
      lastText? p.parameter (before ++ .assign (.plain p.parameter) v :: after) = some s :=
    lastText?_of_last (fun a ha => (hreads hl).sound a (by simp [ha])) hlast hs before
  cases p with
  | delay =>
    refine ⟨(lastText? "fixed_rate" (before ++ after)).getD "", fun hl hs hblock => ?_⟩
    have hsound := (hreads hl).sound
    have hgiven : lastText? "fixed_rate" (before ++ after) ≠ none := by
      obtain ⟨a, ha, hpath⟩ : ∃ a ∈ before ++ after, a.path = .plain "fixed_rate" :=
        hrate.resolve_left (by decide)
      intro hnone
      refine (lastText?_eq_none_iff fun b hb => hsound b ?_).1 hnone a ha hpath
      obtain hb | hb := List.mem_append.1 hb <;> simp [hb]
    obtain ⟨rate, hgiven⟩ := Option.ne_none_iff_exists'.1 hgiven
    have hdelay : lastText? "initial_delay" _ = _ := hown hl hs
    refine expand_eq_expanded_iff.2 ⟨?_, hblock⟩
    rw [ofText?_of_assigns (hreads hl), Option.map_some, timing_of_sound hsound,
      lastText?_of_ne (by decide), hgiven, hdelay]
    rfl
  | rate =>
    refine ⟨(lastText? "initial_delay" (before ++ after)).getD "10s", fun hl hs hblock => ?_⟩
    have hgiven : lastText? "fixed_rate" _ = _ := hown hl hs
    refine expand_eq_expanded_iff.2 ⟨?_, hblock⟩
    rw [ofText?_of_assigns (hreads hl), Option.map_some, timing_of_sound (hreads hl).sound,
      hgiven, lastText?_of_ne (by decide)]
    rfl

/-- A block without anything in it. -/
theorem ofTokens?_plain : (tokens? "impl A \x7b\x7d").bind ImplBlock.ofTokens? =
    some ⟨[.word "impl"], [.word "A"], [], []⟩ := by
  have hitem : tokens? "impl A \x7b\x7d" =
      some [.word "impl", .word "A", .group .brace []] := by rfl
  rw [hitem]
  rfl

end Vigil.Attribute
