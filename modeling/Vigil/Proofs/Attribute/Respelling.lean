import Vigil.Attribute.Expansion
import Vigil.Proofs.Source.Literal

/-!
# Timings in their own spelling

What an attribute puts in place of a block spells the two texts of the timing as literals. Those
literals are arguments again, and as arguments they stand for the timing they came from.

* `tokens?_respelled`: the tokens of a timing that is spelled with literals.
* `timing_respelled`: **these arguments give that timing**, for any two texts.
* `reads_back`: what any accepted attribute puts in place of a block reads back as its timing.
-/

namespace Vigil.Source

open Literal (ofText)

/-- A literal of a text is one token, with a blank in front of it. -/
theorem collect?_text {fuel : Nat} {outer : List (Delimiter × List Token)} {before : List Token}
    {s : String} {rest : List Char} (hrest : (Literal.splitSuffix rest).2 = rest) :
    collect? (fuel + 1) outer before (' ' :: ((ofText s).spelling.toList ++ rest)) =
      collect? fuel outer (.literal (ofText s) :: before) rest := by
  have hread := Literal.read?_ofText s hrest
  rw [Literal.toList_spelling] at hread ⊢
  generalize Text.Quoted.literalBody s.toList ++ '"' :: rest = body at hread
  have hleaf : readLeaf? ('"' :: body) = some (.literal (ofText s), rest) := by
    rw [readLeaf?, hread]
    simp
  have hgaps : skipGaps (' ' :: '"' :: body).length (' ' :: '"' :: body) = '"' :: body := rfl
  have hnote : readNote? ('"' :: body) = none := rfl
  have hlost : lostLiteral.toList.isPrefixOf ('"' :: body) = false := rfl
  have hopened : opened? '"' = none := rfl
  have hclosed : closed? '"' = none := rfl
  rw [collect?]
  simp only [hgaps, hnote, hlost, hopened, hclosed, hleaf, Bool.false_eq_true, if_false]

end Vigil.Source

namespace Vigil.Attribute

open Source
open Literal (ofText)

/-! ## Arguments spelled with literals -/

/-- Arguments for a timing, from the spellings of two literals. -/
def spelledWith (first second : String) : String :=
  "initial_delay = " ++ first ++ ", fixed_rate = " ++ second

theorem toList_spelledWith (first second : String) :
    (spelledWith first second).toList =
      "initial_delay = ".toList ++
        (first.toList ++ (", fixed_rate = ".toList ++ second.toList)) := by
  have happend (a b c d : String) :
      (a ++ b ++ c ++ d).toList = a.toList ++ (b.toList ++ (c.toList ++ d.toList)) := by
    simp only [String.toList_append, List.append_assoc]
  exact happend _ _ _ _

/-- The name of the first argument and its equals sign. -/
theorem collect?_delay (n : Nat) (cs : List Char) :
    collect? (n + 2) [] [] ("initial_delay = ".toList ++ cs) =
      collect? n [] [.mark '=' false, .word "initial_delay"] (' ' :: cs) := by
  rfl

/-- A comma, the name of the second argument and its equals sign. -/
theorem collect?_rate (n : Nat) (before : List Token) (cs : List Char) :
    collect? (n + 3) [] before (", fixed_rate = ".toList ++ cs) =
      collect? n [] ([.mark '=' false, .word "fixed_rate", .mark ',' false] ++ before)
        (' ' :: cs) := by
  rfl

variable (d r : String)

theorem tokens?_respelled :
    tokens? (spelledWith (ofText d).spelling (ofText r).spelling) = some
      [.word "initial_delay", .mark '=' false, .literal (ofText d), .mark ',' false,
        .word "fixed_rate", .mark '=' false, .literal (ofText r)] := by
  have hchars := toList_spelledWith (ofText d).spelling (ofText r).spelling
  rw [← List.append_nil (ofText r).spelling.toList] at hchars
  generalize (spelledWith (ofText d).spelling (ofText r).spelling) = text at hchars ⊢
  have hcomma (cs : List Char) : (Literal.splitSuffix (", fixed_rate = ".toList ++ cs)).2 =
      ", fixed_rate = ".toList ++ cs := by rfl
  -- the reader of tokens takes a step for each of the seven tokens and one for the end
  obtain ⟨n, hn⟩ : ∃ n, text.toList.length + 1 = n + 8 := by
    refine ⟨text.toList.length - 7, ?_⟩
    have hlength : 7 ≤ text.toList.length := by
      rw [hchars, List.length_append]
      exact Nat.le_add_right_of_le (by decide)
    omega
  have htokens : tokens? text =
      (collect? (text.toList.length + 1) [] [] text.toList).map List.reverse := by
    unfold tokens?
    rw [hchars]
    rfl
  rw [htokens, hn, hchars, collect?_delay, collect?_text (hcomma _), collect?_rate,
    collect?_text rfl]
  rfl

/-- **Arguments spelled with the literals of two texts give these texts.** -/
theorem timing_respelled :
    (Argument.ofText? (spelledWith (ofText d).spelling (ofText r).spelling)).map timing =
      some (.ok ⟨d, r⟩) := by
  rw [Argument.ofText?, tokens?_respelled]
  rfl

/-! ## What takes the place of a block -/

/-- A function without inputs whose body is a literal. -/
def answering (name : String) (l : Literal) : List Token :=
  [.word "fn", .word name, .group .paren []] ++ Token.signs "->".toList
    ++ [Token.sign '&', .lifetime "'static", .word "str", .group .brace [.literal l]]

/-- **The literals that take the place of a block stand for this timing**: each is read as its
text, and as arguments they lead to the same tokens again. -/
def ReadsBack (arguments item : String) (t : AnnotatedTiming) : Prop :=
  ∃ front first second,
    (expand arguments item).tokens? = some (front ++ [.group .brace
      (answering "initial_delay" first ++ answering "fixed_rate" second)]) ∧
    Literal.read? first.spelling.toList =
      some (⟨first.spelling, .text t.initialDelay⟩, []) ∧
    Literal.read? second.spelling.toList =
      some (⟨second.spelling, .text t.fixedRate⟩, []) ∧
    (Argument.ofText? (spelledWith first.spelling second.spelling)).map timing = some (.ok t) ∧
    (expand (spelledWith first.spelling second.spelling) item).tokens? =
      (expand arguments item).tokens?

/-- An accepted attribute has read a block and found a timing. -/
theorem expand_eq_expanded_iff {arguments item : String} {block : ImplBlock}
    {t : AnnotatedTiming} :
    expand arguments item = .expanded block t ↔
      (Argument.ofText? arguments).map timing = some (.ok t) ∧
        (tokens? item).bind ImplBlock.ofTokens? = some block := by
  unfold expand
  cases Argument.ofText? arguments with
  | none => simp
  | some args =>
    cases (tokens? item).bind ImplBlock.ofTokens? with
    | none => simp
    | some b =>
      cases htiming : timing args with
      | error e => simp [htiming]
      | ok t' => simp [htiming, and_comm]

/-- **Whatever an attribute accepts**, by whichever spelling of its values, reads back as the
timing that it gave. And with the same block any two texts are accepted, spelled as literals. -/
theorem reads_back {arguments item : String} {block : ImplBlock} {t : AnnotatedTiming}
    (h : expand arguments item = .expanded block t) :
    ReadsBack arguments item t ∧
      ∀ d r, expand (spelledWith (ofText d).spelling (ofText r).spelling) item =
        .expanded block ⟨d, r⟩ := by
  have hread (s : String) : Literal.read? (ofText s).spelling.toList = some (ofText s, []) := by
    have hwhole : Literal.read? ((ofText s).spelling.toList ++ []) = some (ofText s, []) :=
      Literal.read?_ofText s rfl
    rwa [List.append_nil] at hwhole
  have hagain (d r : String) : expand (spelledWith (ofText d).spelling (ofText r).spelling) item =
      .expanded block ⟨d, r⟩ :=
    expand_eq_expanded_iff.2 ⟨timing_respelled d r, (expand_eq_expanded_iff.1 h).2⟩
  refine ⟨?_, hagain⟩
  obtain ⟨delay, rate⟩ := t
  refine ⟨block.tokens ++ (metadata block.subject ⟨delay, rate⟩).opening ++ block.subject,
    ofText delay, ofText rate, ?_, hread delay, hread rate, timing_respelled delay rate, ?_⟩
  · rw [h]
    simp [Expansion.tokens?, ImplBlock.tokens, metadata, constantFunction, answering, textToken,
      ofText]
  · rw [hagain, h]

/-- A number with a base, and a raw text with a quote in it. -/
theorem mixed_reads_back :
    (∃ block, expand "initial_delay = 0x1_0, fixed_rate = r#\"1\"s\"#" "impl A \x7b\x7d" =
      .expanded block ⟨"16", "1\"s"⟩) ∧
    ReadsBack "initial_delay = 0x1_0, fixed_rate = r#\"1\"s\"#" "impl A \x7b\x7d"
      ⟨"16", "1\"s"⟩ := by
  have harguments : tokens? "initial_delay = 0x1_0, fixed_rate = r#\"1\"s\"#" = some
      [.word "initial_delay", .mark '=' false, .literal ⟨"0x1_0", .integer 16 []⟩, .mark ',' false,
        .word "fixed_rate", .mark '=' false, .literal ⟨"r#\"1\"s\"#", .text "1\"s"⟩] := by rfl
  have htiming : (Argument.ofText? "initial_delay = 0x1_0, fixed_rate = r#\"1\"s\"#").map timing =
      some (.ok ⟨"16", "1\"s"⟩) := by
    rw [Argument.ofText?, harguments]
    rfl
  have hitem : tokens? "impl A \x7b\x7d" =
      some [.word "impl", .word "A", .group .brace []] := by rfl
  have hblock : (tokens? "impl A \x7b\x7d").bind ImplBlock.ofTokens? =
      some ⟨[.word "impl"], [.word "A"], [], []⟩ := by
    rw [hitem]
    rfl
  have h := expand_eq_expanded_iff.2 ⟨htiming, hblock⟩
  exact ⟨⟨_, h⟩, (reads_back h).1⟩

end Vigil.Attribute
