import Vigil.Proofs.Attribute.Layout
import Vigil.Proofs.Config.Millis

/-!
# A bare number is the same everywhere

A number of milliseconds can be given in a configuration, in a placeholder or in an attribute, as a
number or as a text. An attribute writes its number down in a base, with separators and with the
name of a type behind it; what is left of that in the program is a text of decimal digits. On every
way it is the same duration.

* `Denotes`: literals that are a number of milliseconds.
* `Answers`: which texts the program is given for the two parts of a timing.
* `sets_of_denotes`: **a literal at its place**, from the text of the attribute to the scheduler.
* `millis_everywhere`: all ways, for every number that 64 bits hold.
-/

namespace Vigil.Attribute

open Source Config
open Literal (Base Places Follows Spells ofText spells_integer)

variable {c : Config} {n : UInt64} {l front back : List Char} {p : Part}

/-! ## Literals -/

/-- What may stand behind the digits of a whole number: nothing, or the name of its type. -/
def integerSuffixes : List String :=
  ["", "u8", "u16", "u32", "u64", "u128", "usize", "i8", "i16", "i32", "i64", "i128", "isize"]

theorem follows_of_mem {mark : List Char} {base : Nat} (hbase : Base mark base) {s : String}
    (hs : s ∈ integerSuffixes) : Follows base s.toList := by
  have hall : ∀ s ∈ integerSuffixes, ∀ base ∈ [10, 16, 8, 2], Follows base s.toList := by
    decide +kernel
  exact hall s hs base (by cases hbase <;> decide)

/-- **A literal that is a number of milliseconds**: the number in any base, with separators between
its digits and with a type behind them, or any spelling of a text that means the number. -/
inductive Denotes (c : Config) (n : UInt64) : List Char → Prop
  | number {mark places : List Char} {base : Nat} {suffix : String} (hbase : Base mark base)
    (h : Places base places n.toNat) (hsuffix : suffix ∈ integerSuffixes) :
    Denotes c n (mark ++ places ++ suffix.toList)
  | text {l : List Char} {s : String} (h : Spells l (.text s)) (hs : c.Means n s) : Denotes c n l

/-- Either way the text of the literal means the number. -/
theorem Denotes.exists_text (h : Denotes c n l) :
    ∃ v s, Written l v ∧ v.timing? = some s ∧ c.Means n s := by
  cases h with
  | number hbase h hsuffix =>
    have hspells := spells_integer hbase h (follows_of_mem hbase hsuffix)
    exact ⟨_, _, .integer hspells, rfl, .spelled (Shorthand.spells_natural n.toNat_lt)⟩
  | text h hs => exact ⟨_, _, .text h, rfl, hs⟩

/-! ## From an attribute to the scheduler -/

/-- **The texts that a program is given** for the two parts of a timing: what takes the place of the
block ends with two functions, whose bodies are literals of these texts. -/
def Answers (o : Expansion) (t : AnnotatedTiming) : Prop :=
  ∃ front first second, o.tokens? = some (front ++ [.group .brace
      (answering "initial_delay" first ++ answering "fixed_rate" second)]) ∧
    Literal.read? first.spelling.toList = some (⟨first.spelling, .text t.initialDelay⟩, []) ∧
    Literal.read? second.spelling.toList = some (⟨second.spelling, .text t.fixedRate⟩, [])

theorem answers_expanded (block : ImplBlock) (t : AnnotatedTiming) :
    Answers (.expanded block t) t := by
  have hread (s : String) : Literal.read? (ofText s).spelling.toList =
      some (⟨(ofText s).spelling, .text s⟩, []) := by
    simpa using spells_ofText s [] (by simp [Literal.Ends])
  refine ⟨block.tokens ++ (metadata block.subject t).opening ++ block.subject,
    ofText t.initialDelay, ofText t.fixedRate, ?_, hread _, hread _⟩
  simp [Expansion.tokens?, ImplBlock.tokens, metadata, constantFunction, answering, textToken,
    ofText]

/-- **The outcome that sets one part** of a timing to so many milliseconds: the attribute is
accepted, the program is given a timing whose other part is this text, and a scheduler for it has
exactly so many milliseconds, as long as the other text is a duration as well. -/
def Sets (c : Config) (n : UInt64) (p : Part) (other : String) (block : ImplBlock)
    (o : Expansion) : Prop :=
  ∃ t, o = .expanded block t ∧ p.other.text t = other ∧ Answers o t ∧
    ∀ {ε ω : Type} (caretaker : Caretaker ε ω) (typeName : String),
      SchedulerBuilder.annotated caretaker typeName t c =
        (c.duration p.other.parameter other).map fun e =>
          (SchedulerBuilder.ofCaretaker caretaker typeName).withSettings
            (p.settings (.ofMillis n) e)

/-- **A literal that is a number of milliseconds**, at its place in an attribute, sets that part of
the timing. -/
theorem sets_of_denotes (hplace : Place p front back) :
    ∃ other, ∀ {l item block}, Denotes c n l →
      (tokens? item).bind ImplBlock.ofTokens? = some block →
        Sets c n p other block (expand (String.ofList (front ++ (l ++ back))) item) := by
  obtain ⟨other, hexpand⟩ := hplace.expand
  refine ⟨other, fun {l item block} hl hblock => ?_⟩
  obtain ⟨v, s, hwritten, hs, hmeans⟩ := hl.exists_text
  rw [hexpand hwritten hs hblock]
  exact ⟨_, rfl, by cases p <;> rfl, answers_expanded _ _, fun caretaker typeName =>
    annotated_of_part caretaker typeName other (hmeans.duration _)⟩

/-! ## Every way -/

/-- **A bare number is the same number of milliseconds everywhere**, for every number that 64 bits
hold: as a text, as the default of a placeholder or as what a placeholder stands for; as a number or
a text in either part of a section; and as a literal for either part at any place in an attribute,
up to the scheduler that is built for it. -/
theorem millis_everywhere (c : Config) (n : UInt64) :
    (∀ key s, c.Means n s → c.duration key s = .ok (.ofMillis n)) ∧
    (∀ s v (p : Part) field, c.get s = .ok v → IsSection v → p.held? v = some field →
      c.Holds n field →
        c.settings s = (c.partDuration s v p.other).map fun e => p.settings (.ofMillis n) e) ∧
    ∀ (p : Part) front back, Place p front back →
      ∃ other, ∀ l item block, Denotes c n l →
        (tokens? item).bind ImplBlock.ofTokens? = some block →
          Sets c n p other block (expand (String.ofList (front ++ (l ++ back))) item) := by
  refine ⟨fun key s h => h.duration key, fun s v p field => settings_of_holds, ?_⟩
  intro p front back hplace
  obtain ⟨other, h⟩ := sets_of_denotes (c := c) (n := n) hplace
  exact ⟨other, fun l item block => h⟩

/-- A section with the largest number, and a text with zeros and blanks around it. -/
def quotas : Config :=
  ⟨.table none [("jobs", .table none [("rate", .scalar none (.int 18446744073709551615))]),
    ("limit", .scalar none (.text " 0018446744073709551615\n"))]⟩

theorem quotas_read_alike :
    quotas.duration "fixed_rate" "$\x7blimit:1s\x7d" = .ok (.ofMillis 18446744073709551615) ∧
    quotas.settings "jobs" =
      .ok ⟨Settings.defaultInitialDelay, .ofMillis 18446744073709551615⟩ ∧
    ∃ other, ∀ l ∈ ["0xffff_FFFF_FFFF_FFFF_u64".toList, (ofText "$\x7blimit\x7d").spelling.toList],
      Sets quotas 18446744073709551615 .delay other ⟨[.word "impl"], [.word "A"], [], []⟩
        (expand (String.ofList ("initial_delay = ".toList ++ (l ++ ", fixed_rate = 1_0,".toList)))
          "impl A \x7b\x7d") := by
  obtain ⟨hduration, hsettings, hattribute⟩ := millis_everywhere quotas 18446744073709551615
  have hlimit : quotas.get "limit" = .ok (.scalar none (.text " 0018446744073709551615\n")) := by
    have hpath : KeyPath.read? "limit" = some [.name "limit"] :=
      KeyPath.read?_of_readName? (by decide) KeyPath.readSteps?_nil
    simp only [Config.get, hpath]
    rfl
  have hjobs : quotas.get "jobs" =
      .ok (.table none [("rate", .scalar none (.int 18446744073709551615))]) := by
    have hpath : KeyPath.read? "jobs" = some [.name "jobs"] :=
      KeyPath.read?_of_readName? (by decide) KeyPath.readSteps?_nil
    simp only [Config.get, hpath]
    rfl
  have hcounts : Counts 18446744073709551615 (.scalar none (.text " 0018446744073709551615\n")) :=
    .text none ⟨[' '], "0018446744073709551615".toList, [], ['\n'], rfl, rfl, rfl, by decide, rfl,
      rfl, by decide, .bare⟩
  refine ⟨?_, ?_, ?_⟩
  · exact hduration _ _ (.valueOr "1s" hlimit hcounts)
  · exact hsettings _ _ .rate _ hjobs (.table none _) rfl (.number none)
  · have hblank : Gap [' '] := .blank rfl gap_nil
    have hten : Places 10 "1_0".toList 10 := by decide
    have hrate : Written ([] ++ "1_0".toList ++ []) (.integer false 10) :=
      .integer (spells_integer .decimal hten trivial)
    have hplace : Place .delay "initial_delay = ".toList ", fixed_rate = 1_0,".toList :=
      .behind .nil gap_nil hblank hblank
        (.more gap_nil (.more (.assign .rate hblank hblank hblank hrate) gap_nil (.none gap_nil)))
        (by decide) (.inr ⟨_, List.mem_singleton.2 rfl, rfl⟩)
    obtain ⟨other, hsets⟩ := hattribute _ _ _ hplace
    refine ⟨other, fun l hl => hsets _ _ _ ?_ ofTokens?_plain⟩
    obtain hl | hl := List.mem_pair.1 hl
    · rw [hl]
      have hplaces : Places 16 "ffff_FFFF_FFFF_FFFF_".toList
          (18446744073709551615 : UInt64).toNat := by decide
      exact .number .hexadecimal hplaces (show "u64" ∈ integerSuffixes by decide)
    · have hmeans : quotas.Means 18446744073709551615 "$\x7blimit\x7d" := .value hlimit hcounts
      rw [hl]
      exact .text (spells_ofText _) hmeans

end Vigil.Attribute
