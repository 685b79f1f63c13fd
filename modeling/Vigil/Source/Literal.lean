import Vigil.Text.Decimal
import Vigil.Text.Hex
import Vigil.Text.Identifier

/-!
# Literals

The literals of a source text: quoted texts with escapes, raw texts between hash marks, single
characters and numbers, each with a suffix that may follow without a gap. Whole numbers and
texts have a value, all other literals are only passed on.

* `Literal.read?`: the literal at the start of a text, as it is spelled and with its value.
* `length_readEscape?`, `length_skipBreak?`: what the reader of quoted texts terminates by.
-/

namespace Vigil.Source

/-- What a literal stands for. -/
inductive Literal.Value
  /-- A whole number, and what follows its digits. -/
  | integer (value : Nat) (suffix : List Char)
  /-- A number with a point or an exponent. -/
  | fraction
  /-- A text. -/
  | text (value : String)
  /-- Bytes, a text that ends with a zero byte, or a single character. -/
  | other

/-- A literal as it is spelled, with its value. -/
structure Literal where
  spelling : String
  value : Literal.Value

namespace Literal

/-! ## Quoted texts -/

/-- What may stand between quotes. -/
inductive Content
  /-- Any character. -/
  | characters
  /-- Bytes, the plain ones ASCII. -/
  | bytes
  /-- Any character but zero. -/
  | nonzero
  deriving DecidableEq

/-- Whether a character may stand in such a content as it is. -/
def Content.admits : Content → Char → Bool
  | .characters, _ => true
  | .bytes, c => c.toNat < 0x80
  | .nonzero, c => c ≠ '\x00'

/-- The character between braces, given by one to six hexadecimal digits; underscores may
separate them. The digits so far and their number come first. -/
def readBraced? : (count high : Nat) → List Char → Option (Char × List Char)
  | _, _, [] => none
  | count, high, c :: rest =>
    if c = '}' then if count = 0 then none else (Text.scalar? high).map (·, rest)
    else if c = '_' then if count = 0 then none else readBraced? count high rest
    else
      match Text.hexDigit? c with
      | some d => if count = 6 then none else readBraced? (count + 1) (16 * high + d) rest
      | none => none

/-- The character with a code of two hexadecimal digits. -/
def readPair? : List Char → Option (Char × List Char)
  | a :: b :: rest =>
    match Text.hexDigit? a, Text.hexDigit? b with
    | some high, some low => some (Char.ofNat (16 * high + low), rest)
    | _, _ => none
  | _ => none

/-- What the escape after a backslash stands for, and the text behind it. -/
def readEscape? (content : Content) : List Char → Option (Char × List Char)
  | 'n' :: rest => some ('\n', rest)
  | 'r' :: rest => some ('\r', rest)
  | 't' :: rest => some ('\t', rest)
  | '\\' :: rest => some ('\\', rest)
  | '\'' :: rest => some ('\'', rest)
  | '"' :: rest => some ('"', rest)
  | '0' :: rest => if content = .nonzero then none else some ('\x00', rest)
  | 'x' :: rest =>
    match readPair? rest with
    | some (c, rest) =>
      if content = .characters ∧ 0x80 ≤ c.toNat ∨ content = .nonzero ∧ c = '\x00' then none
      else some (c, rest)
    | none => none
  | 'u' :: '{' :: rest =>
    match readBraced? 0 0 rest with
    | some (c, rest) =>
      if content = .bytes ∨ content = .nonzero ∧ c = '\x00' then none else some (c, rest)
    | none => none
  | _ => none

/-- The text behind a line break and all blanks that follow it. A carriage return needs its
line feed. -/
def skipBreak? : List Char → Option (List Char)
  | ' ' :: rest => skipBreak? rest
  | '\t' :: rest => skipBreak? rest
  | '\n' :: rest => skipBreak? rest
  | '\r' :: '\n' :: rest => skipBreak? rest
  | '\r' :: _ => none
  | cs => some cs

theorem length_readBraced? {count high : Nat} {cs : List Char} {r : Char × List Char}
    (h : readBraced? count high cs = some r) : r.2.length ≤ cs.length := by
  induction cs generalizing count high with
  | nil => simp [readBraced?] at h
  | cons c rest ih =>
    simp only [readBraced?] at h
    split at h
    · split at h
      · simp at h
      · obtain ⟨_, _, rfl⟩ := Option.map_eq_some_iff.1 h
        exact Nat.le_succ _
    · split at h
      · split at h
        · simp at h
        · exact Nat.le_succ_of_le (ih h)
      · split at h
        · split at h
          · simp at h
          · exact Nat.le_succ_of_le (ih h)
        · simp at h

theorem length_readPair? {cs : List Char} {r : Char × List Char} (h : readPair? cs = some r) :
    r.2.length ≤ cs.length := by
  unfold readPair? at h
  split at h
  · split at h
    · simp only [Option.some.injEq] at h
      subst h
      simp only [List.length_cons]
      omega
    · simp at h
  · simp at h

theorem length_readEscape? {content : Content} {cs : List Char} {r : Char × List Char}
    (h : readEscape? content cs = some r) : r.2.length ≤ cs.length := by
  unfold readEscape? at h
  split at h
  case h_7 =>
    split at h
    · simp at h
    · simp only [Option.some.injEq] at h
      subst h
      exact Nat.le_succ _
  case h_8 =>
    split at h
    · rename_i hp
      split at h
      · simp at h
      · simp only [Option.some.injEq] at h
        subst h
        exact Nat.le_succ_of_le (length_readPair? hp)
    · simp at h
  case h_9 =>
    split at h
    · rename_i hb
      split at h
      · simp at h
      · simp only [Option.some.injEq] at h
        subst h
        exact Nat.le_succ_of_le (Nat.le_succ_of_le (length_readBraced? hb))
    · simp at h
  case h_10 => simp at h
  all_goals
    simp only [Option.some.injEq] at h
    subst h
    exact Nat.le_succ _

theorem length_skipBreak? {cs r : List Char} (h : skipBreak? cs = some r) :
    r.length ≤ cs.length := by
  fun_induction skipBreak? cs with
  | case1 rest ih => exact Nat.le_succ_of_le (ih h)
  | case2 rest ih => exact Nat.le_succ_of_le (ih h)
  | case3 rest ih => exact Nat.le_succ_of_le (ih h)
  | case4 rest ih => exact Nat.le_succ_of_le (Nat.le_succ_of_le (ih h))
  | case5 => simp at h
  | case6 => simp_all

/-- Whether a line break follows. -/
def startsBreak : List Char → Bool
  | c :: _ => c == '\n' || c == '\r'
  | [] => false

/-- A quoted text after its opening quote, and what follows the closing one. A line break counts
as a line feed, and a backslash in front of one takes it away with the blanks behind it. -/
def readQuoted? (content : Content) : List Char → Option (List Char × List Char)
  | [] => none
  | '"' :: rest => some ([], rest)
  | '\r' :: '\n' :: rest => (readQuoted? content rest).map fun r => ('\n' :: r.1, r.2)
  | '\r' :: _ => none
  | '\\' :: rest =>
    if startsBreak rest then
      match h : skipBreak? rest with
      | some rest' =>
        have := length_skipBreak? h
        readQuoted? content rest'
      | none => none
    else
      match h : readEscape? content rest with
      | some (c, rest') =>
        have : rest'.length ≤ rest.length := length_readEscape? h
        (readQuoted? content rest').map fun r => (c :: r.1, r.2)
      | none => none
  | c :: rest =>
    if content.admits c then (readQuoted? content rest).map fun r => (c :: r.1, r.2) else none
  termination_by cs => cs.length
  decreasing_by all_goals simp only [List.length_cons]; omega

/-! ## Raw texts -/

/-- Whether a text starts with that many hash marks. -/
def startsHashes : Nat → List Char → Bool
  | 0, _ => true
  | n + 1, '#' :: rest => startsHashes n rest
  | _ + 1, _ => false

/-- A raw text after its opening quote, up to a quote with as many hash marks as it was opened
by, and what follows them. -/
def readRaw? (content : Content) (hashes : Nat) : List Char → Option (List Char × List Char)
  | [] => none
  | '\r' :: '\n' :: rest =>
    (readRaw? content hashes rest).map fun r => ('\r' :: '\n' :: r.1, r.2)
  | '\r' :: _ => none
  | c :: rest =>
    if c = '"' ∧ startsHashes hashes rest then some ([], rest.drop hashes)
    else if content.admits c then (readRaw? content hashes rest).map fun r => (c :: r.1, r.2)
    else none

/-- A raw text after the letter that announces it: hash marks, at most 255 of them, a quote, and
the rest. -/
def readHashed? (content : Content) (cs : List Char) : Option (List Char × List Char) :=
  let hashes := (cs.takeWhile (· == '#')).length
  match cs.drop hashes with
  | '"' :: rest => if hashes ≤ 255 then readRaw? content hashes rest else none
  | _ => none

/-! ## Single characters -/

/-- A single character and its closing quote, after the opening one; what follows them. -/
def readSingle? (content : Content) : List Char → Option (List Char)
  | '\\' :: rest =>
    match readEscape? content rest with
    | some (_, '\'' :: rest) => some rest
    | _ => none
  | c :: '\'' :: rest => if content.admits c then some rest else none
  | _ => none

/-! ## Numbers -/

/-- The name that follows without a gap, if one does, and the text behind it. -/
def splitSuffix : List Char → List Char × List Char
  | [] => ([], [])
  | c :: rest =>
    if Text.isIdentifierStart c then
      (c :: rest.takeWhile Text.isIdentifierRest, rest.dropWhile Text.isIdentifierRest)
    else ([], c :: rest)

/-- Whether a word may end here. -/
def endsWord : List Char → Bool
  | c :: _ => !Text.isIdentifierRest c
  | [] => true

/-- A decimal digit or a separator. -/
def isPlace (c : Char) : Bool := c.isDigit || c == '_'

/-- The text behind an exponent, after its letter, if there is one. -/
def skipExponent? (cs : List Char) : Option (List Char) :=
  let digits := match cs.dropWhile (· == '_') with
    | '+' :: rest => rest
    | '-' :: rest => rest
    | rest => rest
  if (digits.takeWhile isPlace).any Char.isDigit then some (digits.dropWhile isPlace) else none

/-- The text behind a number that has a point or an exponent. A point counts unless another one
or a name follows it. -/
def skipFraction? (cs : List Char) : Option (List Char) :=
  match cs with
  | c :: _ =>
    if c.isDigit then
      let (pointed, rest) : Bool × List Char := match cs.dropWhile isPlace with
        | '.' :: rest => (true, rest)
        | rest => (false, rest)
      -- In `1..2` and `1.max` the point belongs to what follows.
      let excluded := match rest with
        | c :: _ => pointed && (c == '.' || Text.isIdentifierStart c)
        | [] => false
      if excluded then none
      else
        let rest := if pointed then rest.dropWhile isPlace else rest
        let scaled := match rest with
          | 'e' :: power => skipExponent? power
          | 'E' :: power => skipExponent? power
          | _ => none
        if scaled.isSome then scaled else if pointed then some rest else none
    else none
  | [] => none

/-- The base of a whole number, and the text behind the mark that names it. -/
def splitBase : List Char → Nat × List Char
  | '0' :: 'x' :: rest => (16, rest)
  | '0' :: 'o' :: rest => (8, rest)
  | '0' :: 'b' :: rest => (2, rest)
  | cs => (10, cs)

/-- A digit or separator of a whole number. -/
def isNumeral (base : Nat) (c : Char) : Bool :=
  isPlace c || base == 16 && (Text.hexDigit? c).isSome

/-- The value of digits in a base, separators left out. -/
def magnitude (base : Nat) (cs : List Char) : Nat :=
  cs.foldl (fun n c => match Text.hexDigit? c with
    | some d => base * n + d
    | none => n) 0

/-- A whole number, and what follows its digits. -/
def readInteger? (cs : List Char) : Option (Nat × List Char) :=
  let (base, body) := splitBase cs
  let numerals := body.takeWhile (isNumeral base)
  let digits := numerals.filter (· != '_')
  if digits = [] || (base == 10 && numerals.head? == some '_')
      || digits.any fun c => base ≤ (Text.hexDigit? c).getD 0 then none
  else some (magnitude base numerals, body.dropWhile (isNumeral base))

/-! ## Any literal -/

/-- A number at the start of a text, and what follows it and its suffix. No word may go on right
behind it. -/
def readNumber? (cs : List Char) : Option (Value × List Char) :=
  let fraction : Option (Value × List Char) :=
    (skipFraction? cs).map fun rest => (.fraction, (splitSuffix rest).2)
  let integer : Option (Value × List Char) := (readInteger? cs).map fun r =>
    (.integer r.1 (splitSuffix r.2).1, (splitSuffix r.2).2)
  (fraction.filter (endsWord ·.2)).or (integer.filter (endsWord ·.2))

/-- The value of the literal at the start of a text, and what follows the literal. -/
def readValue? (cs : List Char) : Option (Value × List Char) :=
  let text (r : List Char × List Char) : Value × List Char :=
    (.text (String.ofList r.1), (splitSuffix r.2).2)
  let other (rest : List Char) : Value × List Char := (.other, (splitSuffix rest).2)
  match cs with
  | '"' :: rest => (readQuoted? .characters rest).map text
  | 'r' :: rest => (readHashed? .characters rest).map text
  | 'b' :: '"' :: rest => (readQuoted? .bytes rest).map fun r => other r.2
  | 'b' :: 'r' :: rest => (readHashed? .bytes rest).map fun r => other r.2
  | 'b' :: '\'' :: rest => (readSingle? .bytes rest).map other
  | 'c' :: '"' :: rest => (readQuoted? .nonzero rest).map fun r => other r.2
  | 'c' :: 'r' :: rest => (readHashed? .nonzero rest).map fun r => other r.2
  | '\'' :: rest => (readSingle? .characters rest).map other
  | cs => readNumber? cs

/-- The literal at the start of a text, and what follows it. -/
def read? (cs : List Char) : Option (Literal × List Char) :=
  (readValue? cs).map fun r =>
    (⟨String.ofList (cs.take (cs.length - r.2.length)), r.1⟩, r.2)

end Literal

end Vigil.Source
