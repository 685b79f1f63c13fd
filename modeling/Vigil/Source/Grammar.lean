import Vigil.Source.Token

/-!
# Grammars

A grammar is a value: what the next tokens have to be, where to look ahead and what to write.
Reading by a grammar takes tokens from the front of a sequence and writes their normal form,
which for most tokens is the token itself. Choices are made in order and on what comes next.

* `Grammar`: the forms of a grammar, recursive through named rules.
* `Grammar.run`: reading by a grammar, with a limit on the depth.
* `Outcome.Completes`: what a higher limit may change, which each form of a grammar passes on.
* `run_add`: a finished reading does not change when the limit grows.
-/

namespace Vigil.Source

/-! ## Classes of tokens -/

/-- The words that are no names. -/
def keywords : List String :=
  ["abstract", "as", "async", "await", "become", "box", "break", "const", "continue", "crate",
   "do", "dyn", "else", "enum", "extern", "false", "final", "fn", "for", "if", "impl", "in",
   "let", "loop", "macro", "match", "mod", "move", "mut", "override", "priv", "pub", "ref",
   "return", "Self", "self", "static", "struct", "super", "trait", "true", "try", "type",
   "typeof", "unsafe", "unsized", "use", "virtual", "where", "while", "yield", "_"]

/-- A word that names something by its place (the module above, this one, the root, or the type at
hand) or by itself. -/
def isPathWord (w : String) : Bool :=
  ["super", "self", "Self", "crate"].contains w || !keywords.contains w

/-- What is left behind a path without arguments, a double colon in front of it not included. -/
def skipPath : List Token → Option (List Token)
  | .word w :: .mark ':' true :: .mark ':' _ :: ts => if isPathWord w then skipPath ts else none
  | .word w :: ts => if isPathWord w then some ts else none
  | _ => none

/-- What is left behind the attributes in front. -/
def skipAttributes : List Token → List Token
  | .mark '#' _ :: .group .bracket _ :: ts => skipAttributes ts
  | ts => ts

/-- The number of a field as it is written: plain decimal, if 32 bits hold it. -/
def fieldNumber? (n : Nat) : Option Literal :=
  if n < 4294967296 then some ⟨Text.Decimal.natural n, .integer n []⟩ else none

/-- Whether a literal is the number of a field as it is written. -/
def isFieldNumber : Literal → Bool
  | ⟨spelling, .integer n []⟩ => (fieldNumber? n).any (·.spelling == spelling)
  | _ => false

/-- What a single token can be asked to be. -/
inductive Class
  /-- This very word. -/
  | word (w : String)
  /-- One of these words. -/
  | words (ws : List String)
  /-- A word that is no keyword. -/
  | name
  /-- A word that is no keyword, or one of these. -/
  | nameOr (ws : List String)
  /-- Any word. -/
  | anyWord
  | lifetime
  /-- This punctuation character. -/
  | mark (c : Char)
  /-- This punctuation character with another one right behind it. -/
  | joint (c : Char)
  /-- One of these punctuation characters. -/
  | marks (cs : List Char)
  /-- One of these punctuation characters with another one right behind it. -/
  | joints (cs : List Char)
  | literal
  /-- A literal or a truth value. -/
  | value
  /-- A literal text. -/
  | text
  /-- A whole number. -/
  | integer
  /-- A number with a point or an exponent. -/
  | fraction
  /-- A number that ends with its point. -/
  | pointed
  /-- The number of a field as it is written. -/
  | index
  /-- A group between these delimiters. -/
  | group (d : Delimiter)
  /-- A group between any delimiters. -/
  | anyGroup

/-- Whether a token belongs to a class. -/
def Class.holds : Class → Token → Bool
  | .word w, .word v => w == v
  | .words ws, .word v => ws.contains v
  | .name, .word v => !keywords.contains v
  | .nameOr ws, .word v => ws.contains v || !keywords.contains v
  | .anyWord, .word _ => true
  | .lifetime, .lifetime _ => true
  | .mark c, .mark d _ => c == d
  | .joint c, .mark d joined => c == d && joined
  | .marks cs, .mark d _ => cs.contains d
  | .joints cs, .mark d joined => cs.contains d && joined
  | .literal, .literal _ => true
  | .value, .literal _ => true
  | .value, .word v => v == "true" || v == "false"
  | .text, .literal ⟨_, .text _⟩ => true
  | .integer, .literal ⟨_, .integer _ _⟩ => true
  | .fraction, .literal ⟨_, .fraction⟩ => true
  | .pointed, .literal ⟨spelling, .fraction⟩ => spelling.toList.getLast? == some '.'
  | .index, .literal l => isFieldNumber l
  | .group d, .group e _ => d == e
  | .anyGroup, .group _ _ => true
  | _, _ => false

/-- The characters of an operator, each but the last with the next one right behind it. -/
def Class.operator : List Char → List Class
  | [] => []
  | [c] => [.mark c]
  | c :: cs => .joint c :: operator cs

/-! ## Looking ahead -/

/-- A question about the tokens to come. -/
inductive Look
  | always
  /-- No token is left. -/
  | ended
  /-- The next token is of this class, and the answer is yes behind it. -/
  | next (c : Class) (l : Look)
  /-- The next token is such a group, and the answer is yes for its content. -/
  | within (d : Delimiter) (l : Look)
  /-- A path without arguments comes next, and the answer is yes behind it. -/
  | behindPath (l : Look)
  /-- The answer is yes behind the attributes that come next. -/
  | behindAttributes (l : Look)
  | not (l : Look)
  | and (l m : Look)
  | or (l m : Look)

namespace Look

/-- The answer for these tokens. -/
def holds : Look → List Token → Bool
  | .always, _ => true
  | .ended, ts => ts.isEmpty
  | .next c l, t :: ts => c.holds t && l.holds ts
  | .next _ _, [] => false
  | .within d l, .group e content :: _ => d == e && l.holds content
  | .within _ _, _ => false
  | .behindPath l, ts => (skipPath ts).any l.holds
  | .behindAttributes l, ts => l.holds (skipAttributes ts)
  | .not l, ts => !l.holds ts
  | .and l m, ts => l.holds ts && m.holds ts
  | .or l m, ts => l.holds ts || m.holds ts

/-- The next tokens are of these classes, and the answer is yes behind them. -/
def all (cs : List Class) (l : Look) : Look := cs.foldr .next l

/-- The next token is of this class. -/
def one (c : Class) : Look := .next c .always

/-- The next two tokens are of these classes. -/
def two (c d : Class) : Look := .next c (one d)

def word (w : String) : Look := one (.word w)

def mark (c : Char) : Look := one (.mark c)

def group (d : Delimiter) : Look := one (.group d)

/-- An operator of several characters comes next. -/
def operator (s : String) : Look := all (Class.operator s.toList) .always

/-- One of these punctuation characters comes next. -/
def marks (s : String) : Look := one (.marks s.toList)

/-- One of these punctuation characters comes next, and right behind it an equals sign. -/
def assigned (s : String) : Look := .next (.joints s.toList) (mark '=')

/-- A double colon comes next, and the answer is yes behind it. -/
def colons (l : Look) : Look := all (Class.operator "::".toList) l

/-- The answer is yes to one of these questions. -/
def any : List Look → Look
  | [] => .not .always
  | [l] => l
  | l :: ls => .or l (any ls)

/-- One of these words comes next. -/
def words (ws : List String) : Look := one (.words ws)

/-- A question that counts only under a condition. -/
def when (b : Bool) (l : Look) : Look := if b then l else .not .always

/-- The answer is yes here, or behind a token of this class. -/
def skip (c : Class) (l : Look) : Look := .or l (.next c l)

/-- A path without arguments comes next, with a double colon in front or not, and the answer is
yes behind it. -/
def modulePath (l : Look) : Look := .or (.behindPath l) (colons (.behindPath l))

end Look

/-! ## Items between angle brackets -/

/-- Whether what is written for an item between angle brackets is a lifetime, with attributes in
front or bounds behind. -/
def isLifetime (item : List Token) : Bool :=
  match skipAttributes item with
  | .lifetime _ :: .mark c _ :: _ => c != '+'
  | .lifetime _ :: _ => true
  | _ => false

/-- What is written for items between angle brackets: lifetimes come in front of all others. -/
structure Angles where
  lifetimes : List Token := []
  others : List Token := []
  /-- There is no comma behind the last lifetime. -/
  bare : Bool := false

namespace Angles

/-- One more item, and the comma behind it if there is one. -/
def add (a : Angles) (item comma : List Token) : Angles :=
  if isLifetime item then
    { a with lifetimes := a.lifetimes ++ item ++ comma, bare := comma.isEmpty }
  else { a with others := a.others ++ item ++ comma }

/-- All items in the order they are written in, with a comma between the two parts. -/
def arranged (a : Angles) : List Token :=
  if a.bare && !a.others.isEmpty then a.lifetimes ++ Token.sign ',' :: a.others
  else a.lifetimes ++ a.others

end Angles

/-! ## Grammars -/

/-- A grammar whose rules are named by `ρ`. -/
inductive Grammar (ρ : Type)
  /-- Nothing. -/
  | empty
  /-- What no sequence matches. -/
  | refuse
  /-- One token of a class, written as it is. -/
  | take (c : Class)
  /-- A grammar that finds `new` in the place of the next `n` tokens if the answer is yes. -/
  | replace (l : Look) (n : Nat) (new : List Token) (g : Grammar ρ)
  /-- A grammar that finds a number in front in plain decimal, as numbers of fields are written. A
  number with a point in it is two of them. -/
  | numbers (g : Grammar ρ)
  /-- One after the other. -/
  | seq (g h : Grammar ρ)
  /-- The one or the other, by what comes next. -/
  | cond (l : Look) (yes no : Grammar ρ)
  /-- A grammar, and behind it the one or the other, by the class of the last token written. -/
  | ending (g : Grammar ρ) (c : Class) (yes no : Grammar ρ)
  /-- As often as the question is answered by yes. -/
  | many (l : Look) (g : Grammar ρ)
  /-- Items with a separator between them and possibly behind the last one. The list stops where
  the question is answered by yes or no separator follows. -/
  | list (stop : Look) (item : Grammar ρ) (separator : Class)
  /-- Items between angle brackets, from behind the opening bracket on and through the closing
  one; `before` holds what is to be written for the items in front. -/
  | angles (item : Grammar ρ) (before : Angles)
  /-- A group, the grammar for all of its content. -/
  | inside (d : Delimiter) (g : Grammar ρ)
  /-- A grammar whose tokens are written as they were read. -/
  | verbatim (g : Grammar ρ)
  /-- A grammar that is read strictly if that is possible. What is only read loosely is written as
  it was read. -/
  | lenient (g : Grammar ρ)
  /-- A part that is read differently if strictly. -/
  | loose (strictly loosely : Grammar ρ)
  /-- A rule by its name. -/
  | call (r : ρ)

/-- How reading by a grammar ends. -/
inductive Outcome
  /-- With what is written for the tokens that were read, and the tokens that are left. -/
  | read (written rest : List Token)
  /-- The tokens do not match. -/
  | refused
  /-- The limit on the depth was reached. -/
  | unfinished

namespace Outcome

/-- Goes on behind a match. -/
def andThen (o : Outcome) (f : List Token → List Token → Outcome) : Outcome :=
  match o with
  | .read written rest => f written rest
  | .refused => .refused
  | .unfinished => .unfinished

/-- A match that leaves no more than so many tokens. -/
def atMost (limit : Nat) (o : Outcome) : Outcome :=
  o.andThen fun written rest => if rest.length ≤ limit then .read written rest else .refused

/-- Tries something else without a match. -/
def orElse (o p : Outcome) : Outcome :=
  match o with
  | .refused => p
  | o => o

/-- The outcome with something written in front. -/
def after (written : List Token) (o : Outcome) : Outcome :=
  o.andThen fun more rest => .read (written ++ more) rest

/-- What is written, if all tokens were read. -/
def complete? : Outcome → Option (List Token)
  | .read written [] => some written
  | _ => none

/-- One outcome completes another: it is the other, unless that one is unfinished. -/
def Completes (o p : Outcome) : Prop := p ≠ .unfinished → o = p

namespace Completes

variable {o o' p p' : Outcome} {f f' : List Token → List Token → Outcome}

theorem refl (o : Outcome) : Completes o o := fun _ => rfl

theorem unfinished (o : Outcome) : Completes o .unfinished := fun h => absurd rfl h

theorem ite {c : Prop} [Decidable c] (h : Completes o o') (k : Completes p p') :
    Completes (if c then o else p) (if c then o' else p') := by
  split
  · exact h
  · exact k

/-- Where the first outcome is finished, the two go on from the same place. -/
theorem andThen (h : Completes o p) (hf : ∀ w r, Completes (f w r) (f' w r)) :
    Completes (o.andThen f) (p.andThen f') := by
  cases p with
  | read w r =>
    rw [h nofun]
    exact hf w r
  | refused =>
    rw [h nofun]
    exact refl _
  | unfinished => exact unfinished _

theorem atMost (k : Nat) (h : Completes o p) : Completes (o.atMost k) (p.atMost k) :=
  andThen h fun _ _ => refl _

theorem after (w : List Token) (h : Completes o p) : Completes (o.after w) (p.after w) :=
  andThen h fun _ _ => refl _

theorem orElse (h : Completes o o') (k : Completes p p') :
    Completes (o.orElse p) (o'.orElse p') := by
  cases o' with
  | read w r =>
    rw [h nofun]
    exact refl _
  | refused =>
    rw [h nofun]
    exact k
  | unfinished => exact unfinished _

end Completes

end Outcome

/-- The number of a field from its digits. -/
def fieldPart? : List Char → Option Token
  | [] => none
  | c :: cs =>
    if c.isDigit && cs.all Literal.isPlace then
      (fieldNumber? (Literal.magnitude 10 (c :: cs))).map .literal
    else none

/-- What is read for a token where a field may be named by its number. -/
def fieldTokens? : Token → Option (List Token)
  | .literal ⟨_, .integer n []⟩ => (fieldNumber? n).map ([.literal ·])
  | .literal ⟨_, .integer _ _⟩ => none
  | .literal ⟨spelling, .fraction⟩ =>
    -- Behind a point that ends the number another field follows.
    match spelling.toList.span (· != '.') with
    | (first, ['.']) => (fieldPart? first).map ([·, Token.sign '.'])
    | (first, '.' :: second) => do return [← fieldPart? first, Token.sign '.', ← fieldPart? second]
    | _ => none
  | t => some [t]

namespace Grammar

variable {ρ : Type}

/-- A grammar as it is read strictly. -/
def strict : Grammar ρ → Grammar ρ
  | .seq g h => .seq g.strict h.strict
  | .cond l yes no => .cond l yes.strict no.strict
  | .replace l n new g => .replace l n new g.strict
  | .loose strictly _ => strictly
  | g => g

/-- Reads by a grammar, given how its parts are read. -/
def step (rules : ρ → Grammar ρ) (part : Grammar ρ → List Token → Outcome) :
    Grammar ρ → List Token → Outcome
  | .empty, ts => .read [] ts
  | .refuse, _ => .refused
  | .take c, ts =>
    match ts with
    | t :: rest => if c.holds t then .read [t] rest else .refused
    | [] => .refused
  | .replace l n new g, ts =>
    -- What stands in the place of these tokens is not left behind.
    if l.holds ts then (part g (new ++ ts.drop n)).atMost (ts.length - n) else part g ts
  | .numbers g, ts =>
    match ts with
    | t :: rest =>
      -- Behind a number with its own point at the end stands no number with a point.
      if Class.pointed.holds t && (Look.one .fraction).holds rest then .refused
      else
        match fieldTokens? t with
        | some new => (part g (new ++ rest)).atMost rest.length
        | none => .refused
    | [] => .refused
  | .seq g h, ts => (part g ts).andThen fun written rest => (part h rest).after written
  | .cond l yes no, ts => if l.holds ts then part yes ts else part no ts
  | .ending g c yes no, ts =>
    (part g ts).andThen fun written rest =>
      if written.getLast?.any c.holds then (part yes rest).after written
      else (part no rest).after written
  | .many l g, ts =>
    if l.holds ts then
      (part g ts).andThen fun written rest => (part (.many l g) rest).after written
    else .read [] ts
  | .list stop item separator, ts =>
    if stop.holds ts then .read [] ts
    else
      (part item ts).andThen fun written rest =>
        -- Without a separator behind the item the list is over, wherever it stops.
        match rest with
        | t :: rest =>
          if separator.holds t then
            (part (.list stop item separator) rest).after (written ++ [t])
          else .read written (t :: rest)
        | [] => .read written []
  | .angles item before, ts =>
    if (Look.mark '>').holds ts then .read (before.arranged ++ ts.take 1) (ts.drop 1)
    else
      (part item ts).andThen fun written rest =>
        if (Look.mark '>').holds rest then
          .read ((before.add written []).arranged ++ rest.take 1) (rest.drop 1)
        else if (Look.mark ',').holds rest then
          part (.angles item (before.add written (rest.take 1))) (rest.drop 1)
        else .refused
  | .inside d g, ts =>
    match ts with
    | .group e content :: rest =>
      if d = e then
        (part g content).andThen fun written left =>
          if left.isEmpty then .read [.group d written] rest else .refused
      else .refused
    | _ => .refused
  | .verbatim g, ts =>
    (part g ts).andThen fun _ rest => .read (ts.take (ts.length - rest.length)) rest
  | .lenient g, ts => (part g.strict ts).orElse (part (.verbatim g) ts)
  | .loose _ loosely, ts => part loosely ts
  | .call r, ts => part (rules r) ts

/-- Reads by a grammar. The limit bounds how deep the readings of its parts nest. -/
def run (rules : ρ → Grammar ρ) : (limit : Nat) → Grammar ρ → List Token → Outcome
  | 0, _, _ => .unfinished
  | n + 1, g, ts => step rules (run rules n) g ts

/-- One way of reading agrees with another wherever that one comes to an end. -/
def Extends (p q : Grammar ρ → List Token → Outcome) : Prop :=
  ∀ g ts, q g ts ≠ .unfinished → p g ts = q g ts

/-- Finishing more parts does not change what is finished already. -/
theorem step_extends {rules : ρ → Grammar ρ} {p q : Grammar ρ → List Token → Outcome}
    (h : Extends p q) : Extends (step rules p) (step rules q) := by
  -- Every form goes on from its parts by steps that keep `Completes`.
  have part (g ts) : (p g ts).Completes (q g ts) := h g ts
  intro g ts
  change Outcome.Completes _ _
  cases g with
  | empty | refuse | take => exact .refl _
  | replace l n new g => exact .ite ((part g _).atMost _) (part g ts)
  | numbers g =>
    cases ts with
    | nil => exact .refl _
    | cons t rest =>
      refine .ite (.refl _) ?_
      split
      · exact (part g _).atMost _
      · exact .refl _
  | seq g k => exact (part g ts).andThen fun w r => (part k r).after w
  | cond l yes no => exact .ite (part yes ts) (part no ts)
  | ending g c yes no =>
    exact (part g ts).andThen fun w r => .ite ((part yes r).after w) ((part no r).after w)
  | many l g =>
    exact .ite ((part g ts).andThen fun w r => (part (.many l g) r).after w) (.refl _)
  | list stop item separator =>
    refine .ite (.refl _) ((part item ts).andThen fun w r => ?_)
    cases r with
    | nil => exact .refl _
    | cons t r => exact .ite ((part (.list stop item separator) r).after (w ++ [t])) (.refl _)
  | angles item before =>
    exact .ite (.refl _) ((part item ts).andThen fun w r =>
      .ite (.refl _) (.ite (part _ (r.drop 1)) (.refl _)))
  | inside d g =>
    cases ts with
    | nil => exact .refl _
    | cons t ts =>
      cases t with
      | group e content => exact .ite ((part g content).andThen fun _ _ => .refl _) (.refl _)
      | _ => exact .refl _
  | verbatim g => exact (part g ts).andThen fun _ _ => .refl _
  | lenient g => exact (part g.strict ts).orElse (part (.verbatim g) ts)
  | loose _ loosely => exact part loosely ts
  | call r => exact part (rules r) ts

/-- Once a reading is finished, a higher limit changes nothing. -/
theorem run_succ (rules : ρ → Grammar ρ) (n : Nat) :
    Extends (run rules (n + 1)) (run rules n) := by
  induction n with
  | zero => exact fun g ts hu => absurd rfl hu
  | succ n ih => exact step_extends ih

/-- Once a reading is finished, no higher limit changes it. -/
theorem run_add (rules : ρ → Grammar ρ) (n m : Nat) :
    Extends (run rules (n + m)) (run rules n) := by
  induction m with
  | zero => exact fun _ _ _ => rfl
  | succ m ih =>
    intro g ts hu
    have := ih g ts hu
    rw [← Nat.add_assoc, run_succ rules (n + m) g ts (by rwa [this]), this]

/-! ## Building grammars -/

/-- One after the other. -/
def all : List (Grammar ρ) → Grammar ρ
  | [] => .empty
  | [g] => g
  | g :: gs => .seq g (all gs)

/-- This word. -/
def word (w : String) : Grammar ρ := .take (.word w)

/-- This punctuation character. -/
def mark (c : Char) : Grammar ρ := .take (.mark c)

/-- An operator of several characters. -/
def operator (s : String) : Grammar ρ := all ((Class.operator s.toList).map .take)

/-- One of the punctuation characters of a text. -/
def marks (s : String) : Grammar ρ := .take (.marks s.toList)

/-- Something that may be missing, by what comes next. -/
def opt (l : Look) (g : Grammar ρ) : Grammar ρ := .cond l g .empty

/-- A token of a class, which may be missing. -/
def optional (c : Class) : Grammar ρ := opt (.one c) (.take c)

/-- This word, which may be missing. -/
def optWord (w : String) : Grammar ρ := optional (.word w)

/-- An operator of several characters, which may be missing. -/
def optOperator (s : String) : Grammar ρ := opt (.operator s) (operator s)

/-- A token of a class and what it introduces, both of which may be missing. -/
def lead (c : Class) (g : Grammar ρ) : Grammar ρ := opt (.one c) (all [.take c, g])

/-- A part that there only is loosely. -/
def loosely (g : Grammar ρ) : Grammar ρ := .loose .refuse g

/-- The first case whose question is answered by yes. -/
def choose (cases : List (Look × Grammar ρ)) (otherwise : Grammar ρ) : Grammar ρ :=
  cases.foldr (fun c g => .cond c.1 c.2 g) otherwise

/-- Items with commas between them up to the end of a group. -/
def commas (item : Grammar ρ) : Grammar ρ := .list .ended item (.mark ',')

end Grammar

end Vigil.Source
