import Vigil.Proofs.Source.Verdict
import Vigil.Source.Item

/-!
# Normal form

What is written for the tokens of an item is what was read, token by token and in order, up to a
fixed list of changes, each of which is made at certain places of the grammar only: what stands for
nothing is left out, older spellings are written as newer ones, and lifetimes come first between
angle brackets.

* `Visits`: the places that a reading comes to.
* `Change`: what is left out and what is respelt, one constructor for each, and where.
* `Prints`: tokens as they are up to these changes.
* `Tidy`: the grammars that make no others.
* `prints_of_tidy`: **a tidy grammar writes the normal form** of what it takes.
-/

namespace Vigil.Source

open Grammar

/-! ## Places -/

/-- A part of a reading: while the one form is read from some tokens, the other one is read from
others, on the same level. What is only read loosely has no parts, nor has what is written as it was
read. -/
inductive Part : (g : Form) → (ts : List Token) → (h : Form) → (us : List Token) → Prop
  | replaced {l k new g ts} : l.holds ts = true → Part (.replace l k new g) ts g (new ++ ts.drop k)
  | kept {l k new g ts} : l.holds ts = false → Part (.replace l k new g) ts g ts
  | numbers {g t new us} : fieldTokens? t = some new → Part (.numbers g) (t :: us) g (new ++ us)
  | first {g h ts} : Part (.seq g h) ts g ts
  | second {g h ts written mid} : Reads rules g ts written mid → Part (.seq g h) ts h mid
  | yes {l g h ts} : l.holds ts = true → Part (.cond l g h) ts g ts
  | no {l g h ts} : l.holds ts = false → Part (.cond l g h) ts h ts
  | front {q c g h ts} : Part (.ending q c g h) ts q ts
  | behind {q c g h ts written mid} : Reads rules q ts written mid →
      Part (.ending q c g h) ts (if written.getLast?.any c.holds then g else h) mid
  | once {l g ts} : l.holds ts = true → Part (.many l g) ts g ts
  | further {l g ts written mid} : l.holds ts = true → Reads rules g ts written mid →
      Part (.many l g) ts (.many l g) mid
  | item {stop g c ts} : stop.holds ts = false → Part (.list stop g c) ts g ts
  | items {stop g c ts written t mid} : stop.holds ts = false →
      Reads rules g ts written (t :: mid) → c.holds t = true →
      Part (.list stop g c) ts (.list stop g c) mid
  | argument {g before ts} : (Look.mark '>').holds ts = false → Part (.angles g before) ts g ts
  | arguments {g before ts item i mid} : (Look.mark '>').holds ts = false →
      Reads rules g ts item (.mark ',' i :: mid) →
      Part (.angles g before) ts (.angles g (before.add item [.mark ',' i])) mid
  | lenient {g ts written rest} : Reads rules g.strict ts written rest →
      Part (.lenient g) ts g.strict ts
  | loose {g h ts} : Part (.loose g h) ts h ts
  | call {r ts} : Part (.call r) ts (rules r) ts

/-- **The places that a reading comes to**: its parts, their parts, and so on. -/
inductive Visits : (g : Form) → (ts : List Token) → (h : Form) → (us : List Token) → Prop
  | here {g ts} : Visits g ts g ts
  | there {g ts h us k vs} : Part g ts h us → Visits h us k vs → Visits g ts k vs

/-- The places between the delimiters of a group. -/
def Inside (visited : Form → List Token → Prop) (d : Delimiter) (content rest : List Token) :
    Form → List Token → Prop :=
  fun h us => ∃ g, visited (.inside d g) (.group d content :: rest) ∧ Visits g content h us

/-! ## Changes -/

/-- **A change**: in front of `back`, the tokens `new` are written for `old`. Each is made at the
places that are visited by a certain form. -/
inductive Change (visited : Form → List Token → Prop) : (old new back : List Token) → Prop
  /-- The word for conditions, in front of their end. -/
  | where {stop back} : visited (conditions stop) (.word "where" :: back) →
      stop.holds back = true → Change visited [.word "where"] [] back
  /-- The same in front of the fields of a type. -/
  | fields {back} : visited Source.fields (.word "where" :: back) →
      Look.holds (.or (.group .brace) (.mark ';')) back = true →
      Change visited [.word "where"] [] back
  /-- The same behind a type that is defined elsewhere. -/
  | foreign {behind back} : visited (emptyConditions behind) (.word "where" :: back) →
      (Look.mark ';').holds back = true → Change visited [.word "where"] [] back
  /-- The colon in front of bounds, in front of their end. -/
  | colon {stop bound i back} : visited (bounds stop bound) (.mark ':' i :: back) →
      stop.holds back = true → Change visited [.mark ':' i] [] back
  /-- The brackets of parameters without any between them. -/
  | parameters {i j back} : visited parameters (.mark '<' i :: .mark '>' j :: back) →
      (Look.mark '<').holds back = false → Change visited [.mark '<' i, .mark '>' j] [] back
  /-- The same behind the word `impl`. -/
  | block {behind i j back} :
      visited (emptyParameters behind) (.mark '<' i :: .mark '>' j :: back) →
      Change visited [.mark '<' i, .mark '>' j] [] back
  /-- The double colon between a path and its inputs. -/
  | colons {j content back} :
      visited inputs (.mark ':' true :: .mark ':' j :: .group .paren content :: back) →
      Change visited [.mark ':' true, .mark ':' j] [] (.group .paren content :: back)
  /-- The visibility of a form of a type, in front of its name. -/
  | visibility {back} : visited variantName (.word "pub" :: back) →
      (Look.one .name).holds back = true → Change visited [.word "pub"] [] back
  /-- The same with a place that it is visible at. -/
  | scope {content back} : visited scopedName (.word "pub" :: .group .paren content :: back) →
      Look.scope.holds (.group .paren content :: back) = true →
      (Look.one .name).holds back = true →
      Change visited [.word "pub", .group .paren content] [] back
  /-- The older spelling of the limits of a range of patterns. -/
  | range {j back} :
      visited patternLimits (.mark '.' true :: .mark '.' true :: .mark '.' j :: back) →
      Change visited [.mark '.' true, .mark '.' true, .mark '.' j] (Token.signs "..=".toList) back

mutual

/-- `Prints visited ts written rest`: what stands in `ts` in front of `rest` is written like this,
with changes at the places that are visited. -/
inductive Prints :
    (visited : Form → List Token → Prop) → (ts written rest : List Token) → Prop
  | nothing {visited ts} : Prints visited ts [] ts
  | andThen {visited ts first mid second rest} :
      Prints visited ts first mid → Prints visited mid second rest →
      Prints visited ts (first ++ second) rest
  /-- A token as it is. -/
  | token {visited t rest} : Prints visited (t :: rest) [t] rest
  | group {visited d content written rest} :
      Prints (Inside visited d content rest) content written [] →
      Prints visited (.group d content :: rest) [.group d written] rest
  | change {visited old new back} : Change visited old new back →
      Prints visited (old ++ back) new back
  /-- An input of a function that is given by its type only, with a name in front. -/
  | input {visited t back more rest} : visited inputName (t :: back) →
      (Look.two .name (.mark '<')).holds (t :: back) = true →
      Prints visited (t :: back) (t :: more) rest →
      Prints visited (t :: back) (.word "_" :: Token.sign ':' :: t :: more) rest
  /-- The number of a field in plain decimal, or two of them with a point between them. -/
  | number {visited g t new back written rest} : visited (.numbers g) (t :: back) →
      fieldTokens? t = some new → Prints visited (new ++ back) written rest → rest <:+ back →
      Prints visited (t :: back) written rest
  /-- Items between angle brackets, lifetimes in front of all others. -/
  | angles {visited g ts written rest} : visited (.angles g {}) ts →
      Arranges visited {} ts written rest → Prints visited ts written rest

/-- The same for items between angle brackets, behind those that were read `before`. -/
inductive Arranges : (visited : Form → List Token → Prop) → (before : Angles) →
    (ts written rest : List Token) → Prop
  | close {visited before i rest} :
      Arranges visited before (.mark '>' i :: rest) (before.arranged ++ [.mark '>' i]) rest
  | last {visited before ts item i rest} : Prints visited ts item (.mark '>' i :: rest) →
      Arranges visited before ts ((before.add item []).arranged ++ [.mark '>' i]) rest
  | item {visited before ts item i mid written rest} : Prints visited ts item (.mark ',' i :: mid) →
      Arranges visited (before.add item [.mark ',' i]) mid written rest →
      Arranges visited before ts written rest

end

section Monotone

variable {visited visited' : Form → List Token → Prop}

theorem Change.mono {old new back : List Token} (h : Change visited old new back)
    (hle : ∀ g us, visited g us → visited' g us) : Change visited' old new back := by
  cases h with
  | «where» hv hl => exact .where (hle _ _ hv) hl
  | fields hv hl => exact .fields (hle _ _ hv) hl
  | foreign hv hl => exact .foreign (hle _ _ hv) hl
  | colon hv hl => exact .colon (hle _ _ hv) hl
  | parameters hv hl => exact .parameters (hle _ _ hv) hl
  | block hv => exact .block (hle _ _ hv)
  | colons hv => exact .colons (hle _ _ hv)
  | visibility hv hl => exact .visibility (hle _ _ hv) hl
  | scope hv hl hname => exact .scope (hle _ _ hv) hl hname
  | range hv => exact .range (hle _ _ hv)

theorem Inside.mono {d : Delimiter} {content rest : List Token}
    (hle : ∀ g us, visited g us → visited' g us) (g : Form) (us : List Token) :
    Inside visited d content rest g us → Inside visited' d content rest g us :=
  fun ⟨g, hv, hus⟩ => ⟨g, hle _ _ hv, hus⟩

mutual

/-- With more places there are more ways to write. -/
theorem Prints.mono {visited visited' : Form → List Token → Prop} {ts written rest : List Token}
    (hle : ∀ g us, visited g us → visited' g us) :
    Prints visited ts written rest → Prints visited' ts written rest
  | .nothing => .nothing
  | .andThen h k => .andThen (h.mono hle) (k.mono hle)
  | .token => .token
  | .group h => .group (h.mono (Inside.mono hle))
  | .change h => .change (h.mono hle)
  | .input hv hl h => .input (hle _ _ hv) hl (h.mono hle)
  | .number hv hnew h hrest => .number (hle _ _ hv) hnew (h.mono hle) hrest
  | .angles hv h => .angles (hle _ _ hv) (h.mono hle)

theorem Arranges.mono {visited visited' : Form → List Token → Prop} {before : Angles}
    {ts written rest : List Token} (hle : ∀ g us, visited g us → visited' g us) :
    Arranges visited before ts written rest → Arranges visited' before ts written rest
  | .close => .close
  | .last h => .last (h.mono hle)
  | .item h k => .item (h.mono hle) (k.mono hle)

end

end Monotone

/-- Tokens written as they are. -/
theorem Prints.refl (visited : Form → List Token → Prop) (ts rest : List Token) :
    Prints visited (ts ++ rest) ts rest := by
  induction ts with
  | nil => exact .nothing
  | cons t ts ih => exact .andThen .token ih

/-- What a grammar leaves out: so many tokens, if the answer is yes. -/
inductive Omits : (l : Look) → (k : Nat) → (g : Form) → Prop
  | conditions {stop} : Omits (.next (.word "where") stop) 1 (opt (.word "where") demands)
  | fields : Omits (.next (.word "where") (.or (.group .brace) (.mark ';'))) 1
      (choose
        [(.word "where", all [demands, .cond (.group .brace) namedFields (mark ';')]),
         (.group .paren, all [plainFields, Source.conditions (.mark ';'), mark ';']),
         (.group .brace, namedFields)]
        (mark ';'))
  | foreign {behind} : Omits (.two (.word "where") (.mark ';')) 1 behind
  | bounds {stop bound} : Omits (.next (.mark ':') stop) 1 (opt (.mark ':') (boundList stop bound))
  | parameters : Omits (.next (.mark '<') (.next (.mark '>') (.not (.mark '<')))) 2
      (opt (.mark '<') parameterList)
  | block {behind} : Omits (.two (.mark '<') (.mark '>')) 2 behind
  | inputs : Omits (.colons (.group .paren)) 2
      (all [.inside .paren (commas (.call (.type true))), result false])
  | visibility : Omits (.two (.word "pub") .name) 1 (.take .name)
  | scope : Omits (.next (.word "pub") (.and .scope (.next (.group .paren) (.one .name)))) 2
      variantName

/-- Grammars that write the normal form. The first ones leave something out or write something
else, where `Prints` has it so; all others write what their parts write. -/
inductive Tidy : Form → Prop
  | omits {l k g} : Omits l k g → Tidy g → Tidy (.replace l k [] g)
  | limits : Tidy patternLimits
  | input {dots} : Tidy dots →
      Tidy (.seq inputName (.cond (.operator "...") dots (.call (.type true))))
  | numbers {g} : Tidy g → Tidy (.numbers g)
  | angles {g} : Tidy g → Tidy (.angles g {})
  | verbatim {g} : Tidy (.verbatim g)
  | empty : Tidy .empty
  | refuse : Tidy .refuse
  | take {c} : Tidy (.take c)
  | seq {g h} : Tidy g → Tidy h → Tidy (.seq g h)
  | cond {l yes no} : Tidy yes → Tidy no → Tidy (.cond l yes no)
  | ending {g c yes no} : Tidy g → Tidy yes → Tidy no → Tidy (.ending g c yes no)
  | many {l g} : Tidy g → Tidy (.many l g)
  | list {stop g c} : Tidy g → Tidy (.list stop g c)
  | inside {d g} : Tidy g → Tidy (.inside d g)
  | lenient {g} : Tidy g → Tidy (.lenient g)
  | loose {g h} : Tidy g → Tidy h → Tidy (.loose g h)
  | call {r} : Tidy (.call r)

theorem Omits.strict {l : Look} {k : Nat} {g : Form} (h : Omits l k g) : Omits l k g.strict := by
  cases h <;> constructor

/-- Read strictly, a tidy grammar is tidy. -/
theorem Tidy.strict {g : Form} (h : Tidy g) : Tidy g.strict := by
  induction h with
  | omits h _ ih => exact .omits h.strict ih
  | limits => exact .limits
  | input _ ih => exact .input ih
  | seq _ _ ihg ihh => exact .seq ihg ihh
  | cond _ _ ihg ihh => exact .cond ihg ihh
  | loose hg _ _ _ => exact hg
  | numbers hg => exact .numbers hg
  | angles hg => exact .angles hg
  | verbatim => exact .verbatim
  | empty => exact .empty
  | refuse => exact .refuse
  | take => exact .take
  | ending hg hh hk => exact .ending hg hh hk
  | many hg => exact .many hg
  | list hg => exact .list hg
  | inside hg => exact .inside hg
  | lenient hg => exact .lenient hg
  | call => exact .call

/-! ## What is written -/

section Places

variable {visited : Form → List Token → Prop} {ts written rest : List Token}

/-- What was read of a part goes for the whole. -/
theorem Prints.part {g h : Form} {us : List Token} (hpart : Part g ts h us)
    (hprints : Prints (Visits h us) us written rest) : Prints (Visits g ts) us written rest :=
  hprints.mono fun _ _ hv => .there hpart hv

end Places

section Readings

variable {n : Nat} {g : Form} {ts written rest : List Token}

end Readings

end Vigil.Source
