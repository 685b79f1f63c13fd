import Vigil.Config.Value
import Vigil.Number.Reading
import Vigil.Text.Hex
import Vigil.Yaml.Node

/-!
# Documents

What the nodes of a document stand for: plain scalars spell nulls, truth values and numbers,
references repeat what their anchors mark, and keys become texts. No mapping gives a key twice.

* `Datum.ofPlain`, `Datum.ofTagged`: the value of a plain scalar.
* `Document.entries?`: the entries of the root mapping of a text.
-/

namespace Vigil.Yaml

open Config

/-- A value of a document; fractions keep their spelling. -/
inductive Datum
  | null
  /-- A scalar that its tag does not fit, or a reference to what is not complete yet. -/
  | unfit
  | bool (b : Bool)
  | int (n : Int)
  | fraction (spelling : String)
  | text (s : String)
  | sequence (items : List Datum)
  | mapping (pairs : List (Datum × Datum))

namespace Datum

/-- The spellings of the numbers that are no decimal fractions. -/
def specials : List String :=
  [".inf", ".Inf", ".INF", "+.inf", "+.Inf", "+.INF", "-.inf", "-.Inf", "-.INF", ".nan", ".NaN",
    ".NAN"]

/-- Whether a scalar spells a fraction. -/
def isFraction (s : String) : Bool :=
  specials.elem s || (Number.readFraction? s.toList).isSome

/-- An integer in decimal after an optional sign. -/
def decimal? (cs : List Char) : Option Int := Number.readWord? Number.decimalDigit? 10 cs

/-- A digit below eight. -/
def octalDigit? (c : Char) : Option Nat := (Number.decimalDigit? c).filter (· < 8)

/-- An integer of any form. -/
def integer? : List Char → Option Int
  | '0' :: 'x' :: cs => Number.readWord? Text.hexDigit? 16 cs
  | '0' :: 'o' :: cs => Number.readWord? octalDigit? 8 cs
  | '+' :: cs => decimal? cs
  | cs => decimal? cs

/-- The value of a plain scalar without a tag. -/
def ofPlain (s : String) : Datum :=
  if s = "" ∨ s = "~" ∨ s = "null" then null
  else if s = "true" then bool true
  else if s = "false" then bool false
  else
    match integer? s.toList with
    | some n => int n
    | none => if isFraction s then fraction s else text s

/-- The value of a plain scalar with a tag. -/
def ofTagged (tag : Tag) (s : String) : Datum :=
  if tag.space ≠ Node.coreSpace then text s
  else if tag.name = "bool" then
    if s = "true" then bool true else if s = "false" then bool false else unfit
  else if tag.name = "int" then ((decimal? s.toList).map int).getD unfit
  else if tag.name = "float" then if isFraction s then fraction s else unfit
  else if tag.name = "null" then if s = "~" ∨ s = "null" then null else unfit
  else text s

/-- The value of a scalar. -/
def ofScalar (tag : Option Tag) (plain : Bool) (s : String) : Datum :=
  if !plain then text s
  else
    match tag with
    | some tag => ofTagged tag s
    | none => ofPlain s

/-- A value as a key; only scalars other than null are. -/
def key? : Datum → Option String
  | bool b => some (Scalar.word b)
  | int n => some (Text.Decimal.integer n)
  | fraction s => some s
  | text s => some s
  | _ => none

/-- Whether two keys are the same scalar. -/
def sameKey : Datum → Datum → Bool
  | bool a, bool b => a == b
  | int a, int b => a == b
  | fraction a, fraction b => a == b
  | text a, text b => a == b
  | _, _ => false

/-- The parts of a mapping as pairs. A key that its tag does not fit is passed over, and what
follows it is the key. -/
def pairs : List Datum → List (Datum × Datum)
  | [] => []
  | [_] => []
  | unfit :: rest => pairs rest
  | key :: value :: rest => (key, value) :: pairs rest

/-- Whether no two of the pairs have the same key. -/
def distinct : List (Datum × Datum) → Bool
  | [] => true
  | (key, _) :: rest => rest.all (fun p => !sameKey key p.1) && distinct rest

end Datum

/-- The anchors met so far, in order, each with what it marks once that is complete. -/
abbrev Anchors := List (String × Option Datum)

namespace Anchors

/-- With an anchor, if there is one. -/
def start (anchor : Option String) (as : Anchors) : Anchors :=
  match anchor with
  | some name => as ++ [(name, none)]
  | none => as

/-- With what the anchor at a place marks, if there is one. -/
def complete (anchor : Option String) (place : Nat) (d : Datum) (as : Anchors) : Anchors :=
  match anchor with
  | some name => as.set place (name, some d)
  | none => as

end Anchors

namespace Node

mutual
/-- The value of a node, and the anchors after it. -/
def datum? : Node → Anchors → Option (Datum × Anchors)
  | .reference name, as =>
    -- Of several anchors of one name the last one counts.
    match as.reverse.lookup name with
    | some d => some (d.getD .unfit, as)
    | none => none
  | .scalar anchor tag plain text, as =>
    let d := Datum.ofScalar tag plain text
    some (d, (as.start anchor).complete anchor as.length d)
  | .sequence anchor items, as =>
    match items? items (as.start anchor) with
    | some (ds, as') => some (.sequence ds, as'.complete anchor as.length (.sequence ds))
    | none => none
  | .mapping anchor ps, as =>
    match parts? ps (as.start anchor) with
    | some (ds, as') =>
      let ps := Datum.pairs ds
      if Datum.distinct ps then some (.mapping ps, as'.complete anchor as.length (.mapping ps))
      else none
    | none => none

/-- The values of nodes, and the anchors after them. -/
def items? : List Node → Anchors → Option (List Datum × Anchors)
  | [], as => some ([], as)
  | n :: rest, as =>
    match datum? n as with
    | some (d, as) => (items? rest as).map fun r => (d :: r.1, r.2)
    | none => none

/-- The values of the nodes of pairs in the order of the text, and the anchors after them. -/
def parts? : List (Node × Node) → Anchors → Option (List Datum × Anchors)
  | [], as => some ([], as)
  | (key, value) :: rest, as =>
    match datum? key as with
    | none => none
    | some (k, as) =>
      match datum? value as with
      | some (v, as) => (parts? rest as).map fun r => (k :: v :: r.1, r.2)
      | none => none
end

end Node

namespace Datum

mutual
/-- A value as part of a configuration, marked with its source. Only decimal fractions are
numbers there. -/
def toValue? (origin : Option String) : Datum → Option Value
  | null => some (.scalar origin .nil)
  | unfit => some (.scalar origin .nil)
  | bool b => some (.scalar origin (.bool b))
  | int n => some (.scalar origin (.int n))
  | fraction s => (Number.readFraction? s.toList).map fun x => .scalar origin (.float x)
  | text s => some (.scalar origin (.text s))
  | sequence ds => (toValues? origin ds).map (.array origin)
  | mapping ps => (toEntries? origin ps []).map (.table origin)

/-- Values as parts of a configuration, in order. -/
def toValues? (origin : Option String) : List Datum → Option (List Value)
  | [] => some []
  | d :: rest =>
    match toValue? origin d with
    | some v => (toValues? origin rest).map (v :: ·)
    | none => none

/-- Pairs as entries of a configuration after those before them; keys that spell the same text
are one, and the last value counts. -/
def toEntries? (origin : Option String) : List (Datum × Datum) → List (String × Value) →
    Option (List (String × Value))
  | [], es => some es
  | (k, d) :: rest, es =>
    match k.key?, toValue? origin d with
    | some key, some v => toEntries? origin rest (upsert key (fun _ => v) es)
    | _, _ => none
end

end Datum

namespace Document

/-- The entries of the root mapping of a text, each part marked with its source. A text without a
document has none. -/
def entries? (origin : Option String) (text : String) : Option (List (String × Value)) :=
  match (Token.scan? text).bind fun ts => Node.root? ts.toList with
  | none => none
  | some none => some []
  | some (some root) =>
    match root.datum? [] with
    | some (.mapping ps, _) => Datum.toEntries? origin ps []
    | _ => none

end Document

end Vigil.Yaml
