import Vigil.Config.Value

/-!
# Key paths

The address of a value: names of table entries and positions in arrays, as in `a.b[0].c` or
`list[-1]`.

* `KeyPath.read?`: a name, then any number of `.name` and `[position]`.
* `KeyPath.get?`: the value at a path, if everything on the way is there.
* `KeyPath.update`: the tree with the value at a path changed, the way to it made if need be.
-/

namespace Vigil.Config

/-- One step from a value to a part of it. -/
inductive Step
  | name (key : String)
  | position (i : Int)
  deriving DecidableEq

/-- The steps from the root, the outermost first. -/
abbrev KeyPath := List Step

namespace KeyPath

/-- A character of a name. -/
def isNameChar (c : Char) : Bool := c.isAlphanum || c == '_' || c == '-'

/-- A blank that may stand next to a position. -/
def isPad (c : Char) : Bool := c == ' ' || c == '\t'

/-- A name in front of a text, and the rest. -/
def readName? (cs : List Char) : Option (String × List Char) :=
  match cs.takeWhile isNameChar with
  | [] => none
  | c :: name => some (String.ofList (c :: name), cs.dropWhile isNameChar)

/-- Whether a minus sign stands in front of a text, and the text after it. -/
def readSign : List Char → Bool × List Char
  | '-' :: rest => (true, rest)
  | cs => (false, cs)

/-- An integer that a signed 64-bit word holds, in front of a text, and the rest. -/
def readPosition? (cs : List Char) : Option (Int × List Char) :=
  let digits := (readSign cs).2.takeWhile Char.isDigit
  let size : Int := Text.Decimal.value digits
  let i := if (readSign cs).1 then -size else size
  if digits ≠ [] ∧ -9223372036854775808 ≤ i ∧ i < 9223372036854775808 then
    some (i, (readSign cs).2.dropWhile Char.isDigit)
  else none

/-- What stands between an opening bracket and the text after its closing one. -/
def readBracket? (cs : List Char) : Option (Int × List Char) :=
  match readPosition? (cs.dropWhile isPad) with
  | none => none
  | some (i, rest) =>
    match rest.dropWhile isPad with
    | ']' :: rest => some (i, rest)
    | _ => none

theorem length_readName? {cs : List Char} {r : String × List Char} (h : readName? cs = some r) :
    r.2.length ≤ cs.length := by
  unfold readName? at h
  split at h
  · simp at h
  · simp only [Option.some.injEq] at h
    subst h
    exact (List.dropWhile_sublist _).length_le

theorem length_readSign (cs : List Char) : (readSign cs).2.length ≤ cs.length := by
  unfold readSign; split <;> simp

theorem length_readPosition? {cs : List Char} {r : Int × List Char}
    (h : readPosition? cs = some r) : r.2.length ≤ cs.length := by
  simp only [readPosition?, Option.ite_none_right_eq_some, Option.some.injEq] at h
  rw [← h.2]
  exact Nat.le_trans (List.dropWhile_sublist _).length_le (length_readSign cs)

theorem length_readBracket? {cs : List Char} {r : Int × List Char}
    (h : readBracket? cs = some r) : r.2.length < cs.length := by
  unfold readBracket? at h
  split at h
  · simp at h
  · rename_i i rest hp
    have h1 := length_readPosition? hp
    have h2 := (List.dropWhile_sublist isPad (l := cs)).length_le
    have h3 := (List.dropWhile_sublist isPad (l := rest)).length_le
    split at h
    · rename_i rest' hr
      simp only [Option.some.injEq] at h; subst h
      rw [hr] at h3; simp only [List.length_cons] at h3
      simp only at h1 ⊢; omega
    · simp at h

/-- The steps after the first name, up to the end of the text. -/
def readSteps? : List Char → Option KeyPath
  | [] => some []
  | '.' :: rest =>
    match h : readName? rest with
    | some (key, rest') =>
      have : rest'.length ≤ rest.length := length_readName? h
      (readSteps? rest').map (.name key :: ·)
    | none => none
  | '[' :: rest =>
    match h : readBracket? rest with
    | some (i, rest') =>
      have : rest'.length < rest.length := length_readBracket? h
      (readSteps? rest').map (.position i :: ·)
    | none => none
  | _ :: _ => none
  termination_by cs => cs.length
  decreasing_by all_goals simp only [List.length_cons]; omega

/-- The path that a text spells, all of it. -/
def read? (s : String) : Option KeyPath :=
  match readName? s.toList with
  | some (key, rest) => (readSteps? rest).map (.name key :: ·)
  | none => none

/-- The place in a list of `size` items that a position means; a negative one counts from the
end. Positions before the start give how far before it they are. -/
def place (i : Int) (size : Nat) : Nat ⊕ Nat :=
  if 0 ≤ i then .inl i.toNat
  else if (-i).toNat ≤ size then .inl (size - (-i).toNat)
  else .inr ((-i).toNat - size)

/-- The part of a value that one step leads to. -/
def follow? (v : Value) : Step → Option Value
  | .name key =>
    match v with
    | .table _ es => es.lookup key
    | _ => none
  | .position i =>
    match v with
    | .array _ vs =>
      match place i vs.length with
      | .inl k => vs[k]?
      | .inr _ => none
    | _ => none

/-- The value at a path. -/
def get? (p : KeyPath) (v : Value) : Option Value := p.foldlM follow? v

/-- The list with the item at `place` changed; positions beyond the end or before the start are
filled with nil. -/
def updateItem (i : Int) (f : Value → Value) (vs : List Value) : List Value :=
  match place i vs.length with
  | .inl k =>
    let vs := vs ++ List.replicate (k + 1 - vs.length) Value.absent
    vs.modify k f
  | .inr k => (List.replicate k Value.absent ++ vs).modify 0 f

/-- The tree with the value at a path changed. Whatever is no table where a name leads on, or no
array where a position does, gives way to one; what is not there yet starts as nil. -/
def update : KeyPath → (Value → Value) → Value → Value
  | [], f, v => f v
  | .name key :: p, f, v =>
    .table v.tableOrigin (upsert key (fun old => update p f (old.getD .absent)) v.entries)
  | .position i :: p, f, v => .array v.arrayOrigin (updateItem i (update p f) v.items)

end KeyPath

mutual
/-- The value that is there after `incoming` has been set where `current` was: a table goes in
entry by entry, anything else takes the place. -/
def Value.merge : Value → Value → Value
  | .table _ entries, current =>
    -- A table that is new has no source of its own, whatever its entries have.
    let start := match current with
      | .scalar _ .nil => .table none []
      | v => v
    mergeEntries entries start
  | v, _ => v

/-- The value after a table's entries have been set in it one after the other. -/
def mergeEntries : List (String × Value) → Value → Value
  | [], current => current
  | (key, v) :: rest, current =>
    mergeEntries rest
      (.table current.tableOrigin
        (upsert key (fun old => v.merge (old.getD .absent)) current.entries))
end

/-- The tree with a value set at a path. -/
def KeyPath.set (p : KeyPath) (incoming : Value) (root : Value) : Value :=
  p.update incoming.merge root

end Vigil.Config
