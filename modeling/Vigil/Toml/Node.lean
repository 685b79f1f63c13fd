import Vigil.Config.Value

/-!
# Tables under construction

A document fills its tables piece by piece. What may still be added to a table depends on how it
came about, and a name is never given twice.

* `Node.alter?`: the table with the part at a path changed, if the way there is open.
* `Node.assign?`: a value under a dotted name.
* `Node.openTable?`, `Node.openElement?`: the table that a heading begins.
-/

namespace Vigil.Toml

open Config

/-- How a table came about. -/
inductive Kind
  /-- Under a heading of its own, or as the root. -/
  | headed
  /-- On the way to another heading. -/
  | implied
  /-- On the way of a dotted name. -/
  | dotted
  /-- Between braces, for good. -/
  | closed
  deriving DecidableEq

/-- A value of a document; an array of headed tables is a list of the earlier ones and the one
that is still open. -/
inductive Node
  | scalar (s : Scalar)
  | array (items : List Node)
  | table (kind : Kind) (entries : List (String × Node))
  | tables (earlier : List Node) (last : Node)

namespace Node

/-- What a path does on its way: which kind of table it makes and which it may enter. -/
structure Way where
  makes : Kind
  enters : Kind → Bool

/-- The way of a heading: closed tables apart, all are open to it. -/
def Way.heading : Way := ⟨.implied, (· ≠ .closed)⟩

/-- The way of a dotted name: it enters no table that has a heading of its own. -/
def Way.name : Way := ⟨.dotted, fun k => k = .implied ∨ k = .dotted⟩

/-- The entries with the value of a name replaced, or added at the end. -/
def put (key : String) (n : Node) (es : List (String × Node)) : List (String × Node) :=
  upsert key (fun _ => n) es

/-- The node with the part at a path changed. Of an array of tables the path means the open one. -/
def alter? (way : Way) (f : Node → Option Node) : List String → Node → Option Node
  | [], node => f node
  | key :: path, .table kind entries =>
    match entries.lookup key with
    | none =>
      (alter? way f path (.table way.makes [])).map fun n => .table kind (put key n entries)
    | some (.tables earlier last) =>
      (alter? way f path last).map fun n => .table kind (put key (.tables earlier n) entries)
    | some (.table k es) =>
      if way.enters k then
        (alter? way f path (.table k es)).map fun n => .table kind (put key n entries)
      else none
    | some _ => none
  | _ :: _, _ => none

/-- The table with a new name in it. Behind a dotted name only its own tables take more. -/
def add? (behindDots : Bool) (key : String) (value : Node) : Node → Option Node
  | .table kind entries =>
    if behindDots = (kind = .dotted) ∧ entries.lookup key = none then
      some (.table kind (put key value entries))
    else none
  | _ => none

/-- The table with a value under a dotted name. -/
def assign? (node : Node) (path : List String) (value : Node) : Option Node :=
  match path.getLast? with
  | some key => alter? .name (add? (1 < path.length) key value) path.dropLast node
  | none => none

/-- The table with the table of a heading in it; one that was only on the way so far gets its
own. -/
def head? (key : String) : Node → Option Node
  | .table kind entries =>
    match entries.lookup key with
    | none => some (.table kind (put key (.table .headed []) entries))
    | some (.table .implied es) => some (.table kind (put key (.table .headed es) entries))
    | some _ => none
  | _ => none

/-- The table with one more element in the array of tables of a heading. -/
def extend? (key : String) : Node → Option Node
  | .table kind entries =>
    match entries.lookup key with
    | none => some (.table kind (put key (.tables [] (.table .headed [])) entries))
    | some (.tables earlier last) =>
      some (.table kind (put key (.tables (earlier ++ [last]) (.table .headed [])) entries))
    | some _ => none
  | _ => none

/-- The root after the heading of a table. -/
def openTable? (path : List String) (root : Node) : Option Node :=
  match path.getLast? with
  | some key => alter? .heading (head? key) path.dropLast root
  | none => none

/-- The root after the heading of an element. -/
def openElement? (path : List String) (root : Node) : Option Node :=
  match path.getLast? with
  | some key => alter? .heading (extend? key) path.dropLast root
  | none => none

/-- An empty table that can be filled. -/
def empty : Node := .table .headed []

/-- The table as it stands between braces. -/
def close : Node → Node
  | .table _ entries => .table .closed entries
  | n => n

mutual
/-- The value of a node, each part of it marked with its source. -/
def toValue (origin : Option String) : Node → Value
  | .scalar s => .scalar origin s
  | .array items => .array origin (toValues origin items)
  | .table _ entries => .table origin (toEntries origin entries)
  | .tables earlier last => .array origin (toValues origin earlier ++ [toValue origin last])

/-- The values of nodes, in order. -/
def toValues (origin : Option String) : List Node → List Value
  | [] => []
  | n :: rest => toValue origin n :: toValues origin rest

/-- The values of named nodes, in order. -/
def toEntries (origin : Option String) : List (String × Node) → List (String × Value)
  | [] => []
  | (key, n) :: rest => (key, toValue origin n) :: toEntries origin rest
end

/-- The entries of a table; anything else has none. -/
def entries : Node → List (String × Node)
  | .table _ es => es
  | _ => []

end Node

end Vigil.Toml
