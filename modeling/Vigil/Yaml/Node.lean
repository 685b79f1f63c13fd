import Vigil.Yaml.Token

/-!
# Nodes

The tree that tokens spell: scalars, sequences and mappings, with anchors and tags, and
references to anchors. What is left out is a null.

* `Node.root?`: the root of the one document in a text, if there is any.
-/

namespace Vigil.Yaml

/-- A tag: what its handle means, and the rest of it. -/
structure Tag where
  space : String
  name : String
  deriving DecidableEq

/-- A part of a document. -/
inductive Node
  | scalar (anchor : Option String) (tag : Option Tag) (plain : Bool) (text : String)
  | sequence (anchor : Option String) (items : List Node)
  | mapping (anchor : Option String) (pairs : List (Node × Node))
  | reference (name : String)

namespace Node

/-- What stands where nothing is written. -/
def absent : Node := scalar none none true "~"

/-- The space of the core tags. -/
def coreSpace : String := "tag:yaml.org,2002:"

/-- The tag of a handle and the rest behind it, with the meanings of handles that the document
declares. A handle between exclamation marks must be declared. -/
def tag? (handles : List (String × String)) (handle rest : String) : Option Tag :=
  match handles.lookup handle with
  | some space => some ⟨space, rest⟩
  | none =>
    if handle = "!!" then some ⟨coreSpace, rest⟩
    else if handle = "" ∨ handle = "!" then some ⟨handle, rest⟩
    else none

/-- The anchor and the tag in front of a node, in either order, and what follows them. -/
def properties? (handles : List (String × String)) :
    List Token → Option (Option String × Option Tag × List Token)
  | .anchor name :: .tag h t :: rest =>
    (tag? handles h t).map fun tag => (some name, some tag, rest)
  | .anchor name :: rest => some (some name, none, rest)
  | .tag h t :: .anchor name :: rest =>
    (tag? handles h t).map fun tag => (some name, some tag, rest)
  | .tag h t :: rest => (tag? handles h t).map fun tag => (none, some tag, rest)
  | rest => some (none, none, rest)

/-- Whether no node begins here in a block mapping. -/
def endsPart : List Token → Bool
  | .key :: _ | .value :: _ | .blockEnd :: _ => true
  | _ => false

/-- Whether no node begins here in an entry. -/
def endsEntry : List Token → Bool
  | .blockEntry :: _ | .blockEnd :: _ => true
  | _ => false

/-- Whether no node begins here between brackets. -/
def endsFlow : List Token → Bool
  | .flowEntry :: _ | .flowMappingEnd :: _ | .flowSequenceEnd :: _ | .value :: _ => true
  | _ => false

/-- Whether a key or a value begins here between brackets. -/
def startsPair : List Token → Bool
  | .key :: _ | .value :: _ => true
  | _ => false

mutual
/-- A node, and what follows it. Blocks may begin where `block` says, entries of a sequence
without a block of its own where `entries` does. -/
def read? (handles : List (String × String)) : (fuel : Nat) → (block entries : Bool) →
    List Token → Option (Node × List Token)
  | 0, _, _, _ => none
  | fuel + 1, block, entries, ts =>
    match ts with
    | .reference name :: rest => some (.reference name, rest)
    | _ =>
      match properties? handles ts with
      | none => none
      | some (anchor, tag, ts) =>
        match ts with
        | .scalar plain text :: rest => some (.scalar anchor tag plain text, rest)
        | .flowSequence :: rest =>
          (flowItems? handles fuel rest).map fun r => (.sequence anchor r.1, r.2)
        | .flowMapping :: rest =>
          (flowPairs? handles fuel rest).map fun r => (.mapping anchor r.1, r.2)
        | _ =>
          match ts, block, entries with
          | .blockEntry :: _, _, true =>
            (looseItems? handles fuel ts).map fun r => (.sequence anchor r.1, r.2)
          | .blockSequence :: rest, true, _ =>
            (blockItems? handles fuel rest).map fun r => (.sequence anchor r.1, r.2)
          | .blockMapping :: rest, true, _ =>
            (blockPairs? handles fuel rest).map fun r => (.mapping anchor r.1, r.2)
          | _, _, _ =>
            -- An anchor or a tag alone marks an empty scalar.
            if anchor.isSome || tag.isSome then some (.scalar anchor tag true "", ts) else none

/-- The entries of a block sequence up to its end. -/
def blockItems? (handles : List (String × String)) : (fuel : Nat) → List Token →
    Option (List Node × List Token)
  | 0, _ => none
  | fuel + 1, ts =>
    match ts with
    | .blockEnd :: rest => some ([], rest)
    | .blockEntry :: rest =>
      match if endsEntry rest then some (absent, rest) else read? handles fuel true false rest with
      | some (item, rest) => (blockItems? handles fuel rest).map fun r => (item :: r.1, r.2)
      | none => none
    | _ => none

/-- The entries of a sequence that stands as deep as the key before it. -/
def looseItems? (handles : List (String × String)) : (fuel : Nat) → List Token →
    Option (List Node × List Token)
  | 0, _ => none
  | fuel + 1, ts =>
    match ts with
    | .blockEntry :: rest =>
      match if endsEntry rest || endsPart rest then some (absent, rest)
        else read? handles fuel true false rest with
      | some (item, rest) => (looseItems? handles fuel rest).map fun r => (item :: r.1, r.2)
      | none => none
    | _ => some ([], ts)

/-- The pairs of a block mapping up to its end. -/
def blockPairs? (handles : List (String × String)) : (fuel : Nat) → List Token →
    Option (List (Node × Node) × List Token)
  | 0, _ => none
  | fuel + 1, ts =>
    let key? := match ts with
      | .key :: rest =>
        if endsPart rest then some (absent, rest) else read? handles fuel true true rest
      | .value :: _ => some (absent, ts)
      | _ => none
    match ts, key? with
    | .blockEnd :: rest, _ => some ([], rest)
    | _, some (key, ts) =>
      let value? := match ts with
        | .value :: rest =>
          if endsPart rest then some (absent, rest) else read? handles fuel true true rest
        | _ => some (absent, ts)
      match value? with
      | some (value, rest) =>
        (blockPairs? handles fuel rest).map fun r => ((key, value) :: r.1, r.2)
      | none => none
    | _, none => none

/-- The items between brackets up to the closing one. A pair stands for a mapping of its own. -/
def flowItems? (handles : List (String × String)) : (fuel : Nat) → List Token →
    Option (List Node × List Token)
  | 0, _ => none
  | fuel + 1, ts =>
    let item? : Option (Node × List Token) :=
      if startsPair ts then
        (flowPair? handles fuel ts).map fun r => (mapping none [r.1], r.2)
      else read? handles fuel false false ts
    match ts, item? with
    | .flowSequenceEnd :: rest, _ => some ([], rest)
    | _, some (item, .flowEntry :: rest) =>
      (flowItems? handles fuel rest).map fun r => (item :: r.1, r.2)
    | _, some (item, .flowSequenceEnd :: rest) => some ([item], rest)
    | _, _ => none

/-- The pairs between braces up to the closing one. -/
def flowPairs? (handles : List (String × String)) : (fuel : Nat) → List Token →
    Option (List (Node × Node) × List Token)
  | 0, _ => none
  | fuel + 1, ts =>
    match ts with
    | .flowMappingEnd :: rest => some ([], rest)
    | _ =>
      let pair? : Option ((Node × Node) × List Token) :=
        if startsPair ts then flowPair? handles fuel ts
        else (read? handles fuel false false ts).map fun r => ((r.1, absent), r.2)
      match pair? with
      | some (pair, .flowEntry :: rest) =>
        (flowPairs? handles fuel rest).map fun r => (pair :: r.1, r.2)
      | some (pair, .flowMappingEnd :: rest) => some ([pair], rest)
      | _ => none

/-- A key and its value between brackets; either may be left out. -/
def flowPair? (handles : List (String × String)) : (fuel : Nat) → List Token →
    Option ((Node × Node) × List Token)
  | 0, _ => none
  | fuel + 1, ts =>
    let key? := match ts with
      | .key :: rest =>
        if endsFlow rest then some (absent, rest) else read? handles fuel false false rest
      | _ => some (absent, ts)
    match key? with
    | none => none
    | some (key, .value :: rest) =>
      if endsFlow rest then some ((key, absent), rest)
      else (read? handles fuel false false rest).map fun r => ((key, r.1), r.2)
    | some (key, rest) => some ((key, absent), rest)
end

/-- The meanings of handles in the directives in front of a document, and what follows them. A
document has at most one version, and a handle one meaning. -/
def directives? : (versioned : Bool) → (handles : List (String × String)) → List Token →
    Option (List (String × String) × List Token)
  | versioned, handles, .version :: rest =>
    if versioned then none else directives? true handles rest
  | versioned, handles, .handle name meaning :: rest =>
    if (handles.lookup name).isSome then none
    else directives? versioned ((name, meaning) :: handles) rest
  | _, handles, ts => some (handles, ts)

/-- The root of a document whose tokens these are, up to its end. -/
def document? (handles : List (String × String)) (ts : List Token) : Option Node :=
  match read? handles (4 * ts.length + 4) true false ts with
  | some (root, rest) => if rest.all (· == .documentEnd) then some root else none
  | none => none

/-- The root of the one document that the tokens are, or nothing if there is no document. -/
def root? (ts : List Token) : Option (Option Node) :=
  match ts.dropWhile (· == .documentEnd) with
  | [] => some none
  | ts =>
    match directives? false [] ts with
    | none => none
    | some (handles, .documentStart :: rest) => (document? handles rest).map some
    -- Without its mark a document may not follow directives.
    | some ([], rest) =>
      if rest.length = ts.length then (document? [] rest).map some else none
    | some _ => none

end Node

end Vigil.Yaml
