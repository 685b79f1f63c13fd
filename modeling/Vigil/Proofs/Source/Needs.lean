import Vigil.Proofs.Source.Carry
import Vigil.Source.Item

/-!
# What the rules need

The table of the source grammar. Of each rule it tells what has to stay behind it so that it is
read again: mostly that nothing comes next with which the rule would go on, and sometimes that
something does come next for which it went a certain way.

* `sourceTable`: the table.
-/

namespace Vigil.Source

/-- What the rules of one kind need. -/
inductive Family
  | path (place : Setting)
  | type (plus : Bool)
  | bounds
  | pattern (strict : Bool)
  | trailers
  | operators (fields : Bool)
  | statements
  /-- The parameters and types of an `impl` block. -/
  | header
  deriving DecidableEq

namespace Family

/-- No further segment of a path. -/
def segmentEnd (place : Setting) : List Look :=
  [.not (.arguments place), .not (.colons (.not (.group .paren))), .not (.operator "::")]

/-- Nothing with which a type or a bound goes on. -/
def typeEnd (plus : Bool) : List Look :=
  segmentEnd .bound ++
    [.not .inputs, .not (.operator "->"), .not .bang, .not (.mark '+'), .not (.boundStart true)] ++
    if plus then [.not (.boundStart false)] else []

/-- What a path that stands as a pattern asks of what is behind it. -/
def patternPathEnd (strict : Bool) : List Look :=
  segmentEnd (.pattern strict) ++
    [.not .bang, .not (.group .brace), .not (.group .paren), .not (.mark '='), .not (.mark '.'),
      .not (.operator ".."), .patternRangeEnd] ++
    if strict then [.mark '|'] else []

/-- What a single name asks, so that it is a path or not. -/
def placedEnd : Look :=
  .any [.operator "::", .mark '!', .group .brace, .group .paren, .operator ".."]

/-- No call, field, index or question mark. -/
def trailersEnd : List Look :=
  [.not (.operator "::"), .not .point, .not (.next (.mark '.') (.one .fraction)),
    .not (.mark '?'), .not (.group .bracket), .not (.group .paren)]

/-- Nothing with which an expression goes on. -/
def expressionEnd : List Look :=
  typeEnd false ++ trailersEnd ++
    [.not (.arguments (.expression true)), .not (.mark '='), .not (.mark '.'), .not (.mark ':'),
      .not (.one .anyGroup), .not (.group .brace), .not (.one .lifetime),
      .not (.two .lifetime (.mark ':')), .not (.mark '#'), .not (.word "else"), .not (.word "as"),
      .not (.words ["mut", "const"]), .not .expressionStart,
      .not (.and .expressionStart (.not (.when false (.group .brace)))), .rangeEnd true,
      .not (.any [.point, .mark '?', .group .bracket, .group .paren]), .not (.operator ".."),
      .not .equals, .not .assignment, .not .connective, .not .arithmetic, .not .comparison]

/-- What an expression asks of what is behind it. An operator may be what ends it. -/
def operatorsEnd (fields : Bool) : List Look :=
  expressionEnd ++
    [.operator "..", .equals, .assignment, .connective, .or (.mark '!') (.operator "::")] ++
    if fields then []
    else [.rangeEnd false, .not (.and .expressionStart (.not (.when true (.group .brace))))]

/-- How the path of an invocation goes on that is a statement of its own. -/
def invokedTail : Look :=
  .next (.mark '!') (.next (.group .brace) (.not (.or .point (.mark '?'))))

/-- How the path of an invocation goes on that defines something. -/
def definingTail : Look := .next (.mark '!') (.one (.nameOr ["try"]))

/-- The questions that the rules of one kind ask of what is behind them. -/
def looks : Family → List Look
  | .path (.plain colons) => segmentEnd (.plain colons)
  | .path .bound => typeEnd false
  | .path (.type plus _) => typeEnd plus
  | .path (.trait denied) =>
    typeEnd true ++ if denied then [.word "for"] else [.not (.word "for")]
  | .path .argument => typeEnd true ++
      [.not (.next (.mark ':') (.mark '<')), .not (.next (.mark ':') (.group .paren)),
        .not (.next (.mark ':') (.not (.group .paren))), .not (.mark ':'), .not (.mark '='),
        .or (.mark ',') (.mark '>')]
  | .path (.expression fields) => segmentEnd (.expression fields) ++ [.not .bang] ++
      if fields then [.not (.group .brace)] else []
  | .path (.pattern strict) => patternPathEnd strict
  | .type plus => typeEnd plus
  | .bounds => typeEnd false
  | .pattern strict => patternPathEnd strict ++
      [.not (.mark '@'), placedEnd, .not placedEnd, .operator "::"]
  | .trailers => trailersEnd
  | .operators fields => operatorsEnd fields
  | .statements => expressionEnd ++
      [.ended, .not (.mark ';'), .not (.or .point (.mark '?')), .not (.one .name),
        .not (.word "trait"), .not (.words ["unsafe", "impl"]), .not invokedTail.pathTail,
        .not definingTail.pathTail]
  | .header => typeEnd true ++ [.not (.word "for"), .group .brace]

end Family

/-! ## The table -/

/-- The classes of the first token of what a rule reads, where they help. -/
def Rule.heads : Rule → Option (List Class)
  | .attribute => some [.nameOr ["crate", "Self", "self", "super", "unsafe"], .joint ':']
  | .type _ => some
      [.nameOr ["const", "crate", "dyn", "extern", "fn", "for", "impl", "Self", "self", "super",
          "try", "unsafe", "_"],
        .lifetime, .marks "<!*&?".toList, .joint ':', .group .paren, .group .bracket]
  | .segment _ _ _ => some [.nameOr ["crate", "Self", "self", "super", "try"]]
  | .pathRest place _ _ _ =>
    match place with
    | .plain _ => some [.joint ':']
    | .expression _ => some [.joint ':', .mark '!', .group .brace]
    | _ => none
  | .arguments => some [.mark '<']
  | .bound captures _ | .objectBounds captures _ => some
      [.nameOr (["const", "crate", "for", "Self", "self", "super", "try"] ++
          if captures then ["use"] else []),
        .lifetime, .joint ':', .mark '?', .group .paren, .group .bracket]
  | .pattern _ => some
      [.nameOr ["box", "const", "crate", "false", "mut", "ref", "Self", "self", "super", "true",
          "try", "_"],
        .marks "<-&".toList, .joints ".:".toList, .literal, .group .paren, .group .bracket]
  | .expression _ | .unary _ | .operand _ => some expressionHeads
  | .operators _ reach compared => some
      (.word "as" :: .joints "<>".toList :: .marks "+-*/%^&|".toList ::
        (if compared = .no then [.marks "<>".toList, .joints "=!".toList] else []) ++
        if reach = .all then [.mark '=', .joint '.'] else [])
  | .trailers => some [.marks ".?".toList, .group .paren, .group .bracket]
  | .conditional => some [.word "if"]
  | .selection => some [.word "match"]
  | .statements => some (.mark ';' ::
      .words ["enum", "extern", "fn", "impl", "macro", "mod", "pub", "struct", "trait", "type",
        "use"] :: expressionHeads)
  | .item => some itemHeads
  | .implItem | .traitItem | .foreignItem => some
      [.nameOr ["async", "const", "crate", "extern", "fn", "pub", "Self", "self", "static",
          "super", "type", "unsafe"],
        .joint ':', .mark '#']
  | .useTree => some [.nameOr ["crate", "Self", "self", "super", "try"], .mark '*', .group .brace]
  | .implHead _ => none
where
  expressionHeads : List Class :=
    [.nameOr ["async", "become", "break", "const", "continue", "crate", "false", "for", "if",
        "let", "loop", "match", "move", "return", "Self", "self", "static", "super", "true",
        "try", "unsafe", "while", "yield", "_"],
      .lifetime, .marks "<!-*&|#".toList, .joints ".:".toList, .literal, .anyGroup]
  itemHeads : List Class :=
    [.nameOr ["async", "const", "crate", "enum", "extern", "fn", "impl", "macro", "mod", "pub",
        "Self", "self", "static", "struct", "super", "trait", "type", "unsafe", "use"],
      .joint ':', .mark '#', .group .brace]

/-- Whether a rule may read nothing. -/
def Rule.nullable : Rule → Bool
  | .operators _ _ _ | .trailers | .statements | .pathRest _ _ _ _ | .implHead _ => true
  | _ => false

/-- What has to stay behind what a rule reads. -/
def Rule.needs : Rule → List (Need Family)
  | .type plus => [.all (.type plus)]
  | .segment place _ _ | .pathRest place _ _ _ => [.all (.path place)]
  | .bound _ _ | .objectBounds _ _ => [.all .bounds]
  | .pattern strict => [.all (.pattern strict)]
  | .expression fields | .unary fields | .operand fields | .operators fields _ _ =>
    [.all (.operators fields)]
  | .trailers => [.all .trailers]
  | .attribute => [.all (.operators true)]
  | .statements => [.all .statements]
  | .conditional => [.look (.not (.word "else"))]
  | .implHead _ => [.look (.or (.word "where") (.group .brace)), .all .header]
  | .useTree => [.look (.not (.word "as")), .look (.not (.operator "::"))]
  | _ => []

/-- What a rule carries along as a whole. -/
def Rule.crossings : Rule → List (Need Family × List (Need Family))
  | .operators fields _ _ => [.operators fields, .trailers].map itself
  | .trailers => [.operators true, .operators false, .trailers].map itself
  | .pathRest (.expression _) false true true =>
    [Family.invokedTail, Family.definingTail].map fun l =>
      (.look (.not l.pathTail), [.look (.not l.pathTail), .look (.or .point (.mark '?'))])
  | _ => []
where
  itself (f : Family) : Need Family × List (Need Family) := (.all f, [.all f])

/-- What is known of the rules of the source grammar. -/
def sourceTable : Table Rule Family where
  heads r := r.heads.map fun cs => mask (cs.flatMap (·.atoms true))
  nullable := Rule.nullable
  needs := Rule.needs
  crossings := Rule.crossings
  stricts
    | .implHead false, .implHead true => true
    | _, _ => false
  faithful
    | .implHead true => false
    | _ => true
  looks := Family.looks

end Vigil.Source
