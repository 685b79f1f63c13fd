import Vigil.Source.Rule

/-!
# Paths

Paths and their arguments. What may follow a path depends on where it stands, so each rule
carries its setting along.
-/

namespace Vigil.Source

open Grammar

/-- A path may start here. -/
def Look.path : Look := .any [.pathWord, .operator "::", .mark '<']

/-- Arguments follow a segment. In expressions and patterns they need a double colon. -/
def Look.arguments (place : Setting) : Look :=
  match place with
  | .plain true | .expression _ | .pattern _ => colons (.mark '<')
  | _ => .or (.and (.mark '<') (.not (.or (.operator "<=") (.operator "<<=")))) (colons (.mark '<'))

/-- A group of inputs follows a path, with or without a double colon. -/
def Look.inputs : Look := .or (.group .paren) (colons (.group .paren))

/-- A path by its first segment, a double colon in front of it or not. -/
def path (place : Setting) : Form :=
  all [optOperator "::", .call (.segment place false true)]

/-- A path that starts with a type in angle brackets, perhaps seen as something else. -/
def qualifiedPath (place : Setting) : Form :=
  all [mark '<', .call (.type true), lead (.word "as") (path (.plain false)),
    mark '>', operator "::", .call (.segment place true false)]

/-- A path of either kind. -/
def anyPath (place : Setting) : Form := .cond (.mark '<') (qualifiedPath place) (path place)

/-- The type that a function returns. -/
def result (plus : Bool) : Form :=
  opt (.operator "->") (all [operator "->", .call (.type plus)])

/-- The inputs and the result behind a path, a double colon left out. -/
def inputs : Form :=
  .replace (.colons (.group .paren)) 2 []
    (all [.inside .paren (commas (.call (.type true))), result false])

/-- A bound may start here. -/
def Look.boundStart (constant : Bool) : Look :=
  .any [.one .anyWord, .operator "::", .mark '?', .one .lifetime, .group .paren,
    Look.when constant (.group .bracket)]

/-- Further bounds behind plus signs. -/
def moreBounds (captures constant : Bool) : Form :=
  lead (.mark '+')
    (.list (.not (.boundStart constant)) (.call (.bound captures constant)) (.mark '+'))

/-- Lifetimes bound in front of a type or a path. -/
def binder : Form :=
  all [word "for", mark '<',
    .list (.mark '>') (all [outerAttributes, .take .lifetime]) (.mark ','), mark '>']

/-- The value of a constant between angle brackets. -/
def constantArgument : Form :=
  choose [(.literal, literal), (.one .name, .take .name)] attributedBlock

/-- Bounds behind the colon of a named item between angle brackets. -/
def namedBounds : Form :=
  .list (.or (.mark ',') (.mark '>')) (.call (.bound false true)) (.mark '+')

/-- An item between angle brackets. -/
def argument : Form :=
  choose
    [(.and (.one .lifetime) (.not (.two .lifetime (.mark '+'))), .take .lifetime),
     (.literal, literal), (.group .brace, attributedBlock),
     (.pathWord, .call (.segment .argument false true))]
    (.call (.type true))

/-- Items between angle brackets. -/
def arguments : Form := all [mark '<', .angles argument {}]

/-- A path behind its last segment, where it is a type. -/
def typeEnd (plus binder qualified simple bare : Bool) : Form :=
  let bounds : Form := if plus then moreBounds false false else .empty
  if qualified then if bare then opt .inputs inputs else .empty
  else
    choose
      [(Look.when bare .inputs, all [inputs, bounds]),
       (Look.when (simple && !binder) .bang, invocation)]
      bounds

/-- A path behind its last segment, where it is a trait or a type. -/
def traitEnd (denied simple bare : Bool) : Form :=
  -- What has bounds or is an invocation is no trait, but there may be a type behind it.
  let typeOnly : Form := if denied then .cond (.word "for") .empty .refuse else .empty
  let onward : Form := choose
    [(.mark '+', all [moreBounds false false, typeOnly]),
     (.word "for", all [word "for", .call (.type true)])]
    (if denied then .refuse else .empty)
  choose
    [(Look.when bare .inputs, all [inputs, onward]),
     (Look.when simple .bang, all [invocation, typeOnly])]
    onward

/-- Another pattern stands behind a bar. -/
def Look.bar : Look := .and (.mark '|') (.not (.or (.operator "||") (.operator "|=")))

/-- Patterns with bars between them and possibly in front of them. -/
def alternatives : Form :=
  all [optional (.mark '|'), .call (.pattern false),
    .many .bar (all [mark '|', .call (.pattern false)])]

/-- The limits of a range of patterns, the older spelling written as the newer one. -/
def patternLimits : Form :=
  .replace (.operator "...") 3 (Token.signs "..=".toList)
    (choose [(.operator "..=", operator "..=")] (operator ".."))

/-- A range of patterns ends here without a bound. -/
def Look.patternRangeEnd : Look :=
  .any [.ended, .mark '|', .mark '=', .and (.mark ':') (.not (.operator "::")), .mark ',',
    .mark ';', .word "if"]

/-- A bound of a range of patterns. -/
def patternBound : Form :=
  choose
    [(.literal, literal), (.path, anyPath (.plain true)),
     (.word "const", all [word "const", attributedBlock])]
    .refuse

/-- A range of patterns from its limits on. Where it must have both ends, an open one needs
an alternative behind it. -/
def patternRange (strict : Bool) : Form :=
  .cond (.or (.operator "..=") (.operator "...")) (all [patternLimits, patternBound])
    (all [operator "..", .cond .patternRangeEnd
      (if strict then .cond (.mark '|') .empty .refuse else .empty) patternBound])

/-- A path behind its last segment, by where it stands. -/
def pathEnd (place : Setting) (qualified simple bare : Bool) : Form :=
  let invoked : Look := .when (simple && !qualified) .bang
  match place with
  | .plain _ => .empty
  | .bound => if bare then opt .inputs inputs else .empty
  | .type plus binder => typeEnd plus binder qualified simple bare
  | .trait denied => traitEnd denied simple bare
  | .argument =>
    choose
      [(Look.when bare .inputs, typeEnd true false qualified simple bare),
       (.mark '=', all [mark '=', .cond (.or .literal (.group .brace)) constantArgument
         (.call (.type true))]),
       (.mark ':', all [mark ':', namedBounds])]
      (typeEnd true false qualified simple bare)
  | .expression fields =>
    choose
      [(invoked, invocation),
       (Look.when fields (.group .brace), .inside .brace
         (commas (.cond (.operator "..")
           (all [operator "..", .cond .ended .empty (.call (.expression true)), atEnd])
           (all [outerAttributes, .numbers (.cond (.one .index)
             (all [.take .index, mark ':', .call (.expression true)])
             (all [.take .name, lead (.mark ':') (.call (.expression true))]))]))))]
      .empty
  | .pattern strict =>
    choose
      [(invoked, invocation),
       (.group .brace, .inside .brace
         (commas (all [outerAttributes, .numbers (choose
           [(.operator "..", all [operator "..", atEnd]),
            (.one .index, all [.take .index, mark ':', alternatives]),
            (.words ["box", "ref", "mut"],
              all [optWord "box", optWord "ref", optWord "mut", .take .name])]
           (all [.take .name, lead (.mark ':') alternatives]))]))),
       (.group .paren, .inside .paren (commas alternatives)),
       (.operator "..", patternRange strict)]
      .empty

/-- A segment of a path. -/
def segment (place : Setting) (qualified simple : Bool) : Form :=
  let placeWord : Class := .words ["super", "self", "crate", "try"]
  choose
    [(.one placeWord, all [.take placeWord, .call (.pathRest place qualified simple true)])]
    (all [.cond (.word "Self") (word "Self") (.take .name),
      .cond (.arguments place)
        (all [optOperator "::", .call .arguments,
          .call (.pathRest place qualified false false)])
        (.call (.pathRest place qualified simple true))])

/-- What comes behind a segment: the next one, or what ends the path. -/
def pathRest (place : Setting) (qualified simple bare : Bool) : Form :=
  let continued : Look := if qualified then .operator "::" else .colons (.not (.group .paren))
  -- A path of several segments can no longer be a named item.
  let place' : Setting := match place with
    | .argument => .type true false
    | place => place
  .cond continued (all [operator "::", .call (.segment place' qualified simple)])
    (pathEnd place qualified simple bare)

/-- The items that a bound captures. -/
def captured : Form :=
  all [word "use", mark '<',
    .angles (.cond (.one .lifetime) (.take .lifetime) (.take (.nameOr ["Self"]))) {}]

/-- A trait as a bound, with what may stand in front of it. One that is constant is passed on as it
is. -/
def traitBound (constant : Bool) : Form :=
  all [opt (.word "for") binder,
    choose
      [(Look.when constant (.group .bracket), loosely (.inside .bracket (word "const"))),
       (Look.when constant (.word "const"), loosely (word "const"))]
      .empty,
    lead (.mark '?') (opt (.word "for") binder), path .bound]

/-- A bound: a lifetime, captured items, or a trait. -/
def bound (captures constant : Bool) : Form :=
  .lenient (choose
    [(.one .lifetime, .take .lifetime),
     (.word "use", if captures then captured else .refuse),
     (.group .paren, .inside .paren (traitBound constant))]
    (traitBound constant))

/-- Bounds of which at least one is no lifetime. -/
def objectBounds (captures plus : Bool) : Form :=
  .cond (.or (.one .lifetime) (.word "use"))
    (all [.call (.bound captures true),
      (if plus then all [mark '+', .cond (.boundStart true) (.call (.objectBounds captures plus))
        .refuse]
      else .refuse)])
    (all [.call (.bound captures true), (if plus then moreBounds captures true else .empty)])

end Vigil.Source
