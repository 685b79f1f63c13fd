import Vigil.Source.Expression

/-!
# Items

Functions, types, modules and whatever else a source text declares: in a block, in a trait or in
an `impl` block.

* `implItem`: what an `impl` block holds.
* `rules`: the grammar behind the name of each rule.
-/

namespace Vigil.Source

open Grammar

/-! ## Functions, constants and names of types -/

/-- The item itself as an input of a function: by reference or not, perhaps with its type. -/
def Look.receiver : Look :=
  .or (.next (.mark '&') (.skip .lifetime (.skip (.word "mut") (.word "self"))))
    (.skip (.word "mut") (.next (.word "self")
      (.not (.or (.operator "::") (.next (.mark ':') (.operator "..."))))))

/-- The name of an input. One that is only a type is given a name. -/
def inputName : Form :=
  .replace (.two .name (.mark '<')) 0 [.word "_", Token.sign ':']
    (all [.call (.pattern false), mark ':'])

/-- What a function is called and what it takes and returns. -/
def signature : Form :=
  let dots : Form := all [operator "...", .cond .ended .empty (all [mark ',', atEnd])]
  let receiver : Form :=
    .cond (.mark '&') (all [mark '&', optional .lifetime, optWord "mut",
        word "self"])
      (all [optWord "mut", word "self", lead (.mark ':') (.call (.type true))])
  let typed : Form := all [inputName, .cond (.operator "...") dots (.call (.type true))]
  let input (first : Bool) : Form := all [outerAttributes, choose
    [(.operator "...", dots), (.receiver, if first then receiver else .refuse)] typed]
  all [optWord "const", optWord "async", optWord "unsafe", convention, word "fn",
    .take .name, parameters,
    .inside .paren (.cond .ended .empty
      (all [input true, lead (.mark ',') (commas (input false))])),
    result true, conditions (.or (.mark ';') (.group .brace))]

/-- A function comes next. -/
def Look.function : Look :=
  .skip (.word "const") (.skip (.word "async") (.skip (.word "unsafe")
    (.or (.word "fn") (.next (.word "extern") (.skip .text (.word "fn"))))))

/-- A function with a body, or loosely without one. -/
def function : Form := all [signature, .cond (.mark ';') (loosely (mark ';')) attributedBlock]

/-- A function with a body or without one. -/
def method : Form := all [signature, .cond (.mark ';') (mark ';') attributedBlock]

/-- A constant, with its value behind it; it loosely has parameters or conditions. -/
def constant (value : Form) : Form :=
  all [word "const", .take (.nameOr ["_"]), opt (.mark '<') (loosely parameterList), mark ':',
    .call (.type true), value, opt (.word "where") (loosely demands), mark ';']

/-- What is behind an equals sign; without one it may be missing. -/
def value : Form := lead (.mark '=') (.call (.expression true))

/-- What is behind an equals sign, which is missing only loosely. -/
def demandedValue : Form := .cond (.mark '=') value (loosely .empty)

/-- What a name stands for, or nothing. -/
def definition : Form := lead (.mark '=') (.call (.type true))

/-- What a name stands for, which is missing only loosely. -/
def demandedDefinition : Form := .cond (.mark '=') definition (loosely .empty)

/-- A name for a type, what it is bound by, and how it goes on. -/
def typeName (bounds rest : Form) : Form :=
  all [word "type", .take .name, parameters, bounds, rest, mark ';']

/-- The bounds of a name for a type end here. -/
def Look.typeBoundsEnd : Look := .any [.word "where", .mark '=', .mark ';']

/-- The bounds of a name for a type. -/
def typeBounds : Form := bounds .typeBoundsEnd (.call (.bound false true))

/-- The same where a name for a type has bounds only loosely. -/
def looseTypeBounds : Form :=
  opt (.mark ':') (loosely (boundList .typeBoundsEnd (.call (.bound false true))))

/-! ## Blocks of items -/

/-- An invocation in place of an item. It needs a semicolon unless it ends with a brace. -/
def itemInvocation : Form :=
  all [modulePath, mark '!',
    .cond (.group .brace) (.take .anyGroup) (all [.take .anyGroup, mark ';'])]

/-- An invocation may start here. -/
def Look.invocation : Look := .any [.one .name, .words ["self", "super", "crate"], .operator "::"]

/-- An implementation may be meant as a default one. -/
def Look.default : Look := .next (.word "default") (.not (.mark '!'))

/-- What an `impl` block holds. -/
def implItem : Form :=
  .lenient (all [outerAttributes, .cond (.and .invocation (.not .default)) itemInvocation
    (all [visibility, opt .default (word "default"),
      choose
        [(.function, function), (.word "const", constant demandedValue),
         (.word "type", typeName looseTypeBounds
            (all [demandedDefinition, conditions (.mark ';')]))]
        .refuse])])

/-- What a trait holds; it loosely is visible to some or a default. -/
def traitItem : Form :=
  .lenient (all [outerAttributes, .cond (.and .invocation (.not .default)) itemInvocation
    (all [opt (.word "pub") (loosely visibility), opt .default (loosely (word "default")),
      choose
        [(.function, method), (.word "const", constant value),
         (.word "type", typeName typeBounds (all [definition, conditions (.mark ';')]))]
        .refuse])])

/-- The word for conditions without any, which is left out, and what is behind it. -/
def emptyConditions (behind : Form) : Form :=
  .replace (.two (.word "where") (.mark ';')) 1 [] behind

/-- Something that is defined elsewhere. It loosely is safe, has a body or a value, or says more of
a type than its name. -/
def foreignItem : Form :=
  let safe : Form := opt (.next (.word "safe") (.words ["fn", "static", "extern"]))
    (loosely (word "safe"))
  .lenient (all [outerAttributes, visibility, safe, choose
    [(.or .function (.word "fn"),
        all [signature, .cond (.mark ';') (mark ';') (loosely attributedBlock)]),
     (.or (.word "static") (.two (.word "unsafe") (.word "static")),
        all [opt (.word "unsafe") (loosely (word "unsafe")), word "static", optWord "mut",
          .take .name, mark ':', .call (.type true), opt (.mark '=') (loosely value), mark ';']),
     (.word "type", typeName looseTypeBounds (emptyConditions
        (.cond (.word "where") (all [demands, opt (.mark '=') (loosely definition)])
          (all [opt (.mark '=') (loosely definition), conditions (.mark ';')]))))]
    (.cond .invocation itemInvocation .refuse)])

/-- Between these brackets are parameters, not a type that qualifies a path. -/
def Look.parameters : Look :=
  .next (.mark '<') (.any [.mark '#', .word "const", .next .lifetime (.not (.mark '+')),
    .next .name (.any [.mark '>', .mark ',', .mark '=',
      .and (.mark ':') (.not (.operator "::"))])])

/-- Brackets without parameters, which are left out, and what is behind them. -/
def emptyParameters (behind : Form) : Form := .replace (.two (.mark '<') (.mark '>')) 2 [] behind

/-- The parameters of an `impl` block, if it has any, and what is behind them. -/
def implParameters (behind : Form) : Form :=
  .cond (.two (.mark '<') (.mark '>')) (emptyParameters behind)
    (all [opt .parameters parameterList, behind])

/-- What stands in front of the types of an `impl` block. -/
def implStart : Form :=
  all [optWord "default", optWord "unsafe", word "impl", implParameters .empty]

/-- What stands between the braces of an `impl` block. -/
def implBody : Form := all [innerAttributes, .many (.not .ended) (.call .implItem)]

/-- The `impl` of something is denied. -/
def Look.denial : Look := .next (.mark '!') (.not (.group .brace))

/-- A type starts here that is a path, which may be the one of a trait. -/
def Look.namedType : Look := .or .pathWord (.operator "::")

/-- The types of an `impl` block: a trait and the type it is for, or the latter alone. Loosely
another type may stand in the place of the trait. -/
def implTypes : Form :=
  let type : Form := .call (.type true)
  let looselyFor : Form := opt (.word "for") (loosely (all [word "for", type]))
  .cond .denial
    (all [mark '!', .cond .namedType (all [path (.trait true), looselyFor])
      (loosely (all [type, word "for", type]))])
    (.cond .namedType (all [path (.trait false), looselyFor]) (all [type, looselyFor]))

/-- The types of an `impl` block among other items, in front of its conditions or its body. Loosely
the block is constant. -/
def implTarget : Form :=
  all [opt (.or (.word "const") (.two (.mark '?') (.word "const")))
      (loosely (all [optional (.mark '?'), word "const"])),
    implTypes, .cond (.or (.word "where") (.group .brace)) .empty .refuse]

/-- The parameters and types of an `impl` block among other items. -/
def implHead : Form := implParameters implTarget

/-- An `impl` block among other items. -/
def implBlock : Form :=
  all [optWord "default", optWord "unsafe", word "impl",
    .loose (.call (.implHead false)) (.call (.implHead true)), conditions (.group .brace),
    .inside .brace implBody]

/-! ## Other items -/

/-- The tree of names that are brought into view. -/
def useTree : Form :=
  let segment : Class := .nameOr ["self", "super", "crate", "try", "Self"]
  choose
    [(.one segment, all [.take segment, choose
         [(.operator "::", all [operator "::", .call .useTree]),
          (.word "as", all [word "as", .take (.nameOr ["_"])])]
         .empty]),
     (.mark '*', mark '*'),
     (.group .brace,
       .inside .brace (commas (all [optOperator "::", .call .useTree])))]
    .refuse

/-- Fields with names, between braces. -/
def namedFields : Form :=
  .inside .brace (commas (all [outerAttributes, visibility,
    .take (.nameOr ["_"]), mark ':', .call (.type true)]))

/-- Fields without names, between parentheses. -/
def plainFields : Form :=
  .inside .paren (commas (all [outerAttributes, visibility, .call (.type true)]))

/-- What a type with fields consists of. -/
def fields : Form :=
  .replace (.next (.word "where") (.or (.group .brace) (.mark ';'))) 1 []
    (choose
      [(.word "where", all [demands, .cond (.group .brace) namedFields (mark ';')]),
       (.group .paren, all [plainFields, conditions (.mark ';'), mark ';']),
       (.group .brace, namedFields)]
      (mark ';'))

/-- The name of one of the forms of a type. That it is visible is left out. -/
def variantName : Form := .replace (.two (.word "pub") .name) 1 [] (.take .name)

/-- The same, and that it is visible somewhere is left out as well. -/
def scopedName : Form :=
  .replace (.next (.word "pub") (.and .scope (.next (.group .paren) (.one .name)))) 2 [] variantName

/-- One of the forms of a type. -/
def variant : Form :=
  all [outerAttributes, scopedName,
    choose [(.group .brace, namedFields), (.group .paren, plainFields)] .empty,
    lead (.mark '=') (.call (.expression true))]

/-- A trait, or another name for bounds. -/
def trait : Form :=
  let body : Form := .inside .brace (all [innerAttributes, .many (.not .ended) (.call .traitItem)])
  all [optWord "unsafe", optWord "auto", word "trait", .take .name, parameters,
    .cond (.mark '=')
      (all [mark '=',
        .list (.or (.word "where") (.mark ';')) (.call (.bound false true)) (.mark '+'),
        conditions (.mark ';'), mark ';'])
      (all [bounds (.or (.word "where") (.group .brace)) (.call (.bound false true)),
        conditions (.group .brace), body])]

/-- A module, with its items or with its name only. -/
def module' : Form :=
  all [optWord "unsafe", word "mod", .take (.nameOr ["try"]),
    .cond (.mark ';') (mark ';')
      (.inside .brace (all [innerAttributes, .many (.not .ended) (.call .item)]))]

/-- What is defined elsewhere, under a calling convention. -/
def foreignBlock : Form :=
  all [optWord "unsafe", convention,
    .inside .brace (all [innerAttributes, .many (.not .ended) (.call .foreignItem)])]

/-- An `impl` block that is visible to some. -/
def Look.visibleImpl : Look :=
  .next (.word "pub") (.skip (.group .paren)
    (.or (.words ["impl", "default"]) (.two (.word "unsafe") (.word "impl"))))

/-- An item with its attributes. -/
def item : Form :=
  let value : Form := all [mark '=', .call (.expression true), mark ';']
  let traitStart : Look := .or (.word "trait") (.two (.word "auto") (.word "trait"))
  .lenient (all [outerAttributes,
    .cond (.and .invocation (.not (.any [.two (.word "union") .name, .two (.word "auto") .anyWord,
        .default])))
      (all [modulePath, mark '!', optional (.nameOr ["try"]),
        .cond (.group .brace) (.take .anyGroup) (all [.take .anyGroup, mark ';'])])
      (all [.cond .visibleImpl (loosely visibility) visibility, choose
        [(.function, function),
         (.two (.word "extern") (.word "crate"), all [word "extern", word "crate",
            .take (.nameOr ["self"]),
            lead (.word "as") (.take (.nameOr ["_"])),
            mark ';']),
         (.or (.word "extern") (.two (.word "unsafe") (.word "extern")), foreignBlock),
         (.word "use", all [word "use", optOperator "::", .call .useTree,
            mark ';']),
         (.word "static", all [word "static", optWord "mut", .take .name,
            .cond (.mark '=') (loosely value) (all [mark ':', .call (.type true),
              .cond (.mark ';') (loosely (mark ';')) value])]),
         (.word "const", constant demandedValue),
         (.or traitStart (.next (.word "unsafe") traitStart), trait),
         (.or (.word "mod") (.two (.word "unsafe") (.word "mod")), module'),
         (.word "type", typeName looseTypeBounds
            (all [conditions (.mark '='), demandedDefinition])),
         (.word "struct", all [word "struct", .take .name, parameters, fields]),
         (.word "enum", all [word "enum", .take .name, parameters,
            conditions (.group .brace),
            .inside .brace (commas variant)]),
         (.two (.word "union") .name, all [word "union", .take .name, parameters,
            conditions (.group .brace), namedFields]),
         (.word "macro", all [word "macro", .take .name,
            opt (.group .paren) (.take (.group .paren)), .take (.group .brace)])]
        implBlock])])

/-! ## All rules -/

/-- What stands between the brackets of an attribute: a path, and a group or a value behind it.
No attribute stands in front of a value. -/
def attributeBody : Form :=
  all [.cond (.word "unsafe") (word "unsafe") modulePath, choose
    [(.one .anyGroup, .take .anyGroup),
     (.mark '=', all [mark '=', .cond (.two (.mark '#') (.group .bracket)) .refuse
        (.call (.expression true))])]
    .empty]

/-- The grammar behind the name of a rule. -/
def rules : Rule → Form
  | .attribute => attributeBody
  | .type plus => type plus
  | .segment place qualified simple => segment place qualified simple
  | .pathRest place qualified simple bare => pathRest place qualified simple bare
  | .arguments => arguments
  | .bound captures constant => bound captures constant
  | .objectBounds captures plus => objectBounds captures plus
  | .pattern strict => pattern strict
  | .expression fields => expression fields
  | .unary fields => unary fields
  | .operand fields => operations fields .logic
  | .operators fields reach compared => operators fields reach compared
  | .trailers => trailers
  | .conditional => conditional
  | .selection => selection
  | .statements => statements
  | .item => item
  | .implHead loosely => if loosely then implHead else implHead.strict
  | .implItem => implItem
  | .traitItem => traitItem
  | .foreignItem => foreignItem
  | .useTree => useTree

/-- Reads tokens by a part of the source grammar. The limit grows with the tokens. -/
def Form.read (g : Form) (ts : List Token) : Outcome := run rules (400 * (Token.size ts + 4)) g ts

end Vigil.Source
