import Vigil.Source.Pattern

/-!
# Expressions and statements

Expressions by how tightly their operators bind. Three rules limit what stands together: two
comparisons need parentheses, a range is never the left side of an operator, and what is made of
a cast cannot be called, indexed or asked for a field.

Statements follow one another in a block. Those that end with their own block need no semicolon
behind it, the last statement never needs one.
-/

namespace Vigil.Source

open Grammar

/-! ## Operators -/

/-- An equals sign that is no arrow comes next. -/
def Look.equals : Look := .and (.mark '=') (.not (.operator "=>"))

/-- A point that begins no range comes next. -/
def Look.point : Look := .and (.mark '.') (.not (.operator ".."))

/-- An open range ends behind its points. -/
def Look.rangeEnd (fields : Bool) : Look :=
  .any [.ended, .marks ",;?=+/%^>", .point, .when (!fields) (.group .brace), .assigned "<!-*&|",
    .operator "<<=", .word "as"]

/-- Operators that assign to what is on their left, but for the plain one. -/
def Look.assignment : Look :=
  .any [.assigned "+-*/%^&|", .operator "<<=", .operator ">>="]

def assignment : Form :=
  choose
    [(.assigned "+-*/%^&|", all [.take (.joints "+-*/%^&|".toList), mark '=']),
     (.operator "<<=", operator "<<=")]
    (operator ">>=")

/-- Operators between truth values. -/
def Look.connective : Look := .or (.operator "&&") (.operator "||")

def connective : Form := .cond (.operator "&&") (operator "&&") (operator "||")

/-- Operators that bind tighter than a comparison. -/
def Look.arithmetic : Look := .any [.marks "+-*/%^&|", .operator "<<", .operator ">>"]

def arithmetic : Form :=
  choose [(.marks "+-*/%^&|", marks "+-*/%^&|"), (.operator "<<", operator "<<")] (operator ">>")

/-- Operators that compare. -/
def Look.comparison : Look := .or (.assigned "=<!>") (.marks "<>")

def comparison : Form :=
  .cond (.assigned "=<!>") (all [.take (.joints "=<!>".toList), mark '=']) (marks "<>")

/-- A range from its points on. -/
def rangeTail (fields : Bool) : Form :=
  choose
    [(.operator "..=", all [operator "..=", .call (.operand fields)]),
     (.operator "...", .refuse)]
    (all [operator "..", .cond (.rangeEnd fields) .empty (.call (.operand fields))])

/-- A range from nowhere, or an operand with further operators behind it. -/
def operations (fields : Bool) (reach : Reach) : Form :=
  .cond (.operator "..") (rangeTail fields)
    (all [.call (.unary fields), .call (.operators fields reach .no)])

/-- An expression. -/
def expression (fields : Bool) : Form := operations fields .all

/-- A type that an expression is seen as. -/
def cast : Form :=
  all [word "as", .call (.type false),
    .cond (.any [.point, .mark '?', .group .bracket, .group .paren]) .refuse .empty]

/-- Operators and what is on their right, the longer spellings first. Assignments go on to the right
as far as they can, comparisons do not chain, and no operator goes on behind a range. -/
def operators (fields : Bool) (reach : Reach) (compared : Compared) : Form :=
  let onward (compared : Compared) : Form := .call (.operators fields reach compared)
  let tight : Compared := if compared = .yes then .yes else .no
  let right (operator : Form) (behindRange behind : Compared) : Form := all [operator,
    .cond (.operator "..") (all [rangeTail fields, onward behindRange])
      (all [.call (.unary fields), onward behind])]
  let assign (operator : Form) : Form :=
    if reach = .all then all [operator, expression fields, onward .no] else .empty
  choose
    [(.assignment, assign assignment),
     (.connective, if reach = .compare then .empty else right connective .no .no),
     (.arithmetic, right arithmetic tight tight),
     (.comparison, if compared = .no then right comparison .range .yes else .refuse),
     (.equals, assign (mark '=')),
     (.operator "..", if reach = .all then rangeTail fields else .empty),
     (.word "as", all [cast, onward tight])]
    .empty

/-! ## Operands -/

/-- Calls, fields, indices and question marks behind an expression. -/
def trailers : Form :=
  let field : Form := choose
    [(.word "await", word "await"), (.one .index, .take .index)]
    (all [.take .name, opt (.operator "::") (all [operator "::", .call .arguments,
      .cond (.group .paren) .empty .refuse])])
  choose
    [(.group .paren, all [.inside .paren (commas (.call (.expression true))), .call .trailers]),
     (.point, all [mark '.', .numbers (all [field, .call .trailers])]),
     (.group .bracket, all [.inside .bracket (.call (.expression true)), .call .trailers]),
     (.mark '?', all [mark '?', .call .trailers])]
    .empty

/-- An expression may start here. -/
def Look.expressionStart : Look :=
  .any [.one .anyWord, .one .anyGroup, .one .literal, .one .lifetime, .mark '#', .operator "..",
    .operator "::", .and (.marks "!*|&-") (.not (.or (.assigned "!*|&-") (.operator "->"))),
    .and (.mark '<') (.not (.or (.operator "<=") (.operator "<<=")))]

/-- A branch on a condition, with what happens otherwise. -/
def conditional : Form :=
  all [word "if", .call (.expression false), block, opt (.word "else")
    (all [word "else", choose [(.word "if", .call .conditional), (.group .brace, block)] .refuse])]

/-- A block that runs as long as a condition holds, for each element, or without end. -/
def repetition : Form :=
  let start : Form := choose
    [(.word "while", all [word "while", .call (.expression false)]),
     (.word "for", all [word "for", alternatives, word "in", .call (.expression false)])]
    (word "loop")
  all [start, attributedBlock]

/-- A block or a repetition behind its label. -/
def labelled : Form :=
  all [.take .lifetime, mark ':', choose
    [(.words ["while", "for", "loop"], repetition), (.group .brace, attributedBlock)] .refuse]

/-- An expression whose block ends a statement comes next. -/
def Look.blockStart : Look :=
  .any [.words ["if", "while", "loop", "match", "unsafe"],
    .next (.word "for") (.not (.next (.mark '<') (.or (.one .lifetime) (.mark '>')))),
    .next (.word "try") (.group .brace), .next (.word "const") (.group .brace), .group .brace,
    .one .lifetime]

/-- An expression at the start of a statement or behind an arrow. With a block at its end it
stands for itself, unless a point or a question mark follows; any other one goes on as
expressions do and ends as told. -/
def early (ended loose : Form) : Form :=
  let blockLike : Form := choose
    [(.word "if", .call .conditional), (.words ["while", "for", "loop"], repetition),
     (.word "match", .call .selection),
     (.word "try", all [word "try", block]),
     (.words ["unsafe", "const"], all [.take (.words ["unsafe", "const"]), attributedBlock]),
     (.group .brace, attributedBlock)]
    labelled
  all [outerAttributes, choose
    [(.blockStart, all [blockLike, .cond (.or .point (.mark '?'))
        (all [.call .trailers, .call (.operators true .all .no), ended]) loose])]
    (all [expression true, ended])]

/-- A choice by patterns, each with the expression behind its arrow. -/
def selection : Form :=
  let arm : Form := all [outerAttributes, alternatives,
    lead (.word "if") (.call (.expression true)), operator "=>",
    early (.cond .ended .empty (mark ',')) (optional (.mark ','))]
  all [word "match", .call (.expression false),
    .inside .brace (all [innerAttributes, .many (.not .ended) arm])]

/-- A function without a name. -/
def closure (fields : Bool) : Form :=
  all [opt (.word "for") binder, optWord "const", optWord "static", optWord "async",
    optWord "move", mark '|',
    .list (.mark '|') (all [outerAttributes, .call (.pattern false),
        lead (.mark ':') (.call (.type true))]) (.mark ','),
    mark '|',
    .cond (.operator "->") (all [operator "->", .call (.type true), block])
        (.call (.expression fields))]

/-- An expression without operators around it. -/
def atom (fields : Bool) : Form :=
  let value : Form := .call (.expression true)
  choose
    [(.literal, literal),
     (.next (.word "async") (.or (.group .brace) (.next (.word "move") (.group .brace))),
       all [word "async", optWord "move", block]),
     (.next (.word "try") (.group .brace), all [word "try", block]),
     (.any [.mark '|', .word "move",
        .next (.word "for") (.next (.mark '<') (.or (.one .lifetime) (.mark '>'))),
        .next (.word "const") (.not (.group .brace)), .word "static",
        .next (.word "async") (.or (.mark '|') (.word "move"))], closure fields),
     (.two (.word "builtin") (.mark '#'),
       all [word "builtin", mark '#', .take .anyWord, .take (.group .paren)]),
     (.or .path (.next (.word "try") (.or (.mark '!') (.operator "::"))),
       anyPath (.expression fields)),
     (.group .paren, .inside .paren (commas value)),
     (.word "break", all [word "break",
       .cond (.two .lifetime (.mark ':')) .refuse (optional .lifetime),
       opt (.and .expressionStart (.not (.when (!fields) (.group .brace)))) value]),
     (.word "continue", all [word "continue", optional .lifetime]),
     (.words ["return", "yield"],
       all [.take (.words ["return", "yield"]), opt .expressionStart value]),
     (.word "become", .verbatim (all [word "become", value])),
     (.group .bracket, .inside .bracket (.cond .ended .empty
       (all [value, .cond (.mark ';') (all [mark ';', value])
         (lead (.mark ',') (commas value))]))),
     (.word "let", all [word "let", alternatives, mark '=', operations fields .compare]),
     (.word "if", .call .conditional),
     (.words ["while", "for", "loop"], repetition),
     (.word "match", .call .selection),
     (.words ["unsafe", "const"], all [.take (.words ["unsafe", "const"]), attributedBlock]),
     (.group .brace, attributedBlock),
     (.operator "..", rangeTail fields),
     (.word "_", word "_"),
     (.one .lifetime, labelled)]
    .refuse

/-- An expression without operators between expressions. A range from nowhere has no attributes. -/
def unary (fields : Bool) : Form :=
  let operand : Form := .call (.unary fields)
  all [opt (.mark '#') (all [outerAttributes, .cond (.operator "..") .refuse .empty]), choose
    [(.next (.mark '&') (.next (.word "raw") (.words ["mut", "const"])),
       all [mark '&', word "raw", .take (.words ["mut", "const"]), operand]),
     (.mark '&', all [mark '&', optWord "mut", operand]),
     (.marks "*!-", all [marks "*!-", operand])]
    (all [atom fields, .call .trailers])]

/-! ## Statements -/

/-- A name given to a value. -/
def binding : Form :=
  all [word "let", .call (.pattern false), lead (.mark ':') (.call (.type true)),
    lead (.mark '=') (.ending (.call (.expression true)) (.group .brace) .empty
        (lead (.word "else") block)),
    mark ';']

/-- An item comes next rather than an expression. -/
def Look.item : Look :=
  .any [.words ["pub", "extern", "use", "fn", "mod", "type", "struct", "enum", "trait", "impl",
      "macro"],
    .next (.word "crate") (.not (.operator "::")),
    .next (.word "static") (.or (.word "mut") (.one .name)),
    .next (.word "const") (.not (.any [.group .brace, .words ["static", "move"], .mark '|',
      .next (.word "async") (.not (.words ["unsafe", "extern", "fn"]))])),
    .next (.word "unsafe") (.not (.group .brace)),
    .next (.word "async") (.words ["unsafe", "extern", "fn"]),
    .two (.word "union") .name, .two (.word "auto") (.word "trait"),
    .next (.word "default") (.words ["unsafe", "impl"])]

/-- Statements up to the end of a block. -/
def statements : Form :=
  let invoked : Look := .modulePath (.next (.mark '!') (.next (.group .brace)
    (.not (.or .point (.mark '?')))))
  let defining : Look := .modulePath (.next (.mark '!') (.one (.nameOr ["try"])))
  let ended : Form := .cond .ended .empty (mark ';')
  .many (.not .ended) (choose
    [(.mark ';', mark ';'),
     (.behindAttributes invoked,
       all [outerAttributes, modulePath, invocation, optional (.mark ';')]),
     (.behindAttributes (.or defining .item), .call .item),
     (.behindAttributes (.word "let"), all [outerAttributes, binding])]
    (early ended (optional (.mark ';'))))

end Vigil.Source
