import Vigil.Source.Path

/-!
# Types

Types, the parameters of an item and its conditions.

* `type`: a type; further bounds behind it if `plus`.
* `parameters`: the parameters of an item between angle brackets, left out if there are none.
* `conditions`: what an item demands of its parameters, left out if it demands nothing.
-/

namespace Vigil.Source

open Grammar

/-- The calling convention of a function, if it names one. -/
def convention : Form := lead (.word "extern") (optional .text)

/-- A function type, from the words in front on. An input `mut self` is passed on as it is. -/
def functionType : Form :=
  let named : Class := .nameOr ["_"]
  let dots : Form := all [operator "...", .cond .ended .empty (all [mark ',', atEnd])]
  let variadic : Look := .or (.operator "...") (.next named (.next (.mark ':') (.operator "...")))
  let typed : Look := .and (.mark ':') (.not (.operator "::"))
  let plain : Form :=
    .cond (.next named typed) (all [.take named, mark ':', .call (.type true)])
      (.call (.type true))
  let receiver : Form := choose
    [(.two (.word "mut") (.word "self"),
      .verbatim (all [word "mut", word "self", lead (.mark ':') (.call (.type true))])),
     (.next (.word "self") typed, all [word "self", mark ':', .call (.type true)])]
    plain
  let input (first : Bool) : Form := all [outerAttributes,
    .cond variadic (all [opt (.two named (.mark ':')) (all [.take named, mark ':']), dots])
      (if first then receiver else plain)]
  all [optWord "unsafe", convention, word "fn",
    .inside .paren (.cond .ended .empty
      (all [input true, lead (.mark ',') (commas (input false))])),
    result false]

/-- A type in parentheses or a tuple of types. In front of a plus sign it is a bound in
parentheses, as no other type has one behind it. -/
def groupedType (plus : Bool) : Form :=
  let more : Form := .many (.mark '+') (all [mark '+', .call (.bound true true)])
  choose
    [(.within .paren (.mark '?'),
        all [.inside .paren (all [mark '?', opt (.word "for") binder, path .bound]), more]),
     (.when plus (.two (.group .paren) (.mark '+')),
        all [.inside .paren (all [opt (.word "for") binder, path .bound]), more])]
    (.inside .paren
      (choose [(.ended, .empty), (.one .lifetime, .call (.objectBounds false true))]
        (all [.call (.type true), lead (.mark ',') (commas (.call (.type true)))])))

/-- A type. One that is `dyn*` is passed on as it is. -/
def type (plus : Bool) : Form :=
  let named (binder : Bool) : Form := .call (.segment (.type plus binder) false true)
  choose
    [(.word "for", all [binder, choose
        [(.words ["fn", "unsafe", "extern"], functionType), (.pathWord, named true)] .refuse]),
     (.group .paren, groupedType plus),
     (.words ["fn", "unsafe", "extern"], functionType),
     (.pathWord, named false),
     (.path, anyPath (.type plus false)),
     (.two (.word "dyn") (.mark '*'),
        .verbatim (all [word "dyn", mark '*', .call (.objectBounds false plus)])),
     (.word "dyn", all [word "dyn", .call (.objectBounds false plus)]),
     (.group .bracket, .inside .bracket
        (all [.call (.type true), lead (.mark ';') (.call (.expression true))])),
     (.mark '*', all [mark '*', .cond (.word "const") (word "const") (word "mut"),
        .call (.type false)]),
     (.mark '&', all [mark '&', optional .lifetime, optWord "mut",
        .call (.type false)]),
     (.mark '!', mark '!'),
     (.word "impl", all [word "impl", .call (.objectBounds true plus)]),
     (.word "_", word "_"),
     (.one .lifetime, .call (.objectBounds false true))]
    .refuse

/-- A colon and bounds behind it up to where they end. -/
def boundList (stop : Look) (bound : Form) : Form := all [mark ':', .list stop bound (.mark '+')]

/-- The same, or nothing; without any bounds the colon is left out. -/
def bounds (stop : Look) (bound : Form) : Form :=
  .replace (.next (.mark ':') stop) 1 [] (opt (.mark ':') (boundList stop bound))

/-- A parameter of an item, with the attributes in front of it. -/
def parameter : Form :=
  all [outerAttributes, choose
    [(.one .lifetime,
        all [.take .lifetime, bounds (.any [.mark ',', .mark '>']) (.take .lifetime)]),
     (.one .name, all [.take .name,
        bounds (.any [.mark ',', .mark '>', .mark '=']) (.call (.bound false true)),
        lead (.mark '=') (.call (.type true))]),
     (.word "const", all [word "const", .take .name, mark ':', .call (.type true),
        lead (.mark '=') constantArgument])]
    (word "_")]

/-- The parameters of an item between angle brackets. -/
def parameterList : Form := all [mark '<', .angles parameter {}]

/-- The parameters of an item, if it has any. Brackets without parameters are left out. -/
def parameters : Form :=
  .replace (.next (.mark '<') (.next (.mark '>') (.not (.mark '<')))) 2 []
    (opt (.mark '<') parameterList)

/-- The conditions of an item end here. -/
def Look.conditionsEnd : Look :=
  .any [.ended, .group .brace, .mark ',', .mark ';',
    .and (.mark ':') (.not (.operator "::")), .mark '=']

/-- What an item demands of its parameters, from the word `where` on. -/
def demands : Form :=
  let lifetimesEnd : Look :=
    .any [.ended, .group .brace, .mark ',', .mark ';', .mark ':', .mark '=']
  let condition : Form :=
    .cond (.two .lifetime (.mark ':'))
      (all [.take .lifetime, mark ':', .list lifetimesEnd (.take .lifetime) (.mark '+')])
      (all [opt (.word "for") binder, .call (.type true), mark ':',
        .list .conditionsEnd (.call (.bound false true)) (.mark '+')])
  all [word "where", .list .conditionsEnd condition (.mark ',')]

/-- What an item demands, if anything; the word `where` is left out if nothing but the end of the
demands stands behind it. -/
def conditions (stop : Look) : Form :=
  .replace (.next (.word "where") stop) 1 [] (opt (.word "where") demands)

end Vigil.Source
