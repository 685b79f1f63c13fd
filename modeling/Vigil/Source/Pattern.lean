import Vigil.Source.Type

/-!
# Patterns

What values are matched against.
-/

namespace Vigil.Source

open Grammar

/-- A pattern. `strict` if a range has to have both ends. What is behind the word `box` is passed on
as it is. -/
def pattern (strict : Bool) : Form :=
  let placed : Look :=
    .any [.next .name (.any [.operator "::", .mark '!', .group .brace, .group .paren,
        .operator ".."]),
      .next (.word "self") (.operator "::"), .operator "::", .mark '<',
      .words ["Self", "super", "crate"]]
  let ends : Look := .when strict (.not (.mark '|'))
  choose
    [(placed, anyPath (.pattern strict)),
     (.word "_", word "_"),
     (.word "box", .verbatim (all [word "box", .call (.pattern false)])),
     (.or .literal (.word "const"),
       all [.cond .literal literal (all [word "const", attributedBlock]),
         opt (.operator "..") (patternRange strict)]),
     (.any [.words ["ref", "mut", "self"], .one .name],
       all [optWord "ref", optWord "mut", .cond (.word "self") (word "self") (.take .name),
         lead (.mark '@') (.call (.pattern false))]),
     (.mark '&', all [mark '&', optWord "mut", .call (.pattern false)]),
     (.group .paren, .inside .paren (commas alternatives)),
     (.group .bracket, .inside .bracket
       (commas (.cond (.mark '|') alternatives
         (all [.call (.pattern true), .many .bar (all [mark '|', .call (.pattern false)])])))),
     (.operator "..=", all [operator "..=", patternBound, .cond ends .refuse .empty]),
     (.and (.operator "..") (.not (.operator "...")),
       all [operator "..", .cond .patternRangeEnd .empty
         (all [patternBound, .cond ends .refuse .empty])])]
    .refuse

end Vigil.Source
