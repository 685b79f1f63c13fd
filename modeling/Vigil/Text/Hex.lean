/-!
# Hexadecimal digits

Digits in either case of letters, and code points written with a fixed number of them.

* `length_readCode?`: reading a code point takes at least nothing and never adds to the text.
-/

namespace Vigil.Text

/-- The number a hexadecimal digit stands for. -/
def hexDigit? (c : Char) : Option Nat :=
  if c.isDigit then some (c.toNat - '0'.toNat)
  else if 'a' ≤ c ∧ c ≤ 'f' then some (c.toNat - 'a'.toNat + 10)
  else if 'A' ≤ c ∧ c ≤ 'F' then some (c.toNat - 'A'.toNat + 10)
  else none

/-- The character with a code point, surrogates and numbers beyond the last one excluded. -/
def scalar? (n : Nat) : Option Char := if n.isValidChar then some (Char.ofNat n) else none

/-- The number that the first `count` characters stand for, if all of them are hexadecimal
digits, and the rest. `high` is the number read so far. -/
def readHex? : (count high : Nat) → List Char → Option (Nat × List Char)
  | 0, high, cs => some (high, cs)
  | count + 1, high, c :: rest =>
    match hexDigit? c with
    | some d => readHex? count (16 * high + d) rest
    | none => none
  | _ + 1, _, [] => none

/-- The character whose code point is written with `count` digits, and the rest. -/
def readCode? (count : Nat) (cs : List Char) : Option (Char × List Char) :=
  match readHex? count 0 cs with
  | some (n, rest) => (scalar? n).map (·, rest)
  | none => none

theorem length_readHex? {count high : Nat} {cs : List Char} {r : Nat × List Char}
    (h : readHex? count high cs = some r) : r.2.length ≤ cs.length := by
  induction count generalizing high cs with
  | zero => simp only [readHex?, Option.some.injEq] at h; subst h; exact Nat.le_refl _
  | succ count ih =>
    cases cs with
    | nil => simp [readHex?] at h
    | cons c rest =>
      simp only [readHex?] at h
      split at h
      · exact Nat.le_succ_of_le (ih h)
      · simp at h

theorem length_readCode? {count : Nat} {cs : List Char} {r : Char × List Char}
    (h : readCode? count cs = some r) : r.2.length ≤ cs.length := by
  unfold readCode? at h
  split at h
  · rename_i n rest hn
    obtain ⟨c, _, rfl⟩ := Option.map_eq_some_iff.1 h
    exact length_readHex? hn
  · simp at h

end Vigil.Text
