import Vigil.Text.Decimal

/-!
# Durations

A duration is a whole number of seconds below `2^64` and a number of nanoseconds below a second.
Its text names the largest unit that fits and gives the fraction exactly, without trailing zeros.
-/

namespace Vigil

/-- A span of time, from zero up to `2^64` seconds. -/
structure Duration where
  secs : Nat
  nanos : Nat
  secs_lt : secs < 18446744073709551616 := by omega
  nanos_lt : nanos < 1000000000 := by omega
  deriving DecidableEq

namespace Duration

/-- No time at all. -/
def zero : Duration := ⟨0, 0, by decide, by decide⟩

/-- The whole duration in nanoseconds. -/
def totalNanos (d : Duration) : Nat := d.secs * 1000000000 + d.nanos

/-- So many milliseconds. -/
def ofMillis (n : UInt64) : Duration :=
  ⟨n.toNat / 1000, n.toNat % 1000 * 1000000, by have := n.toNat_lt; omega, by omega⟩

/-- So many seconds, or the longest whole number of them if there are too many. -/
def ofSecsClamped (n : Nat) : Duration :=
  ⟨min n 18446744073709551615, 0, by omega, by decide⟩

theorem totalNanos_ofMillis (n : UInt64) : (ofMillis n).totalNanos = n.toNat * 1000000 := by
  simp only [totalNanos, ofMillis]; omega

/-- A duration is its length in nanoseconds. -/
theorem ext_totalNanos {d e : Duration} (h : d.totalNanos = e.totalNanos) : d = e := by
  obtain ⟨s, n, hs, hn⟩ := d
  obtain ⟨s', n', hs', hn'⟩ := e
  simp only [totalNanos] at h
  have h1 : s = s' := by omega
  have h2 : n = n' := by omega
  subst h1 h2; rfl

/-- Any duration but zero has some length. -/
theorem totalNanos_pos {d : Duration} (h : d ≠ zero) : 0 < d.totalNanos := by
  apply Nat.pos_of_ne_zero
  intro h0
  exact h (ext_totalNanos h0)

/-- The decimal fraction `part / 10 ^ width` with its point, or nothing for zero. -/
def fraction (width part : Nat) : List Char :=
  if part = 0 then []
  else
    let ds := Text.Decimal.digits part
    let padded := List.replicate (width - ds.length) '0' ++ ds
    '.' :: (padded.reverse.dropWhile (· == '0')).reverse

/-- A whole number of some unit with its fraction. -/
def measured (whole width part : Nat) (unit : String) : String :=
  Text.Decimal.natural whole ++ String.ofList (fraction width part) ++ unit

/-- The text of a duration: seconds if there are any, else the largest of milliseconds,
microseconds and nanoseconds that fits. -/
def render (d : Duration) : String :=
  if d.secs > 0 then measured d.secs 9 d.nanos "s"
  else if d.nanos ≥ 1000000 then measured (d.nanos / 1000000) 6 (d.nanos % 1000000) "ms"
  else if d.nanos ≥ 1000 then measured (d.nanos / 1000) 3 (d.nanos % 1000) "µs"
  else measured d.nanos 0 0 "ns"

end Duration

end Vigil
