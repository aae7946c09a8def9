import CloudControl.Text.Numeral

/-!
# Lengths of time

A length of time is a number of nanoseconds. The longest one is a nanosecond short of the seconds
that 64 bits cannot count any more, and a sum that is longer does not exist (`add?`). A length is
written in the largest unit that it has one of, with as many decimals as are exact.
-/

namespace CloudControl.Span

/-- The longest length of time. -/
def longest : Nat := 18446744073709551615999999999

/-- The length of a second. -/
def second : Nat := 1000000000

/-- The sum of two lengths, unless it is longer than the longest. -/
def add? (a b : Nat) : Option Nat :=
  if a + b ≤ longest then some (a + b) else none

section

variable {a b : Nat}

/-- A sum that is not too long. -/
theorem add?_of_le (h : a + b ≤ longest) : add? a b = some (a + b) :=
  if_pos h

/-- A sum that is too long. -/
theorem add?_of_lt (h : longest < a + b) : add? a b = none :=
  if_neg (Nat.not_le.mpr h)

end

/-- The text of a number of units and of a fraction of one that is counted in `digits` digits,
without zeros at the end. -/
def decimalText (whole fraction digits : Nat) : String :=
  if fraction = 0 then Text.Numeral.ofNat whole
  else
    let decimals := (Text.Numeral.padded digits fraction).toList.reverse.dropWhile (· == '0')
    Text.Numeral.ofNat whole ++ "." ++ String.ofList decimals.reverse

/-- The text of a length. -/
def text (length : Nat) : String :=
  if second ≤ length then decimalText (length / second) (length % second) 9 ++ "s"
  else if 1000000 ≤ length then decimalText (length / 1000000) (length % 1000000) 6 ++ "ms"
  else if 1000 ≤ length then decimalText (length / 1000) (length % 1000) 3 ++ "µs"
  else Text.Numeral.ofNat length ++ "ns"

/-- A second and a half, and ten milliseconds and a bit. -/
example : text 1500000000 = "1.5s" ∧ text 10000020 = "10.00002ms" := by decide

end CloudControl.Span
