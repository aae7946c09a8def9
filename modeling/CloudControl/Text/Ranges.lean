import CloudControl.Text.Hex

/-!
# Ranges of code points

A class of characters is a table of ranges of code points. `ranges` reads such a table from its
written form: `300-36F` is a range and `483` is a single code point, both in hexadecimal digits,
with a blank between one and the next.
-/

namespace CloudControl.Text

/-- A code point lies in one of the ranges. -/
def inRanges (ranges : Array (Nat × Nat)) (n : Nat) : Bool :=
  ranges.any fun range ↦ range.1 ≤ n && n ≤ range.2

/-- The number that hexadecimal digits stand for. -/
def codePointOf (digits : List Char) : Nat :=
  digits.foldl (fun n c ↦ 16 * n + (Hex.value? c).getD 0) 0

/-- The range of a written form. -/
def rangeOf (cs : List Char) : Nat × Nat :=
  let first := codePointOf (cs.takeWhile (· != '-'))
  match cs.dropWhile (· != '-') with
  | _ :: last => (first, codePointOf last)
  | [] => (first, first)

/-- The ranges of the lines of a table. -/
def ranges (lines : List String) : Array (Nat × Nat) :=
  (lines.flatMap fun line ↦ (line.toList.splitOn ' ').map rangeOf).toArray

end CloudControl.Text
