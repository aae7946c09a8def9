import CloudControl.Text.Ranges

/-!
# Replacements of characters

A mapping of characters onto texts is a table of replacements, each for one code point or for a
range. `Replacement.table` reads such a table from its written form: in `B5=3BC` and `140=6C,B7`
the texts after the sign stand for each code point before it, in `C0-D6>E0` the target moves along
with the code points of the range, and in `100-12E/101` only every other code point is replaced.
-/

namespace CloudControl.Text

/-- What stands for the code points of a range. -/
structure Replacement where
  first : Nat
  last : Nat
  /-- The distance from one code point that is replaced to the next. -/
  step : Nat
  /-- The target moves along with the code point. -/
  moves : Bool
  /-- What stands for the first code point. -/
  targets : List Nat

namespace Replacement

/-- The code point is replaced. -/
def covers (r : Replacement) (n : Nat) : Bool :=
  r.first ≤ n && n ≤ r.last && (n - r.first) % r.step == 0

/-- What stands for a code point of the range. -/
def text (r : Replacement) (n : Nat) : List Char :=
  r.targets.map fun target ↦ Char.ofNat (if r.moves then target + (n - r.first) else target)

/-- What a table puts in the place of a character. -/
def find? (table : Array Replacement) (c : Char) : Option (List Char) :=
  (Array.find? (·.covers c.toNat) table).map (·.text c.toNat)

/-- The sign ends the code points that are replaced. -/
def isSign (c : Char) : Bool :=
  c == '=' || c == '>' || c == '/'

/-- The replacement of a written form. -/
def ofText (cs : List Char) : Replacement :=
  let range := rangeOf (cs.takeWhile (!isSign ·))
  let rest := cs.dropWhile (!isSign ·)
  { first := range.1
    last := range.2
    step := if rest.head? == some '/' then 2 else 1
    moves := rest.head? != some '='
    targets := ((rest.drop 1).splitOn ',').map codePointOf }

/-- The replacements of the lines of a table. -/
def table (lines : List String) : Array Replacement :=
  (lines.flatMap fun line ↦ (line.toList.splitOn ' ').map ofText).toArray

end Replacement

end CloudControl.Text
