/-!
# ASCII letter case

Parameter names, command names and identifiers are compared without regard to the case of
ASCII letters. `foldCase` maps `A` to `Z` onto `a` to `z` and leaves every other character
alone, and `EqFolded` is equality after folding.
-/

namespace CloudControl.Text

/-- Maps ASCII capitals onto small letters and keeps every other character. -/
def foldCase (s : String) : String :=
  String.ofList (s.toList.map Char.toLower)

/-- Two texts differ at most in the case of ASCII letters. -/
def eqFolded (s t : String) : Bool :=
  s.toList.map Char.toLower == t.toList.map Char.toLower

/-- Maps ASCII small letters onto capitals and keeps every other character. -/
def capitalize (s : String) : String :=
  String.ofList (s.toList.map Char.toUpper)

/-- The characters `0` to `9`. -/
def isDigit (c : Char) : Bool :=
  '0' ≤ c && c ≤ '9'

/-- The ASCII letters of both cases. -/
def isLetter (c : Char) : Bool :=
  ('a' ≤ c && c ≤ 'z') || ('A' ≤ c && c ≤ 'Z')

@[simp]
theorem eqFolded_iff {s t : String} :
    eqFolded s t = true ↔ s.toList.map Char.toLower = t.toList.map Char.toLower := by
  simp [eqFolded]

/-- Folded equality is reflexive. -/
theorem eqFolded_self (s : String) : eqFolded s s = true := by
  simp

/-- Folded equality is symmetric. -/
theorem eqFolded_comm (s t : String) : eqFolded s t = eqFolded t s := by
  rw [Bool.eq_iff_iff, eqFolded_iff, eqFolded_iff, eq_comm]

end CloudControl.Text
