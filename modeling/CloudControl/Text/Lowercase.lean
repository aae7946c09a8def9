import CloudControl.Text.CaseTable
import CloudControl.Text.Ranges

/-!
# Lower-casing text

`lowercase` maps every character onto its small form by the rules of Unicode: one character
becomes one character, except that a capital I with a dot becomes two, and that a capital
sigma becomes the final small sigma at the end of a word. A sigma ends a word when the nearest
character before it that is not case-ignorable is cased, and the nearest one after it is not.
-/

namespace CloudControl.Text

/-- A code point lies in a run. -/
def CaseRun.covers (run : CaseRun) (n : Nat) : Bool :=
  run.first ≤ n && n ≤ run.last && (n - run.first) % run.step == 0

/-- The character has a letter case. -/
def isCased (c : Char) : Bool :=
  if c.toNat < 128 then isAsciiLetter c else inRanges casedRanges c.toNat
where
  /-- The ASCII letters of both cases. -/
  isAsciiLetter (c : Char) : Bool := ('a' ≤ c && c ≤ 'z') || ('A' ≤ c && c ≤ 'Z')

/-- The character is passed over when the letter case around it is looked up. -/
def isCaseIgnorable (c : Char) : Bool :=
  inRanges caseIgnorableRanges c.toNat

/-- The small form of a character, sigma at the end of a word aside. -/
def lowercaseChar (c : Char) : List Char :=
  if c.toNat < 128 then [c.toLower]
  else if c == 'İ' then ['i', '\u0307']
  else
    match lowercaseRuns.find? (·.covers c.toNat) with
    | some run => [Char.ofNat (c.toNat + run.distance).toNat]
    | none => [c]

/-- The first character that is not case-ignorable is cased. -/
def meetsCased (cs : List Char) : Bool :=
  match cs.dropWhile isCaseIgnorable with
  | c :: _ => isCased c
  | [] => false

/-- Lower-cases the characters that follow the reversed context `before`. -/
def lowercaseFrom (before : List Char) : List Char → List Char
  | [] => []
  | c :: rest =>
    (if c == 'Σ' then
      [if meetsCased before && !meetsCased rest then 'ς' else 'σ']
    else lowercaseChar c) ++ lowercaseFrom (c :: before) rest

/-- Maps every character of a text onto its small form. -/
def lowercase (s : String) : String :=
  String.ofList (lowercaseFrom [] s.toList)

/-- Lower-casing an ASCII character folds its letter case. -/
theorem lowercaseChar_of_ascii {c : Char} (h : c.toNat < 128) :
    lowercaseChar c = [c.toLower] := by
  simp [lowercaseChar, h]

end CloudControl.Text
