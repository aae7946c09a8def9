import CloudControl.Text.CombiningTable
import CloudControl.Text.DecompositionTable

/-!
# The normal form of text

Characters that mean the same may be written in several ways. `normalize` gives the normal form C
of Unicode: every character is taken apart as far as possible, the marks behind a character are
put in the order of their combining classes, and what can be written as one character is put
together again.
-/

namespace CloudControl.Text

/-! ## Syllables of Hangul -/

/-- The two parts of a syllable: a shorter syllable and a final letter, or a first letter and a
vowel. -/
def hangulParts? (n : Nat) : Option (List Char) :=
  if 0xAC00 ≤ n && n ≤ 0xD7A3 then
    let index := n - 0xAC00
    if index % 28 = 0 then
      some [Char.ofNat (0x1100 + index / 588), Char.ofNat (0x1161 + index / 28 % 21)]
    else some [Char.ofNat (n - index % 28), Char.ofNat (0x11A7 + index % 28)]
  else none

/-- The syllable of two parts. -/
def hangulOf? (a b : Nat) : Option Char :=
  if 0x1100 ≤ a && a ≤ 0x1112 && 0x1161 ≤ b && b ≤ 0x1175 then
    some (Char.ofNat (0xAC00 + 588 * (a - 0x1100) + 28 * (b - 0x1161)))
  else if 0xAC00 ≤ a && a ≤ 0xD7A3 && (a - 0xAC00) % 28 == 0 && 0x11A8 ≤ b && b ≤ 0x11C2 then
    some (Char.ofNat (a + (b - 0x11A7)))
  else none

/-! ## Taking apart -/

/-- What a character stands for, one step deep. -/
def parts? (c : Char) : Option (List Char) :=
  hangulParts? c.toNat <|> Replacement.find? compositions c <|> Replacement.find? decompositions c

/-- Takes a character apart, so many steps deep. -/
def takeApart : Nat → Char → List Char
  | 0, c => [c]
  | depth + 1, c =>
    match parts? c with
    | some cs => cs.flatMap (takeApart depth)
    | none => [c]

/-- The steps after which no character can be taken apart further. -/
def deepest : Nat := 3

/-! ## Order of marks -/

/-- The combining class of a character, which is zero unless it is a mark that may change places
with others. -/
def combiningClass (c : Char) : Nat :=
  if c.toNat < 0x300 then 0
  else (combiningClasses.find? (inRanges ·.2 c.toNat)).elim 0 (·.1)

/-- Puts a character in front of a text in order, behind the marks of smaller classes. -/
def insertMark (c : Char) : List Char → List Char
  | [] => [c]
  | d :: rest =>
    if combiningClass d != 0 && combiningClass d < combiningClass c then d :: insertMark c rest
    else c :: d :: rest

/-! ## Putting together -/

/-- The character that is written in the place of two. -/
def composed? (a b : Char) : Option Char :=
  hangulOf? a.toNat b.toNat <|>
    (compositions.find? (·.targets == [a.toNat, b.toNat])).map fun r ↦ Char.ofNat r.first

/-- Puts together what follows a character. The marks that have been passed over are in reverse
order; one of the same class as the next mark stands in its way, and so does any of them in the
way of a character that is no mark. -/
def composeFrom (start : Char) (marks : List Char) : List Char → List Char
  | [] => start :: marks.reverse
  | c :: rest =>
    let isFree := marks.head?.all fun mark ↦ combiningClass mark < combiningClass c
    match if isFree then composed? start c else none with
    | some whole => composeFrom whole marks rest
    | none =>
      if combiningClass c = 0 then start :: marks.reverse ++ composeFrom c [] rest
      else composeFrom start (c :: marks) rest

/-- Puts a text together from its first character of class zero on. -/
def compose : List Char → List Char
  | [] => []
  | c :: rest =>
    if combiningClass c = 0 then composeFrom c [] rest else c :: compose rest

/-- The normal form of a text. -/
def normalize (cs : List Char) : List Char :=
  if cs.all (·.toNat < 0x300) then cs
  else compose ((cs.flatMap (takeApart deepest)).foldr insertMark [])

end CloudControl.Text
