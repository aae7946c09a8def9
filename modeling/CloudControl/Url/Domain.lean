import CloudControl.Text.JoiningTable
import CloudControl.Text.Normal
import CloudControl.Text.Punycode
import CloudControl.Url.Domain.DirectionTable
import CloudControl.Url.Domain.MappingTable
import CloudControl.Url.Domain.RefusedTable

/-!
# Domain names

A domain name may be given in any script. `Domain.ascii?` writes it in ASCII: the characters are
mapped onto plain small ones and brought to normal form, and a label beyond ASCII is written in
punycode behind the mark `xn--`. A label with the mark is read to see whether it is one that would
be written so. Labels beyond ASCII have rules of their own: none starts with a mark, joiners stand
only where letters join, and in a name with letters from right to left each label keeps to one
direction.
-/

namespace CloudControl.Url.Domain

open Text (inRanges dualJoiningRanges leftJoiningRanges rightJoiningRanges transparentRanges)

/-! ## Characters -/

/-- What a character of a domain stands for, which is nothing if it is left out; no domain has a
character that stands for `none`. -/
def mapChar? (c : Char) : Option (List Char) :=
  if c.toNat < 128 then some [c.toLower]
  else if inRanges refusedRanges c.toNat then none
  else if inRanges droppedRanges c.toNat then some []
  else some ((Text.Replacement.find? domainReplacements c).getD [c])

/-- The character stands for itself. -/
def isPlain (c : Char) : Bool :=
  mapChar? c == some [c]

/-- All characters are ASCII. -/
def isAscii (cs : List Char) : Bool :=
  cs.all (·.toNat < 128)

/-- The domain in the characters that it stands for. -/
def mapped? (cs : List Char) : Option (List Char) :=
  (cs.mapM mapChar?).map fun texts ↦ Text.normalize texts.flatten

/-! ## Joiners -/

/-- The character ends a consonant, so that a joiner may follow. -/
def isVirama (c : Char) : Bool :=
  Text.combiningClass c == 9

/-- Among the nearest characters, the first that letters do not join across joins on the side of
the tables. -/
def joins (tables : List (Array (Nat × Nat))) (cs : List Char) : Bool :=
  match cs.dropWhile (inRanges transparentRanges ·.toNat) with
  | c :: _ => tables.any (inRanges · c.toNat)
  | [] => false

/-- A joiner may stand between two parts of a label, the first in reverse order. -/
def admitsJoiner (joiner : Char) (before after : List Char) : Bool :=
  before.head?.any isVirama ||
    (joiner == '\u200C' && joins [leftJoiningRanges, dualJoiningRanges] before &&
      joins [rightJoiningRanges, dualJoiningRanges] after)

/-- Every joiner of a label stands where one may stand. -/
def joinersFit (before : List Char) : List Char → Bool
  | [] => true
  | c :: rest =>
    ((c != '\u200C' && c != '\u200D') || admitsJoiner c before rest) &&
      joinersFit (c :: before) rest

/-! ## Direction -/

/-- The direction of a character. -/
inductive Direction where
  | leftToRight
  | rightToLeft
  | arabicLetter
  | arabicNumber
  | europeanNumber
  | europeanSeparator
  | commonSeparator
  | europeanTerminator
  | nonspacing
  | boundary
  | neutral
  deriving DecidableEq

/-- The characters of the directions other than from left to right. -/
def directionTables : List (Direction × Array (Nat × Nat)) :=
  [(.rightToLeft, rightToLeftRanges), (.arabicLetter, arabicLetterRanges),
    (.arabicNumber, arabicNumberRanges), (.europeanNumber, europeanNumberRanges),
    (.europeanSeparator, europeanSeparatorRanges), (.commonSeparator, commonSeparatorRanges),
    (.europeanTerminator, europeanTerminatorRanges), (.nonspacing, nonspacingRanges),
    (.boundary, boundaryRanges), (.neutral, neutralRanges)]

/-- The direction of a character. -/
def directionOf (c : Char) : Direction :=
  (directionTables.find? (inRanges ·.2 c.toNat)).elim .leftToRight (·.1)

/-- A name with the character is subject to the rules on direction. -/
def isFromRight (c : Char) : Bool :=
  0x590 ≤ c.toNat && [.rightToLeft, .arabicLetter, .arabicNumber].contains (directionOf c)

/-- The directions that a label from left to right may hold. -/
def bodyFromLeft : List Direction :=
  [.leftToRight, .europeanNumber, .europeanSeparator, .commonSeparator, .europeanTerminator,
    .neutral, .boundary, .nonspacing]

/-- The directions that a label from right to left may hold. -/
def bodyFromRight : List Direction :=
  [.rightToLeft, .arabicLetter, .arabicNumber, .europeanNumber, .europeanSeparator,
    .commonSeparator, .europeanTerminator, .neutral, .boundary, .nonspacing]

/-- The label keeps to one direction: its first character gives it, its last one other than marks
belongs to it, and one from right to left has digits of one kind. -/
def keepsDirection (label : List Char) : Bool :=
  let directions := label.map directionOf
  let last := (directions.reverse.dropWhile (· == .nonspacing)).head?
  match directions.head? with
  | none => true
  | some .leftToRight =>
    directions.all bodyFromLeft.contains &&
      last.any [Direction.leftToRight, .europeanNumber].contains
  | some .rightToLeft | some .arabicLetter =>
    directions.all bodyFromRight.contains &&
      last.any [Direction.rightToLeft, .arabicLetter, .europeanNumber, .arabicNumber].contains &&
      !(directions.contains .europeanNumber && directions.contains .arabicNumber)
  | some _ => false

/-! ## Labels -/

/-- A label beyond ASCII does not start with a mark, and its joiners fit. -/
def isWellFormed (label : List Char) : Bool :=
  !(label.head?.any fun c ↦ inRanges Text.markRanges c.toNat) && joinersFit [] label

/-- A label that has been written in punycode stands for itself. -/
def isDecoded (label : List Char) : Bool :=
  !isAscii label && label.all isPlain && Text.normalize label == label

/-- The mark of a label in punycode. -/
def mark : List Char := ['x', 'n', '-', '-']

/-- The characters that a label stands for. -/
def readLabel? (label : List Char) : Option (List Char) :=
  if mark.isPrefixOf label then
    if isAscii label then
      (Text.Punycode.decode? (label.drop mark.length)).filter fun decoded ↦
        isDecoded decoded && isWellFormed decoded
    else none
  else if isAscii label || isWellFormed label then some label
  else none

/-- The written form of a label. -/
def writeLabel? (label : List Char) : Option (List Char) :=
  if isAscii label then some label
  else (Text.Punycode.encode? label).map (mark ++ ·)

/-- The labels keep to the rules on direction, where these apply. -/
def haveDirection (labels : List (List Char)) : Bool :=
  !labels.any (·.any isFromRight) || labels.all keepsDirection

/-- The character may not stand in a domain. -/
def isForbidden (c : Char) : Bool :=
  c.toNat ≤ 0x20 || c.toNat == 0x7F || "%#/:<>?@[\\]^|".toList.contains c

/-- The domain in ASCII, if it is a domain. -/
def ascii? (name : List Char) : Option (List Char) := do
  let labels := (← mapped? name).splitOn '.'
  let read ← labels.mapM readLabel?
  let written ← labels.mapM writeLabel?
  let text := List.intercalate ['.'] written
  if haveDirection read && !text.any isForbidden then some text else none

end CloudControl.Url.Domain
