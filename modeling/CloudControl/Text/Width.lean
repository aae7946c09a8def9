import CloudControl.Text.JoiningTable
import CloudControl.Text.WidthTable

/-!
# Display width

How many columns a line takes on a terminal: two for a wide character, none for one that is
hidden or extends another, and one for any other. Some sequences take fewer than their
characters would: pictures that are joined or shaded, flags, and letters that are written as
one. A line is measured from its end, since what a character takes hangs on what follows it.
-/

namespace CloudControl.Text

/-- The columns of a character that stands alone. -/
def charWidth (c : Char) : Nat :=
  if c.toNat < 128 then 1
  else if inRanges hiddenRanges c.toNat then 0
  else if inRanges wideRanges c.toNat then 2
  else if c == '\u17D8' then 3
  else 1

namespace Width

/-! ## What follows a character -/

/-- Regional letters behind a joiner, which are flags two by two. -/
inductive Flags where
  | first
  | even
  | odd
  deriving DecidableEq

/-- What follows a character, as far as its width hangs on that. -/
inductive Shape where
  | other
  | picture
  /-- A modifier that shades the picture in front of it. -/
  | shade
  /-- Regional letters, of which `several` or one. -/
  | regional (several : Bool)
  /-- A joiner in front of a picture, and perhaps a keycap in front of that. -/
  | joinedPicture (keycap : Bool)
  | joinedFlags (flags : Flags)
  /-- The end of a flag that is spelled out, with so many letters and digits. -/
  | spelledFlag (letters digits : Nat)
  | alef
  | lamed
  | ya
  | yaWithVowel
  | tifinagh
  | tifinaghJoiner
  | toneLetter
  | orkhonI
  | coengLetter
  | vowelE
  | vowelAi
  deriving DecidableEq

/-- How a selector wants the character in front of it shown. -/
inductive Style where
  | picture
  | sign
  /-- A quotation mark with the room of two letters. -/
  | fullwidth
  deriving DecidableEq

/-- The text behind a character. -/
structure Following where
  shape : Shape
  style : Option Style
  /-- A joiner stands in front of a letter that is joined. -/
  isJoined : Bool
  deriving DecidableEq

/-- Nothing of note follows. -/
def Following.none : Following := ⟨.other, Option.none, false⟩

/-- Only the shape is of note. -/
def Shape.alone (shape : Shape) : Following := ⟨shape, Option.none, false⟩

/-- The letters are joined across marks that are not shown. -/
def Shape.isLetter : Shape → Bool
  | alef | lamed | ya | yaWithVowel | tifinagh | tifinaghJoiner | toneLetter | orkhonI
  | coengLetter | vowelE | vowelAi => true
  | _ => false

/-- The shape of a character that stands alone. -/
def shapeOf (c : Char) : Shape :=
  let n := c.toNat
  if n < 128 then .other
  else if 0x1F3FB ≤ n && n ≤ 0x1F3FF then .shade
  else if 0x1F1E6 ≤ n && n ≤ 0x1F1FF then .regional false
  else if inRanges pictureRanges n then .picture
  else if inRanges alefRanges n then .alef
  else if n = 0x5DC then .lamed
  else if n = 0x1A10 then .ya
  else if (0x2D31 ≤ n && n ≤ 0x2D65) || n = 0x2D6F then .tifinagh
  else if n = 0xA4FC || n = 0xA4FD then .toneLetter
  else if n = 0x10C03 then .orkhonI
  else if inRanges coengRanges n then .coengLetter
  else if n = 0x16D67 then .vowelE
  else if n = 0x16D68 then .vowelAi
  else .other

/-! ## Sequences -/

/-- The columns that a letter adds in front of letters that it is joined with, and what it
amounts to together with them. -/
def joinLetter? (next : Following) (n : Nat) : Option (Int × Shape) :=
  match next.shape, next.isJoined with
  | .alef, _ => if inRanges lamRanges n then some (0, .other) else none
  | .lamed, true => if n = 0x5D0 then some (0, .other) else none
  | .ya, true => if n = 0x1A17 then some (0, .yaWithVowel) else none
  | .yaWithVowel, _ => if n = 0x1A15 then some (0, .other) else none
  | .tifinagh, isJoined =>
    if n = 0x2D7F then some (1, .tifinaghJoiner)
    else if isJoined && ((0x2D31 ≤ n && n ≤ 0x2D65) || n = 0x2D6F) then some (0, .other)
    else none
  | .tifinaghJoiner, _ =>
    if (0x2D31 ≤ n && n ≤ 0x2D65) || n = 0x2D6F then some (-1, .other) else none
  | .toneLetter, _ => if 0xA4F8 ≤ n && n ≤ 0xA4FB then some (0, .other) else none
  | .orkhonI, true => if n = 0x10C32 then some (0, .other) else none
  | .coengLetter, _ => if n = 0x17D2 then some (-1, .other) else none
  | .vowelE, _ =>
    if n = 0x16D63 || n = 0x16D69 then some (0, .other)
    else if n = 0x16D67 then some (0, .vowelAi)
    else if n = 0x16D68 then some (1, .vowelE)
    else none
  | .vowelAi, _ => if n = 0x16D63 then some (0, .other) else none
  | _, _ => none

/-- The columns that a character adds in front of a picture or a flag, and what it amounts to
together with it. -/
def joinPicture? (shape : Shape) (c : Char) : Option (Int × Shape) :=
  let n := c.toNat
  let isRegional := 0x1F1E6 ≤ n && n ≤ 0x1F1FF
  let isTagLetter := 0xE0061 ≤ n && n ≤ 0xE007A
  let isTagDigit := 0xE0030 ≤ n && n ≤ 0xE0039
  match shape with
  | .shade =>
    if inRanges shadedRanges n then some (0, .picture)
    else if n = 0x200D then some (0, .joinedPicture false)
    else none
  | .regional several =>
    if isRegional then some (1, .regional true)
    else if several && n = 0x200D then some (0, .joinedPicture false)
    else none
  | .picture => if n = 0x200D then some (0, .joinedPicture false) else none
  | .joinedPicture false =>
    if n = 0x20E3 then some (0, .joinedPicture true)
    else if isRegional then some (1, .joinedFlags .first)
    else if 0x1F3FB ≤ n && n ≤ 0x1F3FF then some (0, .shade)
    else if n = 0xE007F then some (0, .spelledFlag 0 0)
    else if shapeOf c = .picture then some (0, .picture)
    else none
  | .joinedFlags flags =>
    if isRegional then
      some (if flags = .even then (3, .joinedFlags .odd) else (-1, .joinedFlags .even))
    else if n = 0x200D && flags != .first then some (0, .joinedPicture false)
    else none
  | .spelledFlag letters digits =>
    if isTagLetter && digits = 0 && letters < 6 then some (0, .spelledFlag (letters + 1) 0)
    else if isTagDigit && digits = 0 && letters < 5 then some (0, .spelledFlag letters 1)
    else if isTagDigit && 0 < digits && digits < 3 then some (0, .spelledFlag letters (digits + 1))
    else if n = 0x1F3F4 && (digits = 3 || (digits = 0 && 3 ≤ letters)) then some (0, .picture)
    else none
  | _ => none

/-- The columns of a character and what it amounts to, where no selector follows it. -/
def unselected (next : Following) (c : Char) : Int × Following :=
  if c.toNat ≤ 0xA0 then (1, .none)
  else if c == '\uFE0F' then
    (0, if next.shape.isLetter || (next.shape matches .joinedPicture _) then
        { next with style := some .picture }
      else ⟨.other, some .picture, false⟩)
  else if c == '\uFE0E' then
    (0, if next.shape.isLetter then { next with style := some .sign }
      else ⟨.other, some .sign, false⟩)
  else if c == '\uFE01' then
    (0, if next.shape.isLetter then { next with style := some .fullwidth }
      else ⟨.other, some .fullwidth, false⟩)
  else if next.shape.isLetter && next.shape ≠ .alef && c == '\u200D' then
    (0, { next with isJoined := true })
  else if next.shape.isLetter && inRanges transparentRanges c.toNat && charWidth c = 0 &&
      (next.shape = .alef || inRanges ignoredMarkRanges c.toNat) then (0, next)
  else
    match joinLetter? next c.toNat <|> joinPicture? next.shape c with
    | some (columns, shape) => (columns, shape.alone)
    | none => (charWidth c, (shapeOf c).alone)
where
  /-- The marks that are never shown. -/
  ignoredMarkRanges : Array (Nat × Nat) := #[(0x34F, 0x34F), (0x17B4, 0x17B5), (0x180B, 0x180D),
    (0x180F, 0x180F), (0xFE00, 0xFE0D), (0xE0100, 0xE01EF)]

/-- What follows, without the selector in front of it. -/
def Following.dropStyle (next : Following) : Following :=
  if next.shape.isLetter then { next with style := Option.none } else .none

/-- The columns of a character and what it amounts to for the one in front of it. -/
def step (next : Following) (c : Char) : Int × Following :=
  let isSelectable := inRanges selectableRanges c.toNat
  match next.style with
  | some .picture =>
    if isSelectable then
      (if next.shape matches .joinedPicture _ then 0 else 2, Shape.picture.alone)
    else unselected next.dropStyle c
  | some .sign =>
    if isSelectable && inRanges pictureRanges c.toNat &&
        !(0x1F200 ≤ c.toNat && c.toNat ≤ 0x1F2FF) then (1, .none)
    else unselected next.dropStyle c
  | some .fullwidth =>
    if "‘’“”".toList.contains c then (2, .none) else unselected next.dropStyle c
  | none => unselected next c

/-- The columns of a text and what follows the character in front of it. -/
def measure (cs : List Char) : Int × Following :=
  cs.foldr (fun c (columns, next) ↦
    let (more, next) := step next c
    (columns + more, next)) (0, .none)

end Width

/-- The columns of a line. -/
def width (line : String) : Nat :=
  (Width.measure line.toList).1.toNat

end CloudControl.Text
