import CloudControl.Calendar.Timestamp
import CloudControl.Text.Blank

/-!
# Reading dates and times

`Timestamp.parse?` takes a text in one of three notations, with blanks around it: the written
form of a timestamp, the same with the letter `T` in single quotes, and the Internet profile
of ISO 8601. The first two are lenient: blanks may stand before every number and before the
offset, numbers may be short, a year may carry a sign and then have any length, and colons or
blanks may divide the offset. The third is strict.
-/

namespace CloudControl.Calendar

open Text

/-- A reader takes a value off the front of a character list, or refuses it. -/
abbrev Reader (α : Type) := List Char → Option (α × List Char)

/-- Takes a character. -/
def char (c : Char) : List Char → Option (List Char)
  | d :: rest => if c = d then some rest else none
  | [] => none

/-- Takes the characters of a text. -/
def literal (s : List Char) (cs : List Char) : Option (List Char) :=
  s.foldlM (fun cs c ↦ char c cs) cs

/-- Takes a number of `least` to `most` digits. -/
def number (least most : Nat) : Reader Nat := fun cs ↦
  let digits := (cs.take most).takeWhile isDigit
  if digits.length < least then none
  else some (Numeral.valueFrom 0 digits, cs.drop digits.length)

/-- Takes a number of one or two digits, after blanks. -/
def shortNumber : Reader Nat := fun cs ↦
  number 1 2 (trimStart cs)

/-- Takes a year, after blanks: up to four digits, or a sign and any number of digits. -/
def year : Reader Int := fun cs ↦
  match trimStart cs with
  | '-' :: rest => (number 1 rest.length rest).map fun (n, rest) ↦ (-(n : Int), rest)
  | '+' :: rest => (number 1 rest.length rest).map fun (n, rest) ↦ ((n : Int), rest)
  | rest => (number 1 4 rest).map fun (n, rest) ↦ ((n : Int), rest)

/-- Takes the sign of an offset: the factor of its magnitude. -/
def offsetSign : Reader Int
  | '+' :: rest => some (1, rest)
  | '-' :: rest => some (-1, rest)
  | '\u2212' :: rest => some (-1, rest)
  | _ => none

/-- Takes an offset in seconds; `divide` takes what stands between its hours and minutes. -/
def offset (divide : List Char → Option (List Char)) : Reader Int := fun cs ↦ do
  let (sign, cs) ← offsetSign cs
  let (hours, cs) ← number 2 2 cs
  let cs ← divide cs
  let (minutes, cs) ← number 2 2 cs
  if minutes ≤ 59 then some (sign * (hours * 3600 + minutes * 60), cs) else none

/-- Skips colons and blanks. -/
def skipDividers (cs : List Char) : Option (List Char) :=
  some (cs.dropWhile fun c ↦ c == ':' || isBlank c)

/-- Takes a fraction of a second as nanoseconds: a point and digits, of which nine count. -/
def fraction : Reader Nat
  | '.' :: rest => do
    let (n, _) ← number 1 9 rest
    let used := ((rest.take 9).takeWhile isDigit).length
    some (n * Nat.pow 10 (9 - used), rest.dropWhile isDigit)
  | cs => some (0, cs)

/-- Reads a timestamp in the lenient notation, with `divider` between date and time. -/
def lenient? (divider : List Char) (cs : List Char) : Option Timestamp := do
  let (y, cs) ← year cs
  let cs ← char '-' cs
  let (month, cs) ← shortNumber cs
  let cs ← char '-' cs
  let (day, cs) ← shortNumber cs
  let cs ← literal divider cs
  let (hour, cs) ← shortNumber cs
  let cs ← char ':' cs
  let (minute, cs) ← shortNumber cs
  let cs ← char ':' cs
  let (second, cs) ← shortNumber cs
  let (offset, cs) ← offset skipDividers (trimStart cs)
  if cs.isEmpty then
    Timestamp.validate? ⟨⟨y, month, day⟩, hour, minute, second, 0, offset⟩
  else none

/-- Takes the offset of the Internet profile: the letter `Z`, or hours and minutes divided by
a colon. -/
def internetOffset : Reader Int
  | 'Z' :: rest => some (0, rest)
  | 'z' :: rest => some (0, rest)
  | cs => offset (char ':') cs

/-- Takes the divider of the Internet profile. -/
def internetDivider : List Char → Option (List Char)
  | c :: rest => if c = 'T' ∨ c = 't' ∨ c = ' ' then some rest else none
  | [] => none

/-- Reads a timestamp of the Internet profile. -/
def internet? (cs : List Char) : Option Timestamp := do
  let (y, cs) ← number 4 4 cs
  let cs ← char '-' cs
  let (month, cs) ← number 2 2 cs
  let cs ← char '-' cs
  let (day, cs) ← number 2 2 cs
  let cs ← internetDivider cs
  let (hour, cs) ← number 2 2 cs
  let cs ← char ':' cs
  let (minute, cs) ← number 2 2 cs
  let cs ← char ':' cs
  let (second, cs) ← number 2 2 cs
  let (nanos, cs) ← fraction cs
  let (offset, cs) ← internetOffset cs
  if cs.isEmpty && offset.natAbs ≤ 86340 then
    Timestamp.validate? ⟨⟨y, month, day⟩, hour, minute, second, nanos, offset⟩
  else none

end CloudControl.Calendar

namespace CloudControl

/-- Reads the written form of a timestamp. -/
def Timestamp.ofText? (s : String) : Option Timestamp :=
  Calendar.lenient? ['T'] s.toList

/-- Reads a timestamp of the Internet profile. -/
def Timestamp.ofInternetText? (s : String) : Option Timestamp :=
  Calendar.internet? s.toList

/-- Reads a timestamp in any of the three notations. -/
def Timestamp.parse? (s : String) : Option Timestamp :=
  let cs := Text.trimList s.toList
  Calendar.lenient? ['T'] cs <|> Calendar.lenient? ['\'', 'T', '\''] cs <|> Calendar.internet? cs

/-- Reads a date: year, month and day with hyphens between them, and blanks around each. -/
def Date.parse? (s : String) : Option Date := do
  let (y, cs) ← Calendar.year s.toList
  let cs ← Calendar.char '-' (Text.trimStart cs)
  let (month, cs) ← Calendar.shortNumber cs
  let cs ← Calendar.char '-' (Text.trimStart cs)
  let (day, cs) ← Calendar.shortNumber cs
  let date : Date := ⟨y, month, day⟩
  if (Text.trimStart cs).isEmpty && date.isSupported then some date else none

end CloudControl
