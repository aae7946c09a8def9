import CloudControl.Json.Number
import CloudControl.Text.Hex

/-!
# Reading JSON

`Json.parse?` reads exactly one value. Only space, tab, line feed and carriage return may
stand around tokens. Strings hold no unescaped control characters and no half of a surrogate
pair. Containers are nested at most 127 deep. Of members of one name the last one counts.
-/

namespace CloudControl.Json

open Text

/-- The blanks that may stand around tokens. -/
def isSpace (c : Char) : Bool :=
  c == ' ' || c == '\t' || c == '\n' || c == '\r'

/-- Drops blanks. -/
def skip (cs : List Char) : List Char :=
  cs.dropWhile isSpace

/-- A part of a string: a character, or a unit of sixteen bits. -/
inductive StringPart where
  | plain (c : Char)
  | unit (n : Nat)

/-- The character of a one-letter escape. -/
def escaped? : Char → Option Char
  | '"' => some '"'
  | '\\' => some '\\'
  | '/' => some '/'
  | 'b' => some '\x08'
  | 'f' => some '\x0c'
  | 'n' => some '\n'
  | 'r' => some '\r'
  | 't' => some '\t'
  | _ => none

/-- The value of four hexadecimal digits. -/
def unit? (a b c d : Char) : Option Nat := do
  let a ← Hex.value? a
  let b ← Hex.value? b
  let c ← Hex.value? c
  let d ← Hex.value? d
  some (a * 4096 + b * 256 + c * 16 + d)

/-- Takes the parts of a string up to the closing quote. -/
def takeParts : List Char → Option (List StringPart × List Char)
  | [] => none
  | '"' :: rest => some ([], rest)
  | '\\' :: 'u' :: a :: b :: c :: d :: rest => do
    let n ← unit? a b c d
    let (parts, rest) ← takeParts rest
    some (.unit n :: parts, rest)
  | '\\' :: e :: rest => do
    let c ← escaped? e
    let (parts, rest) ← takeParts rest
    some (.plain c :: parts, rest)
  | c :: rest =>
    if c.toNat < 32 || c == '\\' then none
    else do
      let (parts, rest) ← takeParts rest
      some (.plain c :: parts, rest)

/-- The first half of a surrogate pair. -/
def isHighSurrogate (n : Nat) : Bool := 0xD800 ≤ n && n < 0xDC00

/-- The second half of a surrogate pair. -/
def isLowSurrogate (n : Nat) : Bool := 0xDC00 ≤ n && n < 0xE000

/-- Joins surrogate pairs; a half alone is refused. -/
def joinParts : List StringPart → Option (List Char)
  | [] => some []
  | .plain c :: rest => (joinParts rest).map (c :: ·)
  | .unit hi :: .unit lo :: rest =>
    if isHighSurrogate hi then
      if isLowSurrogate lo then
        (joinParts rest).map (Char.ofNat (0x10000 + (hi - 0xD800) * 1024 + (lo - 0xDC00)) :: ·)
      else none
    else if isLowSurrogate hi then none
    else (joinParts (.unit lo :: rest)).map (Char.ofNat hi :: ·)
  | .unit n :: rest =>
    if isHighSurrogate n || isLowSurrogate n then none
    else (joinParts rest).map (Char.ofNat n :: ·)

/-- Takes a string after its opening quote. -/
def takeString (cs : List Char) : Option (String × List Char) := do
  let (parts, rest) ← takeParts cs
  let chars ← joinParts parts
  some (String.ofList chars, rest)

/-- Takes a fixed word. -/
def takeWord (word : List Char) (value : Json) (cs : List Char) : Option (Json × List Char) :=
  if word.isPrefixOf cs then some (value, cs.drop word.length) else none

/-- Takes the name of a member and the colon behind it. -/
def takeName (cs : List Char) : Option (String × List Char) :=
  match skip cs with
  | '"' :: rest => do
    let (name, rest) ← takeString rest
    match skip rest with
    | ':' :: rest => some (name, rest)
    | _ => none
  | _ => none

mutual

/-- Takes a value; containers may be nested `depth` deep. -/
def takeValue (fuel depth : Nat) (cs : List Char) : Option (Json × List Char) :=
  match fuel with
  | 0 => none
  | fuel + 1 =>
    match skip cs with
    | 'n' :: rest => takeWord ['u', 'l', 'l'] null rest
    | 't' :: rest => takeWord ['r', 'u', 'e'] (bool true) rest
    | 'f' :: rest => takeWord ['a', 'l', 's', 'e'] (bool false) rest
    | '"' :: rest => (takeString rest).map fun (s, rest) ↦ (string s, rest)
    | '[' :: rest =>
      match depth with
      | 0 => none
      | depth + 1 =>
        match skip rest with
        | ']' :: rest => some (array [], rest)
        | rest => (takeItems fuel depth rest).map fun (items, rest) ↦ (array items, rest)
    | '\x7b' :: rest =>
      match depth with
      | 0 => none
      | depth + 1 =>
        match skip rest with
        | '\x7d' :: rest => some (object [], rest)
        | rest => (takeMembers fuel depth rest).map fun (members, rest) ↦ (ofMembers members, rest)
    | cs => (takeNumber cs).map fun (n, rest) ↦ (number n, rest)

/-- Takes the items of an array and the closing bracket. -/
def takeItems (fuel depth : Nat) (cs : List Char) : Option (List Json × List Char) :=
  match fuel with
  | 0 => none
  | fuel + 1 => do
    let (v, rest) ← takeValue fuel depth cs
    match skip rest with
    | ']' :: rest => some ([v], rest)
    | ',' :: rest =>
      let (items, rest) ← takeItems fuel depth rest
      some (v :: items, rest)
    | _ => none

/-- Takes the members of an object and the closing brace. -/
def takeMembers (fuel depth : Nat) (cs : List Char) : Option (List (String × Json) × List Char) :=
  match fuel with
  | 0 => none
  | fuel + 1 => do
    let (name, rest) ← takeName cs
    let (v, rest) ← takeValue fuel depth rest
    match skip rest with
    | '\x7d' :: rest => some ([(name, v)], rest)
    | ',' :: rest =>
      let (members, rest) ← takeMembers fuel depth rest
      some ((name, v) :: members, rest)
    | _ => none

end

/-- How deep containers may be nested. -/
def maxDepth : Nat := 127

/-- The value of a text, if it is exactly one. -/
def parse? (text : String) : Option Json := do
  let cs := text.toList
  let (v, rest) ← takeValue (2 * cs.length + 1) maxDepth cs
  if (skip rest).isEmpty then some v else none

end CloudControl.Json
