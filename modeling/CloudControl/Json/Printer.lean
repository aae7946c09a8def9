import CloudControl.Json.Value
import CloudControl.Number.Shortest
import CloudControl.Text.Hex

/-!
# Printing JSON

`compact` writes a value without any blanks. `pretty` writes each item and each member on a
line of its own, indented by two spaces for every level. Both keep the order of members.
Quotes, backslashes and control characters are escaped, and every other character is written
as it is.
-/

namespace CloudControl.Json

/-- The written form of a character of a string. -/
def escapeChar (c : Char) : List Char :=
  if c == '"' then ['\\', '"']
  else if c == '\\' then ['\\', '\\']
  else if c == '\n' then ['\\', 'n']
  else if c == '\r' then ['\\', 'r']
  else if c == '\t' then ['\\', 't']
  else if c.toNat == 8 then ['\\', 'b']
  else if c.toNat == 12 then ['\\', 'f']
  else if c.toNat < 32 then
    ['\\', 'u', '0', '0', Text.Hex.digit (c.toNat / 16), Text.Hex.digit (c.toNat % 16)]
  else [c]

/-- The written form of a string, in quotes. -/
def quote (s : String) : String :=
  String.ofList ('"' :: s.toList.flatMap escapeChar ++ ['"'])

/-- The written form of a number. -/
def numberText : JsonNumber → String
  | .int i => Text.Numeral.ofInt i
  | .float x => if x.isFinite then x.jsonText else "null"

mutual

/-- Writes a value without blanks. -/
def compact : Json → String
  | null => "null"
  | bool b => if b then "true" else "false"
  | number n => numberText n
  | string s => quote s
  | array items => "[" ++ compactItems items ++ "]"
  | object members => "\x7b" ++ compactMembers members ++ "\x7d"

/-- Writes the items of an array without blanks. -/
def compactItems : List Json → String
  | [] => ""
  | [v] => compact v
  | v :: rest => compact v ++ "," ++ compactItems rest

/-- Writes the members of an object without blanks. -/
def compactMembers : List (String × Json) → String
  | [] => ""
  | [(name, v)] => quote name ++ ":" ++ compact v
  | (name, v) :: rest => quote name ++ ":" ++ compact v ++ "," ++ compactMembers rest

end

/-- A line break and the indentation of a level. -/
def lineBreak (level : Nat) : String :=
  String.ofList ('\n' :: List.replicate (2 * level) ' ')

mutual

/-- Writes a value at a level of indentation. -/
def prettyAt (level : Nat) : Json → String
  | null => "null"
  | bool b => if b then "true" else "false"
  | number n => numberText n
  | string s => quote s
  | array [] => "[]"
  | array (v :: rest) =>
    "[" ++ lineBreak (level + 1) ++ prettyAt (level + 1) v ++ prettyItems (level + 1) rest ++
      lineBreak level ++ "]"
  | object [] => "\x7b\x7d"
  | object ((name, v) :: rest) =>
    "\x7b" ++ lineBreak (level + 1) ++ quote name ++ ": " ++ prettyAt (level + 1) v ++
      prettyMembers (level + 1) rest ++ lineBreak level ++ "\x7d"

/-- Writes the further items of an array. -/
def prettyItems (level : Nat) : List Json → String
  | [] => ""
  | v :: rest => "," ++ lineBreak level ++ prettyAt level v ++ prettyItems level rest

/-- Writes the further members of an object. -/
def prettyMembers (level : Nat) : List (String × Json) → String
  | [] => ""
  | (name, v) :: rest =>
    "," ++ lineBreak level ++ quote name ++ ": " ++ prettyAt level v ++ prettyMembers level rest

end

/-- Writes a value on indented lines. -/
def pretty (v : Json) : String :=
  prettyAt 0 v

end CloudControl.Json
