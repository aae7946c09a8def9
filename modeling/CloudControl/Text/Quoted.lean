import CloudControl.Text.Hex
import CloudControl.Text.PrintTable
import CloudControl.Text.Ranges

/-!
# Quoted text in messages

A message shows a text in double quotes. Quotes, backslashes, tabs, line breaks and the null
character are escaped with a backslash, and characters that are not printable on their own are
shown as their code point in braces.
-/

namespace CloudControl.Text.Quoted

/-- A character as its code point in braces. -/
def codePoint (c : Char) : List Char :=
  '\\' :: 'u' :: '\x7b' :: Hex.ofNat c.toNat ++ ['\x7d']

/-- A character as a message shows it. -/
def encodeChar (c : Char) : List Char :=
  if c == '\x00' then ['\\', '0']
  else if c == '\t' then ['\\', 't']
  else if c == '\r' then ['\\', 'r']
  else if c == '\n' then ['\\', 'n']
  else if c == '\\' then ['\\', '\\']
  else if c == '"' then ['\\', '"']
  else if inRanges unprintableRanges c.toNat then codePoint c
  else [c]

/-- A text as a message shows it. -/
def encode (s : String) : String :=
  String.ofList ('"' :: s.toList.flatMap encodeChar ++ ['"'])

end CloudControl.Text.Quoted
