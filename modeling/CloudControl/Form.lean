import CloudControl.Text.Hex
import CloudControl.Text.Utf8

/-!
# Form encoding

Names and values travel as `name=value` pairs joined by `&`. `encode` writes the UTF-8 octets
of a text: letters, digits and `*`, `-`, `.`, `_` stand for themselves, and every other octet,
a space included, is a percent sign with two capital hexadecimal digits. `parse` reads pairs
back: a plus sign is a space, percent signs without two digits are kept, empty segments are
skipped, and octets that are not UTF-8 become replacement characters.
-/

namespace CloudControl.Form

/-- The octet stands for itself. -/
def isPlain (b : UInt8) : Bool :=
  (48 ≤ b && b ≤ 57) || (65 ≤ b && b ≤ 90) || (97 ≤ b && b ≤ 122) ||
    b == 42 || b == 45 || b == 46 || b == 95

/-- The written form of an octet. -/
def encodeByte (b : UInt8) : List Char :=
  if isPlain b then [Char.ofNat b.toNat]
  else ['%', Text.Hex.capital (b.toNat / 16), Text.Hex.capital (b.toNat % 16)]

/-- The written form of a text. -/
def encodeChars (s : String) : List Char :=
  (Text.Utf8.encode s).flatMap encodeByte

/-- The written form of a text. -/
def encode (s : String) : String :=
  String.ofList (encodeChars s)

/-- A name and a value, joined by an equals sign. -/
def encodePair (pair : String × String) : List Char :=
  encodeChars pair.1 ++ '=' :: encodeChars pair.2

/-- The written form of pairs, in their order. -/
def encodePairs (pairs : List (String × String)) : String :=
  String.ofList (List.intercalate ['&'] (pairs.map encodePair))

/-- The octets that a written form stands for. -/
def decodeBytes : List UInt8 → List UInt8
  | [] => []
  | 37 :: hi :: lo :: rest =>
    match Text.Hex.value? (Char.ofNat hi.toNat), Text.Hex.value? (Char.ofNat lo.toNat) with
    | some h, some l => UInt8.ofNat (h * 16 + l) :: decodeBytes rest
    | _, _ => 37 :: decodeBytes (hi :: lo :: rest)
  | 43 :: rest => 32 :: decodeBytes rest
  | b :: rest => b :: decodeBytes rest

/-- The text that a written form stands for. -/
def decode (bytes : List UInt8) : String :=
  Text.Utf8.decode (decodeBytes bytes)

/-- The octet between pairs. -/
def ampersand : UInt8 := 38

/-- The octet between a name and its value. -/
def equals : UInt8 := 61

/-- Reads a segment as a name and a value; without an equals sign the value is empty. -/
def decodePair (segment : List UInt8) : String × String :=
  (decode (segment.takeWhile (· != equals)), decode ((segment.dropWhile (· != equals)).drop 1))

/-- The segments between ampersands. -/
def segments (bytes : List UInt8) : List (List UInt8) :=
  bytes.splitOn ampersand

/-- The pairs of a written form. -/
def parseBytes (bytes : List UInt8) : List (String × String) :=
  ((segments bytes).filter (!·.isEmpty)).map decodePair

/-- The pairs of a written form. -/
def parse (text : String) : List (String × String) :=
  parseBytes (Text.Utf8.encode text)

@[simp]
theorem encodeByte_plain {b : UInt8} (h : isPlain b = true) :
    encodeByte b = [Char.ofNat b.toNat] := by
  simp [encodeByte, h]

end CloudControl.Form
