import CloudControl.Text.Hex
import CloudControl.Text.Utf8

/-!
# Percent encoding

Writes the octets that a place in an address does not admit as a percent sign with two capital
hexadecimal digits, and reads them back. A percent sign without two digits stands for itself.
-/

namespace CloudControl.Text.Percent

/-- The written form of an octet. -/
def escape (b : UInt8) : List Char :=
  ['%', Hex.capital (b.toNat / 16), Hex.capital (b.toNat % 16)]

/-- The written form of a character: itself if it is admitted, else its octets escaped. -/
def encodeChar (admits : Char → Bool) (c : Char) : List Char :=
  if admits c then [c] else (Utf8.encodeChars [c]).flatMap escape

/-- The written form of a list of characters. -/
def encode (admits : Char → Bool) (cs : List Char) : List Char :=
  cs.flatMap (encodeChar admits)

/-- The octets that a written form stands for. -/
def decode : List UInt8 → List UInt8
  | [] => []
  | 37 :: hi :: lo :: rest =>
    match Hex.value? (Char.ofNat hi.toNat), Hex.value? (Char.ofNat lo.toNat) with
    | some h, some l => UInt8.ofNat (h * 16 + l) :: decode rest
    | _, _ => 37 :: decode (hi :: lo :: rest)
  | b :: rest => b :: decode rest

@[simp]
theorem encode_nil (admits : Char → Bool) : encode admits [] = [] := rfl

end CloudControl.Text.Percent
