/-!
# Base64

The standard alphabet with padding. Reading is strict: the padding must be complete, nothing
may follow it, and the bits that the padding leaves unused must be zero, so that each octet
list has exactly one written form.
-/

namespace CloudControl.Text.Base64

/-- The letter of a number below 64. -/
def letter (n : Nat) : Char :=
  if n < 26 then Char.ofNat (65 + n)
  else if n < 52 then Char.ofNat (71 + n)
  else if n < 62 then Char.ofNat (n - 4)
  else if n == 62 then '+' else '/'

/-- The number of a letter. -/
def value? (c : Char) : Option Nat :=
  if 'A' ≤ c && c ≤ 'Z' then some (c.toNat - 65)
  else if 'a' ≤ c && c ≤ 'z' then some (c.toNat - 71)
  else if '0' ≤ c && c ≤ '9' then some (c.toNat + 4)
  else if c == '+' then some 62
  else if c == '/' then some 63
  else none

/-- Writes three octets as four letters, and pads the last group. -/
def encodeList : List UInt8 → List Char
  | [] => []
  | [a] => [letter (a.toNat / 4), letter (a.toNat % 4 * 16), '=', '=']
  | [a, b] =>
    [letter (a.toNat / 4), letter (a.toNat % 4 * 16 + b.toNat / 16),
      letter (b.toNat % 16 * 4), '=']
  | a :: b :: c :: rest =>
    letter (a.toNat / 4) :: letter (a.toNat % 4 * 16 + b.toNat / 16) ::
      letter (b.toNat % 16 * 4 + c.toNat / 64) :: letter (c.toNat % 64) :: encodeList rest

/-- The written form of octets. -/
def encode (bytes : List UInt8) : String :=
  String.ofList (encodeList bytes)

/-- Reads groups of four letters; only the last group may be padded. -/
def decodeList : List Char → Option (List UInt8)
  | [] => some []
  | [p, q, '=', '='] => do
    let a ← value? p
    let b ← value? q
    if b % 16 = 0 then some [UInt8.ofNat (a * 4 + b / 16)] else none
  | [p, q, r, '='] => do
    let a ← value? p
    let b ← value? q
    let c ← value? r
    if c % 4 = 0 then
      some [UInt8.ofNat (a * 4 + b / 16), UInt8.ofNat (b % 16 * 16 + c / 4)]
    else none
  | p :: q :: r :: s :: rest => do
    let a ← value? p
    let b ← value? q
    let c ← value? r
    let d ← value? s
    let bytes ← decodeList rest
    return UInt8.ofNat (a * 4 + b / 16) :: UInt8.ofNat (b % 16 * 16 + c / 4) ::
      UInt8.ofNat (c % 4 * 64 + d) :: bytes
  | _ => none

/-- The octets of a written form, if the text is one. -/
def decode (s : String) : Option (List UInt8) :=
  decodeList s.toList

/-- A letter reads back as the number it was written for. -/
theorem value?_letter {n : Nat} (h : n < 64) : value? (letter n) = some n := by
  have : ∀ n : Fin 64, value? (letter n) = some n.val := by decide
  exact this ⟨n, h⟩

end CloudControl.Text.Base64
