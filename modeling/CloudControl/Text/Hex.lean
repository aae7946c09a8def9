/-!
# Hexadecimal digits

A number below 16 is written as one digit. Octets are written with two digits each, the high
one first. Reading takes digits of both letter cases.
-/

namespace CloudControl.Text.Hex

/-- The small digit of a number below 16. -/
def digit (n : Nat) : Char :=
  if n < 10 then Char.ofNat (48 + n) else Char.ofNat (87 + n)

/-- The capital digit of a number below 16. -/
def capital (n : Nat) : Char :=
  if n < 10 then Char.ofNat (48 + n) else Char.ofNat (55 + n)

/-- The value of a digit of either letter case. -/
def value? (c : Char) : Option Nat :=
  if '0' ≤ c && c ≤ '9' then some (c.toNat - 48)
  else if 'a' ≤ c && c ≤ 'f' then some (c.toNat - 87)
  else if 'A' ≤ c && c ≤ 'F' then some (c.toNat - 55)
  else none

/-- The two small digits of each octet. -/
def encode (bytes : List UInt8) : String :=
  String.ofList (bytes.flatMap fun b ↦ [digit (b.toNat / 16), digit (b.toNat % 16)])

/-- The octets named by pairs of digits. -/
def decodeList : List Char → Option (List UInt8)
  | [] => some []
  | hi :: lo :: rest => do
    let h ← value? hi
    let l ← value? lo
    let bytes ← decodeList rest
    return UInt8.ofNat (h * 16 + l) :: bytes
  | [_] => none

/-- The octets named by pairs of digits. -/
def decode (s : String) : Option (List UInt8) :=
  decodeList s.toList

/-- The digits of a number, the most significant first. -/
def ofNat (n : Nat) : List Char :=
  if n < 16 then [digit n] else ofNat (n / 16) ++ [digit (n % 16)]

/-- A digit reads back as the number it was written for. -/
theorem value?_digit {n : Nat} (h : n < 16) : value? (digit n) = some n := by
  have : ∀ n : Fin 16, value? (digit n) = some n.val := by decide
  exact this ⟨n, h⟩

/-- A capital digit reads back as the number it was written for. -/
theorem value?_capital {n : Nat} (h : n < 16) : value? (capital n) = some n := by
  have : ∀ n : Fin 16, value? (capital n) = some n.val := by decide
  exact this ⟨n, h⟩

end CloudControl.Text.Hex
