import CloudControl.Text.Ascii

/-!
# Decimal numerals

Readers of whole numbers in a range. An unsigned numeral is a run of digits, which may follow
a plus sign; a signed one may follow a minus sign as well. Nothing else may surround it.
`ofNat` writes a number, and `padded` fills it up with zeros.
-/

namespace CloudControl.Text.Numeral

/-- The value of a digit. -/
def digitValue (c : Char) : Nat :=
  c.toNat - 48

/-- The value of a run of digits that follow digits of value `acc`. -/
def valueFrom (acc : Nat) (cs : List Char) : Nat :=
  cs.foldl (fun n c ↦ 10 * n + digitValue c) acc

/-- The value of a non-empty run of digits. -/
def digits? (cs : List Char) : Option Nat :=
  if cs.isEmpty || !cs.all isDigit then none else some (valueFrom 0 cs)

/-- The value of an unsigned numeral up to `max`. -/
def unsigned? (max : Nat) (cs : List Char) : Option Nat :=
  let body := match cs with
    | '+' :: rest => rest
    | _ => cs
  (digits? body).filter (· ≤ max)

/-- The value of a signed numeral from `min` to `max`. -/
def signed? (min max : Int) (cs : List Char) : Option Int :=
  let value := match cs with
    | '-' :: rest => (digits? rest).map fun n ↦ -(n : Int)
    | '+' :: rest => (digits? rest).map fun n ↦ (n : Int)
    | _ => (digits? cs).map fun n ↦ (n : Int)
  value.filter fun i ↦ min ≤ i && i ≤ max

/-- The largest number of `bits` bits. -/
def maxUnsigned (bits : Nat) : Nat := Nat.pow 2 bits - 1

/-- The largest number in two's complement of `bits` bits. -/
def maxSigned (bits : Nat) : Int := (Nat.pow 2 (bits - 1) : Int) - 1

/-- The least number in two's complement of `bits` bits. -/
def minSigned (bits : Nat) : Int := -(Nat.pow 2 (bits - 1) : Int)

/-- The value of an unsigned numeral of at most `bits` bits. -/
def natOfBits? (bits : Nat) (s : String) : Option Nat :=
  unsigned? (maxUnsigned bits) s.toList

/-- The value of a signed numeral in two's complement of `bits` bits. -/
def intOfBits? (bits : Nat) (s : String) : Option Int :=
  signed? (minSigned bits) (maxSigned bits) s.toList

/-- The numeral of a natural number. -/
def ofNat (n : Nat) : String :=
  String.ofList (Nat.toDigits 10 n)

/-- The numeral of an integer, with a minus sign in front of a negative one. -/
def ofInt (i : Int) : String :=
  match i with
  | .ofNat n => ofNat n
  | .negSucc n => "-" ++ ofNat (n + 1)

/-- The numeral of a number, filled up in front with zeros to `width` digits. -/
def padded (width n : Nat) : String :=
  let digits := Nat.toDigits 10 n
  String.ofList (List.replicate (width - digits.length) '0' ++ digits)

end CloudControl.Text.Numeral
