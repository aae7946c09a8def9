import CloudControl.Number.Binary64
import CloudControl.Text.Numeral

/-!
# Shortest decimal digits

`shortest` gives the fewest digits that read back as a finite number, and of those the
nearest to it. The number's neighbours bound an interval of reals that round to it; its ends
belong to it when the significand is even. Grids of one to seventeen digits are tried in turn.
Where two points of a grid are equally near, a `Tie` says which is taken. `plainText` and
`jsonText` lay the digits out.
-/

namespace CloudControl.Binary64

/-- Digits and the power of ten they are multiplied with. -/
structure Digits where
  digits : Nat
  exponent : Int
  deriving DecidableEq

/-- Which of two points is taken that are equally near to a number. -/
inductive Tie where
  /-- The one with the greater magnitude. -/
  | up
  /-- The one whose last digit is even. -/
  | toEven
  deriving DecidableEq

/-- The interval that rounds to a positive finite number, and the number, over one
denominator. -/
structure Rounding where
  low : Nat
  value : Nat
  high : Nat
  den : Nat
  closed : Bool

/-- The interval of the reals that round to a positive finite number. -/
def rounding (x : Binary64) : Rounding :=
  let m := x.significand
  let below := if x.fraction = 0 && x.exponentField > 1 then 4 * m - 1 else 4 * m - 2
  let num := if x.scale ≥ 1074 then Nat.pow 2 (x.scale - 1074) else 1
  let den := if x.scale ≥ 1074 then 4 else 4 * Nat.pow 2 (1074 - x.scale)
  ⟨below * num, 4 * m * num, (4 * m + 2) * num, den, m % 2 == 0⟩

/-- The point `c` of the grid of `10 ^ e` lies in the interval. -/
def Rounding.holds (r : Rounding) (c : Nat) (e : Int) : Bool :=
  let point := if 0 ≤ e then c * Nat.pow 10 e.toNat * r.den else c * r.den
  let unit := if 0 ≤ e then 1 else Nat.pow 10 (-e).toNat
  if r.closed then r.low * unit ≤ point && point ≤ r.high * unit
  else r.low * unit < point && point < r.high * unit

/-- The next point after `c` is taken, given how what lies beyond `c` compares with one half. -/
def Tie.takesNext (tie : Tie) (c : Nat) : Ordering → Bool
  | .lt => false
  | .eq => tie = .up || c % 2 == 1
  | .gt => true

/-- The point of the grid of `10 ^ e` just below the number, and how what lies beyond it compares
with one half. -/
def Rounding.floor (r : Rounding) (e : Int) : Nat × Ordering :=
  let num := if 0 ≤ e then r.value else r.value * Nat.pow 10 (-e).toNat
  let den := if 0 ≤ e then r.den * Nat.pow 10 e.toNat else r.den
  (num / den, compare (2 * (num % den)) den)

/-- The best point of the grid of `10 ^ e`, if one lies in the interval. -/
def Rounding.onGrid? (r : Rounding) (tie : Tie) (e : Int) : Option Digits :=
  let (c, beyond) := r.floor e
  match r.holds c e, r.holds (c + 1) e with
  | true, true => some ⟨if tie.takesNext c beyond then c + 1 else c, e⟩
  | true, false => some ⟨c, e⟩
  | false, true => some ⟨c + 1, e⟩
  | false, false => none

/-- The number of digits in front of the decimal point of a positive number, which is negative
when zeros follow the point. -/
def Rounding.magnitude (r : Rounding) : Int :=
  if r.value ≥ r.den then ((Nat.toDigits 10 (r.value / r.den)).length : Int)
  else 1 - ((Nat.toDigits 10 ((r.den - 1) / r.value)).length : Int)

/-- Tries grids of `count` digits and more. -/
def Rounding.search (r : Rounding) (tie : Tie) (fuel count : Nat) : Digits :=
  match fuel with
  | 0 => ⟨0, 0⟩
  | fuel + 1 => (r.onGrid? tie (r.magnitude - count)).getD (r.search tie fuel (count + 1))

/-- Moves the zeros at the end of the digits into the exponent. -/
def Digits.strip (d : Digits) (fuel : Nat) : Digits :=
  match fuel with
  | 0 => d
  | fuel + 1 =>
    if d.digits % 10 = 0 && d.digits ≠ 0 then strip ⟨d.digits / 10, d.exponent + 1⟩ fuel else d

/-- The fewest digits that read back as the magnitude of a finite number. -/
def shortest (tie : Tie) (x : Binary64) : Digits :=
  if x.isZero then ⟨0, 0⟩ else (x.rounding.search tie 18 1).strip 20

/-- The digits with a point, and zeros where the digits do not reach. -/
def Digits.positional (d : Digits) : String :=
  let ds := Nat.toDigits 10 d.digits
  if 0 ≤ d.exponent then String.ofList (ds ++ List.replicate d.exponent.toNat '0')
  else
    let places := (-d.exponent).toNat
    let ds := List.replicate (places + 1 - ds.length) '0' ++ ds
    String.ofList (ds.take (ds.length - places) ++ '.' :: ds.drop (ds.length - places))

/-- One digit, a point and the other digits, and the power of ten of the first with its sign. -/
def Digits.scientific (d : Digits) : String :=
  let ds := Nat.toDigits 10 d.digits
  let power : Int := d.exponent + ds.length - 1
  String.ofList (ds.take 1) ++ (if ds.length > 1 then "." ++ String.ofList (ds.drop 1) else "") ++
    (if power < 0 then "e" else "e+") ++ Text.Numeral.ofInt power

/-- A sign in front of a negative number. -/
def signText (x : Binary64) : String :=
  if x.isNegative then "-" else ""

/-- The number without an exponent, and without a point when it is whole; a tie goes up. -/
def plainText (x : Binary64) : String :=
  if x.isNaN then "NaN"
  else if !x.isFinite then x.signText ++ "inf"
  else x.signText ++ (x.shortest .up).positional

/-- The text of a finite number that keeps a point or an exponent. Powers of ten below
`10 ^ -5` and from `10 ^ 16` on are written with an exponent; a tie goes to the even digit. -/
def jsonText (x : Binary64) : String :=
  let d := x.shortest .toEven
  let point : Int := (Nat.toDigits 10 d.digits).length + d.exponent
  x.signText ++
    if x.isZero then "0.0"
    else if -5 < point && point ≤ 16 then
      if 0 ≤ d.exponent then d.positional ++ ".0" else d.positional
    else d.scientific

end CloudControl.Binary64
