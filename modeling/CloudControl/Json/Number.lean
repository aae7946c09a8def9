import CloudControl.Json.Value
import CloudControl.Text.Numeral

/-!
# JSON numerals

A numeral is a minus sign, digits without a leading zero, a fraction and an exponent, of which
only the digits must be there. A numeral of digits alone is a whole number when it fits 64
bits. Every other numeral is a floating-point number: its digits fill a significand of 64
bits, the digits beyond are dropped, the significand is rounded, and the result is scaled by a
rounded power of ten. A numeral beyond the largest floating-point number is refused.
-/

namespace CloudControl.Json

open Text

/-- The parts of a numeral. -/
structure Numeral where
  negative : Bool
  whole : List Char
  fraction : List Char
  /-- The sign of the exponent and its digits. -/
  exponent : Option (Bool × List Char)

/-- Takes the digits off the front of a character list. -/
def takeDigits (cs : List Char) : List Char × List Char :=
  (cs.takeWhile isDigit, cs.dropWhile isDigit)

/-- Takes the whole part of a numeral: a zero, or digits that do not start with one. -/
def takeWhole (cs : List Char) : Option (List Char × List Char) :=
  match takeDigits cs with
  | ([], _) => none
  | ('0' :: _ :: _, _) => none
  | (digits, rest) => some (digits, rest)

/-- Takes a fraction, if there is a point. -/
def takeFraction : List Char → Option (List Char × List Char)
  | '.' :: rest =>
    match takeDigits rest with
    | ([], _) => none
    | (digits, rest) => some (digits, rest)
  | cs => some ([], cs)

/-- Takes the sign of an exponent: whether it is negative. -/
def takeExponentSign : List Char → Bool × List Char
  | '+' :: rest => (false, rest)
  | '-' :: rest => (true, rest)
  | cs => (false, cs)

/-- Takes an exponent, if there is the letter for one. -/
def takeExponent : List Char → Option (Option (Bool × List Char) × List Char)
  | c :: rest =>
    if c = 'e' ∨ c = 'E' then
      let (negative, rest) := takeExponentSign rest
      match takeDigits rest with
      | ([], _) => none
      | (digits, rest) => some (some (negative, digits), rest)
    else some (none, c :: rest)
  | [] => some (none, [])

/-- Takes a numeral without its sign. -/
def takeNumeral (negative : Bool) (cs : List Char) : Option (Numeral × List Char) := do
  let (whole, cs) ← takeWhole cs
  let (fraction, cs) ← takeFraction cs
  let (exponent, cs) ← takeExponent cs
  some (⟨negative, whole, fraction, exponent⟩, cs)

/-- Adds digits to a significand as long as it fits 64 bits; the digits left over. -/
def absorb (significand : Nat) : List Char → Nat × List Char
  | [] => (significand, [])
  | c :: rest =>
    let next := 10 * significand + Numeral.digitValue c
    if next ≤ Text.Numeral.maxUnsigned 64 then absorb next rest else (significand, c :: rest)

/-- The power of ten as a floating-point number. -/
def powerOfTen (n : Nat) : Binary64 :=
  Binary64.ofDecimal false 1 n

/-- The largest power of ten that a floating-point number holds. -/
def maxPower : Nat := 308

/-- Divides by a power of ten, in steps of the largest one. -/
def scaleDown (x : Binary64) (power : Nat) : Binary64 :=
  if power ≤ maxPower then x.div (powerOfTen power)
  else if x.isZero then x
  else scaleDown (x.div (powerOfTen maxPower)) (power - maxPower)
termination_by power
decreasing_by have : maxPower = 308 := rfl; omega

/-- Scales a number by a power of ten; none beyond the largest floating-point number. -/
def scale? (x : Binary64) (power : Int) : Option Binary64 :=
  if power < 0 then some (scaleDown x (-power).toNat)
  else if power.toNat ≤ maxPower then some (x.mul (powerOfTen power.toNat)) |>.filter (·.isFinite)
  else if x.isZero then some x
  else none

/-- The largest exponent that is told apart from larger ones. -/
def maxExponent : Int := Text.Numeral.maxSigned 32

/-- The bounds of the sum of all exponents. -/
def clampExponent (e : Int) : Int :=
  max (-maxExponent - 1) (min maxExponent e)

/-- The floating-point number of a numeral. -/
def Numeral.toFloat? (n : Numeral) : Option Binary64 :=
  let (significand, dropped) := absorb 0 n.whole
  let (significand, unused) := absorb significand n.fraction
  let power : Int := dropped.length - (n.fraction.length - unused.length : Nat)
  let magnitude := Binary64.ofNat significand
  let value := match n.exponent with
    | none => scale? magnitude power
    | some (negative, digits) =>
      let e : Int := Text.Numeral.valueFrom 0 digits
      if maxExponent < e then
        if significand ≠ 0 && !negative then none else some (Binary64.zero false)
      else scale? magnitude (clampExponent (if negative then power - e else power + e))
  value.map fun x ↦ if n.negative then x.neg else x

/-- The number of a numeral. -/
def Numeral.toNumber? (n : Numeral) : Option JsonNumber :=
  if n.fraction.isEmpty && n.exponent.isNone then
    let value := Text.Numeral.valueFrom 0 n.whole
    if !n.negative && value ≤ Text.Numeral.maxUnsigned 64 then some (.int value)
    else if n.negative && 0 < value && Text.Numeral.minSigned 64 ≤ -value then some (.int (-value))
    else n.toFloat?.map .float
  else n.toFloat?.map .float

/-- Takes a number off the front of a character list. -/
def takeNumber (cs : List Char) : Option (JsonNumber × List Char) := do
  let (n, rest) ← match cs with
    | '-' :: rest => takeNumeral true rest
    | _ => takeNumeral false cs
  let value ← n.toNumber?
  some (value, rest)

end CloudControl.Json
