/-!
# Binary64 numbers

A floating-point number is its 64 bits. All arithmetic is exact on natural numbers and rounds
once, to the nearest number and to the even one of two that are equally near. A finite number
is a whole significand times a power of two.
-/

namespace CloudControl

/-- A floating-point number, as its 64 bits: sign, eleven bits of exponent, 52 of fraction. -/
structure Binary64 where
  bits : UInt64
  deriving DecidableEq

namespace Binary64

/-- The sign bit is set. -/
def isNegative (x : Binary64) : Bool :=
  x.bits.toNat / Nat.pow 2 63 == 1

/-- The exponent field. -/
def exponentField (x : Binary64) : Nat :=
  x.bits.toNat / Nat.pow 2 52 % Nat.pow 2 11

/-- The fraction field. -/
def fraction (x : Binary64) : Nat :=
  x.bits.toNat % Nat.pow 2 52

/-- Neither infinite nor a NaN. -/
def isFinite (x : Binary64) : Bool :=
  x.exponentField != 2047

/-- Finite and zero. -/
def isZero (x : Binary64) : Bool :=
  x.exponentField == 0 && x.fraction == 0

/-- A NaN. -/
def isNaN (x : Binary64) : Bool :=
  x.exponentField == 2047 && x.fraction != 0

/-- The significand of a finite number. -/
def significand (x : Binary64) : Nat :=
  if x.exponentField = 0 then x.fraction else Nat.pow 2 52 + x.fraction

/-- The power of two that the significand of a finite number is multiplied with, plus 1074. -/
def scale (x : Binary64) : Nat :=
  x.exponentField - 1

/-- The bits of the magnitude of infinity. -/
def infinityBits : Nat := 2047 * Nat.pow 2 52

/-- The number with a sign and the bits of a magnitude. -/
def ofMagnitude (negative : Bool) (magnitude : Nat) : Binary64 :=
  ⟨UInt64.ofNat ((if negative then Nat.pow 2 63 else 0) + magnitude)⟩

/-- Zero with a sign. -/
def zero (negative : Bool) : Binary64 := ofMagnitude negative 0

/-- Infinity with a sign. -/
def infinity (negative : Bool) : Binary64 := ofMagnitude negative infinityBits

/-- The NaN with a sign whose other bits are the plainest. -/
def nan (negative : Bool) : Binary64 := ofMagnitude negative (infinityBits + Nat.pow 2 51)

/-- A quotient rounded to the nearest whole number, and to the even one of two. -/
def roundDiv (num den : Nat) : Nat :=
  let q := num / den
  let r := num % den
  if 2 * r < den then q else if den < 2 * r then q + 1 else q + q % 2

/-- The quotient `num / den` is below two to the power `e`. -/
def belowPower (num den : Nat) (e : Int) : Bool :=
  if 0 ≤ e then num < den * Nat.pow 2 e.toNat else num * Nat.pow 2 (-e).toNat < den

/-- The exponent of the last place that a number near `num / den` keeps. -/
def lastPlace (num den : Nat) : Int :=
  let guess : Int := (num.log2 : Int) - den.log2
  let top := if belowPower num den guess then guess - 1 else guess
  max (top - 52) (-1074)

/-- The quotient of two numbers, rounded. -/
def ofRatio (negative : Bool) (num den : Nat) : Binary64 :=
  if num = 0 || den = 0 then zero negative
  else
    let q := lastPlace num den
    let m :=
      if 0 ≤ q then roundDiv num (den * Nat.pow 2 q.toNat)
      else roundDiv (num * Nat.pow 2 (-q).toNat) den
    let magnitude := (q + 1074).toNat * Nat.pow 2 52 + m
    ofMagnitude negative (min magnitude infinityBits)

/-- A finite number as a quotient of natural numbers. -/
def toRatio (x : Binary64) : Nat × Nat :=
  if x.scale ≥ 1074 then (x.significand * Nat.pow 2 (x.scale - 1074), 1)
  else (x.significand, Nat.pow 2 (1074 - x.scale))

/-- A natural number, rounded. -/
def ofNat (n : Nat) : Binary64 := ofRatio false n 1

/-- An integer, rounded. -/
def ofInt (i : Int) : Binary64 := ofRatio (i < 0) i.natAbs 1

/-- The number with the other sign. -/
def neg (x : Binary64) : Binary64 :=
  ofMagnitude (!x.isNegative) (x.bits.toNat % Nat.pow 2 63)

/-- The product of two finite numbers, rounded. -/
def mul (x y : Binary64) : Binary64 :=
  ofRatio (x.isNegative != y.isNegative) (x.toRatio.1 * y.toRatio.1) (x.toRatio.2 * y.toRatio.2)

/-- The quotient of two finite numbers, rounded. -/
def div (x y : Binary64) : Binary64 :=
  ofRatio (x.isNegative != y.isNegative) (x.toRatio.1 * y.toRatio.2) (x.toRatio.2 * y.toRatio.1)

/-- The product of a natural number and a power of ten, rounded once. -/
def ofDecimal (negative : Bool) (digits : Nat) (exponent : Int) : Binary64 :=
  if digits = 0 then zero negative
  else
    let size : Int := (Nat.toDigits 10 digits).length
    if size + exponent > 310 then infinity negative
    else if size + exponent < -330 then zero negative
    else if 0 ≤ exponent then ofRatio negative (digits * Nat.pow 10 exponent.toNat) 1
    else ofRatio negative digits (Nat.pow 10 (-exponent).toNat)

end Binary64

end CloudControl
