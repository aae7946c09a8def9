import CloudControl.Number.Binary64
import CloudControl.Text.Numeral

/-!
# Reading floating-point numbers

A floating-point number is written as digits with a point among or around them and an optional
exponent, or as one of the words `inf`, `infinity` and `nan` in any letter case. A sign may
stand in front. The result is the nearest floating-point number.
-/

namespace CloudControl.Binary64

open Text

/-- The value of an exponent with its letter; zero when nothing is left to read. -/
def exponent? : List Char → Option Int
  | [] => some 0
  | c :: rest =>
    if c = 'e' ∨ c = 'E' then
      match rest with
      | '-' :: digits => (Numeral.digits? digits).map fun n ↦ -(n : Int)
      | '+' :: digits => (Numeral.digits? digits).map fun n ↦ (n : Int)
      | digits => (Numeral.digits? digits).map fun n ↦ (n : Int)
    else none

/-- Reads digits, a point and more digits; one digit at least must be there. -/
def decimal? (negative : Bool) (cs : List Char) : Option Binary64 := do
  let whole := cs.takeWhile isDigit
  let rest := cs.dropWhile isDigit
  let (fraction, rest) := match rest with
    | '.' :: rest => (rest.takeWhile isDigit, rest.dropWhile isDigit)
    | _ => ([], rest)
  if whole.isEmpty && fraction.isEmpty then none
  else
    let e ← exponent? rest
    some (ofDecimal negative (Numeral.valueFrom 0 (whole ++ fraction)) (e - fraction.length))

/-- Reads a number without its sign. -/
def unsigned? (negative : Bool) (cs : List Char) : Option Binary64 :=
  match String.ofList (cs.map Char.toLower) with
  | "inf" => some (infinity negative)
  | "infinity" => some (infinity negative)
  | "nan" => some (nan negative)
  | _ => decimal? negative cs

/-- Reads a number with an optional sign. -/
def parse? (s : String) : Option Binary64 :=
  match s.toList with
  | '-' :: rest => unsigned? true rest
  | '+' :: rest => unsigned? false rest
  | cs => unsigned? false cs

end CloudControl.Binary64
