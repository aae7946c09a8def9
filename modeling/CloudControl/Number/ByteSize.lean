import CloudControl.Number.Binary64
import CloudControl.Text.Numeral

/-!
# Sizes in octets

A size is shown in the largest unit of which it holds at least one, with one decimal place. The
unit grows by a factor of 1024. A size has 53 significant bits, and a tie between two tenths goes
to the even one.
-/

namespace CloudControl.ByteSize

/-- The units, each 1024 times the one before it. -/
def units : List String := ["KiB", "MiB", "GiB", "TiB"]

/-- A number of tenths, with a point in front of the last digit. -/
def tenthsText (tenths : Nat) : String :=
  Text.Numeral.ofNat (tenths / 10) ++ "." ++ Text.Numeral.ofNat (tenths % 10)

/-- A quotient in the first unit that leaves less than 1024 of it, or else in the last one. -/
def textIn (num den : Nat) : List String → String
  | [] => ""
  | [unit] => tenthsText (Binary64.roundDiv (10 * num) den) ++ " " ++ unit
  | unit :: larger =>
    if num < 1024 * den then tenthsText (Binary64.roundDiv (10 * num) den) ++ " " ++ unit
    else textIn num (1024 * den) larger

/-- The text of a number of octets. -/
def text (octets : Nat) : String :=
  let (num, den) := (Binary64.ofNat octets).toRatio
  if num < 1024 * den then Text.Numeral.ofNat octets ++ " B" else textIn num (1024 * den) units

end CloudControl.ByteSize
