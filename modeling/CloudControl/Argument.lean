import CloudControl.Calendar.Date
import CloudControl.Params
import CloudControl.Schema.Kind
import CloudControl.Number.Shortest
import CloudControl.Text.Base64
import CloudControl.Text.Utf8

/-!
# Arguments

An argument becomes parameters by an encoding: one parameter for a single value, one for a list
that is joined by commas, or two for each pair of a list, under numbered names. An argument that
an encoding does not take becomes no parameter.
-/

namespace CloudControl

/-- What is passed to a call. -/
inductive Argument where
  | text (s : String)
  | flag (b : Bool)
  | whole (i : Int)
  | decimal (x : Binary64)
  | two (first second : String)
  | texts (items : List String)
  | pairs (items : List (String × String))
  | date (d : Date)
  | time (t : Timestamp)
  | octets (bytes : List UInt8)

/-- How an argument is written. -/
inductive Encoding where
  /-- A text, truth value, number or date under one name. -/
  | plain (param : String)
  /-- Nothing when false. -/
  | switch (param : String)
  /-- A text of an enumeration, in its spelling on the wire. -/
  | choice (enum : Schema.TextEnum) (param : String)
  /-- The name of a code, in capitals. -/
  | codeName (enum : Schema.CodeEnum) (param : String)
  /-- Two texts under two names. -/
  | two (first second : String)
  /-- Texts joined by commas under one name. -/
  | joined (param : String)
  /-- Pairs under numbered names. -/
  | indexed (list first second : String)
  /-- A time under one name. -/
  | time (param : String)
  /-- Octets in base 64 under one name. -/
  | base64 (param : String)
  deriving DecidableEq

namespace Encoding

/-- Texts joined by commas. -/
def joinTexts (items : List String) : String :=
  String.intercalate "," items

/-- The text of a truth value. -/
def flagText (b : Bool) : String :=
  if b then "true" else "false"

/-- The name of a member of the item of a list at an index. -/
def itemParam (list member : String) (index : Nat) : String :=
  list ++ "[" ++ Text.Numeral.ofNat index ++ "]." ++ member

/-- The parameters of the pairs of a list, from an index on. -/
def indexedParams (list first second : String) : Nat → List (String × String) → List Param
  | _, [] => []
  | index, (a, b) :: rest =>
    (itemParam list first index, a) :: (itemParam list second index, b) ::
      indexedParams list first second (index + 1) rest

/-- The parameters that an argument becomes. -/
def write : Encoding → Argument → List Param
  | plain param, .text s => [(param, s)]
  | plain param, .flag b => [(param, flagText b)]
  | plain param, .whole i => [(param, Text.Numeral.ofInt i)]
  | plain param, .decimal x => [(param, x.plainText)]
  | plain param, .date d => [(param, d.text)]
  | switch param, .flag true => [(param, flagText true)]
  | choice enum param, .text s => [(param, enum.wireOf s)]
  | codeName enum param, .whole n => [(param, Text.capitalize (enum.nameOf n))]
  | two first second, .two a b => [(first, a), (second, b)]
  | joined param, .texts items => [(param, joinTexts items)]
  | indexed list first second, .pairs items => indexedParams list first second 0 items
  | time param, .time t => [(param, t.text)]
  | base64 param, .octets bytes => [(param, Text.Base64.encode bytes)]
  | base64 param, .text s => [(param, Text.Base64.encode (Text.Utf8.encode s))]
  | _, _ => []

end Encoding

end CloudControl
