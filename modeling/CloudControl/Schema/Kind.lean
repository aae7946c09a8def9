import CloudControl.Calendar.Reader
import CloudControl.Json.Value
import CloudControl.Number.Reader

/-!
# Kinds of wire values

The management server answers with records of named fields. `Kind` describes what a field
holds, and `Value` is what has been read from it. Servers are lax about types: numbers and
truth values may arrive as text, times come in several notations, and new names and codes
appear with new releases. A field of such a kind is read as far as possible and is empty
otherwise, so that one odd field never spoils a record.
-/

namespace CloudControl.Schema

/-- A name in an enumeration, with its spelling on the wire and further spellings that are
understood. -/
structure Variant where
  name : String
  wire : String
  aliases : List String
  deriving DecidableEq

/-- An enumeration of texts. A text that is none of them is read as the fallback. -/
structure TextEnum where
  name : String
  variants : List Variant
  fallback : Variant
  deriving DecidableEq

/-- An enumeration of whole numbers with names. -/
structure CodeEnum where
  name : String
  variants : List (String × Int)
  deriving DecidableEq

/-- The kinds of fields that may arrive as text or as themselves. -/
inductive Scalar where
  | flag
  | unsigned (bits : Nat)
  | signed (bits : Nat)
  | decimal
  deriving DecidableEq

/-- Where a field may be left out: from an object and from the end of an array, or from objects
only. -/
inductive Omission where
  | anywhere
  | fromObjects
  deriving DecidableEq

/-- What a field holds. -/
inductive Kind where
  /-- A text that must be there. -/
  | text
  /-- A text that may be missing. -/
  | optionalText (omission : Omission := .anywhere)
  /-- A truth value or a number that may be missing. -/
  | scalar (scalar : Scalar)
  /-- A time that may be missing. -/
  | time
  /-- A text of an enumeration that may be missing. -/
  | choice (enum : TextEnum) (omission : Omission := .anywhere)
  /-- A code of an enumeration that must be there. -/
  | code (enum : CodeEnum)
  /-- A code of an enumeration that may be missing. -/
  | optionalCode (enum : CodeEnum)
  /-- Any JSON value. -/
  | raw
  /-- A list, which is empty when it is missing. -/
  | list (item : Kind)
  /-- A record with a name and named fields. -/
  | record (name : String) (fields : List (String × Kind))

/-- What has been read from a field. -/
inductive Value where
  | text (s : Option String)
  | flag (b : Option Bool)
  | whole (i : Option Int)
  | decimal (x : Option Binary64)
  | time (t : Option Timestamp)
  | code (n : Option Int)
  | raw (j : Option Json)
  | list (items : List Value)
  | record (fields : List (String × Value))

/-- A record as it has been read: its fields in the order of their declaration. -/
abbrev Record := List (String × Value)

namespace TextEnum

/-- The text spells the variant. -/
def spells (s : String) (v : Variant) : Bool :=
  v.wire == s || v.aliases.contains s

/-- The variant that a text spells. -/
def variantOf (e : TextEnum) (s : String) : Variant :=
  (e.variants.find? (spells s)).getD e.fallback

/-- The spelling on the wire of the variant that a text spells. -/
def wireOf (e : TextEnum) (s : String) : String :=
  (e.variantOf s).wire

end TextEnum

namespace CodeEnum

/-- The code that stands for a value that cannot be read. -/
def unreadable : Int := -1

/-- A name as it is compared: without blanks around it and without underscores. -/
def plainName (name : String) : String :=
  String.ofList ((Text.trimList name.toList).filter (· != '_'))

/-- The code of a name, in any letter case. -/
def codeOfName? (e : CodeEnum) (name : String) : Option Int :=
  (e.variants.find? fun v ↦ Text.eqFolded v.1 (plainName name)).map (·.2)

/-- The code of a text: a number, or else a name. -/
def codeOfText? (e : CodeEnum) (s : String) : Option Int :=
  Text.Numeral.intOfBits? 64 (Text.trim s) <|> e.codeOfName? s

/-- The code of a JSON value. -/
def codeOfJson (e : CodeEnum) : Json → Int
  | .number n => (n.toIntOfBits? 64).getD unreadable
  | .string s => (e.codeOfText? s).getD unreadable
  | _ => unreadable

/-- The name of a code. -/
def nameOf (e : CodeEnum) (code : Int) : String :=
  match e.variants.find? (·.2 == code) with
  | some v => v.1
  | none => "Unrecognized(" ++ Text.Numeral.ofInt code ++ ")"

end CodeEnum

namespace Scalar

/-- The value of a field without one. -/
def absent : Scalar → Value
  | flag => .flag none
  | unsigned _ => .whole none
  | signed _ => .whole none
  | decimal => .decimal none

/-- Reads the words for truth values. -/
def flagOfText? (s : String) : Option Bool :=
  if s = "true" then some true else if s = "false" then some false else none

/-- Reads a text without blanks around it. -/
def ofText (s : String) : Scalar → Value
  | flag => .flag (flagOfText? s)
  | unsigned bits => .whole ((Text.Numeral.natOfBits? bits s).map fun n ↦ (n : Int))
  | signed bits => .whole (Text.Numeral.intOfBits? bits s)
  | decimal => .decimal (Binary64.parse? s)

/-- Reads a number. -/
def ofNumber (n : JsonNumber) : Scalar → Value
  | flag => .flag none
  | unsigned bits =>
    .whole ((n.toNat?.filter (· ≤ Text.Numeral.maxUnsigned bits)).map fun n ↦ (n : Int))
  | signed bits => .whole (n.toIntOfBits? bits)
  | decimal => .decimal (some n.toBinary64)

/-- Reads a truth value. -/
def ofBool (b : Bool) : Scalar → Value
  | flag => .flag (some b)
  | other => other.absent

/-- Reads a JSON value; what cannot be read is empty. -/
def ofJson (scalar : Scalar) : Json → Value
  | .string s => scalar.ofText (Text.trim s)
  | .number n => scalar.ofNumber n
  | .bool b => scalar.ofBool b
  | _ => scalar.absent

end Scalar

end CloudControl.Schema
