import CloudControl.Number.Shortest
import CloudControl.Schema.Kind
import CloudControl.Text.Quoted

/-!
# Reading and writing wire values

`Kind.decode` reads a JSON value as a kind. Members of an object that are not fields are
passed over. Of several bad fields the one whose name comes first is reported, and a missing
field only when no field is bad. An array stands for a record whose fields are its items, in
the order of their declaration; it may end early, but some fields that an object may leave out
must stand in an array (`Omission`). `Value.encode` writes a value with every field of a record,
null where a field is empty.
-/

namespace CloudControl.Schema

/-- What a reader expected. -/
inductive Expected where
  | text
  | sequence
  | textOrMap
  | unit
  | record (name : String)
  /-- A record written as an array of its fields. -/
  | elements (name : String) (count : Nat)
  /-- An array without items after the last field. -/
  | fewerElements
  deriving DecidableEq

/-- Why a JSON value could not be read. -/
inductive DecodeError where
  /-- The value is of another type. -/
  | wrongType (got : Json) (expected : Expected)
  /-- An object that should name one variant has no member or several. -/
  | notSingleMember
  /-- A field is missing. -/
  | missingField (name : String)
  /-- An array has too few or too many items for a record. -/
  | wrongLength (length : Nat) (expected : Expected)

/-- The wording of what was expected. -/
def Expected.message : Expected → String
  | text => "a string"
  | sequence => "a sequence"
  | textOrMap => "string or map"
  | unit => "unit"
  | record name => "struct " ++ name
  | elements name count =>
    "struct " ++ name ++ " with " ++ Text.Numeral.ofNat count ++
      (if count = 1 then " element" else " elements")
  | fewerElements => "fewer elements in array"

/-- The wording of what was found. -/
def foundMessage : Json → String
  | .null => "null"
  | .bool b => "boolean `" ++ (if b then "true" else "false") ++ "`"
  | .number (.int i) => "integer `" ++ Text.Numeral.ofInt i ++ "`"
  | .number (.float x) => "floating point `" ++ x.jsonText ++ "`"
  | .string s => "string " ++ Text.Quoted.encode s
  | .array _ => "sequence"
  | .object _ => "map"

/-- The wording of an error. -/
def DecodeError.message : DecodeError → String
  | wrongType got expected =>
    "invalid type: " ++ foundMessage got ++ ", expected " ++ expected.message
  | notSingleMember => "invalid value: map, expected map with a single key"
  | missingField name => "missing field `" ++ name ++ "`"
  | wrongLength length expected =>
    "invalid length " ++ Text.Numeral.ofNat length ++ ", expected " ++ expected.message

/-- The value of a field that is missing from an object, where that is allowed. -/
def Kind.absent? : Kind → Option Value
  | text => none
  | optionalText _ => some (.text none)
  | scalar s => some s.absent
  | time => some (.time none)
  | choice _ _ => some (.text none)
  | code _ => none
  | optionalCode _ => some (.code none)
  | raw => some (.raw none)
  | list _ => some (.list [])
  | record _ _ => none

/-- The value of a field that an array ends before, where that is allowed. -/
def Kind.absentElement? : Kind → Option Value
  | optionalText .fromObjects => none
  | choice _ .fromObjects => none
  | k => k.absent?

/-- Reads a time; what cannot be read is empty. -/
def timeOfJson : Json → Value
  | .string s => .time (Timestamp.parse? s)
  | _ => .time none

/-- Reads a text of an enumeration. An object may name a variant with its only member, whose
value is then null. -/
def TextEnum.decode (e : TextEnum) : Json → Except DecodeError Value
  | .null => .ok (.text none)
  | .string s => .ok (.text (some (e.wireOf s)))
  | .object [(name, .null)] => .ok (.text (some (e.wireOf name)))
  | .object [(_, other)] => .error (.wrongType other .unit)
  | .object _ => .error .notSingleMember
  | other => .error (.wrongType other .textOrMap)

/-- Reads a text that must be there. -/
def decodeText : Json → Except DecodeError Value
  | .string s => .ok (.text (some s))
  | other => .error (.wrongType other .text)

/-- The outcome of reading one field of a record. -/
inductive FieldOutcome where
  | read (value : Value)
  | bad (error : DecodeError)
  | missing

/-- The outcome of a field that is not there, with the value that it has then, if any. -/
def FieldOutcome.ofAbsent : Option Value → FieldOutcome
  | some v => read v
  | none => missing

/-- The outcome of a field that is there. -/
def FieldOutcome.ofExcept : Except DecodeError Value → FieldOutcome
  | .ok v => read v
  | .error e => bad e

/-- Of the bad fields the one whose name comes first. -/
def firstBad? : List (String × FieldOutcome) → Option (String × DecodeError)
  | [] => none
  | (name, .bad e) :: rest =>
    match firstBad? rest with
    | some (other, f) => if other < name then some (other, f) else some (name, e)
    | none => some (name, e)
  | _ :: rest => firstBad? rest

/-- The fields that were read, or else the first missing one. -/
def collectRead : List (String × FieldOutcome) → Except DecodeError Record
  | [] => .ok []
  | (name, .read v) :: rest => do
    let fields ← collectRead rest
    .ok ((name, v) :: fields)
  | (name, _) :: _ => .error (.missingField name)

/-- The record of the outcomes of its fields. -/
def assemble (outcomes : List (String × FieldOutcome)) : Except DecodeError Record :=
  match firstBad? outcomes with
  | some (_, e) => .error e
  | none => collectRead outcomes

/-- The record of the outcomes of its elements, the first of which is at a position. The first
bad or missing one is reported. -/
def assembleElements (expected : Expected) :
    Nat → List (String × FieldOutcome) → Except DecodeError Record
  | _, [] => .ok []
  | position, (name, .read v) :: rest => do
    let fields ← assembleElements expected (position + 1) rest
    .ok ((name, v) :: fields)
  | _, (_, .bad e) :: _ => .error e
  | position, (_, .missing) :: _ => .error (.wrongLength position expected)

/-- Refuses an array with more items than there are fields. -/
def checkLength (length count : Nat) (r : Record) : Except DecodeError Record :=
  if length ≤ count then .ok r else .error (.wrongLength length .fewerElements)

mutual

/-- Reads a JSON value as a kind. -/
def Kind.decode : Kind → Json → Except DecodeError Value
  | .text, j => decodeText j
  | .optionalText _, j => if j.isNull then .ok (.text none) else decodeText j
  | .scalar s, j => .ok (s.ofJson j)
  | .time, j => .ok (timeOfJson j)
  | .choice e _, j => e.decode j
  | .code e, j => .ok (.code (some (e.codeOfJson j)))
  | .optionalCode e, j => .ok (.code (if j.isNull then none else some (e.codeOfJson j)))
  | .raw, j => .ok (.raw (if j.isNull then none else some j))
  | .list item, j =>
    match j with
    | .null => .ok (.list [])
    | .array items => (items.mapM item.decode).map .list
    | other => .error (.wrongType other .sequence)
  | .record name fields, j =>
    match j with
    | .object members => (assemble (decodeFields fields members)).map .record
    | .array items =>
      let outcomes := decodeElements fields items
      ((assembleElements (.elements name fields.length) 0 outcomes).bind
        (checkLength items.length fields.length)).map .record
    | other => .error (.wrongType other (.record name))

/-- Reads the fields of a record from the members of an object. -/
def decodeFields : List (String × Kind) → List (String × Json) → List (String × FieldOutcome)
  | [], _ => []
  | (name, k) :: rest, members =>
    let outcome := match members.lookup name with
      | some j => FieldOutcome.ofExcept (k.decode j)
      | none => FieldOutcome.ofAbsent k.absent?
    (name, outcome) :: decodeFields rest members

/-- Reads the fields of a record from the items of an array. -/
def decodeElements : List (String × Kind) → List Json → List (String × FieldOutcome)
  | [], _ => []
  | (name, k) :: rest, [] => (name, .ofAbsent k.absentElement?) :: decodeElements rest []
  | (name, k) :: rest, j :: items => (name, .ofExcept (k.decode j)) :: decodeElements rest items

end

mutual

/-- Writes a value. -/
def Value.encode : Value → Json
  | .text s => Json.ofString? s
  | .flag b => (b.map Json.bool).getD .null
  | .whole i => (i.map Json.ofInt).getD .null
  | .decimal x => (x.map Json.ofBinary64).getD .null
  | .time t => (t.map fun t ↦ Json.string t.text).getD .null
  | .code n => (n.map Json.ofInt).getD .null
  | .raw j => j.getD .null
  | .list items => .array (encodeItems items)
  | .record fields => .object (encodeFields fields)

/-- Writes the items of a list. -/
def encodeItems : List Value → List Json
  | [] => []
  | v :: rest => v.encode :: encodeItems rest

/-- Writes the fields of a record. -/
def encodeFields : List (String × Value) → List (String × Json)
  | [] => []
  | (name, v) :: rest => (name, v.encode) :: encodeFields rest

end

/-- What reads the values of a type from JSON. -/
abbrev Reader (α : Type) := Json → Except DecodeError α

/-- A kind stands for what reads it. -/
instance : Coe Kind (Reader Value) := ⟨Kind.decode⟩

/-- Reads a JSON value as a record. -/
def Kind.decodeRecord (k : Kind) (j : Json) : Except DecodeError Record := do
  match ← k.decode j with
  | .record fields => .ok fields
  | _ => .ok []

end CloudControl.Schema
