import CloudControl.Json.Pass
import CloudControl.Schema.Decode

/-!
# Settings documents

A settings document is a JSON object whose fields hold texts, or an array of the texts in the order
of the fields. It is read from its start, and the first thing that is wrong is reported: a field
that is given twice as soon as its name comes again, a value of another type as soon as it starts,
and a missing field at the closing brace. Members that are no fields are passed over.
-/

namespace CloudControl

open Schema (DecodeError Expected)

/-- Why a document could not be read. -/
inductive DocumentError where
  /-- The text is not JSON. -/
  | notJson
  /-- A field is given twice. -/
  | repeated (field : String)
  /-- A field is missing or of another type. -/
  | decode (cause : DecodeError)

/-- The wording of what is wrong with a document. -/
def DocumentError.message : DocumentError → String
  | notJson => "invalid JSON"
  | repeated field => "duplicate field `" ++ field ++ "`"
  | decode cause => cause.message

/-- A field of a document, which holds a text. -/
structure DocumentField where
  name : String
  /-- The field must be there; it may be null otherwise. -/
  isRequired : Bool

/-- The name and the fields of a document. -/
structure Document where
  name : String
  fields : List DocumentField

/-- The texts of the fields of a document, where they have one. -/
abbrev DocumentTexts := List (String × Option String)

namespace Document

/-- Takes something off a text that must be JSON. -/
def require {α : Type} : Option α → Except DocumentError α
  | some a => .ok a
  | none => .error .notJson

/-- The error of a value at the front of a text that is of another type. A container is of that
type whatever it holds. -/
def refuse {α : Type} (expected : Expected) (cs : List Char) : Except DocumentError α :=
  match Json.skip cs with
  | '[' :: _ => .error (.decode (.wrongType (.array []) expected))
  | '\x7b' :: _ => .error (.decode (.wrongType (.object []) expected))
  | cs => do
    let (j, _) ← require (Json.takeValue 1 0 cs)
    .error (.decode (.wrongType j expected))

/-- Reads the text of a field. -/
def readText (f : DocumentField) (cs : List Char) :
    Except DocumentError (Option String × List Char) :=
  match Json.skip cs with
  | '"' :: rest => do
    let (s, rest) ← require (Json.takeString rest)
    .ok (some s, rest)
  | 'n' :: rest => do
    if f.isRequired then refuse .text cs
    let (_, rest) ← require (Json.takeWord ['u', 'l', 'l'] .null rest)
    .ok (none, rest)
  | cs => refuse .text cs

/-- Drops the colon behind the name of a member. -/
def dropColon (cs : List Char) : Except DocumentError (List Char) :=
  match Json.skip cs with
  | ':' :: rest => .ok rest
  | _ => .error .notJson

/-- Reads the value of the member with a name, after the texts that were read before it. -/
def readMember (d : Document) (texts : DocumentTexts) (name : String) (cs : List Char) :
    Except DocumentError (DocumentTexts × List Char) :=
  match d.fields.find? (·.name == name) with
  | none => do
    let rest ← require (Json.passValue? (← dropColon cs))
    .ok (texts, rest)
  | some f => do
    if texts.any (·.1 == name) then .error (.repeated name)
    let (text, rest) ← readText f (← dropColon cs)
    .ok (texts ++ [(name, text)], rest)

/-- Reads members up to the closing brace. -/
def readMembers (d : Document) (fuel : Nat) (texts : DocumentTexts) (cs : List Char) :
    Except DocumentError (DocumentTexts × List Char) :=
  match fuel with
  | 0 => .error .notJson
  | fuel + 1 =>
    match Json.skip cs with
    | '"' :: rest => do
      let (name, rest) ← require (Json.takeString rest)
      let (texts, rest) ← d.readMember texts name rest
      match Json.skip rest with
      | '\x7d' :: rest => .ok (texts, rest)
      | ',' :: rest => d.readMembers fuel texts rest
      | _ => .error .notJson
    | _ => .error .notJson

/-- Checks that no field is missing. -/
def checkComplete (d : Document) (texts : DocumentTexts) : Except DocumentError Unit :=
  match d.fields.find? fun f ↦ f.isRequired && !texts.any (·.1 == f.name) with
  | some f => .error (.decode (.missingField f.name))
  | none => .ok ()

/-- Reads an object after its opening brace. -/
def readObject (d : Document) (cs : List Char) :
    Except DocumentError (DocumentTexts × List Char) := do
  let (texts, rest) ← match Json.skip cs with
    | '\x7d' :: rest => .ok ([], rest)
    | cs => d.readMembers cs.length [] cs
  d.checkComplete texts
  .ok (texts, rest)

/-- Reads the items that stand for fields, after `count` others, and the closing bracket. -/
def readItems (d : Document) (count : Nat) (texts : DocumentTexts) :
    List DocumentField → List Char → Except DocumentError (DocumentTexts × List Char)
  | [], cs =>
    match Json.skip cs with
    | ']' :: rest => .ok (texts, rest)
    | _ => .error .notJson
  | f :: fields, cs => do
    let cs ← match Json.skip cs with
      | ']' :: _ =>
        .error (.decode (.wrongLength count (.elements d.name d.fields.length)))
      | ',' :: rest =>
        if count = 0 || (Json.skip rest).head? == some ']' then .error .notJson else .ok rest
      | cs => if count = 0 then .ok cs else .error .notJson
    let (text, rest) ← readText f cs
    d.readItems (count + 1) (texts ++ [(f.name, text)]) fields rest

/-- Reads a text as a document. -/
def read (d : Document) (text : String) : Except DocumentError DocumentTexts := do
  let (texts, rest) ← match Json.skip text.toList with
    | '\x7b' :: rest => d.readObject rest
    | '[' :: rest => d.readItems 0 [] d.fields rest
    | cs => refuse (.record d.name) cs
  if (Json.skip rest).isEmpty then .ok texts else .error .notJson

end Document

/-- The text of a field. -/
def DocumentTexts.get? (texts : DocumentTexts) (name : String) : Option String :=
  (texts.lookup name).join

end CloudControl
