import CloudControl.Auth.Credentials
import CloudControl.Json.Printer
import CloudControl.Profiles.Document

/-!
# Profiles

A profile names an endpoint together with the keys for it. A selection says which profile is in
use and which one was before. Both are kept as JSON documents.
-/

namespace CloudControl

/-- An endpoint and the keys for it, under a name. -/
structure Profile where
  name : String
  url : String
  apiKey : String
  secretKey : String
  deriving DecidableEq

namespace Profile

/-- The name of the profile that the environment describes. -/
def environmentName : String := "env"

/-- The fields of the document of a profile. -/
def document : Document :=
  ⟨"Profile", [⟨"name", true⟩, ⟨"url", true⟩, ⟨"apiKey", true⟩, ⟨"secretKey", true⟩]⟩

/-- The profile as JSON. -/
def encode (p : Profile) : Json :=
  .object [("name", .string p.name), ("url", .string p.url), ("apiKey", .string p.apiKey),
    ("secretKey", .string p.secretKey)]

/-- The text of the document of a profile. -/
def text (p : Profile) : String :=
  p.encode.pretty

/-- The profile in a document. -/
def ofTexts (texts : DocumentTexts) : Profile :=
  let field (name : String) : String := (texts.get? name).getD ""
  ⟨field "name", field "url", field "apiKey", field "secretKey"⟩

/-- Reads the document of a profile. -/
def read (text : String) : Except DocumentError Profile :=
  (document.read text).map ofTexts

/-- What signs the requests of a profile. -/
def credentials (p : Profile) : Auth.Credentials :=
  .signed (.ofKeys p.apiKey p.secretKey)

/-- A secret as it may be shown: its last four characters, if there are more. -/
def masked (secret : String) : String :=
  let cs := secret.toList
  "****" ++ (if cs.length ≤ 4 then "" else String.ofList (cs.drop (cs.length - 4)))

end Profile

/-- Which profile is in use, and which one was before. -/
structure Selection where
  current : Option String
  previous : Option String
  deriving DecidableEq

namespace Selection

/-- Nothing is selected. -/
def empty : Selection := ⟨none, none⟩

/-- The fields of the document of a selection. -/
def document : Document :=
  ⟨"Config", [⟨"profile", false⟩, ⟨"oldProfile", false⟩]⟩

/-- The selection as JSON; what is not selected is left out. -/
def encode (s : Selection) : Json :=
  .object ((s.current.map fun name ↦ ("profile", Json.string name)).toList ++
    (s.previous.map fun name ↦ ("oldProfile", Json.string name)).toList)

/-- The text of the document of a selection. -/
def text (s : Selection) : String :=
  s.encode.pretty

/-- Reads the document of a selection. -/
def read (text : String) : Except DocumentError Selection :=
  (document.read text).map fun texts ↦ ⟨texts.get? "profile", texts.get? "oldProfile"⟩

/-- Selects a profile; the one in use becomes the previous one. -/
def select (s : Selection) (name : String) : Selection :=
  ⟨some name, s.current⟩

/-- Stops using the current profile. -/
def clear (s : Selection) : Selection :=
  { s with current := none }

end Selection

end CloudControl
