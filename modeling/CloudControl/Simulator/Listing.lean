import CloudControl.Auth.Signer
import CloudControl.Json.Printer
import CloudControl.Simulator.Fixtures

/-!
# Listing

A listing command selects items of its fixture. A parameter selects the items whose field of its
name has its value, if any item has such a field; a keyword selects by name. The number of items
that are selected is reported, and of these one page is shown.
-/

namespace CloudControl.Simulator

/-- Parameters that do not select items. -/
def reservedParams : List String := [
  "command", "response", "apiKey", "signature", "signatureVersion", "expires", "sessionkey",
  "page", "pagesize", "listall", "keyword", "isrecursive", "templatefilter", "details",
  "startdate", "enddate"]

/-- The parameter does not select items. -/
def isReserved (name : String) : Bool :=
  reservedParams.any fun r ↦ Text.eqFolded r name

/-- The text of a field. -/
def fieldText : Json → String
  | .string s => s
  | other => other.compact

/-- The item has a field of a name. -/
def hasField (name : String) (item : Json) : Bool :=
  (item.get? name).isSome

/-- The field of an item has a value, in any letter case. -/
def fieldIs (name value : String) (item : Json) : Bool :=
  match item.get? name with
  | some field => Text.eqFolded (fieldText field) value
  | none => false

/-- The parameters that select among items, with their names in small letters. -/
def filters (items : List Json) (params : List Param) : List Param :=
  (params.map fun p ↦ (Text.lowercase p.1, p.2)).filter fun p ↦
    !isReserved p.1 && items.any (hasField p.1)

/-- The name of an item holds a keyword, in any letter case. -/
def nameHolds (keyword : String) (item : Json) : Bool :=
  match item.get? "name" with
  | some name => Text.holds (Text.lowercase (fieldText name)) (Text.lowercase keyword)
  | none => false

/-- The items that the parameters select. -/
def selectItems (items : List Json) (params : List Param) : List Json :=
  let selected := items.filter fun item ↦
    (filters items params).all fun p ↦ fieldIs p.1 p.2 item
  match Auth.lookup? "keyword" params with
  | some keyword => selected.filter (nameHolds keyword)
  | none => selected

/-- A whole number of a parameter. -/
def wholeParam? (name : String) (params : List Param) : Option Nat :=
  (Auth.lookup? name params).bind (Text.Numeral.natOfBits? 64)

/-- The number of the page that is asked for. -/
def pageNumber (params : List Param) : Nat :=
  max 1 ((wholeParam? "page" params).getD 1)

/-- The position of the first item of a page. A position of more than 64 bits is beyond all items,
and the greatest one of 64 bits stands in for it. -/
def pageStart (number size : Nat) : Nat :=
  min ((number - 1) * size) (Text.Numeral.maxUnsigned 64)

/-- The page that the parameters ask for, or all items when they set no size. -/
def pageOf {α : Type} (items : List α) (params : List Param) : List α :=
  match wholeParam? "pagesize" params with
  | some size =>
    if 0 < size then (items.drop (pageStart (pageNumber params) size)).take size else items
  | none => items

/-- The wording for an identifier that nothing has. -/
def missingEntity (command id : String) : String :=
  "Unable to execute API command " ++ command ++
    " due to invalid value. Object with specified id " ++ id ++ " does not exist"

/-- What a listing command is answered with. -/
inductive ListingAnswer where
  /-- The content of a reply. -/
  | content (reply : Json)
  /-- An identifier that nothing has. -/
  | unknownId (id : String)

/-- The content that reports a number of items and shows some of them. -/
def listingContent (key : String) (total : Nat) (page : List Json) : Json :=
  .ofMembers (("count", .ofNat total) :: if page.isEmpty then [] else [(key, .array page)])

/-- Answers a listing command from its fixture. -/
def answerListing (command : String) (fixture : Json) (params : List Param) : ListingAnswer :=
  match listItems? command fixture with
  | none => .content fixture
  | some (key, items) =>
    let selected := selectItems items params
    if selected.isEmpty then
      match Auth.lookup? "id" params with
      | some id => .unknownId id
      | none => .content (.object [])
    else .content (listingContent key selected.length (pageOf selected params))

end CloudControl.Simulator
