import CloudControl.Client.Error
import CloudControl.Json.Reader

/-!
# Replies

The server wraps every reply in an object with one member named after the command. `unwrap` takes
the reply out, or the error that it reports: by its status, or by an error code in a reply that
claims success. `selectedItems` picks the result out of a reply.
-/

namespace CloudControl.Envelope

/-- The ending of the names that replies are wrapped under. -/
def keyEnding : String := "response"

/-- The reply within a body: the member named after the command, or else the only member if its
name ends like that of a reply. -/
def find? (command : String) (body : Json) : Option Json :=
  match body with
  | .object members =>
    match members.lookup (responseKey command) with
    | some inner => some inner
    | none =>
      match members with
      | [(key, inner)] => if Text.endsIn key keyEnding then some inner else none
      | _ => none
  | _ => none

/-- Reads a code of 32 bits, which may arrive as text. -/
def code? : Json → Option Int
  | .number n => n.toIntOfBits? 32
  | .string s => Text.Numeral.intOfBits? 32 (Text.trim s)
  | _ => none

/-- The member of a reply that holds its error code. -/
def errorCodeKey : String := "errorcode"

/-- The member of a reply that holds the code of the error within the server. -/
def csErrorCodeKey : String := "cserrorcode"

/-- The member of a reply that holds the text of its error. -/
def errorTextKey : String := "errortext"

/-- The longest text that is taken from a body in place of the text of an error. -/
def maxSnippet : Nat := 512

/-- The status says that a request succeeded. -/
def isSuccess (status : Nat) : Bool :=
  200 ≤ status && status < 300

/-- The status of an error: that of the reply, unless the reply claims success and its error code
is a status. -/
def errorStatus (status : Nat) (errorCode : Option Int) : Nat :=
  match errorCode with
  | some code => if isSuccess status && 0 ≤ code && code < 65536 then code.toNat else status
  | none => status

/-- The text of an error: that of the reply, or else the start of the body. -/
def errorText (inner : Option Json) (body : String) : String :=
  ((inner.bind (·.get? errorTextKey)).bind Json.string?).getD (Text.firstChars maxSnippet body)

/-- The error that a reply to a command reports. -/
def apiError (command : String) (status : Nat) (inner : Option Json) (body : String) : ApiError :=
  let errorCode := (inner.bind (·.get? errorCodeKey)).bind code?
  let status := errorStatus status errorCode
  let text := errorText inner body
  ⟨command, status, errorCode, (inner.bind (·.get? csErrorCodeKey)).bind code?, text,
    classify status text⟩

/-- Takes the reply to a command out of a body. -/
def unwrap (command : String) (status : Nat) (body : String) : Except ClientError Json :=
  match Json.parse? body with
  | none =>
    if isSuccess status then .error (.decode command .notJson)
    else .error (.api (apiError command status none body))
  | some parsed =>
    let inner := find? command parsed
    let errorCode := (inner.bind (·.get? errorCodeKey)).bind code?
    if !isSuccess status || errorCode.isSome then
      .error (.api (apiError command status inner body))
    else
      match inner with
      | some reply => .ok reply
      | none => .error (.unexpectedReply command (.noEnvelope (responseKey command)))

/-- The items of a result: those of an array, or the result itself, or none when it is absent or
null. -/
def itemsOf : Option Json → List Json
  | some (.array items) => items
  | some .null => []
  | some other => [other]
  | none => []

/-- The items of the result of a command within a reply. -/
def selectedItems (c : Command) (reply : Json) : List Json :=
  match c.select with
  | some key => itemsOf (reply.get? key)
  | none => itemsOf (some reply)

/-- The number of items that a reply reports. -/
def reportedCount (reply : Json) : Option Nat :=
  match reply.get? "count" with
  | some (.number n) => n.toNat?
  | some (.string s) => Text.Numeral.natOfBits? 64 (Text.trim s)
  | _ => none

/-- Reads an item of a reply to a command. -/
def decode {α : Type} (command : String) (read : Schema.Reader α) (item : Json) :
    Except ClientError α :=
  match read item with
  | .ok v => .ok v
  | .error e => .error (.decode command (.decode e))

end CloudControl.Envelope
