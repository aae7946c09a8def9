import CloudControl.Auth.Credentials
import CloudControl.Catalog.Groups
import CloudControl.Client.Envelope
import CloudControl.Form
import CloudControl.Options.Builder
import CloudControl.Pagination
import CloudControl.Url.Reader

/-!
# The client

A client has an endpoint and credentials, and turns a command with parameters into one request.
What carries requests is a `Link`, which may change a state of any type, so that a recorded
conversation and a simulated server are both links. `Client.send` makes a request and takes the
reply out of its envelope; the calls after it read results as the command says.
-/

namespace CloudControl

/-- A request as it is sent. -/
structure Request where
  verb : Verb
  url : Url
  body : Option String
  cookie : Option String
  deriving DecidableEq

namespace Request

/-- What the client calls itself. -/
def userAgent : String := "cloudstack-client/0.1.0"

/-- The type of a body in form encoding. -/
def formType : String := "application/x-www-form-urlencoded"

/-- The type of the body, if there is one. -/
def contentType? (r : Request) : Option String :=
  r.body.map fun _ ↦ formType

end Request

/-- A reply as it is received. -/
structure Reply where
  status : Nat
  setCookies : List String
  body : String
  deriving DecidableEq

/-- What carries requests to a server, and tells the time. -/
structure Link (σ : Type) where
  exchange : Request → σ → Except TransportError Reply × σ
  now : σ → Instant

/-- A computation that makes requests over a link with a state. -/
abbrev Action (σ α : Type) := ExceptT ClientError (StateM σ) α

namespace Action

variable {σ α : Type}

/-- The outcome of a computation from a state, and the state after it. -/
def outcome (a : Action σ α) (s : σ) : Except ClientError α × σ :=
  a.run s

/-- The computation that has an outcome. -/
def ofFunction (f : σ → Except ClientError α × σ) : Action σ α :=
  ExceptT.mk f

/-- Stands a value in for the errors that a fallback covers. -/
def recover (f : Fallback) (value : α) (a : Action σ α) : Action σ α :=
  ofFunction fun s ↦
    match a.outcome s with
    | (.error e, s) => (if f.applies e then .ok value else .error e, s)
    | done => done

end Action

/-- An endpoint, and the credentials of every request. -/
structure Client where
  endpoint : Url
  credentials : Option Auth.Credentials

namespace Client

/-- A client for the endpoint at an address. -/
def connect (endpoint : String) (credentials : Option Auth.Credentials) :
    Except ClientError Client :=
  match Url.parse endpoint with
  | .ok url => .ok ⟨url, credentials⟩
  | .error e => .error (.invalidEndpoint endpoint e)

/-- The client for the same endpoint with other credentials. -/
def withCredentials (c : Client) (credentials : Auth.Credentials) : Client :=
  { c with credentials := some credentials }

/-- The parameter that names a session. -/
def sessionKeyParam : String := "sessionkey"

/-- The parameters with the credentials of the client, and the cookie that goes with them. The
program stops over a signature that would expire on no date. -/
def authenticate (c : Client) (now : Instant) (command : String) (params : Params) :
    Except ClientError (List Param × Option String) :=
  match c.credentials with
  | some (.signed signer) =>
    if signer.canSign now then .ok (signer.sign now params.entries, none)
    else .error (.stopped .date)
  | some (.session session) =>
    .ok ((params.set sessionKeyParam session.sessionKey).entries, session.cookieHeader)
  | none => .error (.missingCredentials command)

/-- The request that carries parameters: in the query or in the body. -/
def requestOf (c : Client) (verb : Verb) (pairs : List Param) (cookie : Option String) : Request :=
  let encoded := Form.encodePairs pairs
  match verb with
  | .get => ⟨verb, c.endpoint.withQuery encoded, none, cookie⟩
  | .post => ⟨verb, c.endpoint, some encoded, cookie⟩

/-- The character may stand in a header. -/
def isHeaderChar (c : Char) : Bool :=
  c == '\t' || (0x20 ≤ c.toNat && c.toNat != 0x7F)

/-- Refuses a request that cannot be sent. -/
def checkRequest (r : Request) : Except ClientError Request :=
  if !r.url.isWeb then .error (.transport (.notWeb r.url))
  else if (r.cookie.getD "").toList.all isHeaderChar then .ok r
  else .error (.transport .malformedHeader)

section

variable {σ α : Type}

/-- The computation without requests that has an outcome. -/
def lift (e : Except ClientError α) : Action σ α :=
  ExceptT.mk (pure e)

/-- Sends a request over a link. -/
def deliver (link : Link σ) (r : Request) : Action σ Reply := do
  let r ← lift (checkRequest r)
  Action.ofFunction fun s ↦
    match link.exchange r s with
    | (.ok reply, s) => (.ok reply, s)
    | (.error e, s) => (.error (.transport e), s)

/-- Makes a request with pairs of parameters, and takes the reply out of its envelope. The cookies
that the server sets come with it. -/
def sendPairs (link : Link σ) (c : Client) (command : String) (verb : Verb)
    (pairs : List Param) (cookie : Option String) : Action σ (List String × Json) := do
  let reply ← deliver link (c.requestOf verb pairs cookie)
  let inner ← lift (Envelope.unwrap command reply.status reply.body)
  return (reply.setCookies, inner)

/-- Makes a request with credentials, and takes the reply out of its envelope. -/
def sendParams (link : Link σ) (c : Client) (command : String) (verb : Verb)
    (params : Params) : Action σ Json := do
  let s ← get
  let (pairs, cookie) ← lift (c.authenticate (link.now s) command params)
  let (_, inner) ← c.sendPairs link command verb pairs cookie
  return inner

/-- The parameters of a command: its own, those of the caller in place of them, and last the name
of the command and the format of the reply. -/
def commandParams (c : Command) (params : Params) : Params :=
  ((c.baseParams.merge params).set Command.commandParam c.name).set
    Command.responseParam Command.responseFormat

/-- Makes the request of a command. -/
def send (link : Link σ) (c : Client) (command : Command) (params : Params) : Action σ Json :=
  c.sendParams link command.name command.verb (commandParams command params)

/-- Makes the request of any command, with the verb that the catalogue knows for it. -/
def sendRaw (link : Link σ) (c : Client) (command : String) (params : Params) : Action σ Json :=
  let verb := ((Catalog.lookup? command).map Command.verb).getD .get
  let params := (params.set Command.commandParam command).set
    Command.responseParam Command.responseFormat
  c.sendParams link command verb params

/-- The items of a result, with the number of items that the reply reports. -/
def readPage (command : Command) (read : Schema.Reader α) (reply : Json) :
    Except ClientError (Pagination.Page α) := do
  let items ← (Envelope.selectedItems command reply).mapM (Envelope.decode command.name read)
  return ⟨items, Envelope.reportedCount reply⟩

/-- The first item of a result, if there is one. -/
def readFirst (command : Command) (read : Schema.Reader α) (reply : Json) :
    Except ClientError (Option α) :=
  match Envelope.selectedItems command reply with
  | item :: _ => (Envelope.decode command.name read item).map some
  | [] => .ok none

/-- One page of a list, with the total that the server reports. -/
def fetchPage (link : Link σ) (c : Client) (command : Command) (read : Schema.Reader α)
    (params : Params) : Action σ (Pagination.Page α) :=
  Action.recover command.fallback ⟨[], some 0⟩ do
    lift (readPage command read (← c.send link command params))

/-- The items of a list. -/
def list (link : Link σ) (c : Client) (command : Command) (read : Schema.Reader α)
    (params : Params) : Action σ (List α) := do
  return (← c.fetchPage link command read params).items

/-- The first item of a result. -/
def find (link : Link σ) (c : Client) (command : Command) (read : Schema.Reader α)
    (params : Params) : Action σ (Option α) :=
  Action.recover command.fallback none do
    lift (readFirst command read (← c.send link command params))

/-- The first item of a result, which must be there. -/
def object (link : Link σ) (c : Client) (command : Command) (read : Schema.Reader α)
    (params : Params) : Action σ α := do
  let reply ← c.send link command params
  match ← lift (readFirst command read reply) with
  | some v => return v
  | none =>
    let key := command.select.getD Command.responseParam
    throw (.unexpectedReply command.name (.noResult key))

/-- Makes a request whose result does not matter. -/
def unit (link : Link σ) (c : Client) (command : Command) (params : Params) : Action σ Unit :=
  Action.recover command.fallback () do
    let _ ← c.send link command params

/-- Starts a job; the reply names it. -/
def start (link : Link σ) (c : Client) (command : Command) (params : Params) :
    Action σ Schema.Value := do
  let reply ← c.send link command params
  lift (Envelope.decode command.name Schema.Kind.asyncCreateResponse.decode reply)

/-- Every item of a list, page by page. -/
def listAll (link : Link σ) (c : Client) (command : Command) (read : Schema.Reader α)
    (params : Params) (pageSize : Nat) : Action σ (List α) :=
  Action.ofFunction fun s ↦
    let source : Pagination.Source σ α ClientError := fun s page size ↦
      (c.fetchPage link command read (params.withPage page size)).outcome s
    match Pagination.collect source pageSize s with
    | (.ok items, s) => (.ok items, s)
    | (.error .invalidPageSize, s) => (.error .invalidPageSize, s)
    | (.error (.fetch _ e), s) => (.error e, s)

end

end Client

end CloudControl
