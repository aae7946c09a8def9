import CloudControl.Auth.Credentials
import CloudControl.Simulator.Listing

/-!
# A simulated management server

The server answers commands from fixtures and checks credentials. `execute` answers one request
and changes two things only: the sessions that are open, by a login or logout, and how often each
job has been asked for. A job reports that it is pending for a set number of times before it
shows its result. `receive` decodes a request as it travels.
-/

namespace CloudControl.Simulator

/-- The account of a server, and how long its jobs stay pending. -/
structure Settings where
  apiKey : String
  secretKey : String
  username : String
  password : String
  pendingPolls : Nat
  deriving DecidableEq

/-- The settings of a server that sets none. -/
def Settings.usual : Settings :=
  ⟨"stub-api-key", "stub-secret-key", "admin", "password", 1⟩

/-- A session key with the session cookie that goes with it. -/
@[ext]
structure Ticket where
  sessionKey : String
  sessionId : String
  deriving DecidableEq

/-- A server: settings, fixtures, and the ticket of each login in turn. -/
structure Server where
  settings : Settings
  fixtures : Fixtures
  ticket : Nat → Ticket

/-- What a server remembers. -/
structure State where
  /-- The session cookie of each session that is open, by its session key. -/
  sessions : List (String × String)
  /-- How often each job has been asked for. -/
  polls : List (String × Nat)
  /-- The number of logins. -/
  logins : Nat
  deriving DecidableEq

/-- The state of a server that has not been used. -/
def State.initial : State := ⟨[], [], 0⟩

namespace State

/-- The session cookie of an open session. -/
def session? (s : State) (key : String) : Option String :=
  s.sessions.lookup key

/-- How often a job has been asked for. -/
def pollsOf (s : State) (job : String) : Nat :=
  (s.polls.lookup job).getD 0

/-- Opens a session. -/
def openSession (s : State) (t : Ticket) : State :=
  { s with sessions := (t.sessionKey, t.sessionId) :: s.sessions, logins := s.logins + 1 }

/-- Closes a session. -/
def closeSession (s : State) (key : String) : State :=
  { s with sessions := s.sessions.filter (·.1 != key) }

/-- Counts that a job has been asked for. -/
def countPoll (s : State) (job : String) : State :=
  { s with polls := (job, s.pollsOf job + 1) :: s.polls.filter (·.1 != job) }

end State

/-- What a server answers: a status, a body, and the cookie that it sets. -/
structure Answer where
  status : Nat
  setCookie : Option String
  body : Json

namespace Answer

/-- The type of every body. -/
def contentType : String := "application/json"

/-- A reply to a command. -/
def reply (command : String) (status : Nat) (content : Json) : Answer :=
  ⟨status, none, .object [(responseKey command, content)]⟩

/-- The code of every error within the server. -/
def csErrorCode : Nat := 9999

/-- The content that reports an error. -/
def errorContent (code : Nat) (text : String) : Json :=
  .ofMembers [("uuidList", .array []), ("errorcode", .ofNat code),
    ("cserrorcode", .ofNat csErrorCode), ("errortext", .string text)]

/-- A reply that reports an error. -/
def error (command : String) (code : Nat) (text : String) : Answer :=
  reply command code (errorContent code text)

end Answer

/-- The status of a request without valid credentials. -/
def unauthorizedStatus : Nat := 401

/-- The status of a request with a parameter that is bad or missing. -/
def parameterStatus : Nat := 431

/-- The status of a command that the server does not know. -/
def unsupportedStatus : Nat := 432

/-- The status of a failed login. -/
def accountStatus : Nat := 531

/-- The parameter that names a session. -/
def sessionKeyParam : String := "sessionkey"

/-- Why a request is not authorised. -/
inductive Refusal where
  | unknownApiKey
  | badSignature (cause : AuthError)
  | noCredentials
  | unknownSession
  | wrongCookie
  deriving DecidableEq

/-- The wording of a refusal. -/
def Refusal.message : Refusal → String
  | unknownApiKey => "unable to verify user credentials: unknown api key"
  | badSignature cause => "unable to verify user credentials: " ++ cause.message
  | noCredentials => "unable to verify user credentials and/or request signature"
  | unknownSession => "session expired or invalid"
  | wrongCookie => "session cookie mismatch"

/-- The value of the first session cookie in cookie headers. -/
def cookie? (headers : List String) : Option String :=
  ((headers.filter Auth.isReadableHeader).flatMap fun h ↦ h.toList.splitOn ';').findSome? fun part ↦
    Auth.sessionIdOfPart? (Text.trimList part)

/-- Checks the signature of a request. -/
def authorizeSigned (settings : Settings) (now : Instant) (params : List Param) :
    Except Refusal Unit :=
  if Auth.lookup? Auth.apiKeyParam params = some settings.apiKey then
    match Auth.verify params settings.secretKey now with
    | .ok () => .ok ()
    | .error e => .error (.badSignature e)
  else .error .unknownApiKey

/-- Checks the session of a request. A cookie must be the one of the session if there is one. -/
def authorizeSession (s : State) (params : List Param) (cookies : List String) :
    Except Refusal Unit :=
  match Auth.lookup? sessionKeyParam params with
  | none => .error .noCredentials
  | some key =>
    match s.session? key with
    | none => .error .unknownSession
    | some sessionId =>
      match cookie? cookies with
      | some sent => if sent = sessionId then .ok () else .error .wrongCookie
      | none => .ok ()

/-- Checks the credentials of a request: its signature if it has one, or else its session. -/
def authorize (settings : Settings) (s : State) (now : Instant) (params : List Param)
    (cookies : List String) : Except Refusal Unit :=
  if (Auth.lookup? Auth.signatureParam params).isSome then authorizeSigned settings now params
  else authorizeSession s params cookies

/-- What a login is answered with. -/
def loginContent (sessionKey username : String) : Json :=
  .ofMembers [("timeout", .string "1800"), ("sessionkey", .string sessionKey),
    ("username", .string username), ("userid", .string "b6d1f8ac-8c2b-4a7e-9b0f-7c3f0f1e0001"),
    ("account", .string "admin"), ("domainid", .string "4f0e8f2a-1c3d-4e5f-8a9b-0c1d2e3f0001"),
    ("type", .string "1"), ("firstname", .string "Admin"), ("lastname", .string "User"),
    ("registered", .string "false")]

/-- The header that sets a session cookie. -/
def sessionHeader (sessionId : String) : String :=
  Auth.sessionCookie ++ "=" ++ sessionId ++ "; Path=/client; HttpOnly"

/-- The text of a parameter, empty when it is missing. -/
def paramText (name : String) (params : List Param) : String :=
  (Auth.lookup? name params).getD ""

/-- The parameters name the account of the server with its password or the digest of it. -/
def acceptsLogin (settings : Settings) (params : List Param) : Bool :=
  let password := paramText "password" params
  paramText "username" params == settings.username &&
    (password == Auth.hashPassword settings.password || password == settings.password)

/-- Answers a login. -/
def login (server : Server) (s : State) (params : List Param) : Answer × State :=
  if acceptsLogin server.settings params then
    let ticket := server.ticket s.logins
    let content := loginContent ticket.sessionKey (paramText "username" params)
    ({ Answer.reply "login" 200 content with setCookie := some (sessionHeader ticket.sessionId) },
      s.openSession ticket)
  else
    (.error "login" accountStatus
      "Failed to authenticate user admin; please provide valid credentials", s)

/-- Answers a logout. -/
def logout (s : State) (params : List Param) : Answer × State :=
  let s := match Auth.lookup? sessionKeyParam params with
    | some key => s.closeSession key
    | none => s
  (.reply "logout" 200 (.object [("description", .string "success")]), s)

/-- The fields that a pending job shows of its fixture. -/
def pendingFields : List String := [
  "jobid", "accountid", "userid", "cmd", "jobinstancetype", "jobinstanceid", "created"]

/-- What a pending job shows. -/
def pendingContent (job : Json) : Json :=
  .ofMembers ((pendingFields.filterMap fun key ↦ (job.get? key).map (key, ·)) ++
    [("jobstatus", .ofNat 0), ("jobprocstatus", .ofNat 0), ("jobresultcode", .ofNat 0)])

/-- The name of the command that asks for a job. -/
def jobCommand : String := "queryasyncjobresult"

/-- Answers a question for a job. -/
def queryJob (server : Server) (s : State) (params : List Param) : Answer × State :=
  match Auth.lookup? "jobid" params with
  | none => (.error jobCommand parameterStatus "missing parameter jobid", s)
  | some id =>
    match server.fixtures.jobs.lookup id with
    | none =>
      (.error jobCommand parameterStatus ("Job with specified id " ++ id ++ " does not exist"), s)
    | some job =>
      let s := s.countPoll id
      let content :=
        if s.pollsOf id ≤ server.settings.pendingPolls then pendingContent job else job
      (.reply jobCommand 200 content, s)

/-- Answers a listing command from its fixture. -/
def listing (name : String) (fixture : Json) (params : List Param) : Answer :=
  match answerListing name fixture params with
  | .content reply => .reply name 200 reply
  | .unknownId id => .error name parameterStatus (missingEntity name id)

/-- Answers any other command from its fixture, unless it names an entity that no list shows. -/
def single (f : Fixtures) (command name : String) (fixture : Json) (params : List Param) :
    Answer :=
  match Auth.lookup? "id" params with
  | some id =>
    if f.entityIds.contains id then .reply name 200 fixture
    else .error name parameterStatus (missingEntity command id)
  | none => .reply name 200 fixture

/-- Answers a command from the fixtures. -/
def answerFixture (f : Fixtures) (command name : String) (params : List Param) : Answer :=
  match f.reply? name with
  | some fixture =>
    if isListing name then listing name fixture params else single f command name fixture params
  | none =>
    .error name unsupportedStatus
      ("The given command:" ++ command ++ " does not exist or it is not available for user")

/-- Answers a command with valid credentials. -/
def dispatch (server : Server) (s : State) (command name : String) (params : List Param) :
    Answer × State :=
  if name = "logout" then logout s params
  else if name = jobCommand then queryJob server s params
  else (answerFixture server.fixtures command name params, s)

/-- Answers the parameters and cookies of a request. -/
def execute (server : Server) (now : Instant) (s : State) (params : List Param)
    (cookies : List String) : Answer × State :=
  match Auth.lookup? Command.commandParam params with
  | none => (.error "api" parameterStatus "missing parameter command", s)
  | some command =>
    let name := Text.lowercase command
    if name = "login" then login server s params
    else
      match authorize server.settings s now params cookies with
      | .error refusal => (.error name unauthorizedStatus refusal.message, s)
      | .ok () => dispatch server s command name params

/-- A request as it travels. -/
structure Incoming where
  query : String
  body : Option String
  cookies : List String
  deriving DecidableEq

/-- The parameters of a request: those of its query, and then those of its body. -/
def Incoming.params (r : Incoming) : List Param :=
  match r.body with
  | some body => Form.parse r.query ++ Form.parse body
  | none => Form.parse r.query

/-- Parameters of which a query may hold only one. -/
def uniqueParams : List String := [Command.commandParam, Command.responseParam]

/-- The first parameter that stands in a query twice and may not. -/
def duplicate? (seen : List String) : List Param → Option String
  | [] => none
  | (name, _) :: rest =>
    if seen.contains name then some name
    else duplicate? (if uniqueParams.contains name then name :: seen else seen) rest

/-- The answer to a query that holds a parameter twice. -/
def duplicateAnswer (name : String) : Answer :=
  ⟨400, none, .object [("message",
    .string ("unable to parse query string: duplicate field `" ++ name ++ "`"))]⟩

/-- Answers a request as it travels. -/
def receive (server : Server) (now : Instant) (s : State) (r : Incoming) : Answer × State :=
  match duplicate? [] (Form.parse r.query) with
  | some name => (duplicateAnswer name, s)
  | none => execute server now s r.params r.cookies

end CloudControl.Simulator
