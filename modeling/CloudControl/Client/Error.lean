import CloudControl.Auth.Error
import CloudControl.Calendar.Span
import CloudControl.Catalog.Command
import CloudControl.Job
import CloudControl.Text.Search
import CloudControl.Url.Basic

/-!
# Errors of requests

What can keep a request from its result. The server reports errors with a status and a text,
from which `classify` tells what they mean. A command names a fallback, and `Fallback.applies`
says which errors its result stands in for. Where a value is beyond what the program can hold there
is no error to return: the program stops (`ClientError.stopped`).
-/

namespace CloudControl

/-- What an error that the server reports means to the caller. -/
inductive ErrorKind where
  | unauthorized
  | forbidden
  | notFound
  | invalidArgument
  | rateLimited
  | insufficientResources
  | illegalState
  | server
  deriving DecidableEq

/-- The name of a kind. -/
def ErrorKind.name : ErrorKind → String
  | unauthorized => "unauthorized"
  | forbidden => "forbidden"
  | notFound => "not found"
  | invalidArgument => "invalid argument"
  | rateLimited => "rate limited"
  | insufficientResources => "insufficient resources"
  | illegalState => "illegal state"
  | server => "server error"

/-- The text says that something does not exist. -/
def saysMissing (text : String) : Bool :=
  let lower := Text.lowercase text
  Text.holds lower "does not exist" || Text.holds lower "not found"

/-- The text says that a limit has been reached. -/
def saysLimited (text : String) : Bool :=
  Text.holds (Text.lowercase text) "maximum number of resources"

/-- What an error of a status with a text means. A missing entity may be reported as a conflict or
a bad parameter, and a limit as a failure to allocate; the text tells. -/
def classify (status : Nat) (text : String) : ErrorKind :=
  if status = 401 ∨ status = 432 ∨ status = 531 then .unauthorized
  else if status = 403 then .forbidden
  else if status = 404 then .notFound
  else if (status = 409 ∨ status = 431) ∧ saysMissing text then .notFound
  else if status = 400 ∨ status = 405 ∨ status = 430 ∨ status = 431 then .invalidArgument
  else if status = 429 ∨ status = 436 then .rateLimited
  else if status = 534 ∧ saysLimited text then .insufficientResources
  else if status = 532 ∨ status = 533 then .insufficientResources
  else if 530 ≤ status ∧ status ≤ 537 then .illegalState
  else if 400 ≤ status ∧ status ≤ 499 then .illegalState
  else .server

/-- An error that the server reports. -/
structure ApiError where
  command : String
  /-- The status of the reply, or the code in a reply that claims success. -/
  status : Nat
  errorCode : Option Int
  csErrorCode : Option Int
  text : String
  kind : ErrorKind
  deriving DecidableEq

/-- The wording of an error that the server reports. -/
def ApiError.message (e : ApiError) : String :=
  e.command ++ " failed (" ++ e.kind.name ++ ", HTTP " ++ Text.Numeral.ofNat e.status ++ "): " ++
    e.text

/-- What is wrong with a reply that reports no error. -/
inductive UnexpectedReply where
  /-- The reply is not wrapped as expected. -/
  | noEnvelope (key : String)
  /-- The result is not in the reply. -/
  | noResult (key : String)
  /-- A job has a status without meaning. -/
  | unknownJobStatus (job : String) (code : Int)
  /-- A job succeeded without a result. -/
  | noJobResult (job : String)
  deriving DecidableEq

/-- The wording of what is wrong with a reply. -/
def UnexpectedReply.message : UnexpectedReply → String
  | noEnvelope key => "no `" ++ key ++ "` object in response"
  | noResult key => "missing `" ++ key ++ "`"
  | unknownJobStatus job code => "job " ++ job ++ " has unknown status " ++ Text.Numeral.ofInt code
  | noJobResult job => "job " ++ job ++ " finished without a result"

/-- Why a request did not reach the server, or its reply did not come back. -/
inductive TransportError where
  /-- The address is none of the web. -/
  | notWeb (url : Url)
  /-- A header cannot be sent. -/
  | malformedHeader
  /-- The server cannot be reached. -/
  | unreachable (url : Url)
  deriving DecidableEq

/-- The wording of a failure of transport. -/
def TransportError.message : TransportError → String
  | notWeb url => "builder error for url (" ++ url.withoutUser.text ++ ")"
  | malformedHeader => "builder error"
  | unreachable url => "error sending request for url (" ++ url.withoutUser.text ++ ")"

/-- What is wrong with the body of a reply. -/
inductive BodyError where
  /-- The body is not JSON. -/
  | notJson
  /-- The body is JSON, and not what was expected. -/
  | decode (cause : Schema.DecodeError)

/-- The wording of what is wrong with a body. -/
def BodyError.message : BodyError → String
  | notJson => "invalid JSON"
  | decode cause => cause.message

/-- A value that is beyond what the program can hold. -/
inductive Overflow where
  /-- A length of time is longer than the longest. -/
  | length
  /-- The date of an expiry is out of reach. -/
  | date
  deriving DecidableEq

/-- The wording of what is beyond the program. -/
def Overflow.message : Overflow → String
  | length => "overflow when adding durations"
  | date => "`DateTime + TimeDelta` overflowed"

/-- What keeps a request from its result. -/
inductive ClientError where
  | invalidEndpoint (endpoint : String) (cause : UrlError)
  | transport (cause : TransportError)
  | api (error : ApiError)
  | decode (command : String) (cause : BodyError)
  | unexpectedReply (command : String) (cause : UnexpectedReply)
  | auth (cause : AuthError)
  | missingCredentials (command : String)
  | invalidPageSize
  | jobNotFound (job : String)
  | jobFailed (job : String) (error : JobError)
  /-- A job is still pending after a number of nanoseconds. -/
  | jobTimeout (job : String) (waited : Nat)
  /-- The program stops, and returns nothing. -/
  | stopped (cause : Overflow)

namespace ClientError

/-- The wording of an error. -/
def message : ClientError → String
  | invalidEndpoint endpoint cause => "invalid endpoint " ++ endpoint ++ ": " ++ cause.message
  | transport cause => "HTTP request failed: " ++ cause.message
  | api error => error.message
  | decode command cause => "failed to decode " ++ command ++ " response: " ++ cause.message
  | unexpectedReply command cause => "unexpected " ++ command ++ " response: " ++ cause.message
  | auth cause => "authentication failed: " ++ cause.message
  | missingCredentials command => command ++ " requires credentials"
  | invalidPageSize => "page size must be at least 1"
  | jobNotFound job => "async job " ++ job ++ " not found"
  | jobFailed job error => "async job " ++ job ++ " failed: " ++ error.message
  | jobTimeout job waited => "async job " ++ job ++ " still pending after " ++ Span.text waited
  | stopped cause => cause.message

/-- What an error means, where that is known. -/
def kind? : ClientError → Option ErrorKind
  | api error => some error.kind
  | jobNotFound _ => some .notFound
  | _ => none

/-- The status of an error that the server reports. -/
def status? : ClientError → Option Nat
  | api error => some error.status
  | _ => none

/-- What was asked for does not exist. -/
def isNotFound (e : ClientError) : Bool :=
  e.kind? == some .notFound

end ClientError

namespace Fallback

/-- The fallback stands in for the result that an error keeps back. -/
def applies (f : Fallback) (e : ClientError) : Bool :=
  match f with
  | propagate => false
  | emptyWhenNotFound => e.isNotFound
  | noneWhenNotFound => e.isNotFound
  | unitWhenNotFound => e.isNotFound
  | noneWhenUnavailable =>
    e.isNotFound || e.status? == some 403 || e.status? == some 404 || e.status? == some 500

/-- Every fallback. -/
def all : List Fallback :=
  [propagate, emptyWhenNotFound, noneWhenNotFound, unitWhenNotFound, noneWhenUnavailable]

end Fallback

end CloudControl
