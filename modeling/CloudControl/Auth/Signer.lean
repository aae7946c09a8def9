import CloudControl.Auth.Canonical
import CloudControl.Auth.Error
import CloudControl.Calendar.Reader
import CloudControl.Digest.Hmac
import CloudControl.Text.Base64

/-!
# Signing and verifying

A signer drops the signatures and API keys of its caller, adds its own API key, and signs the
result. A signer with a time to live also replaces the parameters that say how the signature
expires, which must be on a date within reach (`Signer.canSign`). `verify` recomputes the
signature from the parameters of a request; when the parameters announce an expiry, the request
is refused once it has passed.
-/

namespace CloudControl.Auth

/-- The parameter that carries the API key. -/
def apiKeyParam : String := "apiKey"

/-- The parameter that carries the version of the signature. -/
def versionParam : String := "signatureVersion"

/-- The parameter that carries the expiry. -/
def expiresParam : String := "expires"

/-- The version of signatures that expire. -/
def expiringVersion : String := "3"

/-- The keyed digest of a canonical string. -/
def macOf (secret canonical : String) : List UInt8 :=
  Digest.Hmac.sha1 (Text.Utf8.encode secret) (Text.Utf8.encode canonical)

/-- The signature of a canonical string. -/
def signatureOf (secret canonical : String) : String :=
  Text.Base64.encode (macOf secret canonical)

/-- An API key with its secret, and the span of time for which signatures are valid. -/
structure Signer where
  apiKey : String
  secret : String
  timeToLive : Option Duration
  deriving DecidableEq

/-- Drops the parameters with a name, in any letter case. -/
def without (name : String) (params : List Param) : List Param :=
  params.filter (!isNamed name ·)

namespace Signer

/-- The signer without expiry. -/
def ofKeys (apiKey secret : String) : Signer := ⟨apiKey, secret, none⟩

/-- A signature made now expires on a date within reach, if it expires. There is none otherwise. -/
def canSign (s : Signer) (now : Instant) : Bool :=
  s.timeToLive.all fun ttl ↦ (now.add ttl).isSupported

/-- The text of the instant at which a signature made now expires, where that is within reach. -/
def expiryText (now : Instant) (ttl : Duration) : String :=
  (now.add ttl).toTimestamp.text

/-- Replaces the parameters that say how the signature expires. -/
def withExpiry (expires : String) (params : List Param) : List Param :=
  without expiresParam (without versionParam params) ++
    [(versionParam, expiringVersion), (expiresParam, expires)]

/-- The parameters of a request with the API key of the signer, and without a signature. -/
def own (s : Signer) (params : List Param) : List Param :=
  without apiKeyParam (without signatureParam params) ++ [(apiKeyParam, s.apiKey)]

/-- The parameters of a request up to its signature. -/
def prepare (s : Signer) (now : Instant) (params : List Param) : List Param :=
  match s.timeToLive with
  | none => s.own params
  | some ttl => withExpiry (expiryText now ttl) (s.own params)

/-- The parameters of a signed request, where the signer can sign; the signature is the last of
them. -/
def sign (s : Signer) (now : Instant) (params : List Param) : List Param :=
  let prepared := s.prepare now params
  prepared ++ [(signatureParam, signatureOf s.secret (canonicalString prepared))]

end Signer

/-- Refuses a request that announces an expiry and is past it, or does not say when it is. -/
def checkExpiry (params : List Param) (now : Instant) : Except AuthError Unit :=
  if lookup? versionParam params = some expiringVersion then
    match lookup? expiresParam params with
    | none => .error .missingExpiry
    | some expires =>
      match Timestamp.ofText? expires with
      | none => .error (.malformedExpiry expires)
      | some deadline => if now.after deadline.instant then .error (.expired expires) else .ok ()
  else .ok ()

/-- Compares a provided signature with the one of the parameters. -/
def checkSignature (params : List Param) (secret provided : String) : Except AuthError Unit :=
  match Text.Base64.decode provided with
  | none => .error .malformedSignature
  | some mac =>
    if mac = macOf secret (canonicalString params) then .ok () else .error .signatureMismatch

/-- Accepts a request whose signature is the one of its parameters and has not expired. -/
def verify (params : List Param) (secret : String) (now : Instant) : Except AuthError Unit := do
  match lookup? signatureParam params with
  | none => .error .missingSignature
  | some provided =>
    checkExpiry params now
    checkSignature params secret provided

end CloudControl.Auth
