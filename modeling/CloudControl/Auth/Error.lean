/-!
# Authentication errors

The ways in which a signed request is refused, with one wording for each.
-/

namespace CloudControl

/-- Why a signed request is refused. -/
inductive AuthError where
  /-- The request carries no signature. -/
  | missingSignature
  /-- The request names an API key that the verifier does not know. -/
  | unknownApiKey (apiKey : String)
  /-- The signature is not the one of the parameters. -/
  | signatureMismatch
  /-- The request says that its signature expires, and not when. -/
  | missingExpiry
  /-- The expiry is not a timestamp. -/
  | malformedExpiry (expires : String)
  /-- The signature has expired. -/
  | expired (expires : String)
  /-- The signature is not written in base 64. -/
  | malformedSignature
  deriving DecidableEq

/-- The wording of an error. -/
def AuthError.message : AuthError → String
  | missingSignature => "Request is not signed"
  | unknownApiKey apiKey => "Unknown API key: " ++ apiKey
  | signatureMismatch => "Signature mismatch"
  | missingExpiry => "Invalid expiry: missing expires parameter"
  | malformedExpiry expires => "Invalid expiry: " ++ expires
  | expired expires => "Signature expired at " ++ expires
  | malformedSignature => "Malformed signature"

end CloudControl
