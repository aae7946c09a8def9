import CloudControl.Client.Basic
import CloudControl.Schema.Accounts

/-!
# Sessions

A login sends a name and the digest of a password without credentials. The reply holds the
session key, and a header the session cookie; together they are credentials for later requests.
-/

namespace CloudControl

open Schema

/-- What a login is answered with. -/
structure OpenSession where
  login : Record
  sessionId : Option String

namespace OpenSession

/-- The key of a session. -/
def sessionKey (s : OpenSession) : String :=
  (s.login.text? "sessionkey").getD ""

/-- The credentials for later requests. -/
def credentials (s : OpenSession) : Auth.Credentials :=
  .session ⟨s.sessionKey, s.sessionId⟩

end OpenSession

namespace Client

variable {σ : Type}

/-- The parameters of a login. -/
def loginParams (l : Auth.Login) : Params :=
  Command.login.baseParams.setAll [
    ("username", l.username), ("password", l.hashedPassword), ("domain", l.domain)]

/-- The session cookie among the cookies that a server sets. -/
def sessionIdOf? (setCookies : List String) : Option String :=
  (setCookies.filter Auth.isReadableHeader).findSome? Auth.sessionIdOfSetCookie?

/-- Opens a session. -/
def login (link : Link σ) (c : Client) (l : Auth.Login) : Action σ OpenSession := do
  let command := Command.login
  let (setCookies, reply) ←
    c.sendPairs link command.name command.verb (loginParams l).entries none
  let v ← lift (Envelope.decode command.name Schema.Kind.loginResponse.decode reply)
  return ⟨v.fields, sessionIdOf? setCookies⟩

/-- Closes the session of the client. -/
def logout (link : Link σ) (c : Client) : Action σ Unit :=
  c.unit link .logout ∅

end Client

end CloudControl
