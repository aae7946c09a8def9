import CloudControl.Auth.Signer
import CloudControl.Digest.Md5

/-!
# Credentials

Requests are authenticated by a signature or by a session. A session is opened by a login,
which sends the digest of the password, and is carried by a session key and a cookie.
-/

namespace CloudControl.Auth

/-- The name of the session cookie. -/
def sessionCookie : String := "JSESSIONID"

/-- A session key, and the session cookie when the server set one. -/
structure Session where
  sessionKey : String
  sessionId : Option String
  deriving DecidableEq

/-- The value of the `Cookie` header of a session. -/
def Session.cookieHeader (s : Session) : Option String :=
  s.sessionId.map fun id ↦ sessionCookie ++ "=" ++ id

/-- How requests are authenticated. -/
inductive Credentials where
  /-- Each request is signed. -/
  | signed (signer : Signer)
  /-- Each request presents a session. -/
  | session (session : Session)
  deriving DecidableEq

/-- The credentials can be added to a request that is made now. -/
def Credentials.areUsable (now : Instant) : Credentials → Bool
  | signed signer => signer.canSign now
  | session _ => true

/-- The digest that stands for a password. -/
def hashPassword (password : String) : String :=
  Text.Hex.encode (Digest.Md5.digest (Text.Utf8.encode password))

/-- What a login presents. -/
structure Login where
  username : String
  password : String
  domain : String
  deriving DecidableEq

namespace Login

/-- The domain of a login that names none. -/
def rootDomain : String := "/"

/-- A login in the root domain. -/
def ofPassword (username password : String) : Login := ⟨username, password, rootDomain⟩

/-- The digest of the password. -/
def hashedPassword (l : Login) : String :=
  hashPassword l.password

end Login

/-- The text of a header can be read. -/
def isReadableHeader (header : String) : Bool :=
  header.toList.all fun c ↦ c == '\t' || (0x20 ≤ c.toNat && c.toNat < 0x7F)

/-- The value of the session cookie, if the part of a header is one. -/
def sessionIdOfPart? (part : List Char) : Option String :=
  let expected := sessionCookie.toList ++ ['=']
  if expected.isPrefixOf part then some (String.ofList (part.drop expected.length))
  else none

/-- The value of the session cookie in a `Set-Cookie` header. -/
def sessionIdOfSetCookie? (header : String) : Option String :=
  (header.toList.splitOn ';').findSome? fun part ↦ sessionIdOfPart? (Text.trimList part)

end CloudControl.Auth
