import CloudControl.Url.Host

/-!
# Addresses

An address in its normal form: the scheme in small letters, the port only when it is not the
usual one of the scheme, the path without dot segments, and every part with the characters that
it does not admit escaped. `Url.text` writes it.
-/

namespace CloudControl

/-- The path of an address. -/
inductive UrlPath where
  /-- Segments, each after a slash. -/
  | segments (parts : List String)
  /-- A text without structure. -/
  | verbatim (text : String)
  deriving DecidableEq

/-- An address in normal form. -/
structure Url where
  scheme : String
  username : String
  password : String
  host : Option Host
  port : Option Nat
  path : UrlPath
  query : Option String
  fragment : Option String
  deriving DecidableEq

namespace UrlPath

/-- The written form of a path. -/
def text : UrlPath → String
  | segments parts => String.join (parts.map ("/" ++ ·))
  | verbatim text => text

/-- The path would be read as a host if it followed the scheme. -/
def looksLikeHost : UrlPath → Bool
  | segments ("" :: _ :: _) => true
  | _ => false

end UrlPath

namespace Url

/-- The usual port of a scheme. -/
def defaultPort? (scheme : String) : Option Nat :=
  match scheme with
  | "http" | "ws" => some 80
  | "https" | "wss" => some 443
  | "ftp" => some 21
  | _ => none

/-- The scheme is one of the web, whose addresses always have a host and a path. -/
def isSpecial (scheme : String) : Bool :=
  (defaultPort? scheme).isSome || scheme == "file"

/-- The written form of a name and a password in front of a host. -/
def userText (u : Url) : String :=
  if u.username.isEmpty && u.password.isEmpty then ""
  else u.username ++ (if u.password.isEmpty then "" else ":" ++ u.password) ++ "@"

/-- The written form of a port. -/
def portText (u : Url) : String :=
  match u.port with
  | some port => ":" ++ String.ofList (Nat.toDigits 10 port)
  | none => ""

/-- The written form of what stands between the scheme and the path. -/
def authorityText (u : Url) : String :=
  match u.host with
  | some host => "//" ++ u.userText ++ String.ofList host.text ++ u.portText
  | none => if u.path.looksLikeHost then "/." else ""

/-- A part after a mark, if there is one. -/
def markedText (mark : String) : Option String → String
  | some s => mark ++ s
  | none => ""

/-- The written form of the path and the query, which a server is asked for. -/
def target (u : Url) : String :=
  u.path.text ++ markedText "?" u.query

/-- The written form of an address. -/
def text (u : Url) : String :=
  u.scheme ++ ":" ++ u.authorityText ++ u.target ++ markedText "#" u.fragment

/-- The address with a query, which must be in form encoding. -/
def withQuery (u : Url) (query : String) : Url :=
  { u with query := some query }

/-- The address without name and password. -/
def withoutUser (u : Url) : Url :=
  { u with username := "", password := "" }

/-- A request can be sent to the address. -/
def isWeb (u : Url) : Bool :=
  u.host.isSome && (u.scheme == "http" || u.scheme == "https")

end Url

end CloudControl
