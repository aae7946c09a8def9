import CloudControl.Url.Basic

/-!
# Reading addresses

`Url.parse` reads an address that stands by itself. Blanks and control characters around it and
tabs and line breaks within it are dropped. Addresses of the web may be written with
backslashes and with any number of slashes in front of the host. A segment `.` stands for
nothing, and a segment `..` takes back the one before, unless that names a drive.
-/

namespace CloudControl.Url

/-! ## Characters -/

/-- The character is a control character, or lies beyond ASCII. -/
def isControl (c : Char) : Bool :=
  c.toNat < 0x20 || 0x7F ≤ c.toNat

/-- The character stands for itself in a fragment. -/
def isFragmentChar (c : Char) : Bool :=
  !(isControl c || " \"<>`".toList.contains c)

/-- The character stands for itself in a path. -/
def isPathChar (c : Char) : Bool :=
  isFragmentChar c && !("#?\x7b\x7d".toList.contains c)

/-- The character stands for itself in a name or password. -/
def isUserChar (c : Char) : Bool :=
  isPathChar c && !("/:;=@[\\]^|".toList.contains c)

/-- The character stands for itself in a query. -/
def isQueryChar (isSpecial : Bool) (c : Char) : Bool :=
  !(isControl c || " \"#<>".toList.contains c || (isSpecial && c == '\''))

/-- The written form of a part of an address. -/
def escape (admits : Char → Bool) (cs : List Char) : String :=
  String.ofList (Text.Percent.encode admits cs)

/-- Drops what is not part of an address. -/
def clean (s : String) : List Char :=
  let isEdge (c : Char) : Bool := c.toNat ≤ 0x20
  (((s.toList.dropWhile isEdge).reverse.dropWhile isEdge).reverse).filter fun c ↦
    c != '\t' && c != '\n' && c != '\r'

/-! ## Scheme -/

/-- The character may stand in a scheme. -/
def isSchemeChar (c : Char) : Bool :=
  Text.isLetter c || Text.isDigit c || c == '+' || c == '-' || c == '.'

/-- The scheme in small letters, and what follows its colon. -/
def splitScheme? (cs : List Char) : Option (String × List Char) :=
  match cs with
  | c :: _ =>
    if Text.isLetter c then
      match cs.dropWhile isSchemeChar with
      | ':' :: rest => some (String.ofList ((cs.takeWhile isSchemeChar).map Char.toLower), rest)
      | _ => none
    else none
  | [] => none

/-! ## Authority -/

/-- The character ends the authority. -/
def endsAuthority (isSpecial : Bool) (c : Char) : Bool :=
  c == '/' || c == '?' || c == '#' || (isSpecial && c == '\\')

/-- Splits a text at its last at sign. -/
def splitLastAt? (cs : List Char) : Option (List Char × List Char) :=
  if cs.contains '@' then
    let reversed := cs.reverse
    some (((reversed.dropWhile (· != '@')).drop 1).reverse, (reversed.takeWhile (· != '@')).reverse)
  else none

/-- The name and the password of a text in front of a host. -/
def parseUser (cs : List Char) : String × String :=
  (escape isUserChar (cs.takeWhile (· != ':')),
    escape isUserChar ((cs.dropWhile (· != ':')).drop 1))

/-- The length of the host at the front of a text: it ends at a colon outside brackets. -/
def hostLength (inBrackets : Bool) : List Char → Nat
  | [] => 0
  | c :: rest =>
    if c == ':' && !inBrackets then 0
    else hostLength (c == '[' || (inBrackets && c != ']')) rest + 1

/-- Reads a port; the usual one of the scheme is left out. -/
def parsePort (scheme : String) (cs : List Char) : Except UrlError (Option Nat) :=
  if !cs.all Text.isDigit then .error .invalidPort
  else
    let port := cs.foldl (fun n c ↦ 10 * n + (c.toNat - 48)) 0
    if 65535 < port then .error .invalidPort
    else if cs.isEmpty || defaultPort? scheme == some port then .ok none
    else .ok (some port)

/-- Reads the host and the port of an authority, and returns what stands behind the port: a
backslash ends it, also where one belongs to the host. -/
def parseHostPort (scheme : String) (cs : List Char) :
    Except UrlError (Host × Option Nat × List Char) := do
  let length := hostLength false cs
  let name := cs.take length
  let rest := cs.drop length
  if name.isEmpty && (isSpecial scheme || !rest.isEmpty) then .error .emptyHost
  let host ← if isSpecial scheme then Host.parse name else Host.parseVerbatim name
  let behind := rest.drop 1
  let port ← parsePort scheme (behind.takeWhile (· != '\\'))
  .ok (host, port, behind.dropWhile (· != '\\'))

/-! ## Path -/

/-- The segment stands for nothing. -/
def isSingleDot (segment : List Char) : Bool :=
  [".", "%2e"].contains (String.ofList (segment.map Char.toLower))

/-- The segment takes back the one before. -/
def isDoubleDot (segment : List Char) : Bool :=
  ["..", "%2e.", ".%2e", "%2e%2e"].contains (String.ofList (segment.map Char.toLower))

/-- The segment names a drive: a letter, and a colon or a bar. -/
def isDrive (segment : String) : Bool :=
  match segment.toList with
  | [letter, mark] => Text.isLetter letter && (mark == ':' || mark == '|')
  | _ => false

/-- Takes back the last segment of a path, unless it names a drive. -/
def shorten (path : List String) : List String :=
  if path.getLast?.any isDrive then path else path.dropLast

/-- Adds segments to a path. A dot segment at the end leaves an empty one, and a drive at the front
of the path of a file is written with a colon. -/
def addSegments (isFile : Bool) (path : List String) : List (List Char) → List String
  | [] => path
  | segment :: rest =>
    let isLast := rest.isEmpty
    if isFile && path.isEmpty && isDrive (String.ofList segment) then
      addSegments isFile [String.ofList (segment.take 1 ++ [':'])] rest
    else if isDoubleDot segment then
      addSegments isFile (if isLast then shorten path ++ [""] else shorten path) rest
    else if isSingleDot segment then
      addSegments isFile (if isLast then path ++ [""] else path) rest
    else addSegments isFile (path ++ [escape isPathChar segment]) rest

/-- The parts of a text between slashes, and backslashes where they stand for slashes. -/
def splitPath (isSpecial : Bool) (cs : List Char) : List (List Char) :=
  (if isSpecial then cs.map fun c ↦ if c == '\\' then '/' else c else cs).splitOn '/'

/-- The segments of a text after its first slash. -/
def parseSegments (isSpecial : Bool) (cs : List Char) : UrlPath :=
  .segments (addSegments false [] (splitPath isSpecial cs))

/-- Drops one slash. -/
def dropSlash (isSpecial : Bool) (cs : List Char) : List Char :=
  match cs with
  | '/' :: rest => rest
  | '\\' :: rest => if isSpecial then rest else cs
  | _ => cs

/-- Reads the path after a host. -/
def parsePath (isSpecial : Bool) (cs : List Char) : UrlPath :=
  if cs.isEmpty && !isSpecial then .segments []
  else parseSegments isSpecial (dropSlash isSpecial cs)

/-! ## Query and fragment -/

/-- A text, its query and its fragment. -/
def splitTail (isSpecial : Bool) (cs : List Char) :
    List Char × Option String × Option String :=
  let beforeHash := cs.takeWhile (· != '#')
  let fragment := match cs.dropWhile (· != '#') with
    | _ :: rest => some (escape isFragmentChar rest)
    | [] => none
  let query := match beforeHash.dropWhile (· != '?') with
    | _ :: rest => some (escape (isQueryChar isSpecial) rest)
    | [] => none
  (beforeHash.takeWhile (· != '?'), query, fragment)

/-! ## Authorities with their paths -/

/-- Reads what follows the slashes in front of a host. A name or a password needs a host behind it,
and so does a lone at sign with something behind. -/
def parseAuthority (scheme : String) (cs : List Char) : Except UrlError Url := do
  let special := isSpecial scheme
  let (front, query, fragment) := splitTail special cs
  let authority := front.takeWhile (!endsAuthority special ·)
  let path := front.drop authority.length
  let isFollowed := !path.isEmpty || query.isSome || fragment.isSome
  let (user, site) := (splitLastAt? authority).getD ([], authority)
  let hasLoneSign := user.isEmpty && site.length < authority.length
  let (username, password) := parseUser user
  let (host, port, behind) ← parseHostPort scheme site
  let hasUser := !username.isEmpty || !password.isEmpty
  if host.isEmpty && (hasUser || (hasLoneSign && isFollowed)) then .error .emptyHost
  .ok ⟨scheme, username, password, some host, port, parsePath special (behind ++ path), query,
    fragment⟩

/-! ## Files -/

/-- The path of a file without empty segments in front. -/
def trimPath (path : List String) : List String :=
  match path.dropWhile (·.isEmpty) with
  | [] => [""]
  | trimmed => trimmed

/-- The address of a file. A path that starts at a drive needs no host. -/
def ofFile (host : Host) (path : List Char) (query fragment : Option String) : Url :=
  let segments := addSegments true [] (splitPath true path)
  let host := if segments.head?.any isDrive then .domain "" else host
  ⟨"file", "", "", some host, none, .segments (trimPath segments), query, fragment⟩

/-- Reads the host of a file, which is left out if it is the computer itself. -/
def parseFileHost (name : List Char) : Except UrlError (Option Host) :=
  if name.isEmpty then .ok none
  else (Host.parse name).map fun host ↦ if host = .domain "localhost" then none else some host

/-- Reads the address of a file. -/
def parseFile (cs : List Char) : Except UrlError Url := do
  let (front, query, fragment) := splitTail true cs
  let isSlash (c : Char) : Bool := c == '/' || c == '\\'
  match front with
  | a :: b :: rest =>
    if isSlash a && isSlash b then
      let name := rest.takeWhile (!isSlash ·)
      let path := rest.drop name.length
      if isDrive (String.ofList name) then .ok (ofFile (.domain "") rest query fragment)
      else
        match ← parseFileHost name with
        | none => .ok (ofFile (.domain "") path query fragment)
        | some host => .ok (ofFile host (dropSlash true path) query fragment)
    else .ok (ofFile (.domain "") (dropSlash true front) query fragment)
  | _ => .ok (ofFile (.domain "") (dropSlash true front) query fragment)

/-! ## Addresses -/

/-- Reads an address without a host. -/
def parseWithoutHost (scheme : String) (cs : List Char) : Url :=
  let (front, query, fragment) := splitTail false cs
  let path := match front with
    | '/' :: rest => parseSegments false rest
    | _ => .verbatim (escape (!isControl ·) front)
  ⟨scheme, "", "", none, none, path, query, fragment⟩

/-- Reads an address that stands by itself. -/
def parse (s : String) : Except UrlError Url :=
  match splitScheme? (clean s) with
  | none => .error .relative
  | some ("file", rest) => parseFile rest
  | some (scheme, rest) =>
    if isSpecial scheme then
      parseAuthority scheme (rest.dropWhile fun c ↦ c == '/' || c == '\\')
    else
      match rest with
      | '/' :: '/' :: authority => parseAuthority scheme authority
      | _ => .ok (parseWithoutHost scheme rest)

end CloudControl.Url
