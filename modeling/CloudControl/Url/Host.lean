import CloudControl.Text.Ascii
import CloudControl.Text.Percent
import CloudControl.Url.Domain

/-!
# Hosts

The host of an address is a domain name or a number. A domain is written in ASCII. A name whose
last label is a number must be an address of version 4, whose parts may be decimal, octal or
hexadecimal and may be left out in the middle. An address of version 6 stands in brackets and is
written with its longest run of zeros left out.
-/

namespace CloudControl

/-- Why a text is no address. -/
inductive UrlError where
  | relative
  | emptyHost
  | invalidPort
  | invalidIpv4
  | invalidIpv6
  | invalidDomain
  | invalidDomainCharacter
  deriving DecidableEq

/-- The wording of an error. -/
def UrlError.message : UrlError → String
  | relative => "relative URL without a base"
  | emptyHost => "empty host"
  | invalidPort => "invalid port number"
  | invalidIpv4 => "invalid IPv4 address"
  | invalidIpv6 => "invalid IPv6 address"
  | invalidDomain => "invalid international domain name"
  | invalidDomainCharacter => "invalid domain character"

/-- The host of an address. -/
inductive Host where
  | domain (name : String)
  | ipv4 (address : Nat)
  | ipv6 (pieces : List Nat)
  deriving DecidableEq

namespace Host

/-! ## Addresses of version 4 -/

/-- The value of digits of a base, if there are any and all are digits of it. -/
def numberOfBase? (base : Nat) (cs : List Char) : Option Nat :=
  cs.foldl (fun acc c ↦ do
    let n ← acc
    let d ← Text.Hex.value? c
    if d < base then some (base * n + d) else none) (some 0)

/-- The value of a part of an address: hexadecimal after `0x`, octal after `0`. -/
def ipv4Number? : List Char → Option Nat
  | [] => none
  | '0' :: 'x' :: rest => numberOfBase? 16 rest
  | '0' :: 'X' :: rest => numberOfBase? 16 rest
  | '0' :: c :: rest => numberOfBase? 8 (c :: rest)
  | cs => numberOfBase? 10 cs

/-- The labels of a name, without an empty last one. -/
def labels (name : List Char) : List (List Char) :=
  let parts := name.splitOn '.'
  if 1 < parts.length && parts.getLast? == some [] then parts.dropLast else parts

/-- The last label of a name is a number. -/
def endsInNumber (name : List Char) : Bool :=
  match (labels name).getLast? with
  | some last => (!last.isEmpty && last.all Text.isDigit) || (ipv4Number? last).isSome
  | none => false

/-- The number of the parts of an address; the last one fills all the places that are left. -/
def ipv4OfParts? (parts : List Nat) : Option Nat :=
  match parts.reverse with
  | [] => none
  | last :: rest =>
    let front := rest.reverse
    if front.length < 4 && front.all (· < 256) && last < Nat.pow 256 (4 - front.length) then
      some (front.foldl (fun acc n ↦ 256 * acc + n) 0 * Nat.pow 256 (4 - front.length) + last)
    else none

/-- Reads an address of version 4. -/
def parseIpv4? (name : List Char) : Option Nat :=
  ((labels name).mapM ipv4Number?).bind ipv4OfParts?

/-- The written form of an address of version 4. -/
def ipv4Text (n : Nat) : List Char :=
  List.intercalate ['.'] ([n / 16777216, n / 65536 % 256, n / 256 % 256, n % 256].map
    (Nat.toDigits 10 ·))

/-! ## Addresses of version 6 -/

/-- The value of one to four hexadecimal digits. -/
def piece? (cs : List Char) : Option Nat :=
  if cs.isEmpty || 4 < cs.length then none else numberOfBase? 16 cs

/-- The value of a decimal number below 256 without leading zeros. -/
def octet? (cs : List Char) : Option Nat :=
  if cs.isEmpty || (1 < cs.length && cs.head? == some '0') || 3 < cs.length then none
  else (numberOfBase? 10 cs).filter (· < 256)

/-- The two pieces of an address of version 4 in dotted form. -/
def embeddedIpv4? (cs : List Char) : Option (List Nat) := do
  match ← (cs.splitOn '.').mapM octet? with
  | [a, b, c, d] => some [256 * a + b, 256 * c + d]
  | _ => none

/-- The pieces of groups between colons; the last group may be in dotted form. -/
def pieces? : List (List Char) → Option (List Nat)
  | [] => some []
  | [last] => ((piece? last).map fun n ↦ [n]) <|> embeddedIpv4? last
  | group :: rest => do
    let n ← piece? group
    let ns ← pieces? rest
    some (n :: ns)

/-- The groups of a part of an address; an empty part has none. -/
def groups (part : List Char) : List (List Char) :=
  if part.isEmpty then [] else part.splitOn ':'

/-- Splits a text at its first double colon. -/
def splitDoubleColon? : List Char → Option (List Char × List Char)
  | ':' :: ':' :: rest => some ([], rest)
  | c :: rest => (splitDoubleColon? rest).map fun (a, b) ↦ (c :: a, b)
  | [] => none

/-- Reads an address of version 6, without its brackets. -/
def parseIpv6? (cs : List Char) : Option (List Nat) :=
  match splitDoubleColon? cs with
  | none => (pieces? (groups cs)).filter (·.length = 8)
  | some (front, back) => do
    let first ← (groups front).mapM piece?
    let second ← pieces? (groups back)
    if first.length + second.length < 8 then
      some (first ++ List.replicate (8 - first.length - second.length) 0 ++ second)
    else none

/-- The length of the run of zeros at the front. -/
def zeros (pieces : List Nat) : Nat :=
  (pieces.takeWhile (· = 0)).length

/-- The longest run of zeros at or after an index, as its start and length. -/
def longestZeros (start : Nat) : List Nat → Nat × Nat
  | [] => (start, 0)
  | p :: rest =>
    let here := zeros (p :: rest)
    let later := longestZeros (start + 1) rest
    if later.2 ≤ here then (start, here) else later

/-- The written form of pieces between colons. -/
def piecesText (pieces : List Nat) : List Char :=
  List.intercalate [':'] (pieces.map Text.Hex.ofNat)

/-- The written form of an address of version 6, without its brackets. -/
def ipv6Text (pieces : List Nat) : List Char :=
  let (start, length) := longestZeros 0 pieces
  if length < 2 then piecesText pieces
  else piecesText (pieces.take start) ++ ':' :: ':' :: piecesText (pieces.drop (start + length))

/-! ## Domains -/

/-- The character may not stand in a host that is kept as it is. -/
def isForbiddenInHost (c : Char) : Bool :=
  "\x00\t\n\r #/:<>?@[\\]^|".toList.contains c

/-- The text in brackets, if the text is in brackets. -/
def bracketed? (cs : List Char) : Option (List Char) :=
  match cs with
  | '[' :: rest => if rest.getLast? == some ']' then some rest.dropLast else none
  | _ => none

/-- Reads an address of version 6 in brackets. -/
def parseBracketed (cs : List Char) : Except UrlError Host :=
  match (bracketed? cs).bind parseIpv6? with
  | some pieces => .ok (.ipv6 pieces)
  | none => .error .invalidIpv6

/-- Reads the host of an address of the web. -/
def parse (cs : List Char) : Except UrlError Host :=
  if cs.head? == some '[' then parseBracketed cs
  else
    let decoded := Text.Utf8.decode (Text.Percent.decode (Text.Utf8.encodeChars cs))
    match Url.Domain.ascii? decoded.toList with
    | none => .error .invalidDomain
    | some name =>
      if name.isEmpty then .error .emptyHost
      else if endsInNumber name then
        match parseIpv4? name with
        | some n => .ok (.ipv4 n)
        | none => .error .invalidIpv4
      else .ok (.domain (String.ofList name))

/-- Reads the host of an address of any other scheme, which is kept as it is. -/
def parseVerbatim (cs : List Char) : Except UrlError Host :=
  if cs.head? == some '[' then parseBracketed cs
  else if cs.any isForbiddenInHost then .error .invalidDomainCharacter
  else .ok (.domain (String.ofList
    (Text.Percent.encode (fun c ↦ 0x20 ≤ c.toNat && c.toNat < 0x7F) cs)))

/-- The written form of a host. -/
def text : Host → List Char
  | domain name => name.toList
  | ipv4 address => ipv4Text address
  | ipv6 pieces => '[' :: ipv6Text pieces ++ [']']

/-- The host is a domain without a name. -/
def isEmpty : Host → Bool
  | domain name => name.isEmpty
  | _ => false

end Host

end CloudControl
