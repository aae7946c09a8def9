/-!
# UTF-8

`encode` writes a text as UTF-8 octets. `decode` reads octets and replaces every maximal
ill-formed subsequence by the replacement character U+FFFD, so that it accepts any octets.
-/

namespace CloudControl.Text.Utf8

/-- The UTF-8 octets of a character list. -/
def encodeChars (cs : List Char) : List UInt8 :=
  cs.flatMap String.utf8EncodeChar

/-- The UTF-8 octets of a text. -/
def encode (s : String) : List UInt8 :=
  encodeChars s.toList

/-- The character that stands for octets that are not UTF-8. -/
def replacement : Char := '\uFFFD'

/-- A continuation octet. -/
def isTail (b : UInt8) : Bool :=
  0x80 ≤ b && b ≤ 0xBF

/-- The octets that may follow the first octet of a longer sequence. -/
def isSecond (lead b : UInt8) : Bool :=
  if lead == 0xE0 then 0xA0 ≤ b && b ≤ 0xBF
  else if lead == 0xED then 0x80 ≤ b && b ≤ 0x9F
  else if lead == 0xF0 then 0x90 ≤ b && b ≤ 0xBF
  else if lead == 0xF4 then 0x80 ≤ b && b ≤ 0x8F
  else isTail b

/-- The six payload bits of a continuation octet. -/
def payload (b : UInt8) : Nat :=
  b.toNat % 64

/-- The first character of the octets `lead :: rest`, and how many octets of `rest` it takes.
An ill-formed sequence stands for one replacement character and takes the longest start of a
well-formed sequence that it shows. -/
def head (lead : UInt8) (rest : List UInt8) : Char × Nat :=
  if lead < 0x80 then (Char.ofNat lead.toNat, 0)
  else if lead < 0xC2 then (replacement, 0)
  else if lead < 0xE0 then
    match rest with
    | b :: _ =>
      if isSecond lead b then (Char.ofNat (lead.toNat % 32 * 64 + payload b), 1)
      else (replacement, 0)
    | [] => (replacement, 0)
  else if lead < 0xF0 then
    match rest with
    | b :: c :: _ =>
      if !isSecond lead b then (replacement, 0)
      else if !isTail c then (replacement, 1)
      else (Char.ofNat (lead.toNat % 16 * 4096 + payload b * 64 + payload c), 2)
    | [b] => (replacement, if isSecond lead b then 1 else 0)
    | [] => (replacement, 0)
  else if lead < 0xF5 then
    match rest with
    | b :: c :: d :: _ =>
      if !isSecond lead b then (replacement, 0)
      else if !isTail c then (replacement, 1)
      else if !isTail d then (replacement, 2)
      else
        (Char.ofNat (lead.toNat % 8 * 262144 + payload b * 4096 + payload c * 64 + payload d), 3)
    | [b, c] => (replacement, if !isSecond lead b then 0 else if isTail c then 2 else 1)
    | [b] => (replacement, if isSecond lead b then 1 else 0)
    | [] => (replacement, 0)
  else (replacement, 0)

/-- Reads octets as UTF-8, with replacement characters for what is not. -/
def decodeChars : List UInt8 → List Char
  | [] => []
  | lead :: rest =>
    (head lead rest).1 :: decodeChars (rest.drop (head lead rest).2)
termination_by bytes => bytes.length
decreasing_by rw [List.length_drop, List.length_cons]; omega

/-- Reads octets as UTF-8 text, with replacement characters for what is not. -/
def decode (bytes : List UInt8) : String :=
  String.ofList (decodeChars bytes)

@[simp]
theorem encodeChars_nil : encodeChars [] = [] := rfl

@[simp]
theorem encodeChars_cons (c : Char) (cs : List Char) :
    encodeChars (c :: cs) = String.utf8EncodeChar c ++ encodeChars cs := rfl

end CloudControl.Text.Utf8
