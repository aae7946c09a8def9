/-!
# SHA-1

The digest of an octet list, as in FIPS 180-4. The message is padded to a whole number of
blocks of 64 octets, each block is expanded to a schedule of eighty words, and the state of
five words is updated by eighty rounds for each block.
-/

namespace CloudControl.Digest.Sha1

/-- The five words of the running digest. -/
structure State where
  a : UInt32
  b : UInt32
  c : UInt32
  d : UInt32
  e : UInt32
  deriving DecidableEq

/-- The digest of no blocks. -/
def State.initial : State :=
  ⟨0x67452301, 0xEFCDAB89, 0x98BADCFE, 0x10325476, 0xC3D2E1F0⟩

/-- Rotates a word to the left. -/
def rotate (x : UInt32) (n : UInt32) : UInt32 :=
  (x <<< n) ||| (x >>> (32 - n))

/-- The octets of a number, the most significant first. -/
def bigEndian (width n : Nat) : List UInt8 :=
  (List.range width).map fun i ↦ UInt8.ofNat (n >>> (8 * (width - 1 - i)))

/-- Appends a one bit, zeros, and the bit length in eight octets. -/
def pad (message : List UInt8) : List UInt8 :=
  message ++ 0x80 :: List.replicate ((119 - message.length % 64) % 64) 0 ++
    bigEndian 8 (8 * message.length)

/-- The big-endian words of an octet list. -/
def words : List UInt8 → List UInt32
  | p :: q :: r :: s :: rest =>
    (p.toUInt32 <<< 24 ||| q.toUInt32 <<< 16 ||| r.toUInt32 <<< 8 ||| s.toUInt32) :: words rest
  | _ => []

/-- Adds the next word to a schedule that lists its newest word first. -/
def extend (newestFirst : List UInt32) : List UInt32 :=
  rotate (newestFirst.getD 2 0 ^^^ newestFirst.getD 7 0 ^^^
    newestFirst.getD 13 0 ^^^ newestFirst.getD 15 0) 1 :: newestFirst

/-- The eighty words of the schedule of a block. -/
def schedule (block : List UInt32) : List UInt32 :=
  (Nat.repeat extend 64 block.reverse).reverse

/-- The round function and constant of a round. -/
def mix (round : Nat) (b c d : UInt32) : UInt32 × UInt32 :=
  if round < 20 then ((b &&& c) ||| (~~~b &&& d), 0x5A827999)
  else if round < 40 then (b ^^^ c ^^^ d, 0x6ED9EBA1)
  else if round < 60 then ((b &&& c) ||| (b &&& d) ||| (c &&& d), 0x8F1BBCDC)
  else (b ^^^ c ^^^ d, 0xCA62C1D6)

/-- One round, with the schedule word of that round. -/
def step (s : State) (round : UInt32 × Nat) : State :=
  let (f, k) := mix round.2 s.b s.c s.d
  ⟨rotate s.a 5 + f + s.e + k + round.1, s.a, rotate s.b 30, s.c, s.d⟩

/-- Updates the digest by a block of sixteen words. -/
def compress (s : State) (block : List UInt32) : State :=
  let t := (schedule block).zipIdx.foldl step s
  ⟨s.a + t.a, s.b + t.b, s.c + t.c, s.d + t.d, s.e + t.e⟩

/-- Updates the digest by each block of sixteen words in turn. -/
def compressAll (s : State) (ws : List UInt32) : State :=
  (List.range (ws.length / 16)).foldl (fun s i ↦ compress s ((ws.drop (16 * i)).take 16)) s

/-- The words of the digest in order. -/
def State.words (s : State) : List UInt32 :=
  [s.a, s.b, s.c, s.d, s.e]

/-- The twenty octets of the digest of a message. -/
def digest (message : List UInt8) : List UInt8 :=
  (compressAll State.initial (words (pad message))).words.flatMap fun w ↦ bigEndian 4 w.toNat

@[simp]
theorem length_bigEndian (width n : Nat) : (bigEndian width n).length = width := by
  simp [bigEndian]

/-- A digest has twenty octets. -/
@[simp]
theorem length_digest (message : List UInt8) : (digest message).length = 20 := by
  simp [digest, State.words]

end CloudControl.Digest.Sha1
