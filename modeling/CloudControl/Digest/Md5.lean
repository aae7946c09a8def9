/-!
# MD5

The digest of an octet list, as in RFC 1321. The message is padded to a whole number of
blocks of 64 octets, and the state of four words is updated by 64 rounds for each block.
-/

namespace CloudControl.Digest.Md5

/-- The four words of the running digest. -/
structure State where
  a : UInt32
  b : UInt32
  c : UInt32
  d : UInt32
  deriving DecidableEq

/-- The digest of no blocks. -/
def State.initial : State :=
  ⟨0x67452301, 0xEFCDAB89, 0x98BADCFE, 0x10325476⟩

/-- Rotates a word to the left. -/
def rotate (x : UInt32) (n : UInt32) : UInt32 :=
  (x <<< n) ||| (x >>> (32 - n))

/-- The octets of a number, the least significant first. -/
def littleEndian (width n : Nat) : List UInt8 :=
  (List.range width).map fun i ↦ UInt8.ofNat (n >>> (8 * i))

/-- Appends a one bit, zeros, and the bit length in eight octets. -/
def pad (message : List UInt8) : List UInt8 :=
  message ++ 0x80 :: List.replicate ((119 - message.length % 64) % 64) 0 ++
    littleEndian 8 (8 * message.length)

/-- The little-endian words of an octet list. -/
def words : List UInt8 → List UInt32
  | p :: q :: r :: s :: rest =>
    (s.toUInt32 <<< 24 ||| r.toUInt32 <<< 16 ||| q.toUInt32 <<< 8 ||| p.toUInt32) :: words rest
  | _ => []

/-- The additive constants: the first 32 binary places of the sine of 1 to 64 radians. -/
def sines : List UInt32 := [
  0xd76aa478, 0xe8c7b756, 0x242070db, 0xc1bdceee, 0xf57c0faf, 0x4787c62a, 0xa8304613, 0xfd469501,
  0x698098d8, 0x8b44f7af, 0xffff5bb1, 0x895cd7be, 0x6b901122, 0xfd987193, 0xa679438e, 0x49b40821,
  0xf61e2562, 0xc040b340, 0x265e5a51, 0xe9b6c7aa, 0xd62f105d, 0x02441453, 0xd8a1e681, 0xe7d3fbc8,
  0x21e1cde6, 0xc33707d6, 0xf4d50d87, 0x455a14ed, 0xa9e3e905, 0xfcefa3f8, 0x676f02d9, 0x8d2a4c8a,
  0xfffa3942, 0x8771f681, 0x6d9d6122, 0xfde5380c, 0xa4beea44, 0x4bdecfa9, 0xf6bb4b60, 0xbebfbc70,
  0x289b7ec6, 0xeaa127fa, 0xd4ef3085, 0x04881d05, 0xd9d4d039, 0xe6db99e5, 0x1fa27cf8, 0xc4ac5665,
  0xf4292244, 0x432aff97, 0xab9423a7, 0xfc93a039, 0x655b59c3, 0x8f0ccc92, 0xffeff47d, 0x85845dd1,
  0x6fa87e4f, 0xfe2ce6e0, 0xa3014314, 0x4e0811a1, 0xf7537e82, 0xbd3af235, 0x2ad7d2bb, 0xeb86d391]

/-- The rotation of a round. -/
def shift (round : Nat) : UInt32 :=
  (([[7, 12, 17, 22], [5, 9, 14, 20], [4, 11, 16, 23], [6, 10, 15, 21]] : List (List UInt32)).getD
    (round / 16) []).getD (round % 4) 0

/-- The round function of a round and the index of the message word it takes. -/
def mix (round : Nat) (b c d : UInt32) : UInt32 × Nat :=
  if round < 16 then ((b &&& c) ||| (~~~b &&& d), round)
  else if round < 32 then ((d &&& b) ||| (~~~d &&& c), (5 * round + 1) % 16)
  else if round < 48 then (b ^^^ c ^^^ d, (3 * round + 5) % 16)
  else (c ^^^ (b ||| ~~~d), 7 * round % 16)

/-- One round on a block, with the constant of that round. -/
def step (block : List UInt32) (s : State) (round : UInt32 × Nat) : State :=
  let (f, i) := mix round.2 s.b s.c s.d
  ⟨s.d, s.b + rotate (f + s.a + round.1 + block.getD i 0) (shift round.2), s.b, s.c⟩

/-- Updates the digest by a block of sixteen words. -/
def compress (s : State) (block : List UInt32) : State :=
  let t := sines.zipIdx.foldl (step block) s
  ⟨s.a + t.a, s.b + t.b, s.c + t.c, s.d + t.d⟩

/-- Updates the digest by each block of sixteen words in turn. -/
def compressAll (s : State) (ws : List UInt32) : State :=
  (List.range (ws.length / 16)).foldl (fun s i ↦ compress s ((ws.drop (16 * i)).take 16)) s

/-- The words of the digest in order. -/
def State.words (s : State) : List UInt32 :=
  [s.a, s.b, s.c, s.d]

/-- The sixteen octets of the digest of a message. -/
def digest (message : List UInt8) : List UInt8 :=
  (compressAll State.initial (words (pad message))).words.flatMap fun w ↦ littleEndian 4 w.toNat

@[simp]
theorem length_littleEndian (width n : Nat) : (littleEndian width n).length = width := by
  simp [littleEndian]

/-- A digest has sixteen octets. -/
@[simp]
theorem length_digest (message : List UInt8) : (digest message).length = 16 := by
  simp [digest, State.words]

end CloudControl.Digest.Md5
