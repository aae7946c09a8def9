import CloudControl.Digest.Sha1

/-!
# Keyed digests

`Hmac.sha1` is the keyed digest of RFC 2104 over SHA-1. A key longer than a block is replaced
by its digest, and a shorter one is filled up with zeros.
-/

namespace CloudControl.Digest.Hmac

/-- The octets of one block of the digest. -/
def blockSize : Nat := 64

/-- A key as one block. -/
def blockKey (key : List UInt8) : List UInt8 :=
  let short := if key.length > blockSize then Sha1.digest key else key
  short ++ List.replicate (blockSize - short.length) 0

/-- The keyed digest of a message. -/
def sha1 (key message : List UInt8) : List UInt8 :=
  let block := blockKey key
  let inner := Sha1.digest (block.map (· ^^^ 0x36) ++ message)
  Sha1.digest (block.map (· ^^^ 0x5C) ++ inner)

/-- A keyed digest has twenty octets. -/
@[simp]
theorem length_sha1 (key message : List UInt8) : (sha1 key message).length = 20 := by
  simp [sha1]

end CloudControl.Digest.Hmac
