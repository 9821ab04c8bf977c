import BearerAuth.Digest.Sha256

/-! # Keyed hashes

The HMAC construction over SHA-256: the key enters an inner and an outer hash under two masks.
-/

namespace BearerAuth.Digest.Hmac

/-- The key as one block: hashed if it is longer, zeros after it if it is shorter. -/
def keyBlock (key : List UInt8) : List UInt8 :=
  let short := if 64 < key.length then Sha256.hash key else key
  short ++ List.replicate (64 - short.length) 0

/-- The 32 bytes that authenticate a message under a key. -/
def sha256 (key message : List UInt8) : List UInt8 :=
  let block := keyBlock key
  let inner := Sha256.hash (block.map (· ^^^ 0x36) ++ message)
  Sha256.hash (block.map (· ^^^ 0x5c) ++ inner)

end BearerAuth.Digest.Hmac
