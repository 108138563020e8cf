import Friendship.Digest.Sha256

/-!
# Keyed digests

The message is digested together with a key in two layers. A key longer than a block is replaced
by its digest.
-/

namespace Friendship.Digest

/-- The keyed digest of a message. -/
def hmac (key message : List UInt8) : List UInt8 :=
  let key := if key.length ≤ 64 then key else Sha256.digest key
  let key := key ++ List.replicate (64 - key.length) 0
  let inner := Sha256.digest (key.map (· ^^^ 0x36) ++ message)
  Sha256.digest (key.map (· ^^^ 0x5c) ++ inner)

end Friendship.Digest
