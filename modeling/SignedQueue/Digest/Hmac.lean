import SignedQueue.Digest.Sha1
/-!
**Keyed digests.** The digest of a message under a key: the key is mixed with two masks, the inner
one goes before the message and the outer one before the inner digest.

* `Hmac.sha1`: the twenty octets of a message under a key.
-/

namespace SignedQueue.Hmac

/-- The key filled up with zeros to a block; a key longer than a block is digested first. -/
def blockKey (key : Octets) : Octets :=
  let short := if 64 < key.length then Sha1.digest key else key
  short ++ List.replicate (64 - short.length) 0

/-- The digest of a message under a key. -/
def sha1 (key message : Octets) : Octets :=
  let block := blockKey key
  let inner := Sha1.digest (block.map (· ^^^ 0x36) ++ message)
  Sha1.digest (block.map (· ^^^ 0x5C) ++ inner)

end SignedQueue.Hmac
