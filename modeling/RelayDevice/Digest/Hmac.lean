import RelayDevice.Digest.Sha1

/-!
# Keyed authentication tags

`Hmac.tag` is the keyed digest of twenty octets that authenticates a frame: the message is
digested behind the key masked with one constant, and the result behind the key masked with
another. Every octet string is a key; one longer than a block stands for its digest.
-/

namespace RelayDevice

namespace Hmac

/-- The octets of a digest block. -/
def blockSize : Nat := 64

/-- A key as one whole block. -/
def blockKey (key : Bytes) : Bytes :=
  let short := if key.length ≤ blockSize then key else Sha1.digest key
  short ++ List.replicate (blockSize - short.length) 0

/-- The tag of a message under a key. -/
def tag (key message : Bytes) : Bytes :=
  let block := blockKey key
  Sha1.digest (block.map (· ^^^ 0x5C) ++ Sha1.digest (block.map (· ^^^ 0x36) ++ message))

@[simp] theorem length_tag (key message : Bytes) : (tag key message).length = 20 :=
  Sha1.length_digest _

end Hmac

end RelayDevice
