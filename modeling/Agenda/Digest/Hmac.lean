import Agenda.Digest.Sha2
/-!
# Keyed digests

The HMAC construction over SHA-256: two nested digests, each begun with the key under another mask.

* `hmacSha256` — the keyed digest of a byte sequence.
-/

namespace Agenda

/-- A key filled up with zeros to a whole block; a key longer than a block is replaced by its
digest. -/
def blockKey (key : Bytes) : Bytes :=
  let short := if sha256.blockBytes < key.length then sha256.digest key else key
  short ++ List.replicate (sha256.blockBytes - short.length) 0

def hmacSha256 (key message : Bytes) : Bytes :=
  let inner := (blockKey key).map (· ^^^ 0x36)
  let outer := (blockKey key).map (· ^^^ 0x5c)
  sha256.digest (outer ++ sha256.digest (inner ++ message))

end Agenda
