import Agenda.SigningKey.Block
import Agenda.SigningKey.Description
/-!
# Signing keys

A token is signed with a text that only the server knows. A text that was made to be shown to others must
not serve as such a key: whoever knows it could sign tokens. So the content of a key file, a public key in
one line, and a key that is described in JSON are refused, whether they are valid or not. The refusals are
those of PyJWT for a secret with which HMAC is to be used, and an empty secret is refused as well.

* `SigningKey.isUsable` — whether tokens can be signed with a text.
* `SigningKey.isPublicKeyLine` — whether a text begins as a public key in one line.
-/

namespace Agenda
namespace SigningKey

/-- The words with which a public key in one line begins. -/
def publicKeyTypes : List String :=
  ["ssh-ed25519", "ssh-rsa", "ssh-dss", "ecdsa-sha2-nistp256", "ecdsa-sha2-nistp384",
    "ecdsa-sha2-nistp521"]

def isPublicKeyLine (key : List Char) : Bool :=
  publicKeyTypes.any fun type => type.toList.isPrefixOf key

/-- Whether tokens can be signed with a text. -/
def isUsable (key : String) : Bool :=
  key != "" && !KeyBoundary.hasBlock key.toList && !isPublicKeyLine key.toList
    && !KeyDescription.isIn (Text.utf8 key)

end SigningKey
end Agenda
