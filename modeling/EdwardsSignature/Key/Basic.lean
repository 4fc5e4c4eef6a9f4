import EdwardsSignature.Key.Private
import EdwardsSignature.Parameters

/-!
# Keys as a scheme sees them

Whatever a key is made of, a scheme asks three things of it: the name of the curve that it is for, its
public half, and its private half (`Key`). Each half may be missing, and nothing makes sure that the
halves belong together.
-/

namespace EdwardsSignature

/-- What a key shows to a scheme. -/
structure Key where
  /-- The name of the curve. -/
  curveName : String
  /-- The public half. -/
  publicHalf : Option PublicKey
  /-- The private half. -/
  privateHalf : Option PrivateKey

/-- A public key is a key with no private half. -/
def PublicKey.toKey (key : PublicKey) : Key := ⟨Parameters.ed25519.name, some key, none⟩

/-- A private key is a key with its own public key as the public half. -/
def PrivateKey.toKey (key : PrivateKey) : Key :=
  ⟨Parameters.ed25519.name, some key.publicKey, some key⟩

end EdwardsSignature
