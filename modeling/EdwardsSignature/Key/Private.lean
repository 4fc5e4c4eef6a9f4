import EdwardsSignature.Bytes.Stream
import EdwardsSignature.Key.Expansion
import EdwardsSignature.Key.Public
import EdwardsSignature.Scalar
import EdwardsSignature.Sha512.Digest

/-!
# Private keys

A *private key* is a seed of 32 random bytes, together with all that is derived from it: the secret
scalar, the nonce key, and the public key, the multiple of the base point by the secret scalar.

The secrets in a key can be *wiped* (`PrivateKey.wipe`): they are overwritten with zeros, while the
public key stays.
-/

namespace EdwardsSignature

/-- A seed and what is derived from it. -/
structure PrivateKey where
  /-- The seed. -/
  seed : Octets 32
  /-- The secret scalar. -/
  scalar : Scalar
  /-- What the nonces of signatures are derived from. -/
  nonceKey : Octets 32
  /-- The public key. -/
  publicKey : PublicKey

namespace PrivateKey

/-- The number of bytes in an encoded private key, that is, in a seed. -/
def size : Nat := 32

/-- The private key of a seed. -/
def ofSeed (seed : Octets 32) : PrivateKey :=
  let parts := expand (Sha512.digest seed.bytes)
  let scalar := Scalar.ofOctets parts.1
  { seed, scalar, nonceKey := parts.2, publicKey := .ofPoint (Point.base.multiple scalar.val) }

/-- The private key that is encoded by its seed. -/
def decode (bytes : Bytes) : Except Error PrivateKey :=
  match Octets.ofBytes? 32 bytes with
  | none => .error (.wrongLength "Ed25519 private key" size bytes.length)
  | some seed => .ok (ofSeed seed)

/-- A private key in writing, which is its seed. -/
def encode (key : PrivateKey) : Octets 32 := key.seed

/-- A private key of the next bytes of a stream. -/
def generate (s : ByteStream) : PrivateKey × ByteStream :=
  let (seed, rest) := s.draw 32
  (ofSeed seed, rest)

/-- The key with its secrets overwritten. -/
def wipe (key : PrivateKey) : PrivateKey :=
  { key with seed := .zero 32, scalar := 0, nonceKey := .zero 32 }

/-- The structural text of a private key, which does not show the key. -/
def describe (_ : PrivateKey) : String :=
  Text.Structural.record "PrivateKey" [("algorithm", Text.Structural.text "Ed25519")]

end PrivateKey

end EdwardsSignature
