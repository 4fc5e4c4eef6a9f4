import EdwardsSignature.Failure
import EdwardsSignature.Scheme.Sign
import EdwardsSignature.Scheme.Verify

/-!
# Plain signatures

Ed25519 with no context and no digests, for callers that have a key and a message: key pairs, signing
and verifying, and keys and signatures as bytes. Whatever goes wrong is a `Failure`.
-/

namespace EdwardsSignature.Plain

/-- The name of the algorithm. -/
def name : String := "Ed25519"

/-- The least number of bytes that a key pair is derived from. -/
def minSeedSize : Nat := PrivateKey.size

/-! ## Key pairs -/

/-- A key pair, from the next bytes of a stream. -/
def keyPair (s : ByteStream) : (PublicKey × PrivateKey) × ByteStream :=
  let (key, rest) := PrivateKey.generate s
  ((key.publicKey, key), rest)

/-- The key pair of the first 32 bytes of a seed, which may be longer. -/
def derive (seed : Bytes) : Except Failure (PublicKey × PrivateKey) :=
  match Octets.ofBytes? 32 (seed.take 32) with
  | none => .error <| .invalidParameter "Ed25519::derive_keypair"
      ("Seed too short: minimum " ++ Text.Structural.number minSeedSize ++ " bytes required")
  | some start =>
    let key := PrivateKey.ofSeed start
    .ok (key.publicKey, key)

/-- The public key that goes with a private key. -/
def publicKeyOf (key : PrivateKey) : PublicKey := key.publicKey

/-! ## Signing and verifying -/

/-- The signature of a message. -/
def sign (message : Bytes) (key : PrivateKey) : Except Failure Signature :=
  Except.mapError .ofError do
    let scheme ← Scheme.ofKey key.toKey .rfc8032 []
    scheme.sign (.message message)

/-- Verifies a signature of a message. -/
def verify (message : Bytes) (signature : Signature) (key : PublicKey) : Except Failure Unit :=
  Except.mapError .ofError do
    let scheme ← Scheme.ofKey key.toKey .rfc8032 []
    scheme.verify (.message message) signature.toOctets.bytes

/-! ## Keys and signatures as bytes -/

/-- The public key that is encoded in the given bytes. -/
def decodePublicKey (bytes : Bytes) : Except Failure PublicKey :=
  (PublicKey.decode bytes).mapError fun e =>
    (Failure.ofError e).withContext "Ed25519::deserialize_public_key"

/-- The private key that is encoded in the given bytes. -/
def decodePrivateKey (bytes : Bytes) : Except Failure PrivateKey :=
  (PrivateKey.decode bytes).mapError fun e =>
    (Failure.ofError e).withContext "Ed25519::deserialize_secret_key"

/-- The bytes that a private key is encoded in. -/
def encodePrivateKey (key : PrivateKey) : Bytes := key.encode.bytes

/-- The signature that is encoded in the given bytes. -/
def decodeSignature (bytes : Bytes) : Except Failure Signature :=
  match Octets.ofBytes? 64 bytes with
  | none => .error (.invalidLength "Ed25519Signature::from_bytes" Signature.size bytes.length)
  | some octets => .ok (.ofOctets octets)

end EdwardsSignature.Plain
