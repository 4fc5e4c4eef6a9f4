import EdwardsSignature.Scheme.Basic

/-!
# Nonces and challenges

Two scalars of a signature are digests, reduced: the *nonce*, of the domain, the nonce key and the
payload, and the *challenge*, of the domain, the commitment, the public key and the payload.
-/

namespace EdwardsSignature.Scheme

/-- What the nonce is the digest of. -/
def nonceInput (s : Scheme) (prehashed : Bool) (nonceKey : Octets 32) (payload : Bytes) : Bytes :=
  s.domain prehashed ++ nonceKey.bytes ++ payload

/-- The nonce of a signature. -/
def nonce (s : Scheme) (prehashed : Bool) (nonceKey : Octets 32) (payload : Bytes) : Scalar :=
  .ofWide (Sha512.digest (s.nonceInput prehashed nonceKey payload))

/-- What the challenge is the digest of. -/
def challengeInput (s : Scheme) (prehashed : Bool) (commitment : Octets 32) (payload : Bytes) :
    Bytes :=
  s.domain prehashed ++ commitment.bytes ++ s.publicKey.encoded.bytes ++ payload

/-- The challenge of a signature. -/
def challenge (s : Scheme) (prehashed : Bool) (commitment : Octets 32) (payload : Bytes) : Scalar :=
  .ofWide (Sha512.digest (s.challengeInput prehashed commitment payload))

end EdwardsSignature.Scheme
