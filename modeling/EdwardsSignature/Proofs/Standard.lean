import EdwardsSignature.Parameters
import EdwardsSignature.Proofs.Curve.Codec
import EdwardsSignature.Scalar
import EdwardsSignature.Scheme.Input

/-!
# Signatures in the terms of the standard

What signing and verifying *mean*: in integers, none of which is reduced before the end, and in the
group of the points of the curve, with no coordinates. Schemes are measured against this.

* `Standard.signature`: the signature of an input in a context, with the key pair of a seed;
* `Standard.verdict`: the verdict on a byte string, as a signature of an input in a context, for a
  public key.

The secret integer of a seed, of 255 bits (`Standard.secret`), and digests as integers of 512 bits
(`Standard.digestInteger`) are factors of points as they are.
-/

namespace EdwardsSignature

namespace Input

/-- The bytes of an input. -/
def bytes : Input → Bytes
  | message bytes => bytes
  | prehashed digest => digest

/-- An input that is said to be a digest has the size of one. -/
def WellFormed : Input → Prop
  | message _ => True
  | prehashed digest => digest.length = 64

instance : (input : Input) → Decidable input.WellFormed
  | message _ => inferInstanceAs (Decidable True)
  | prehashed _ => inferInstanceAs (Decidable (_ = _))

end Input

namespace Standard

/-! ## Hashing -/

/-- What tells the flavours apart, hashed ahead of all else: nothing for a message in the empty
    context, and otherwise the tag, a byte for whether the input is a digest, a byte for the length
    of the context, and the context. -/
def domain : (context : Bytes) → Input → Bytes
  | [], .message _ => []
  | context, .message _ =>
    Parameters.ed25519Tag ++ [0, UInt8.ofNat context.length] ++ context
  | context, .prehashed _ =>
    Parameters.ed25519Tag ++ [1, UInt8.ofNat context.length] ++ context

/-- The digest of a byte string, as an integer. -/
def digestInteger (bs : Bytes) : ℕ := (Sha512.digest bs).toNat

/-- The challenge, for a commitment and a public key, both encoded. -/
def challenge (context : Bytes) (input : Input) (commitment publicKey : Octets 32) : ℕ :=
  digestInteger (domain context input ++ commitment.bytes ++ publicKey.bytes ++ input.bytes)

/-! ## Keys -/

/-- The secret integer of a seed: in the first half of its digest, the bits below `2 ^ 3` are cleared,
    the bit `2 ^ 254` is set, and the bit above it is cleared. -/
def secret (seed : Octets 32) : ℕ :=
  2 ^ 254 + 8 * ((Sha512.digest seed.bytes).lower.toNat / 8 % 2 ^ 251)

/-- The second half of the digest of a seed, which the nonces come from. -/
def nonceKey (seed : Octets 32) : Octets 32 := (Sha512.digest seed.bytes).upper

/-- The point that is the public key of a seed. -/
def publicPoint (seed : Octets 32) : CurvePoint := secret seed • CurvePoint.base

/-! ## Signing -/

section Signing

variable (seed : Octets 32) (context : Bytes) (input : Input)

/-- The nonce of a signature. -/
def nonce : ℕ := digestInteger (domain context input ++ (nonceKey seed).bytes ++ input.bytes)

/-- The commitment of a signature. -/
def commitment : Octets 32 := (nonce seed context input • CurvePoint.base).encode

/-- The response of a signature that is to be verified with the given public key. -/
def response (publicKey : Octets 32) : ℕ :=
  (nonce seed context input +
    challenge context input (commitment seed context input) publicKey * secret seed) % order

/-- The signature of an input in a context with the key pair of a seed. -/
def signature : Bytes :=
  (commitment seed context input).bytes ++
    Bytes.ofNat 32 (response seed context input (publicPoint seed).encode)

end Signing

/-! ## Verifying -/

/-- The equation of verification, with the cofactor `8`. -/
def Balances (A : CurvePoint) (context : Bytes) (input : Input) (R : CurvePoint) (S : ℕ) : Prop :=
  (8 * S) • CurvePoint.base = 8 • R + (8 * challenge context input R.encode A.encode) • A

open Classical in
/-- The verdict on a byte string as a signature of an input in a context, for the public key `A`. The
    checks are made in this order, and the first that fails gives the reason. -/
noncomputable def verdict (A : CurvePoint) (context : Bytes) (input : Input) (signature : Bytes) :
    Except Error Unit :=
  if signature.length ≠ 64 then .error (.wrongLength "Ed25519 signature" 64 signature.length)
  else if ¬input.WellFormed then .error (.invalidPrehash 64 input.bytes.length)
  else if ¬∃ R : CurvePoint, R.encode.bytes = signature.take 32 then
    .error (.notAuthentic .commitment)
  else if order ≤ Bytes.toNat (signature.drop 32) then .error (.notAuthentic .response)
  else if ∃ R : CurvePoint, R.encode.bytes = signature.take 32 ∧
      Balances A context input R (Bytes.toNat (signature.drop 32)) then .ok ()
  else .error (.notAuthentic .equation)

end Standard

end EdwardsSignature
