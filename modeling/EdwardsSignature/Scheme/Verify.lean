import EdwardsSignature.Scheme.Challenge
import EdwardsSignature.Signature

/-!
# Verifying

A signature is accepted if its commitment `R` and its response `s` satisfy `8 s B = 8 (R + k A)`, for
the base point `B`, the public key `A` and the challenge `k`. The factor `8`, the *cofactor* of the
curve, leaves components of small order out of account.
-/

namespace EdwardsSignature.Scheme

/-- The verification equation, for a commitment with its encoding, a response and a payload. -/
def balances (s : Scheme) (prehashed : Bool) (commitment : Octets 32) (R : Point)
    (response : Scalar) (payload : Bytes) : Bool :=
  let k := s.challenge prehashed commitment payload
  (Point.base.multiple response.val).eightfold.same
    (R + s.publicKey.point.multiple k.val).eightfold

/-- Verifies a signature of a payload. -/
def verifyPayload (s : Scheme) (prehashed : Bool) (payload : Bytes) (signature : Signature) :
    Except Error Unit :=
  match Point.decode? signature.commitment with
  | none => .error (.notAuthentic .commitment)
  | some R =>
    match Scalar.ofCanonical? signature.response with
    | none => .error (.notAuthentic .response)
    | some response =>
      if s.balances prehashed signature.commitment R response payload then .ok ()
      else .error (.notAuthentic .equation)

/-- Verifies a signature, given as a byte string, of an input. -/
def verify (s : Scheme) (input : Input) (signature : Bytes) : Except Error Unit :=
  if signature.length ≠ s.curve.signatureSize then
    .error (.wrongLength "Ed25519 signature" s.curve.signatureSize signature.length)
  else
    match input.payload with
    | .error e => .error e
    | .ok payload => s.verifyPayload input.isPrehashed payload (.ofBytes signature)

end EdwardsSignature.Scheme
