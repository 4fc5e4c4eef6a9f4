import EdwardsSignature.Scheme.Challenge
import EdwardsSignature.Signature

/-!
# Signing

A signature commits to the multiple `R` of the base point by the nonce `r`, and responds to the
challenge `k` with the scalar `r + k d`, for the secret scalar `d`.
-/

namespace EdwardsSignature.Scheme

/-- The signature of a payload with the private key `key`. -/
def signPayload (s : Scheme) (key : PrivateKey) (prehashed : Bool) (payload : Bytes) : Signature :=
  let r := s.nonce prehashed key.nonceKey payload
  let commitment := (Point.base.multiple r.val).encode
  let k := s.challenge prehashed commitment payload
  ⟨commitment, (r + k * key.scalar).toOctets⟩

/-- The signature of an input. -/
def sign (s : Scheme) (input : Input) : Except Error Signature :=
  match input.payload with
  | .error e => .error e
  | .ok payload =>
    match s.privateKey with
    | none => .error .privateKeyRequired
    | some key => .ok (s.signPayload key input.isPrehashed payload)

end EdwardsSignature.Scheme
