import EdwardsSignature.Proofs.Scheme.Construction
import EdwardsSignature.Scheme.Challenge

/-!
# What is hashed

The domain, the nonces and the challenges of a scheme are those of the standard, the latter two
reduced (`Scheme.Admitted.domain_eq`, `Scheme.Admitted.nonce_eq`, `Scheme.Admitted.challenge_eq`).
-/

namespace EdwardsSignature

namespace Input

/-- The payload of a well-formed input are its bytes. -/
theorem payload_of_wellFormed {input : Input} (h : input.WellFormed) :
    input.payload = .ok input.bytes := by
  cases input with
  | message bytes => rfl
  | prehashed digest => exact if_pos h

/-- The payload of other inputs is an error. -/
theorem payload_of_not_wellFormed {input : Input} (h : ¬input.WellFormed) :
    input.payload = .error (.invalidPrehash 64 input.bytes.length) := by
  cases input with
  | message bytes => exact absurd trivial h
  | prehashed digest => exact if_neg h

end Input

namespace Scheme.Admitted

variable {s : Scheme} (hs : s.Admitted) (input : Input)

include hs

/-- Only a message in the empty context has nothing hashed ahead of it. -/
theorem domain_eq : s.domain input.isPrehashed = Standard.domain s.context input := by
  rw [domain, hs.curve_eq]
  cases input with
  | message bytes =>
    cases s.context with
    | nil => rfl
    | cons b bs => exact (List.append_assoc _ [_, _] _).symm
  | prehashed digest =>
    cases s.context with
    | nil => exact (List.append_assoc _ [_, _] _).symm
    | cons b bs => exact (List.append_assoc _ [_, _] _).symm

theorem nonce_eq (seed : Octets 32) :
    s.nonce input.isPrehashed (Standard.nonceKey seed) input.bytes =
      (Standard.nonce seed s.context input : Scalar) := by
  rw [nonce, nonceInput, hs.domain_eq, Scalar.ofWide_eq_cast]
  rfl

theorem challenge_eq (commitment : Octets 32) :
    s.challenge input.isPrehashed commitment input.bytes =
      (Standard.challenge s.context input commitment s.publicKey.encoded : Scalar) := by
  rw [challenge, challengeInput, hs.domain_eq, Scalar.ofWide_eq_cast]
  rfl

end Scheme.Admitted

end EdwardsSignature
