import EdwardsSignature.Proofs.Scheme.Binding
import EdwardsSignature.Proofs.Scheme.Halves

/-!
# Two public halves give the private half away

A scheme takes its nonces from the private half of the key and its challenges from the public half. A
private half that is shown behind two public halves therefore signs an input with *one* nonce and
*two* challenges. The commitments are the same, the responses differ by the secret scalar times the
difference of the challenges, and whoever sees the two signatures knows all of these but the scalar: it
is found by a division (`Scheme.sign_behind_two_public_halves`). Only where the challenges for two
public halves are the same does the scalar stay hidden, and then there is a collision.
-/

namespace EdwardsSignature

/-- Two responses with one nonce, to different challenges, determine the secret scalar. -/
theorem Scalar.eq_sub_mul_inverse (r d : Scalar) {k k' : Scalar} (hk : k ≠ k') :
    d = (r + k * d - (r + k' * d)) * (k - k')⁻¹ := by
  have hcancel : (k - k') * (k - k')⁻¹ = 1 := mul_inverse_cancel (sub_ne_zero.2 hk)
  linear_combination -d * hcancel

namespace Scheme

variable {secret : PrivateKey} {context : Bytes} {input : Input}

/-- A scheme that is made of a key with a private half consists of the two halves of the key. -/
theorem eq_ofHalves_of_ofKey_eq_ok {key : Key} {mode : Mode} {s : Scheme}
    (hsecret : key.privateHalf = some secret) (h : ofKey key mode context = .ok s) :
    ∃ A, key.publicHalf = some A ∧ s = ofHalves A secret context := by
  obtain ⟨-, A, hA, rfl⟩ := eq_of_ofKey_eq_ok h
  cases mode
  exact ⟨A, hA, by rw [hsecret, ofHalves]⟩

/-- The nonce and the commitment serve for all public halves, and what the public half makes of them is
    the challenge that a verifier computes. -/
theorem exists_sign_ofHalves (h : input.WellFormed) (secret : PrivateKey) (context : Bytes) :
    ∃ r R, ∀ A, (ofHalves A secret context).sign input =
      .ok ⟨R, (r + (verifier A context).challenge input.isPrehashed R input.bytes *
        secret.scalar).toOctets⟩ := by
  refine ⟨(signer secret context).nonce input.isPrehashed secret.nonceKey input.bytes,
    (Point.base.multiple
      ((signer secret context).nonce input.isPrehashed secret.nonceKey input.bytes).val).encode, ?_⟩
  exact fun A => sign_eq_ok h rfl

/-- Verifiers of different public keys hash different bytes. -/
theorem encoded_eq_of_challengeInput_verifier_eq {A A' : PublicKey} {prehashed : Bool}
    {R : Octets 32} {payload : Bytes}
    (h : (verifier A context).challengeInput prehashed R payload =
      (verifier A' context).challengeInput prehashed R payload) : A.encoded = A'.encoded := by
  have hdomain : (verifier A' context).domain prehashed = (verifier A context).domain prehashed := rfl
  rw [challengeInput, challengeInput, hdomain, List.append_assoc, List.append_assoc _ _ payload] at h
  exact (Octets.append_inj (List.append_cancel_left h)).1

/-- A private half that is shown behind two public halves signs an input in a context with the same
    commitment both times. The difference of the responses is the difference of the challenges, which
    verifiers compute, times the secret scalar, so that the scalar is a quotient of what is known if
    the challenges differ. If they do not, the public halves are the same or there is a collision. -/
theorem sign_behind_two_public_halves {key₁ key₂ : Key} (h₁ : key₁.privateHalf = some secret)
    (h₂ : key₂.privateHalf = some secret) {mode₁ mode₂ : Mode} {s₁ s₂ : Scheme}
    (hs₁ : ofKey key₁ mode₁ context = .ok s₁) (hs₂ : ofKey key₂ mode₂ context = .ok s₂)
    (h : input.WellFormed) :
    ∃ A₁ A₂ R σ₁ σ₂ k₁ k₂,
      key₁.publicHalf = some A₁ ∧ key₂.publicHalf = some A₂ ∧
      s₁.sign input = .ok ⟨R, Scalar.toOctets σ₁⟩ ∧ s₂.sign input = .ok ⟨R, Scalar.toOctets σ₂⟩ ∧
      k₁ = (verifier A₁ context).challenge input.isPrehashed R input.bytes ∧
      k₂ = (verifier A₂ context).challenge input.isPrehashed R input.bytes ∧
      σ₁ - σ₂ = (k₁ - k₂) * secret.scalar ∧
      (k₁ ≠ k₂ → secret.scalar = (σ₁ - σ₂) * (k₁ - k₂)⁻¹) ∧
      (k₁ = k₂ → A₁.encoded ≠ A₂.encoded →
        ReducedCollision ((verifier A₁ context).challengeInput input.isPrehashed R input.bytes)
          ((verifier A₂ context).challengeInput input.isPrehashed R input.bytes)) := by
  obtain ⟨A₁, hA₁, rfl⟩ := eq_ofHalves_of_ofKey_eq_ok h₁ hs₁
  obtain ⟨A₂, hA₂, rfl⟩ := eq_ofHalves_of_ofKey_eq_ok h₂ hs₂
  obtain ⟨r, R, hsign⟩ := exists_sign_ofHalves h secret context
  refine ⟨A₁, A₂, R, _, _, _, _, hA₁, hA₂, hsign A₁, hsign A₂, rfl, rfl, ?_, ?_, ?_⟩
  · ring
  · exact fun hk => Scalar.eq_sub_mul_inverse r secret.scalar hk
  · exact fun hk hA => ⟨mt encoded_eq_of_challengeInput_verifier_eq hA, hk⟩

/-- The secret scalar of the seed of zeros, found from two signatures of the empty message: one behind
    the base point, and one behind a point of order `8`. -/
theorem sign_behind_base_and_octant :
    ∃ R σ₁ σ₂ k₁ k₂,
      (ofHalves (.ofCurvePoint .base) (.ofSeed (.zero 32)) []).sign (.message []) =
        .ok ⟨R, Scalar.toOctets σ₁⟩ ∧
      (ofHalves (.ofCurvePoint .octant) (.ofSeed (.zero 32)) []).sign (.message []) =
        .ok ⟨R, Scalar.toOctets σ₂⟩ ∧
      k₁ = (verifier (.ofCurvePoint .base) []).challenge false R [] ∧
      k₂ = (verifier (.ofCurvePoint .octant) []).challenge false R [] ∧
      (PrivateKey.ofSeed (.zero 32)).scalar = (σ₁ - σ₂) * (k₁ - k₂)⁻¹ := by
  have hinput : (Input.message []).WellFormed := trivial
  have hcontext : ([] : Bytes).length ≤ 255 := Nat.zero_le _
  obtain ⟨A₁, A₂, R, σ₁, σ₂, k₁, k₂, hA₁, hA₂, hsign₁, hsign₂, hk₁, hk₂, -, hscalar, -⟩ :=
    sign_behind_two_public_halves rfl rfl
      (ofKey_ofHalves hcontext (.ofCurvePoint .base) (.ofSeed (.zero 32)))
      (ofKey_ofHalves hcontext (.ofCurvePoint .octant) (.ofSeed (.zero 32))) hinput
  obtain rfl := Option.some_inj.1 hA₁
  obtain rfl := Option.some_inj.1 hA₂
  refine ⟨R, σ₁, σ₂, k₁, k₂, hsign₁, hsign₂, hk₁, hk₂, hscalar ?_⟩
  -- The commitment is the one that is computed, so that the challenges can be.
  rw [sign_eq_ok hinput rfl] at hsign₁
  obtain rfl := congrArg Signature.commitment (Except.ok.inj hsign₁)
  rw [hk₁, hk₂]
  decide +kernel

end Scheme

end EdwardsSignature
