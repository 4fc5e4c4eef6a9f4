import EdwardsSignature.Proofs.Scalar
import EdwardsSignature.Proofs.Standard
import EdwardsSignature.Signature

/-!
# What a verdict depends on

A signature is accepted if its commitment is the encoding of a point, its response is reduced, and the
equation holds (`Standard.verdict_eq_ok_iff`). When the commitment can be read and the response is
reduced, the equation is all that is left to fail (`Standard.verdict_of_encode_eq`).

The equation is one between eightfolds (`Standard.balances_iff`), all of them in the group that the
base point generates, where the challenge may be reduced (`Standard.balances_iff_reduced`). There
factors can be told from their multiples, so that an equation that holds says when another one does
that shares all but one part with it:

* with another input, or in another context, it holds if the challenge is the same scalar, or the
  public key is of small order (`Standard.Balances.other_input_iff`);
* with another response, it holds if the response is the same scalar
  (`Standard.Balances.cast_response_eq`).

With a commitment and a response that are made of a nonce, a challenge and a secret scalar, the nonce
is on both sides, and what remains compares the public key with the secret scalar
(`Standard.balances_made_iff`).
-/

namespace EdwardsSignature.Standard

variable {A R : CurvePoint} {context context' : Bytes} {input input' : Input} {S S' : ℕ}

/-! ## The equation -/

instance : Decidable (Balances A context input R S) := inferInstanceAs (Decidable (_ = _))

/-- The equation is one between eightfolds. -/
theorem balances_iff :
    Balances A context input R S ↔
      S • 8 • CurvePoint.base = 8 • R + challenge context input R.encode A.encode • 8 • A := by
  rw [Balances, mul_nsmul, mul_nsmul]

/-- The challenge may be reduced, as the cofactor comes after it: the multiple of the public key may be
    another point then, but has the same eightfold. -/
theorem balances_iff_reduced :
    Balances A context input R S ↔
      8 • S • CurvePoint.base =
        8 • (R + (challenge context input R.encode A.encode : Scalar).val • A) := by
  rw [balances_iff, nsmul_add, nsmul_left_comm, nsmul_left_comm A _ 8, Scalar.val_nsmul_eight_nsmul]

/-- What satisfies the equation for an input in a context does so for another one if the challenges
    are the same, or do not matter. -/
theorem Balances.other_input_iff (h : Balances A context input R S) :
    Balances A context' input' R S ↔
      8 • A = 0 ∨ (challenge context input R.encode A.encode : Scalar) =
        challenge context' input' R.encode A.encode := by
  rw [balances_iff] at h
  rw [balances_iff, h, add_right_inj, Scalar.nsmul_eq_nsmul_right_iff]

/-- The response is determined, as a scalar, by all the rest. -/
theorem Balances.cast_response_eq (h : Balances A context input R S)
    (h' : Balances A context input R S') : (S : Scalar) = S' := by
  rw [balances_iff] at h h'
  have hresponse := Scalar.nsmul_eq_nsmul_right_iff.1 (h.trans h'.symm)
  exact hresponse.resolve_left CurvePoint.eight_nsmul_base_ne_zero

/-- The equation for a commitment and a response that are made of the nonce `r`, the challenge `k`
    and the secret scalar `d`. -/
theorem balances_made_iff (r k d : Scalar) :
    Balances A context input (r.val • CurvePoint.base) (r + k * d).val ↔
      (k * d).val • 8 • CurvePoint.base =
        challenge context input (r.val • CurvePoint.base).encode A.encode • 8 • A := by
  rw [balances_iff, Scalar.val_add_nsmul (CurvePoint.order_nsmul_eight_nsmul CurvePoint.base),
    nsmul_left_comm CurvePoint.base r.val, add_right_inj]

/-! ## The verdict -/

variable {signature : Signature}

/-- With a commitment that can be read, a signature fails for its response or for the equation. -/
theorem verdict_of_encode_eq (h : input.WellFormed) (hR : R.encode = signature.commitment) :
    verdict A context input signature.toOctets.bytes =
      if order ≤ signature.response.toNat then .error (.notAuthentic .response)
      else if Balances A context input R signature.response.toNat then .ok ()
      else .error (.notAuthentic .equation) := by
  have htake : signature.toOctets.bytes.take 32 = R.encode.bytes :=
    hR ▸ List.take_left' signature.commitment.length_bytes
  have hdrop : Bytes.toNat (signature.toOctets.bytes.drop 32) = signature.response.toNat :=
    congrArg Bytes.toNat (List.drop_left' signature.commitment.length_bytes)
  have hunique (R' : CurvePoint) : R'.encode.bytes = R.encode.bytes ↔ R' = R :=
    ⟨fun h => CurvePoint.encode_injective (Octets.ext_bytes h), fun h => h ▸ rfl⟩
  rw [verdict, if_neg (not_not.2 (Octets.length_bytes _)), if_neg (not_not.2 h), htake, hdrop,
    if_neg (not_not.2 ⟨R, rfl⟩)]
  simp only [hunique, exists_eq_left]

/-- A point and a scalar in writing can be read, and the equation is all that is left to fail. -/
theorem verdict_encode_append_toOctets (h : input.WellFormed) (R : CurvePoint) (response : Scalar) :
    verdict A context input (R.encode.bytes ++ response.toOctets.bytes) =
      if Balances A context input R response.val then .ok ()
      else .error (.notAuthentic .equation) := by
  change verdict A context input (Signature.toOctets ⟨R.encode, response.toOctets⟩).bytes = _
  rw [verdict_of_encode_eq h rfl, Scalar.toNat_toOctets, if_neg (not_le.2 response.isLt)]

/-- What is accepted: with a well-formed input, a point and a reduced response that satisfy the
    equation. -/
theorem verdict_eq_ok_iff :
    verdict A context input signature.toOctets.bytes = .ok () ↔
      input.WellFormed ∧ signature.response.toNat < order ∧
        ∃ R : CurvePoint, R.encode = signature.commitment ∧
          Balances A context input R signature.response.toNat := by
  constructor
  · intro hok
    have hcommitment : signature.toOctets.bytes.take 32 = signature.commitment.bytes :=
      List.take_left' signature.commitment.length_bytes
    have h : input.WellFormed := by
      by_contra h
      rw [verdict, if_neg (not_not.2 (Octets.length_bytes _)), if_pos h] at hok
      cases hok
    obtain ⟨R, hR⟩ : ∃ R : CurvePoint, R.encode = signature.commitment := by
      by_contra hpoint
      rw [verdict, if_neg (not_not.2 (Octets.length_bytes _)), if_neg (not_not.2 h), hcommitment,
        if_pos fun ⟨R, hR⟩ => hpoint ⟨R, Octets.ext_bytes hR⟩] at hok
      cases hok
    rw [verdict_of_encode_eq h hR] at hok
    split_ifs at hok with hle hbalances
    exact ⟨h, not_le.1 hle, R, hR, hbalances⟩
  · rintro ⟨h, hlt, R, hR, hbalances⟩
    rw [verdict_of_encode_eq h hR, if_neg (not_le.2 hlt), if_pos hbalances]

end EdwardsSignature.Standard
