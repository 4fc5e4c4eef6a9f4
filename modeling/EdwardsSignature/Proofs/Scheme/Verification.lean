import EdwardsSignature.Proofs.Scheme.Challenge
import EdwardsSignature.Proofs.Verdict
import EdwardsSignature.Scheme.Verify

/-!
# Verification gives the verdict of the standard

A byte string is checked for its size, then the input, then the commitment, then the response and at
last the equation (`Scheme.verify_of_length_ne`, `Scheme.verify_of_not_wellFormed`,
`Scheme.verifyPayload_of_not_encoding`, `Scheme.verifyPayload_of_order_le`,
`Scheme.verifyPayload_of_eq_toOctets`).

The equation is computed with the reduced challenge. On a public key with a component of small order,
that gives another point than the challenge itself would; the eightfolds are the same nevertheless
(`Scheme.Admitted.balances_iff`), so that the verdict is the one of the standard
(`Scheme.Reachable.verify_eq_verdict`).
-/

namespace EdwardsSignature.Scheme

variable {s : Scheme} {input : Input} {A R : CurvePoint}

/-! ## The equation -/

/-- The equation that is computed is the one of the standard. -/
theorem Admitted.balances_iff (hs : s.Admitted) (hA : s.publicKey.Represents A) (input : Input)
    (R : CurvePoint) (response : Scalar) :
    s.balances input.isPrehashed R.encode (.ofAffine R.affine) response input.bytes = true ↔
      Standard.Balances A s.context input R response.val := by
  have hleft := (Point.represents_base.multiple response.val).eightfold
  have hright := ((Point.represents_ofAffine R).add
    (hA.point.multiple (s.challenge input.isPrehashed R.encode input.bytes).val)).eightfold
  rw [balances, Point.same_iff hleft hright, hs.challenge_eq, hA.encoded_eq,
    Standard.balances_iff_reduced]

/-- A commitment is the encoding of no other point, so that the equation is about this one. -/
theorem Admitted.exists_balances_iff (hs : s.Admitted) (hA : s.publicKey.Represents A)
    (input : Input) (R : CurvePoint) (response : Scalar) :
    (∃ R' : CurvePoint, R'.encode = R.encode ∧
      Standard.Balances A s.context input R' response.val) ↔
        s.balances input.isPrehashed R.encode (.ofAffine R.affine) response input.bytes = true := by
  rw [hs.balances_iff hA]
  simp only [CurvePoint.encode_injective.eq_iff, exists_eq_left]

/-! ## Signatures of a payload -/

section Payload

variable {prehashed : Bool} {payload : Bytes} {signature : Signature}

theorem verifyPayload_of_not_encoding (h : ¬∃ R : CurvePoint, R.encode = signature.commitment) :
    s.verifyPayload prehashed payload signature = .error (.notAuthentic .commitment) := by
  rw [verifyPayload, Point.decode?_eq_none_iff.2 h]

theorem verifyPayload_of_order_le (hR : R.encode = signature.commitment)
    (h : order ≤ signature.response.toNat) :
    s.verifyPayload prehashed payload signature = .error (.notAuthentic .response) := by
  rw [verifyPayload, ← hR, Point.decode?_encode]
  simp only [Scalar.ofCanonical?_eq_none_iff.2 h]

/-- Only the equation is left when the commitment and the response can be read. -/
theorem verifyPayload_of_eq_toOctets {response : Scalar} (hR : R.encode = signature.commitment)
    (h : signature.response = response.toOctets) :
    s.verifyPayload prehashed payload signature =
      if s.balances prehashed R.encode (.ofAffine R.affine) response payload then .ok ()
      else .error (.notAuthentic .equation) := by
  rw [verifyPayload, ← hR, Point.decode?_encode]
  simp only [Scalar.ofCanonical?_eq_some_iff.2 h]

/-- Nothing but the signature can be at fault. -/
theorem exists_rejection_of_verifyPayload_eq_error {e : Error}
    (h : s.verifyPayload prehashed payload signature = .error e) :
    ∃ rejection, e = .notAuthentic rejection := by
  rw [verifyPayload] at h
  split at h
  · exact ⟨_, (Except.error.inj h).symm⟩
  · split at h
    · exact ⟨_, (Except.error.inj h).symm⟩
    · split at h
      · cases h
      · exact ⟨_, (Except.error.inj h).symm⟩

end Payload

/-! ## Byte strings -/

section Size

variable (hsize : s.curve.signatureSize = 64)

include hsize

/-- The size of a signature is looked at before everything else. -/
theorem verify_of_length_ne {signature : Bytes} (h : signature.length ≠ 64) :
    s.verify input signature = .error (.wrongLength "Ed25519 signature" 64 signature.length) := by
  rw [verify, hsize, if_pos h]

theorem verify_of_not_wellFormed (h : ¬input.WellFormed) (signature : Octets 64) :
    s.verify input signature.bytes = .error (.invalidPrehash 64 input.bytes.length) := by
  rw [verify, hsize, if_neg (not_not.2 signature.length_bytes), Input.payload_of_not_wellFormed h]

theorem verify_of_wellFormed (h : input.WellFormed) (signature : Octets 64) :
    s.verify input signature.bytes =
      s.verifyPayload input.isPrehashed input.bytes (.ofOctets signature) := by
  rw [verify, hsize, if_neg (not_not.2 signature.length_bytes), Input.payload_of_wellFormed h,
    Signature.ofBytes_bytes]

end Size

/-! ## The verdict -/

/-- The verdict on the 64 bytes of a signature of a well-formed input. -/
theorem Admitted.verifyPayload_eq_verdict (hs : s.Admitted) (hA : s.publicKey.Represents A)
    (h : input.WellFormed) (signature : Octets 64) :
    s.verifyPayload input.isPrehashed input.bytes (.ofOctets signature) =
      Standard.verdict A s.context input signature.bytes := by
  classical
  have hcommitment : ∀ R : CurvePoint,
      R.encode.bytes = signature.bytes.take 32 ↔ R.encode = (Signature.ofOctets signature).commitment :=
    fun R => ⟨fun h => Octets.ext_bytes h, fun h => congrArg Octets.bytes h⟩
  have hresponse : Bytes.toNat (signature.bytes.drop 32) =
      (Signature.ofOctets signature).response.toNat := rfl
  rw [Standard.verdict, if_neg (not_not.2 signature.length_bytes), if_neg (not_not.2 h), hresponse]
  simp only [hcommitment]
  generalize Signature.ofOctets signature = sig
  by_cases hpoint : ∃ R : CurvePoint, R.encode = sig.commitment
  · rw [if_neg (not_not.2 hpoint)]
    obtain ⟨R, hR⟩ := hpoint
    by_cases hle : order ≤ sig.response.toNat
    · rw [if_pos hle, verifyPayload_of_order_le hR hle]
    · obtain ⟨response, hread⟩ : ∃ response, Scalar.ofCanonical? sig.response = some response :=
        Option.ne_none_iff_exists'.1 (mt Scalar.ofCanonical?_eq_none_iff.1 hle)
      have hwritten := Scalar.ofCanonical?_eq_some_iff.1 hread
      have hequation : (∃ R : CurvePoint, R.encode = sig.commitment ∧
          Standard.Balances A s.context input R sig.response.toNat) ↔
            s.balances input.isPrehashed R.encode (.ofAffine R.affine) response input.bytes := by
        rw [← hR, hwritten, Scalar.toNat_toOctets]
        exact hs.exists_balances_iff hA input R response
      rw [if_neg hle, verifyPayload_of_eq_toOctets hR hwritten]
      simp only [hequation]
  · rw [if_pos hpoint, verifyPayload_of_not_encoding hpoint]

theorem Admitted.verify_eq (hs : s.Admitted) (hA : s.publicKey.Represents A)
    (input : Input) (signature : Bytes) :
    s.verify input signature = Standard.verdict A s.context input signature := by
  by_cases hlen : signature.length = 64
  · obtain ⟨octets, rfl⟩ := Octets.exists_bytes_eq hlen
    by_cases h : input.WellFormed
    · rw [verify_of_wellFormed hs.signatureSize_eq h, hs.verifyPayload_eq_verdict hA h]
    · rw [verify_of_not_wellFormed hs.signatureSize_eq h, Standard.verdict,
        if_neg (not_not.2 hlen), if_pos h]
  · rw [verify_of_length_ne hs.signatureSize_eq hlen, Standard.verdict, if_pos hlen]

/-- Verification gives the verdict of the standard, on every byte string as a signature of any input,
    for every scheme there can be. The public key may be any point of the curve. -/
theorem Reachable.verify_eq_verdict (hs : s.Reachable) :
    ∃ A, s.publicKey.Represents A ∧
      ∀ input signature, s.verify input signature = Standard.verdict A s.context input signature := by
  obtain ⟨A, hA⟩ := hs.admitted.represents
  exact ⟨A, hA, hs.admitted.verify_eq hA⟩

/-- The case of a public key of order `8`, with nothing to sign with. For every check, there is a byte
    string on which the verdict is that it fails: 63 zeros are too short, two bytes are not a digest, ones
    do not begin with the encoding of a point, nor end with a reduced number, and the base point is no
    commitment for the response `0`. The identity is one. -/
theorem verify_eq_verdict_octant :
    (verifier (.ofCurvePoint .octant) [1, 2, 3]).Reachable ∧
    (∃ A, (PublicKey.ofCurvePoint .octant).Represents A ∧
      ∀ input signature, (verifier (.ofCurvePoint .octant) [1, 2, 3]).verify input signature =
        Standard.verdict A [1, 2, 3] input signature) ∧
    Standard.verdict .octant [1, 2, 3] (.message [4, 5]) (List.replicate 63 0) =
      .error (.wrongLength "Ed25519 signature" 64 63) ∧
    Standard.verdict .octant [1, 2, 3] (.prehashed [4, 5]) (List.replicate 64 0) =
      .error (.invalidPrehash 64 2) ∧
    Standard.verdict .octant [1, 2, 3] (.message [4, 5]) (List.replicate 64 255) =
      .error (.notAuthentic .commitment) ∧
    Standard.verdict .octant [1, 2, 3] (.message [4, 5])
      (CurvePoint.base.encode.bytes ++ List.replicate 32 255) = .error (.notAuthentic .response) ∧
    Standard.verdict .octant [1, 2, 3] (.message [4, 5])
      (CurvePoint.base.encode.bytes ++ List.replicate 32 0) = .error (.notAuthentic .equation) ∧
    Standard.verdict .octant [1, 2, 3] (.message [4, 5])
      ((CurvePoint.encode 0).bytes ++ List.replicate 32 0) = .ok () := by
  have hs : (verifier (.ofCurvePoint .octant) [1, 2, 3]).Reachable :=
    reachable_verifier (by decide) _
  obtain ⟨A, hA, hverdict⟩ := Reachable.verify_eq_verdict hs
  obtain rfl := hA.point.unique (PublicKey.represents_ofCurvePoint .octant).point
  refine ⟨hs, ⟨_, hA, hverdict⟩, ?_, ?_, ?_, ?_, ?_, ?_⟩
  all_goals
    refine (hverdict _ _).symm.trans ?_
    decide +kernel

end EdwardsSignature.Scheme
