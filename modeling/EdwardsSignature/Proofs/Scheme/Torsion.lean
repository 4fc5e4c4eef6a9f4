import EdwardsSignature.Proofs.Scheme.Halves

/-!
# Components of small order

The equation of verification is one between eightfolds, and so leaves components of small order out of
account, in a commitment (`T₁`) and in a public key (`T₂`). Whatever the components, multiplying the
equation by a factor leaves of it that the factor takes `T₁ + k T₂` to `0`, for the challenge `k`
(`Scheme.nsmul_response_eq_iff`). With the factor `8`, this is so for all components of small order, and
for others only if `T₁ + k T₂` is of small order. With no factor, it is so only if `T₁ + k T₂` is `0`
itself (`Scheme.verify_with_components`).

The challenge counts as its representative here: a component of small order is not in the group that
the base point generates, and its multiples by integers with the same scalar may differ.
-/

namespace EdwardsSignature.Scheme

variable {s : Scheme} {context : Bytes} {input : Input} {T₁ T₂ : CurvePoint}

/-! ## The equation -/

/-- The response with the secret scalar of a seed, as a factor of the base point. -/
theorem response_nsmul_base (seed : Octets 32) (r k : Scalar) :
    (r + k * (PrivateKey.ofSeed seed).scalar).val • CurvePoint.base =
      r.val • CurvePoint.base + k.val • Standard.publicPoint seed := by
  rw [Scalar.val_add_nsmul CurvePoint.order_nsmul_base,
    Scalar.val_mul_nsmul CurvePoint.order_nsmul_base, PrivateKey.scalar_nsmul_base]

/-- What the components leave of the equation, multiplied by `n`. -/
theorem nsmul_response_eq_iff (n : ℕ) (seed : Octets 32) (r k : Scalar) (T₁ T₂ : CurvePoint) :
    n • (r + k * (PrivateKey.ofSeed seed).scalar).val • CurvePoint.base =
        n • (r.val • CurvePoint.base + T₁ + k.val • (Standard.publicPoint seed + T₂)) ↔
      n • (T₁ + k.val • T₂) = 0 := by
  have hsum : r.val • CurvePoint.base + T₁ + k.val • (Standard.publicPoint seed + T₂) =
      r.val • CurvePoint.base + k.val • Standard.publicPoint seed + (T₁ + k.val • T₂) := by
    rw [nsmul_add, add_add_add_comm]
  rw [response_nsmul_base, hsum, nsmul_add _ (T₁ + k.val • T₂), left_eq_add]

/-- The equation without a factor, as it is computed. -/
theorem same_response_iff {A : PublicKey} {R : Point} {seed : Octets 32} {r : Scalar}
    (hA : A.Represents (Standard.publicPoint seed + T₂))
    (hR : R.Represents (r.val • CurvePoint.base + T₁)) (k : Scalar) :
    (Point.base.multiple (r + k * (PrivateKey.ofSeed seed).scalar).val).same
        (R + A.point.multiple k.val) = true ↔ T₁ + k.val • T₂ = 0 := by
  have hequation := nsmul_response_eq_iff 1 seed r k T₁ T₂
  rw [one_nsmul, one_nsmul, one_nsmul] at hequation
  rw [Point.same_iff (Point.represents_base.multiple _) (hR.add (hA.point.multiple k.val)), hequation]

/-! ## Verification -/

/-- The verdict with any two components. -/
theorem Admitted.verify_response (hs : s.Admitted) {seed : Octets 32}
    (hA : s.publicKey.Represents (Standard.publicPoint seed + T₂)) (h : input.WellFormed)
    {R : Point} {r : Scalar} (hR : R.Represents (r.val • CurvePoint.base + T₁)) {k : Scalar}
    (hk : k = s.challenge input.isPrehashed R.encode input.bytes) :
    s.verify input
        (R.encode.bytes ++ (r + k * (PrivateKey.ofSeed seed).scalar).toOctets.bytes) =
      if 8 • (T₁ + k.val • T₂) = 0 then .ok () else .error (.notAuthentic .equation) := by
  rw [hs.challenge_eq, hA.encoded_eq, hR.encode_eq] at hk
  rw [hs.verify_eq hA, hR.encode_eq, Standard.verdict_encode_append_toOctets h]
  refine if_congr ?_ rfl rfl
  rw [Standard.balances_iff_reduced, ← hk, nsmul_response_eq_iff]

/-- A signature with the key of a seed, made with any nonce `r`, that has the component `T₁` in its
    commitment, and is verified with the public key that has the component `T₂`, which can be decoded
    from its encoding: it is accepted if both components are of small order. In general, it is accepted
    just if what they leave is of small order, and the equation without the cofactor holds just if they
    leave nothing. -/
theorem verify_with_components (seed : Octets 32) (r : Scalar) {P₁ P₂ : Point}
    (h₁ : P₁.Represents T₁) (h₂ : P₂.Represents T₂) (hcontext : context.length ≤ 255)
    (h : input.WellFormed) :
    ∃ A s R k σ,
      PublicKey.decode ((PrivateKey.ofSeed seed).publicKey.point + P₂).encode.bytes = .ok A ∧
      ofKeyNamed A.toKey "rfc8032" context = .ok s ∧
      R = Point.base.multiple r.val + P₁ ∧
      k = s.challenge input.isPrehashed R.encode input.bytes ∧
      σ = r + k * (PrivateKey.ofSeed seed).scalar ∧
      (8 • T₁ = 0 → 8 • T₂ = 0 →
        s.verify input (R.encode.bytes ++ σ.toOctets.bytes) = .ok ()) ∧
      (s.verify input (R.encode.bytes ++ σ.toOctets.bytes) =
        if 8 • (T₁ + k.val • T₂) = 0 then .ok () else .error (.notAuthentic .equation)) ∧
      ((Point.base.multiple σ.val).same (R + A.point.multiple k.val) = true ↔
        T₁ + k.val • T₂ = 0) := by
  have hpublic := (PrivateKey.represents_ofSeed seed).point.add h₂
  have hR := (Point.represents_base.multiple r.val).add h₁
  have hA := PublicKey.represents_ofCurvePoint (Standard.publicPoint seed + T₂)
  have hs := (reachable_verifier hcontext (Standard.publicPoint seed + T₂)).admitted
  have hdecode : PublicKey.decode ((PrivateKey.ofSeed seed).publicKey.point + P₂).encode.bytes =
      .ok (.ofCurvePoint (Standard.publicPoint seed + T₂)) := by
    rw [hpublic.encode_eq, PublicKey.decode_encode]
  have hverify := hs.verify_response hA h hR rfl
  refine ⟨_, _, _, _, _, hdecode, ofKeyNamed_publicKey hcontext _, rfl, rfl, rfl, ?_, hverify,
    same_response_iff hA hR _⟩
  intro hT₁ hT₂
  rw [hverify, nsmul_add, nsmul_left_comm, hT₁, hT₂, nsmul_zero, add_zero, if_pos rfl]

/-- With a component of order `8` in the commitment and twice that in the public key, the signature is
    accepted, though the equation without the cofactor does not hold. -/
theorem verify_with_octants :
    ∃ A s R k σ,
      PublicKey.decode ((PrivateKey.ofSeed (.zero 32)).publicKey.point +
        (.ofAffine CurvePoint.octant.affine + .ofAffine CurvePoint.octant.affine)).encode.bytes =
          .ok A ∧
      ofKeyNamed A.toKey "rfc8032" [1, 2, 3] = .ok s ∧
      R = Point.base.multiple (Residue.ofNat order 7).val + .ofAffine CurvePoint.octant.affine ∧
      k = s.challenge false R.encode [4, 5] ∧
      σ = Residue.ofNat order 7 + k * (PrivateKey.ofSeed (.zero 32)).scalar ∧
      s.verify (.message [4, 5]) (R.encode.bytes ++ (Scalar.toOctets σ).bytes) = .ok () ∧
      (Point.base.multiple σ.val).same (R + A.point.multiple k.val) = false := by
  have hcontext : ([1, 2, 3] : Bytes).length ≤ 255 := by decide
  have hinput : (Input.message [4, 5]).WellFormed := trivial
  have h₁ := Point.represents_ofAffine .octant
  obtain ⟨A, s, R, k, σ, hA, hs, hR, hk, hσ, hok, -, hsame⟩ :=
    verify_with_components (.zero 32) (.ofNat order 7) h₁ (h₁.add h₁) hcontext hinput
  have htwice : 8 • (CurvePoint.octant + .octant) = 0 := by
    rw [nsmul_add, CurvePoint.eight_nsmul_octant, add_zero]
  refine ⟨A, s, R, k, σ, hA, hs, hR, hk, hσ, hok CurvePoint.eight_nsmul_octant htwice, ?_⟩
  rw [← Bool.not_eq_true, hsame]
  -- What is left is an odd multiple of a point of order `8`.
  intro hleft
  have hmultiple : (1 + 2 * k.val) • CurvePoint.octant = 0 := by
    rw [add_nsmul, one_nsmul, mul_nsmul, two_nsmul, hleft]
  have hdvd := addOrderOf_dvd_of_nsmul_eq_zero hmultiple
  rw [CurvePoint.addOrderOf_octant] at hdvd
  omega

end EdwardsSignature.Scheme
