import EdwardsSignature.Proofs.Scheme.Signing
import EdwardsSignature.Proofs.Scheme.Verification
import EdwardsSignature.Proofs.Verdict

/-!
# Keys whose halves do not belong together

A scheme signs with the private half of its key and verifies with the public half, and a key may show
any two halves. What is made with one key, verified with another, comes down to one equation: the
nonce cancels out, and the secret scalar times one challenge is compared with the public key times the
other (`Scheme.Admitted.verify_signPayload`).

So a scheme accepts what it signs if its halves belong together, up to a component of small order in
the public key. If they do not, it rejects what it signs, unless the challenge happens to be `0`
(`Scheme.Reachable.verify_of_sign`). Nothing else in such a signature gives it away
(`Scheme.verify_of_sign_base`).
-/

namespace EdwardsSignature

/-- The public key of a seed stands in for its scalar, when eightfolds are multiplied. -/
theorem PrivateKey.val_mul_scalar_nsmul (seed : Octets 32) (k : ℕ) :
    ((k : Scalar) * (ofSeed seed).scalar).val • 8 • CurvePoint.base =
      k • 8 • Standard.publicPoint seed := by
  rw [Scalar.val_mul_nsmul (CurvePoint.order_nsmul_eight_nsmul CurvePoint.base),
    nsmul_left_comm CurvePoint.base 8, scalar_nsmul_base, Scalar.val_nsmul_eight_nsmul]

/-- A key of the curve with any two halves. -/
def Key.ofHalves (A : PublicKey) (key : PrivateKey) : Key :=
  ⟨Parameters.ed25519.name, some A, some key⟩

theorem Key.reachable_ofHalves {A : PublicKey} {key : PrivateKey} (hA : A.Reachable)
    (hkey : key.Reachable) : (ofHalves A key).Reachable where
  publicHalf _ h := Option.some_inj.1 h ▸ hA
  privateHalf _ h := Option.some_inj.1 h ▸ hkey

namespace Scheme

variable {s s' : Scheme} {input : Input} {A : CurvePoint}

/-! ## Any two halves -/

/-- The scheme of a key with any two halves. -/
def ofHalves (A : PublicKey) (key : PrivateKey) (context : Bytes) : Scheme :=
  ⟨.ed25519, A, some key, context, .rfc8032⟩

theorem ofKey_ofHalves {context : Bytes} (hle : context.length ≤ 255) (A : PublicKey)
    (key : PrivateKey) :
    ofKey (.ofHalves A key) .rfc8032 context = .ok (ofHalves A key context) :=
  ofKey_eq_ok rfl rfl hle .rfc8032

theorem reachable_ofHalves {context : Bytes} (hle : context.length ≤ 255) (A : CurvePoint)
    (seed : Octets 32) : (ofHalves (.ofCurvePoint A) (.ofSeed seed) context).Reachable :=
  .ofKey (Key.reachable_ofHalves (PublicKey.reachable_ofCurvePoint A) (.ofSeed seed))
    (ofKey_ofHalves hle _ _)

/-! ## Made with one key, verified with another -/

section SignPayload

variable (s : Scheme) (key : PrivateKey) (prehashed : Bool) (payload : Bytes)

/-- A signature that one scheme makes with any private key, given to another scheme for any input: the
    commitment and the response can be read, so that it is accepted or fails for the equation. -/
theorem Admitted.verify_signPayload (hs' : s'.Admitted) (hA : s'.publicKey.Represents A)
    (h : input.WellFormed) :
    s'.verify input (s.signPayload key prehashed payload).toOctets.bytes =
      if (s.challenge prehashed (s.signPayload key prehashed payload).commitment payload *
          key.scalar).val • 8 • CurvePoint.base =
        Standard.challenge s'.context input (s.signPayload key prehashed payload).commitment
          A.encode • 8 • A then .ok ()
      else .error (.notAuthentic .equation) := by
  have hcommitment := s.commitment_signPayload key prehashed payload
  have hresponse := s.toNat_response_signPayload key prehashed payload
  rw [hs'.verify_eq hA, Standard.verdict_of_encode_eq h hcommitment.symm, hresponse,
    if_neg (not_le.2 (Residue.isLt _)), hcommitment]
  exact if_congr (Standard.balances_made_iff _ _ _) rfl rfl

end SignPayload

/-! ## Made and verified by one scheme -/

/-- What a scheme signs with the private key of a seed, it accepts if its public key is the one of the
    seed, up to a component of small order, or the challenge is `0`, and otherwise rejects for the
    equation. -/
theorem Reachable.verify_of_sign (hs : s.Reachable) {seed : Octets 32}
    (hkey : s.privateKey = some (.ofSeed seed)) (h : input.WellFormed) :
    ∃ signature A, s.sign input = .ok signature ∧ s.publicKey.Represents A ∧
      s.verify input signature.toOctets.bytes =
        if 8 • Standard.publicPoint seed = 8 • A ∨
          s.challenge input.isPrehashed signature.commitment input.bytes = 0 then .ok ()
        else .error (.notAuthentic .equation) := by
  obtain ⟨A, hA⟩ := hs.admitted.represents
  refine ⟨_, A, sign_eq_ok h hkey, hA, ?_⟩
  rw [hs.admitted.verify_signPayload s _ _ _ hA h]
  refine if_congr ?_ rfl rfl
  rw [hs.admitted.challenge_eq, PrivateKey.val_mul_scalar_nsmul, hA.encoded_eq,
    Scalar.nsmul_eq_nsmul_left_iff]

/-- The case of a public key that differs from the one of the seed by a component of order `8`. -/
theorem verify_of_sign_octant :
    (ofHalves (.ofCurvePoint (Standard.publicPoint (.zero 32) + .octant)) (.ofSeed (.zero 32))
      [1, 2, 3]).Reachable ∧
    ∃ signature,
      (ofHalves (.ofCurvePoint (Standard.publicPoint (.zero 32) + .octant)) (.ofSeed (.zero 32))
        [1, 2, 3]).sign (.message [4, 5]) = .ok signature ∧
      (ofHalves (.ofCurvePoint (Standard.publicPoint (.zero 32) + .octant)) (.ofSeed (.zero 32))
        [1, 2, 3]).verify (.message [4, 5]) signature.toOctets.bytes = .ok () := by
  have hcontext : ([1, 2, 3] : Bytes).length ≤ 255 := by decide
  have hinput : (Input.message [4, 5]).WellFormed := trivial
  have hs := reachable_ofHalves hcontext (Standard.publicPoint (.zero 32) + .octant) (.zero 32)
  obtain ⟨signature, A, hsign, hA, hverify⟩ := Reachable.verify_of_sign hs rfl hinput
  obtain rfl := (PublicKey.represents_ofCurvePoint _).point.unique hA.point
  have hhalves : 8 • Standard.publicPoint (.zero 32) =
      8 • (Standard.publicPoint (.zero 32) + .octant) := by
    rw [nsmul_add, CurvePoint.eight_nsmul_octant, add_zero]
  exact ⟨hs, signature, hsign, hverify.trans (if_pos (.inl hhalves))⟩

/-- With the base point for a public half, what is signed with the seed of zeros is rejected by the
    scheme that signs it. -/
theorem verify_of_sign_base :
    ∃ s signature,
      ofKey (.ofHalves (.ofCurvePoint .base) (.ofSeed (.zero 32))) .rfc8032 [] = .ok s ∧
      s.canSign = true ∧
      s.sign (.message []) = .ok signature ∧
      s.verify (.message []) signature.toOctets.bytes = .error (.notAuthentic .equation) := by
  have hinput : (Input.message []).WellFormed := trivial
  refine ⟨_, _, ofKey_ofHalves (Nat.zero_le _) _ _, rfl, sign_eq_ok hinput rfl, ?_⟩
  decide +kernel

end Scheme

end EdwardsSignature
